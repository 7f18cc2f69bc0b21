import Chip8.Proofs.Memory

/-!
What is read from a memory after any number of writes: at each address the byte that the last
effective write put there, and the font or a zero where there was none (`read_written`). A write
that is refused, or lies below the guard, has no effect.
-/

namespace Chip8

namespace Memory

/-- What a host writes to a memory. -/
inductive Write where
  | store (a value : Int)
  | load (image : Array UInt8) (start : Int)
  | clear

def write (m : Memory) : Write → Except Fault Memory
  | .store a value => .ok (m.store a value)
  | .load image start => m.load image start
  | .clear => m.clear

/-- Refused writes do not end the sequence. -/
def writeAll (m : Memory) : List Write → Memory
  | [] => m
  | w :: ws =>
    match m.write w with
    | .ok m' => m'.writeAll ws
    | .error _ => m.writeAll ws

/-- The byte that a write puts at an address, if it reaches it: a store the low byte of its value,
an image that fits its own byte, and clearing a zero. -/
def Write.byte? (guard : Nat) (a : Int) : Write → Option Int
  | store b value =>
    if guard ≤ b % 0x1000 ∧ b % 0x1000 = a % 0x1000 then some (value % 0x100) else none
  | load image start =>
    if guard ≤ start ∧ start + image.size ≤ 0x1000 ∧ start ≤ a % 0x1000 then
      image[(a % 0x1000 - start).toNat]?.map fun b => (b.toNat : Int)
    else none
  | clear => if guard ≤ a % 0x1000 then some 0 else none

/-- What the last write to reach an address put there. -/
def lastByte? (guard : Nat) (a : Int) (ws : List Write) : Option Int :=
  ws.reverse.findSome? (Write.byte? guard a)

variable {m m' : Memory}

theorem write_guarded {w : Write} (h : m.write w = .ok m') : m.Guarded m' := by
  cases w with
  | store a value =>
    cases h
    exact guarded_store m a value
  | load image start => exact guarded_load h
  | clear => exact guarded_clear h

theorem load_refused {image : Array UInt8} {start : Int}
    (h : start < m.guard ∨ 0x1000 < start + image.size) :
    m.load image start = .error (.imageMisfit image.size start) := if_pos h

theorem writeAll_refused {w : Write} {e : Fault} (h : m.write w = .error e) :
    m.writeAll [w] = m := by
  rw [writeAll, h]
  rfl

theorem cell_val (a : Int) : ((cell a).val : Int) = a % 0x1000 := by
  show ((a % 0x1000).toNat : Int) = _
  omega

/-- A write that is refused reaches no address. -/
theorem byte?_of_refused (hg : m.guard ≤ 0x1000) {w : Write} {e : Fault} (h : m.write w = .error e)
    (a : Int) : w.byte? m.guard a = none := by
  cases w with
  | store b value => cases h
  | load image start =>
    refine if_neg ?_
    rintro ⟨hlow, hhigh, -⟩
    obtain ⟨m', hm⟩ := m.load_eq_ok image start hlow hhigh
    cases hm.symm.trans h
  | clear =>
    obtain ⟨m', hm⟩ := m.clear_eq_ok hg
    cases hm.symm.trans h

/-- After a write its byte is read where it reaches, and elsewhere what was read before. -/
theorem read_write {w : Write} (h : m.write w = .ok m') (a : Int) :
    ((m'.read a).toNat : Int) = (w.byte? m.guard a).getD (m.read a).toNat := by
  have ha := cell_val a
  cases w with
  | store b value =>
    cases h
    have hb := cell_val b
    have hcell : m.guard ≤ (cell b).val ∧ cell b = cell a ↔
        m.guard ≤ b % 0x1000 ∧ b % 0x1000 = a % 0x1000 := by
      rw [Fin.ext_iff]
      omega
    rw [read_store, Write.byte?]
    by_cases hreach : m.guard ≤ b % 0x1000 ∧ b % 0x1000 = a % 0x1000
    · rw [if_pos (hcell.mpr hreach), if_pos hreach]
      exact toNat_ofInt_emod value
    · rw [if_neg fun hc => hreach (hcell.mp hc), if_neg hreach]
      rfl
  | load image start =>
    have hfits : ¬(start < m.guard ∨ 0x1000 < start + image.size) := by
      intro hmisfit
      cases (load_refused hmisfit).symm.trans h
    rw [read_load h, Write.byte?]
    by_cases hcovers : start ≤ a % 0x1000 ∧ a % 0x1000 < start + image.size
    · have hindex : (cell a).val - start.toNat = (a % 0x1000 - start).toNat := by omega
      have hlt : (a % 0x1000 - start).toNat < image.size := by omega
      rw [if_pos (by omega), if_pos (by omega), hindex, Array.getElem?_eq_getElem hlt, Array.getD,
        dif_pos hlt]
      rfl
    · rw [if_neg (by omega)]
      split
      · rw [Array.getElem?_eq_none (by omega)]
        rfl
      · rfl
  | clear =>
    rw [read_clear h, Write.byte?]
    by_cases hreach : m.guard ≤ a % 0x1000
    · rw [if_pos (by omega), if_pos hreach]
      rfl
    · rw [if_neg (by omega), if_neg hreach]
      rfl

theorem lastByte?_cons (guard : Nat) (a : Int) (w : Write) (ws : List Write) :
    lastByte? guard a (w :: ws) = (lastByte? guard a ws).or (w.byte? guard a) := by
  rw [lastByte?, List.reverse_cons, List.findSome?_append, List.findSome?_singleton]
  rfl

theorem writeAll_guarded (m : Memory) (ws : List Write) : m.Guarded (m.writeAll ws) := by
  induction ws generalizing m with
  | nil => exact .refl m
  | cons w ws ih =>
    unfold writeAll
    split
    · next m' h => exact (write_guarded h).trans (ih m')
    · exact ih m

/-- The last write that reaches an address decides what is read there. -/
theorem read_writeAll (hg : m.guard ≤ 0x1000) (ws : List Write) (a : Int) :
    (((m.writeAll ws).read a).toNat : Int) =
      (lastByte? m.guard a ws).getD (m.read a).toNat := by
  -- The first write counts only where none of the others reaches.
  induction ws generalizing m with
  | nil => rfl
  | cons w ws ih =>
    unfold writeAll
    rw [lastByte?_cons]
    split
    · next m' h =>
      have hguard := (write_guarded h).guard
      rw [ih (hguard ▸ hg), hguard, read_write h]
      cases lastByte? m.guard a ws <;> rfl
    · next e h =>
      rw [ih hg, byte?_of_refused hg h, Option.or_none]

theorem create?_eq_some {font : Array UInt8} {guard : Int} (h : font.size ≤ guard) :
    create? font guard = some (withFont font guard.toNat) := if_pos h

theorem size_of_guarded {font : Array UInt8} {guard : Nat} (hfont : font.size ≤ 0x1000)
    (h : (withFont font guard).Guarded m) : m.size = 0x1000 := by
  have hspare : m.spare = [] := h.spare.trans (List.drop_eq_nil_of_le hfont)
  rw [size, hspare]
  rfl

theorem readWord_val (m : Memory) (a : Int) :
    (m.readWord a).val = 0x100 * (m.read a).toNat + (m.read (a + 1)).toNat := by
  show (m.read a).toNat * 0x100 + (m.read (a + 1)).toNat = _
  omega

/-- **Memory as a guarded map.** With a font that fits below a guard that lies in memory, and
after any writes, refused ones included: memory has its size; at each address the byte is read
that the last write to reach it put there, or that of the font or a zero; below the guard nothing
has changed; an image is refused exactly if it does not lie between the guard and the end, and
then changes nothing; words and blocks are read byte by byte, around the end of memory too. -/
theorem read_written (font : Array UInt8) (guard : Int) (hfont : font.size ≤ guard)
    (hguard : guard ≤ 0x1000) :
    ∃ start, create? font guard = some start ∧ ∀ ws : List Write,
      let m := start.writeAll ws
      m.size = 0x1000 ∧
      (∀ a : Int, m.read a = m.read (a % 0x1000)) ∧
      (∀ a : Int, ((m.read a).toNat : Int) = (lastByte? guard.toNat a ws).getD
        (font.getD (a % 0x1000).toNat 0).toNat) ∧
      (∀ a : Int, a % 0x1000 < guard → m.read a = start.read a) ∧
      (∀ (image : Array UInt8) (first : Int),
        if first < guard ∨ 0x1000 < first + image.size then
          m.load image first = .error (.imageMisfit image.size first) ∧
            m.writeAll [.load image first] = m
        else ∃ m', m.load image first = .ok m') ∧
      (∀ a : Int, (m.readWord a).val = 0x100 * (m.read a).toNat + (m.read (a + 1)).toNat) ∧
      ∀ (a : Int) (n : Nat), m.block a n = (List.range n).map fun k : Nat => m.read (a + k) := by
  refine ⟨_, create?_eq_some hfont, fun ws => ?_⟩
  intro m
  have hm : (withFont font guard.toNat).Guarded m := writeAll_guarded _ ws
  have hmguard : m.guard = guard.toNat := hm.guard
  refine ⟨size_of_guarded (by omega) hm, fun a => m.read_congr (by omega), fun a => ?_,
    fun a ha => hm.below a ?_, fun image first => ?_, m.readWord_val, fun _ _ => rfl⟩
  · have hread := read_writeAll (m := withFont font guard.toNat)
      (show guard.toNat ≤ 0x1000 by omega) ws a
    rw [read_withFont] at hread
    exact hread
  · have hcell := cell_val a
    show (cell a).val < guard.toNat
    omega
  · split
    · next hmisfit =>
      have hrefused : m.load image first = _ := load_refused (by omega)
      exact ⟨hrefused, writeAll_refused hrefused⟩
    · next hfits => exact m.load_eq_ok image first (by omega) (by omega)

/-- A memory of three guarded bytes: a store from below zero to the last address, one below the
guard, an image that lies over the first and one that does not fit. -/
theorem read_written_around_the_end :
    ((#[7, 8] : Array UInt8).size : Int) ≤ 3 ∧ (3 : Int) ≤ 0x1000 ∧ (1 : Int) % 0x1000 < 3 ∧
    ∃ start, create? #[7, 8] 3 = some start ∧
      let m := start.writeAll
        [.store (-1) 0x1FF, .store 0x2001 9, .load #[1, 2] 0xFFE, .load #[5, 6] 0xFFF]
      m.read 1 = start.read 1 ∧ ((m.read (-1)).toNat : Int) = 2 ∧
        ((m.read 0x1FFE).toNat : Int) = 1 ∧ (m.readWord 0xFFF).val = 0x207 := by
  obtain ⟨start, hcreate, hwritten⟩ := read_written #[7, 8] 3 (by decide) (by decide)
  obtain ⟨-, -, hread, hbelow, -, hword, -⟩ := hwritten
    [.store (-1) 0x1FF, .store 0x2001 9, .load #[1, 2] 0xFFE, .load #[5, 6] 0xFFF]
  refine ⟨by decide, by decide, by decide, start, hcreate, hbelow 1 (by decide), hread (-1),
    hread 0x1FFE, ?_⟩
  rw [hword, Int.ofNat.inj (hread 0xFFF), Int.ofNat.inj (hread (0xFFF + 1))]
  rfl

end Memory

end Chip8

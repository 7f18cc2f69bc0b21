import Chip8.Memory
import Chip8.Proofs.Lists

/-!
What stores, loads and clearing leave of a memory's outline, its guard and the
bytes beyond the last address; and what is read after each. All of them leave
alone what lies below the guard (`Guarded`); so a memory with the font below its
guard is cleared to the initial one (`clear_eq_initial`).
-/

namespace Chip8

theorem toNat_ofInt_emod (n : Int) : ((UInt8.ofInt n).toNat : Int) = n % 256 := by
  rw [UInt8.ofInt, UInt8.toNat_ofNat']
  omega

theorem toNat_ofInt {n : Int} (h : 0 ≤ n ∧ n ≤ 0xFF) : ((UInt8.ofInt n).toNat : Int) = n := by
  rw [toNat_ofInt_emod]
  omega

@[simp] theorem ofInt_toNat (b : UInt8) : UInt8.ofInt b.toNat = b := by
  have := b.toNat_lt
  rw [← UInt8.toNat_inj, UInt8.ofInt, UInt8.toNat_ofNat']
  omega

namespace Memory

@[simp] theorem guard_store (m : Memory) (a value : Int) : (m.store a value).guard = m.guard := by
  unfold store
  split <;> rfl

@[simp] theorem spare_store (m : Memory) (a value : Int) : (m.store a value).spare = m.spare := by
  unfold store
  split <;> rfl

@[simp] theorem guard_storeAll (m : Memory) (a : Int) (bytes : List UInt8) :
    (m.storeAll a bytes).guard = m.guard := by
  induction bytes generalizing m a with
  | nil => rfl
  | cons b bs ih => rw [storeAll, ih, guard_store]

@[simp] theorem spare_storeAll (m : Memory) (a : Int) (bytes : List UInt8) :
    (m.storeAll a bytes).spare = m.spare := by
  induction bytes generalizing m a with
  | nil => rfl
  | cons b bs ih => rw [storeAll, ih, spare_store]

theorem load_eq_ok (m : Memory) (image : Array UInt8) (start : Int)
    (hg : m.guard ≤ start) (hs : start + image.size ≤ 0x1000) :
    ∃ m', m.load image start = .ok m' := by
  rw [load, if_neg (by omega)]
  exact ⟨_, rfl⟩

theorem clear_eq_ok (m : Memory) (hg : m.guard ≤ 0x1000) : ∃ m', m.clear = .ok m' := by
  have hsize : ¬Number.largestIndex + 1 + 0x1000 < m.guard := by omega
  have hend : ¬0x1000 < m.guard := by omega
  unfold clear
  rw [if_neg hsize, if_neg hend]
  exact ⟨_, rfl⟩

theorem load_outline {m m' : Memory} {image : Array UInt8} {start : Int}
    (h : m.load image start = .ok m') : m'.guard = m.guard ∧ m'.spare = m.spare := by
  unfold load at h
  split at h
  · cases h
  · rw [← Except.ok.inj h]
    exact ⟨rfl, rfl⟩

theorem read_load {m m' : Memory} {image : Array UInt8} {start : Int}
    (h : m.load image start = .ok m') (a : Int) :
    m'.read a = if start ≤ (cell a).val ∧ (cell a).val < start + image.size then
      image.getD ((cell a).val - start.toNat) 0 else m.read a := by
  unfold load at h
  split at h
  · cases h
  · rw [← Except.ok.inj h]
    exact Vector.getElem_ofFn (cell a).isLt

theorem clear_outline {m m' : Memory} (h : m.clear = .ok m') :
    m'.guard = m.guard ∧ m'.spare = m.spare := by
  unfold clear at h
  split at h
  · cases h
  · split at h
    · cases h
    · rw [← Except.ok.inj h]
      exact ⟨rfl, rfl⟩

theorem read_clear {m m' : Memory} (h : m.clear = .ok m') (a : Int) :
    m'.read a = if m.guard ≤ (cell a).val then 0 else m.read a := by
  unfold clear at h
  split at h
  · cases h
  · split at h
    · cases h
    · rw [← Except.ok.inj h]
      exact Vector.getElem_ofFn (cell a).isLt

theorem read_store (m : Memory) (a value b : Int) :
    (m.store a value).read b =
      if m.guard ≤ (cell a).val ∧ cell a = cell b then UInt8.ofInt value else m.read b := by
  unfold store
  split <;> rename_i h
  · rw [if_neg (by omega)]
  · show (m.cells.set (cell a) (UInt8.ofInt value) (cell a).isLt).get (cell b) = _
    rw [get_set]
    simp only [Nat.le_of_not_lt h, true_and]
    rfl

/-- Of several bytes stored, the distance from the first address tells which one a cell got. -/
theorem read_storeAll (m : Memory) (a : Int) {bytes : List UInt8} (hl : bytes.length ≤ 0x1000)
    (b : Int) :
    (m.storeAll a bytes).read b =
      if m.guard ≤ (cell b).val then bytes.getD ((b - a) % 0x1000).toNat (m.read b)
      else m.read b := by
  induction bytes generalizing m a with
  | nil => simp [storeAll]
  | cons x bytes ih =>
    have hl' : bytes.length < 0x1000 := hl
    have hcell : cell a = cell b ↔ (b - a) % 0x1000 = 0 := by
      simp only [cell, Fin.ext_iff]
      omega
    rw [storeAll, ih _ _ (Nat.le_of_lt hl'), guard_store, read_store]
    by_cases hg : m.guard ≤ (cell b).val
    · simp only [hg, if_true]
      by_cases hd : (b - a) % 0x1000 = 0
      · -- The first byte; what follows is too short to come around to it.
        have hlast : ((b - (a + 1)) % 0x1000).toNat = 0xFFF := by omega
        have hc := hcell.mpr hd
        rw [hlast, List.getD_eq_getElem?_getD, List.getElem?_eq_none (by omega),
          if_pos ⟨hc ▸ hg, hc⟩, hd]
        exact ofInt_toNat x
      · have hnext : ((b - a) % 0x1000).toNat = ((b - (a + 1)) % 0x1000).toNat + 1 := by omega
        rw [if_neg (fun h => hd (hcell.mp h.2)), hnext, List.getD_cons_succ]
    · have hc : ¬(m.guard ≤ (cell a).val ∧ cell a = cell b) := by
        rintro ⟨h, hc⟩
        exact hg (hc ▸ h)
      rw [if_neg hg, if_neg hc, if_neg hg]

/-- A memory is its outline and what is read from it. -/
theorem ext_read {m m' : Memory} (hg : m.guard = m'.guard) (hs : m.spare = m'.spare)
    (hr : ∀ a, m.read a = m'.read a) : m = m' := by
  have hc : m.cells = m'.cells := by
    apply Vector.ext
    intro i hi
    have hcell : cell i = ⟨i, hi⟩ := Fin.eq_of_val_eq (by simp only [cell]; omega)
    have h := hr i
    rw [read, read, hcell] at h
    exact h
  cases m
  cases m'
  simp_all

/-! ## Addresses of the same low twelve bits -/

theorem cell_congr {a b : Int} (h : a % 0x1000 = b % 0x1000) : cell a = cell b :=
  Fin.eq_of_val_eq (congrArg Int.toNat h)

theorem read_congr (m : Memory) {a b : Int} (h : a % 0x1000 = b % 0x1000) :
    m.read a = m.read b := congrArg m.cells.get (cell_congr h)

theorem block_congr (m : Memory) {a b : Int} (h : a % 0x1000 = b % 0x1000) (n : Nat) :
    m.block a n = m.block b n := by
  apply List.map_congr_left
  intro k _
  exact m.read_congr (by omega)

theorem store_congr (m : Memory) {a b : Int} (h : a % 0x1000 = b % 0x1000) (value : Int) :
    m.store a value = m.store b value := by
  simp only [store, cell_congr h]

theorem storeEvents_congr (m : Memory) {a b : Int} (h : a % 0x1000 = b % 0x1000) (value : Int) :
    m.storeEvents a value = m.storeEvents b value := by
  simp only [storeEvents, cell_congr h]

theorem storeAll_congr (m : Memory) {a b : Int} (h : a % 0x1000 = b % 0x1000)
    (bytes : List UInt8) : m.storeAll a bytes = m.storeAll b bytes := by
  induction bytes generalizing m a b with
  | nil => rfl
  | cons x bytes ih =>
    have hnext : (a + 1) % 0x1000 = (b + 1) % 0x1000 := by omega
    rw [storeAll, storeAll, m.store_congr h, ih _ hnext]

theorem storeAllEvents_congr (m : Memory) {a b : Int} (h : a % 0x1000 = b % 0x1000)
    (bytes : List UInt8) : m.storeAllEvents a bytes = m.storeAllEvents b bytes := by
  induction bytes generalizing a b with
  | nil => rfl
  | cons x bytes ih =>
    have hnext : (a + 1) % 0x1000 = (b + 1) % 0x1000 := by omega
    rw [storeAllEvents, storeAllEvents, m.storeEvents_congr h, ih hnext]

/-! ## Below the guard -/

/-- Only what lies from the guard on may differ. -/
structure Guarded (m m' : Memory) : Prop where
  guard : m'.guard = m.guard
  spare : m'.spare = m.spare
  below : ∀ a, (cell a).val < m.guard → m'.read a = m.read a

theorem Guarded.refl (m : Memory) : m.Guarded m := ⟨rfl, rfl, fun _ _ => rfl⟩

theorem Guarded.trans {m m' m'' : Memory} (h : m.Guarded m') (h' : m'.Guarded m'') :
    m.Guarded m'' where
  guard := h'.guard.trans h.guard
  spare := h'.spare.trans h.spare
  below a ha := (h'.below a (h.guard ▸ ha)).trans (h.below a ha)

theorem store_of_lt {m : Memory} {a : Int} (h : (cell a).val < m.guard) (value : Int) :
    m.store a value = m := if_pos h

theorem guarded_store (m : Memory) (a value : Int) : m.Guarded (m.store a value) where
  guard := guard_store m a value
  spare := spare_store m a value
  below b hb := by
    rw [read_store, if_neg]
    rintro ⟨hle, he⟩
    rw [he] at hle
    omega

theorem guarded_storeAll (m : Memory) (a : Int) (bytes : List UInt8) :
    m.Guarded (m.storeAll a bytes) := by
  induction bytes generalizing m a with
  | nil => exact .refl m
  | cons b bs ih => exact (guarded_store m a _).trans (ih _ _)

theorem guarded_load {m m' : Memory} {image : Array UInt8} {start : Int}
    (h : m.load image start = .ok m') : m.Guarded m' where
  guard := (load_outline h).1
  spare := (load_outline h).2
  below a ha := by
    have hs : ¬start < m.guard := by
      intro hlt
      rw [load, if_pos (Or.inl hlt)] at h
      cases h
    rw [read_load h, if_neg (by omega)]

theorem guarded_clear {m m' : Memory} (h : m.clear = .ok m') : m.Guarded m' where
  guard := (clear_outline h).1
  spare := (clear_outline h).2
  below a ha := by rw [read_clear h, if_neg (by omega)]

/-! ## The initial memory -/

/-- The bytes of the font for the digit `d`. -/
def glyph (d : Nat) : List UInt8 := (fontBytes.drop (glyphSize * d)).take glyphSize

theorem read_withFont (font : Array UInt8) (guard : Nat) (a : Int) :
    (withFont font guard).read a = font.getD (cell a).val 0 := Vector.getElem_ofFn (cell a).isLt

theorem read_initial (a : Int) : initial.read a = fontBytes.getD (cell a).val 0 := by
  rw [initial, read_withFont]
  simp [Array.getD_eq_getD_getElem?, List.getD_eq_getElem?_getD]

/-- Behind the font there are zeros. -/
theorem read_initial_of_le {a : Int} (ha : programStart ≤ (cell a).val) : initial.read a = 0 := by
  have hl : fontBytes.length ≤ programStart := by decide
  rw [read_initial, List.getD_eq_getElem?_getD, List.getElem?_eq_none (by omega)]
  rfl

theorem clear_eq_initial {m : Memory} (h : initial.Guarded m) : m.clear = .ok initial := by
  have hg : m.guard = programStart := h.guard
  have he : programStart ≤ 0x1000 := by decide
  obtain ⟨m', hc⟩ := m.clear_eq_ok (by omega)
  have hout := clear_outline hc
  rw [hc]
  refine congrArg _ (ext_read (hout.1.trans hg) (hout.2.trans h.spare) ?_)
  intro a
  rw [read_clear hc, hg]
  split <;> rename_i ha
  · rw [read_initial_of_le ha]
  · exact h.below a (Nat.lt_of_not_le ha)

/-- A block of the interpreter area holds the font and zeros, whatever lies behind the area. -/
theorem Guarded.block_eq {m : Memory} (h : initial.Guarded m) {a n : Nat}
    (ha : a + n ≤ programStart) :
    m.block a n = (List.range n).map fun k => fontBytes.getD (a + k) 0 := by
  have hs : programStart = 0x200 := rfl
  apply List.map_congr_left
  intro k hk
  have hk := List.mem_range.mp hk
  have hcell : (cell ((a : Int) + (k : Nat))).val = a + k := by
    show (((a : Int) + (k : Nat)) % 0x1000).toNat = a + k
    omega
  have hlow : (cell ((a : Int) + (k : Nat))).val < initial.guard := by
    show _ < programStart
    omega
  rw [h.below _ hlow, read_initial, hcell]

theorem Guarded.area_eq {m : Memory} (h : initial.Guarded m) :
    m.block 0 programStart =
      fontBytes ++ List.replicate (programStart - fontBytes.length) 0 := by
  have hl : fontBytes.length + (programStart - fontBytes.length) = programStart := rfl
  have hb := h.block_eq (a := 0) (n := programStart) (by omega)
  simp only [Nat.zero_add] at hb
  rw [← map_getD_range, hl]
  exact hb

theorem Guarded.glyph_eq {m : Memory} (h : initial.Guarded m) (b : UInt8) :
    m.block (glyphAddress b.toNat) glyphSize = glyph (b.toNat % 16) := by
  have hd : glyphAddress b.toNat = glyphSize * (b.toNat % 16) := by
    simp only [glyphAddress, glyphSize]
    omega
  have hlt : b.toNat % 16 < 16 := Nat.mod_lt _ (by omega)
  generalize b.toNat % 16 = d at hd hlt
  have hin : glyphSize * d + glyphSize ≤ programStart := by
    simp only [glyphSize, programStart]
    omega
  have hg : ∀ d : Fin 16,
      (List.range glyphSize).map (fun k => fontBytes.getD (glyphSize * d.val + k) 0) =
        glyph d.val := by decide
  rw [hd, h.block_eq hin]
  exact hg ⟨d, hlt⟩

/-! ## Byte by byte -/

theorem block_add (m : Memory) (a : Int) (n k : Nat) :
    m.block a (n + k) = m.block a n ++ m.block (a + n) k := by
  simp only [block, List.range_add, List.map_append, List.map_map]
  congr 1
  apply List.map_congr_left
  intro j _
  simp [Int.add_assoc]

theorem cell_of_lt {k : Nat} (h : k < memorySize) : (cell (k : Int)).val = k := by
  show ((k : Int) % 0x1000).toNat = k
  have hs : memorySize = 0x1000 := rfl
  omega

theorem toList_eq (m : Memory) : m.toList = m.block 0 memorySize ++ m.spare := by
  have hcells : m.cells.toList = m.block 0 memorySize := by
    apply List.ext_getElem
    · simp [block, memorySize]
    · intro k hk _
      have hlt : k < 0x1000 := by simpa using hk
      simp only [block, List.getElem_map, List.getElem_range, Vector.getElem_toList, Int.zero_add]
      rw [read, show cell (k : Int) = ⟨k, hlt⟩ from Fin.ext (cell_of_lt hlt)]
      rfl
  rw [toList, hcells]

/-- An image behind the interpreter area, with zeros behind it. -/
theorem block_of_load {m : Memory} {image : Array UInt8} (hs : image.size ≤ programCapacity)
    (h : initial.load image programStart = .ok m) :
    m.block programStart programCapacity =
      image.toList ++ List.replicate (programCapacity - image.size) 0 := by
  have hl : image.toList.length + (programCapacity - image.size) = programCapacity := by
    rw [Array.length_toList]
    omega
  have hsize : programStart + programCapacity = memorySize := rfl
  rw [← map_getD_range, hl]
  apply List.map_congr_left
  intro k hk
  have hk := List.mem_range.mp hk
  have hcell : (cell ((programStart : Int) + k)).val = programStart + k :=
    cell_of_lt (k := programStart + k) (by omega)
  rw [read_load h, hcell]
  split
  · rw [Int.toNat_natCast, Nat.add_sub_cancel_left, Array.getD_eq_getD_getElem?,
      List.getD_eq_getElem?_getD, Array.getElem?_toList]
  · rw [read_initial_of_le (by omega), List.getD_eq_getElem?_getD,
      List.getElem?_eq_none (by rw [Array.length_toList]; omega)]
    rfl

/-- The initial memory with an image in it, byte by byte. -/
theorem toList_of_load {m : Memory} {image : Array UInt8} (hs : image.size ≤ programCapacity)
    (h : initial.load image programStart = .ok m) :
    m.toList = fontBytes ++ List.replicate (programStart - fontBytes.length) 0 ++ image.toList ++
      List.replicate (programCapacity - image.size) 0 := by
  have hsize : memorySize = programStart + programCapacity := rfl
  have hspare : m.spare = [] := (load_outline h).2
  rw [toList_eq, hsize, block_add, (guarded_load h).area_eq, Int.zero_add, block_of_load hs h,
    hspare, List.append_nil, ← List.append_assoc]

end Memory

end Chip8

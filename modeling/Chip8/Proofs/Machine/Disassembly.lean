import Chip8.Proofs.Instruction.Layout
import Chip8.Proofs.Machine.WellFormed

/-!
What texts say, beside what machines do. Two words of one text do the same where shifts read `Vx`
(`execute_eq_of_format_eq`). The rows of a disassembly are those of the whole words of a program
(`disassemble_eq_map`), and together they show all of its bytes but an odd one at the end
(`bytes_disassemble`); where the program was loaded, a step does what the row shows (`Follows`).
-/

namespace Chip8

@[simp] theorem Word.high_ofBytes (high low : UInt8) : (Word.ofBytes high low).high = high := by
  have hhigh := high.toNat_lt
  have hlow := low.toNat_lt
  rw [← UInt8.toNat_inj, Word.high, UInt8.toNat_ofNat']
  show (high.toNat * 0x100 + low.toNat) / 0x100 % 2 ^ 8 = high.toNat
  omega

@[simp] theorem Word.kk_ofBytes (high low : UInt8) : (Word.ofBytes high low).kk = low := by
  have hlow := low.toNat_lt
  rw [Word.kk_eq_iff]
  show (high.toNat * 0x100 + low.toNat) % 0x100 = low.toNat
  omega

namespace Standard

/-! ## Rows -/

/-- The row of the word that is `2 * k` bytes into a program. -/
def rowAt (start : Int) (p : List UInt8) (k : Nat) : Int × Word × String :=
  let w := Word.ofBytes (p.getD (2 * k) 0) (p.getD (2 * k + 1) 0)
  (start + 2 * k, w, text w)

theorem rowAt_succ (start : Int) (high low : UInt8) (p : List UInt8) (k : Nat) :
    rowAt start (high :: low :: p) (k + 1) = rowAt (start + 2) p k := by
  have haddress : start + 2 * ((k + 1 : Nat) : Int) = start + 2 + 2 * k := by omega
  rw [rowAt, haddress]
  rfl

theorem half_length_of_short {p : List UInt8}
    (h : ∀ high low rest, p = high :: low :: rest → False) : p.length / 2 = 0 := by
  rcases p with _ | ⟨high, _ | ⟨low, rest⟩⟩
  · rfl
  · rw [List.length_singleton]
  · exact absurd rfl (h high low rest)

theorem disassemble_eq_map (start : Int) (p : List UInt8) :
    disassemble start p = (List.range (p.length / 2)).map (rowAt start p) := by
  -- Two bytes at a time: the rest has its first row two addresses further on.
  fun_induction disassemble start p with
  | case1 start high low rest w ih =>
    have hlength : (high :: low :: rest).length / 2 = rest.length / 2 + 1 := by
      simp only [List.length_cons]
      omega
    have hfirst : rowAt start (high :: low :: rest) 0 = (start, w, text w) :=
      congrArg (·, w, text w) (Int.add_zero start)
    rw [ih, hlength, List.range_succ_eq_map, List.map_cons, List.map_map, hfirst]
    exact congrArg _ (List.map_congr_left fun k _ => (rowAt_succ start high low rest k).symm)
  | case2 p start hshort =>
    rw [half_length_of_short hshort]
    rfl

example : disassemble 0x200 [0x00, 0xE0, 0x12, 0x00, 0xFF] =
    [(0x200, 0x00E0, "CLS"), (0x202, 0x1200, "JP #200")] := by decide +kernel

/-- The words of all rows, byte by byte. -/
theorem bytes_disassemble (start : Int) (p : List UInt8) :
    (disassemble start p).flatMap (fun row => [row.2.1.high, row.2.1.kk]) =
      p.take (2 * (p.length / 2)) := by
  fun_induction disassemble start p with
  | case1 start high low rest w ih =>
    have hlength : 2 * ((high :: low :: rest).length / 2) = 2 * (rest.length / 2) + 2 := by
      simp only [List.length_cons]
      omega
    rw [List.flatMap_cons, ih, hlength, List.take_succ_cons, List.take_succ_cons, Word.high_ofBytes,
      Word.kk_ofBytes]
    rfl
  | case2 p start hshort =>
    rw [half_length_of_short hshort]
    rfl

theorem mem_disassemble {start : Int} {p : List UInt8} {row : Int × Word × String}
    (h : row ∈ disassemble start p) : ∃ k, 2 * k + 1 < p.length ∧ row = rowAt start p k := by
  rw [disassemble_eq_map] at h
  obtain ⟨k, hk, rfl⟩ := List.mem_map.mp h
  have hlt := List.mem_range.mp hk
  exact ⟨k, by omega, rfl⟩

/-! ## Data -/

/-- The text shows data, not an instruction. -/
def IsData (s : String) : Prop := ∃ digits, s = "DW " ++ digits

theorem instructions_apart_data : ∀ i ∈ instructions,
    Cell.apart ((layout (some i)).take 3) ("DW ".toList.map .char) = true := by decide +kernel

/-- **Data are shown for the words that match no instruction.** -/
theorem isData_text_iff (w : Word) :
    IsData (text w) ↔ ∀ i ∈ instructions, i.matchesWord w = false := by
  have htext := format_standard w
  rw [← lookup_eq_none_iff]
  cases hi : table.lookup w with
  | none =>
    rw [Table.format, hi] at htext
    have hdata := Except.ok.inj htext
    exact iff_of_true ⟨"#" ++ Text.hex 4 w.val, by rw [← hdata, ← String.append_assoc]; rfl⟩ rfl
  | some i =>
    refine iff_of_false ?_ (Option.some_ne_none i)
    rintro ⟨digits, hdata⟩
    apply Cell.map_shown_ne_of_apart (instructions_apart_data i (mem_of_lookup hi).1) w w
    rw [Cell.map_shown_char, List.map_take, ← hi, ← toList_format htext, hdata,
      String.toList_append]
    rfl

end Standard

namespace Machine

/-! ## Words of one text -/

theorem execute_shift {m : Machine} (hd : m.dialect.shiftReadsVy = false) {op : Op}
    (hs : op = .shr ∨ op = .shl) {w w' : Word} (hx : w.x = w'.x) :
    m.execute op w = m.execute op w' := by
  rcases hs with rfl | rfl <;>
    simp only [execute, shiftSource, hd, vx, hx, Bool.false_eq_true, ↓reduceIte]

/-- What a text leaves open is not read, unless shifts read `Vy`. -/
theorem execute_eq_of_format_eq {w w' : Word}
    (h : Standard.table.format w = Standard.table.format w') {i : Instruction}
    (hi : Standard.table.lookup w = some i) {m : Machine}
    (hd : m.dialect.shiftReadsVy = false) : m.execute i.op w = m.execute i.op w' := by
  rcases (Standard.format_eq_iff w w').mp h with rfl | ⟨⟨-, hx, -⟩, op, hs, hop, -⟩
  · rfl
  · rw [Standard.op?, hi] at hop
    obtain rfl := Option.some.inj hop
    exact execute_shift hd hs hx

/-- **The text of a word is faithful.** Only words that differ in the `y` of a shift have a text in
common; such words find the same instruction, and it does the same with each of them, to every
machine whose shifts do not read `Vy`. -/
theorem text_faithful (w w' : Word) :
    (Standard.table.format w = Standard.table.format w' ↔
      w = w' ∨ w.EqButY w' ∧ ∃ op, (op = .shr ∨ op = .shl) ∧
        Standard.op? w = some op ∧ Standard.op? w' = some op) ∧
    (Standard.table.format w = Standard.table.format w' →
      Standard.table.lookup w = Standard.table.lookup w' ∧
      ∀ i, Standard.table.lookup w = some i → ∀ m : Machine, m.dialect.shiftReadsVy = false →
        m.execute i.op w = m.execute i.op w') :=
  ⟨Standard.format_eq_iff w w', fun h =>
    ⟨Standard.lookup_eq_of_format_eq h, fun _ hi _ hd => execute_eq_of_format_eq h hi hd⟩⟩

/-! ## Steps -/

/-- `m'` is as `m` in its memory and its settings, and ready for a step at `a`. -/
structure StandsAt (m' m : Machine) (a : Int) : Prop where
  memory : m'.memory = m.memory
  settings : m'.settings = m.settings
  awake : m'.awaiting = false
  counter : m'.regs.pc = a

/-- A step executes `i` on `w`, with the program counter behind the word. If `i` succeeds, the step
is counted. A fault of the call stack takes the step back; another one leaves what `i` did. -/
structure StepsBy (m : Machine) (i : Instruction) (w : Word) : Prop where
  counted : ∀ drew, (m.advance.execute i.op w).result = .ok drew →
    m.step.result = .ok drew ∧
    m.step.machine = { (m.advance.execute i.op w).machine with
      count := (m.advance.execute i.op w).machine.count + 1 }
  undone : ∀ f, (m.advance.execute i.op w).result = .error f → f.isStack = true →
    m.step.result = .error f ∧ m.step.machine = m
  broken : ∀ f, (m.advance.execute i.op w).result = .error f → f.isStack = false →
    m.step.result = .error f ∧ m.step.machine = (m.advance.execute i.op w).machine

open Standard in
/-- A step does what a row with this word and this text shows: it stops at data if the machine is
strict, and executes the one instruction that has such a text. -/
structure Follows (m : Machine) (w : Word) (s : String) : Prop where
  fetched : m.fetch = w
  data : IsData s → m.strict = true →
    m.step.result = .error (.illegalOpcode m.regs.pc w) ∧ m.step.machine = m
  instruction : ¬IsData s → ∃ i ∈ instructions, i.matchesWord w = true ∧
    Instruction.text (some i) w = .ok s ∧
    (∀ j ∈ instructions, ∀ v, Instruction.text (some j) v = .ok s → j = i) ∧ m.StepsBy i w

theorem stepsBy_of_lookup {m : Machine} (ha : m.awaiting = false) {i : Instruction}
    (hl : m.table.lookup m.fetch = some i) : m.StepsBy i m.fetch where
  counted drew hx := by
    simp only [step, ha, hl, perform, hx, Bool.false_eq_true, ↓reduceIte, true_and]
    rfl
  undone f hx hf := by
    have hm := execute_machine_of_isStack hx hf
    simp only [step, ha, hl, perform, hx, hm, hf, Bool.false_eq_true, ↓reduceIte, true_and]
    rfl
  broken f hx hf := by
    simp only [step, ha, hl, perform, hx, hf, Bool.false_eq_true, ↓reduceIte, and_self]

theorem follows_fetch {m : Machine} (ht : m.table = Standard.table) (ha : m.awaiting = false) :
    m.Follows m.fetch (Standard.text m.fetch) where
  fetched := rfl
  data hs hstrict := by
    have hnone := (Standard.lookup_eq_none_iff _).mpr ((Standard.isData_text_iff _).mp hs)
    simp only [step, ha, ht, hnone, skipUnknown, hstrict, Bool.false_eq_true, ↓reduceIte, and_self]
  instruction hs := by
    cases hi : Standard.table.lookup m.fetch with
    | none =>
      exact absurd ((Standard.isData_text_iff _).mpr ((Standard.lookup_eq_none_iff _).mp hi)) hs
    | some i =>
      obtain ⟨hmem, hmatch⟩ := Standard.mem_of_lookup hi
      have htext := Standard.format_standard m.fetch
      rw [Table.format, hi] at htext
      refine ⟨i, hmem, hmatch, htext, ?_, stepsBy_of_lookup ha (ht ▸ hi)⟩
      intro j hj v hv
      exact Option.some.inj
        (Standard.eq_of_text_eq (Standard.mem_found hj) (Standard.mem_found hmem) hv htext)

/-- Where the program was loaded, the word of a row is at its address. -/
theorem readWord_rowAt {p : List UInt8} (hp : p.length ≤ programCapacity) {memory : Memory}
    (hl : Memory.initial.load p.toArray programStart = .ok memory) {k : Nat}
    (hk : 2 * k + 1 < p.length) :
    memory.readWord (Standard.rowAt programStart p k).1 =
      (Standard.rowAt programStart p k).2.1 := by
  have hword := readWord_of_load hl (k := 2 * k) hk hp
  have hbyte (j : Nat) : p.toArray.getD j 0 = p.getD j 0 := by
    rw [Array.getD_eq_getD_getElem?, List.getElem?_toArray, List.getD_eq_getElem?_getD]
  rw [Int.natCast_mul, hbyte, hbyte] at hword
  exact hword

/-- **A disassembly agrees with what is fetched.** It has one row for each whole word: its address,
the word and its text, which shows data exactly for the words that match no instruction; and the
words of all rows are the bytes of the program. Where a machine was made of the program, each word
is found at its address, and a step from there does what the row shows. -/
theorem disassembly_executes (p : List UInt8) (start : Int) :
    (Standard.disassemble start p).length = p.length / 2 ∧
    (∀ (k : Nat) (row : Int × Word × String), (Standard.disassemble start p)[k]? = some row →
      row.1 = start + 2 * k ∧ Standard.table.format row.2.1 = .ok row.2.2 ∧
      (Standard.IsData row.2.2 ↔
        ∀ i ∈ Standard.instructions, i.matchesWord row.2.1 = false)) ∧
    (Standard.disassemble start p).flatMap (fun row => [row.2.1.high, row.2.1.kk]) =
      p.take (2 * (p.length / 2)) ∧
    (p.length ≤ programCapacity → ∀ (dialect : Dialect) (strict : Bool) (entropy : Entropy),
      ∃ m, create p.toArray dialect strict entropy = .ok m ∧
        ∀ row ∈ Standard.disassemble programStart p,
          m.memory.readWord row.1 = row.2.1 ∧
          ∀ m' : Machine, m'.StandsAt m row.1 → m'.Follows row.2.1 row.2.2) := by
  refine ⟨?_, ?_, Standard.bytes_disassemble start p, ?_⟩
  · rw [Standard.disassemble_eq_map, List.length_map, List.length_range]
  · intro k row hrow
    rw [Standard.disassemble_eq_map, List.getElem?_map, Option.map_eq_some_iff] at hrow
    obtain ⟨j, hj, rfl⟩ := hrow
    obtain ⟨hlt, rfl⟩ := List.getElem?_eq_some_iff.mp hj
    rw [List.getElem_range]
    exact ⟨rfl, Standard.format_standard _, Standard.isData_text_iff _⟩
  · intro hp dialect strict entropy
    have hsize : p.toArray.size ≤ programCapacity := hp
    obtain ⟨memory, hl, hc⟩ := create_eq p.toArray hsize dialect strict entropy
    refine ⟨_, hc, fun row hrow => ?_⟩
    obtain ⟨k, hk, rfl⟩ := Standard.mem_disassemble hrow
    have hword := readWord_rowAt hp hl hk
    refine ⟨hword, fun m' hm' => ?_⟩
    have htable : m'.table = Standard.table := congrArg Settings.table hm'.settings
    have hfetch : m'.fetch = (Standard.rowAt programStart p k).2.1 := by
      rw [fetch, hm'.memory, hm'.counter]
      exact hword
    have hfollows := follows_fetch htable hm'.awake
    rw [hfetch] at hfollows
    exact hfollows

/-- Of five bytes the last one has no row. The first row loads a register, and the step that follows
it stops a strict machine at the second one. -/
theorem disassembly_executes_odd_program :
    ∃ m, create #[0x61, 0x05, 0xFF, 0xFF, 0x60] .modern true .closed = .ok m ∧
      m.step.result = .ok false ∧ m.step.machine.regs.v.get 1 = 5 ∧ m.step.machine.count = 1 ∧
      m.step.machine.step.result = .error (.illegalOpcode 0x202 0xFFFF) := by
  obtain ⟨-, -, -, hloaded⟩ := disassembly_executes [0x61, 0x05, 0xFF, 0xFF, 0x60] 0x200
  obtain ⟨m, hm, hrows⟩ := hloaded (by decide) .modern true .closed
  obtain ⟨memory, -, hc⟩ := create_eq #[0x61, 0x05, 0xFF, 0xFF, 0x60] (by decide) .modern true
    .closed
  have hon := Except.ok.inj (hm.symm.trans hc)
  have hregs : m.regs = .initial := by rw [hon]; rfl
  have hawake : m.awaiting = false := by rw [hon]; rfl
  have hstrict : m.strict = true := by rw [hon]; rfl
  -- The text of the first row is that of one instruction.
  have hfirst : (0x200, 0x6105, "LD V1, #05") ∈
      Standard.disassemble programStart [0x61, 0x05, 0xFF, 0xFF, 0x60] := by decide +kernel
  have hcode : ¬Standard.IsData "LD V1, #05" := by
    rintro ⟨digits, hdigits⟩
    replace hdigits := congrArg (fun s : String => s.toList.head?) hdigits
    rw [String.toList_append] at hdigits
    cases hdigits
  obtain ⟨i, -, -, -, hone, hstep⟩ := ((hrows _ hfirst).2 m
    ⟨rfl, rfl, hawake, by rw [hregs]; rfl⟩).instruction hcode
  have hload : ∃ j ∈ Standard.instructions, j.op = .ldVxKk ∧
      Instruction.text (some j) 0x6105 = .ok "LD V1, #05" := by decide +kernel
  obtain ⟨j, hj, hop, htext⟩ := hload
  obtain rfl := hone j hj _ htext
  obtain ⟨hresult, hmachine⟩ := hstep.counted false (by rw [hop]; rfl)
  rw [hop] at hmachine
  have hcounter : m.step.machine.regs.pc = 0x202 := by
    rw [hmachine]
    show (m.regs.pc + 2) % 0x1000 = _
    rw [hregs]
    rfl
  -- The machine behind it stands at the second row.
  have hsecond : (0x202, 0xFFFF, "DW #FFFF") ∈
      Standard.disassemble programStart [0x61, 0x05, 0xFF, 0xFF, 0x60] := by decide +kernel
  have hfollows := (hrows _ hsecond).2 m.step.machine
    ⟨by rw [hmachine]; rfl, by rw [hmachine]; rfl, by rw [hmachine]; exact hawake, hcounter⟩
  have hstop := (hfollows.data ⟨"#FFFF", by decide⟩ (by rw [hmachine]; exact hstrict)).1
  rw [hcounter] at hstop
  refine ⟨m, hm, hresult, ?_, ?_, hstop⟩
  · rw [hmachine]
    exact (setV_get ..).trans (if_pos rfl)
  · rw [hmachine, hon]
    rfl

end Machine

end Chip8

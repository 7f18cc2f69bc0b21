import Chip8.Proofs.Machine.Step

/-!
Well-formed machines: every register, timer and return address in its range,
the parts of their sizes. Every operation keeps a machine well-formed
(`inRange_kept`), and a machine that was just created is (`powerOn_inRange`).
-/

namespace Chip8

namespace Machine

/-- The settings of a machine that was created, whatever its program. -/
structure Settings.Assembled (s : Settings) : Prop where
  table : s.table = Standard.table
  capacity : s.capacity = CallStack.standardCapacity
  guard : s.guard = programStart
  spare : s.spare = []
  fits : s.program.size ≤ programCapacity

/-- What has to be kept: the sizes that no type fixes, and the ranges. -/
structure InRange (m : Machine) : Prop where
  assembled : m.settings.Assembled
  regs : m.regs.InRange
  depth : m.stack.depth ≤ CallStack.standardCapacity
  returns : ∀ a ∈ m.stack.entries, a.val ≤ 0xFFF

/-- Every part of the machine, read as numbers, is of its size and in its range. -/
structure WellFormed (m : Machine) : Prop where
  assembled : m.settings.Assembled
  registers : (m.regs.v.toList.map UInt8.toNat).length = 16
  bytes : ∀ b ∈ m.regs.v.toList.map UInt8.toNat, b ≤ 0xFF
  index : 0 ≤ m.regs.i ∧ m.regs.i ≤ 0xFFFF
  counter : 0 ≤ m.regs.pc ∧ m.regs.pc ≤ 0xFFF
  delay : 0 ≤ m.regs.dt ∧ m.regs.dt ≤ 0xFF
  sound : 0 ≤ m.regs.st ∧ m.regs.st ≤ 0xFF
  depth : m.stack.depth ≤ 16
  returns : ∀ a ∈ m.stack.toList, a.val ≤ 0xFFF
  memory : m.memory.toList.length = 0x1000
  rows : m.screen.rows.toList.length = 32
  cells : ∀ row ∈ m.screen.rows.toList,
    row.toList.length = 64 ∧ ∀ c ∈ row.toList.map Bool.toNat, c = 0 ∨ c = 1
  keys : m.keypad.keys.toList.length = 16
  keyRegister : m.keyRegister.val ≤ 0xF

theorem wellFormed_iff (m : Machine) : m.WellFormed ↔ m.InRange := by
  constructor
  · intro h
    refine ⟨h.assembled, ⟨h.index, h.counter, h.delay, h.sound⟩, h.depth, ?_⟩
    intro a ha
    exact h.returns a (List.mem_reverse.mpr ha)
  · intro h
    have hspare : m.memory.spare = [] := h.assembled.spare
    refine
      { assembled := h.assembled, registers := by simp, bytes := ?_, index := h.regs.index
        counter := h.regs.counter, delay := h.regs.delay, sound := h.regs.sound, depth := h.depth
        returns := fun a ha => h.returns a (List.mem_reverse.mp ha)
        memory := by simp [Memory.toList, hspare], rows := by simp, cells := ?_, keys := by simp
        keyRegister := by omega }
    · intro b hb
      obtain ⟨u, _, rfl⟩ := List.mem_map.mp hb
      have := u.toNat_lt
      omega
    · intro row _
      refine ⟨by simp, ?_⟩
      intro c hc
      obtain ⟨lit, _, rfl⟩ := List.mem_map.mp hc
      cases lit with
      | false => exact Or.inl rfl
      | true => exact Or.inr rfl

namespace InRange

variable {m m' : Machine}

theorem table (h : m.InRange) : m.table = Standard.table := h.assembled.table

theorem capacity (h : m.InRange) : m.stack.capacity = 16 := h.assembled.capacity

theorem of_parts (h : m.InRange) (hs : m'.settings = m.settings) (hr : m'.regs.InRange)
    (hk : m'.stack = m.stack) : m'.InRange :=
  ⟨hs ▸ h.assembled, hr, hk ▸ h.depth, hk ▸ h.returns⟩

theorem registersOnly (h : m.InRange) (hr : RegistersOnly m m') : m'.InRange :=
  h.of_parts hr.settings_eq (hr.inRange h.regs) (by rw [hr.same])

theorem advance (h : m.InRange) : m.advance.InRange :=
  h.registersOnly (RegistersOnly.refl m).advance

theorem counted (h : m.InRange) : m.counted.InRange := h.of_parts rfl h.regs rfl

theorem executes (h : m.InRange) {w : Word} {op : Op} (he : Executes m w op m') : m'.InRange := by
  have hs := he.settings_eq
  cases he with
  | registers hr => exact h.registersOnly hr
  | screen s _ hr => exact h.of_parts hs (hr.inRange h.regs) (by rw [hr.same])
  | random hr => exact h.of_parts hs (hr.inRange h.regs) (by rw [hr.same])
  | await => exact h.of_parts hs h.regs rfl
  | store bytes _ hr => exact h.of_parts hs (hr.inRange h.regs) (by rw [hr.same])
  | @call stack hp =>
    obtain ⟨hroom, rfl⟩ := CallStack.push_ok_iff.mp hp
    have hcap := h.capacity
    have hpc := h.regs.counter
    have hnnn : 0 ≤ (w.nnn : Int) ∧ (w.nnn : Int) ≤ 0xFFF := by
      have := w.nnn_lt
      omega
    refine ⟨hs ▸ h.assembled, ⟨h.regs.index, hnnn, h.regs.delay, h.regs.sound⟩, ?_, ?_⟩
    · show m.stack.depth + 1 ≤ 16
      omega
    · intro a ha
      rcases List.mem_cons.mp ha with rfl | ha
      · simp only [Word.ofInt]
        omega
      · exact h.returns a ha
  | @ret a stack hp =>
    obtain ⟨rest, he, rfl⟩ := CallStack.pop_ok_iff.mp hp
    have hdepth := h.depth
    have hret := h.returns
    rw [CallStack.depth, he, List.length_cons] at hdepth
    rw [he] at hret
    have hpc : 0 ≤ (a.val : Int) ∧ (a.val : Int) ≤ 0xFFF := by
      have := hret a List.mem_cons_self
      omega
    refine ⟨hs ▸ h.assembled, ⟨h.regs.index, hpc, h.regs.delay, h.regs.sound⟩, ?_, ?_⟩
    · exact Nat.le_of_succ_le hdepth
    · intro b hb
      exact hret b (List.mem_cons_of_mem _ hb)

theorem step (h : m.InRange) : m.step.machine.InRange := by
  have hs := step_steps m
  generalize m.step.machine = m', m.step.result = r at hs
  cases hs with
  | waiting | illegal | undone => exact h
  | skipped => exact h.advance.counted
  | executed => exact (h.advance.executes (execute_executes ..)).counted
  | broken => exact h.advance.executes (execute_executes ..)

theorem tick (h : m.InRange) : m.tick.InRange := by
  have hd := h.regs.delay
  have hst := h.regs.sound
  have hc : ∀ t : Int, 0 ≤ t ∧ t ≤ 0xFF → 0 ≤ countDown t ∧ countDown t ≤ 0xFF := by
    intro t ht
    unfold countDown
    split <;> omega
  exact h.of_parts rfl ⟨h.regs.index, h.regs.counter, hc _ hd, hc _ hst⟩ rfl

theorem setKey (h : m.InRange) (i : Fin 16) (pressed : Bool) :
    (m.setKey i pressed).machine.InRange := by
  refine h.of_parts (setKey_settings m i pressed) ?_ ?_
  · simp only [Machine.setKey, keyEdge]
    split
    · exact ⟨h.regs.index, h.regs.counter, h.regs.delay, h.regs.sound⟩
    · exact h.regs
  · simp only [Machine.setKey, keyEdge]
    split <;> rfl

end InRange

theorem initial_inRange : Registers.initial.InRange := by
  constructor <;> decide

/-- A reset succeeds. -/
theorem InRange.reset_eq {m : Machine} (h : m.InRange) :
    ∃ cleared memory, m.memory.clear = .ok cleared ∧
      cleared.load m.program programStart = .ok memory ∧
      m.reset = ⟨{ m with
        regs := .initial, memory, stack := m.stack.clear, screen := .blank, keypad := .released
        awaiting := false, keyRegister := 0, count := 0 }, .ok (), []⟩ := by
  have hg : m.memory.guard = programStart := h.assembled.guard
  have hp : m.program.size ≤ programCapacity := h.assembled.fits
  have hc : programStart + programCapacity = 0x1000 := rfl
  obtain ⟨cleared, hcl⟩ := m.memory.clear_eq_ok (by omega)
  have hg' := (Memory.clear_outline hcl).1
  obtain ⟨memory, hl⟩ := cleared.load_eq_ok m.program programStart (by omega) (by omega)
  refine ⟨cleared, memory, hcl, hl, ?_⟩
  unfold reset
  simp only [hcl, hl]

theorem reset_inRange {m : Machine} (h : m.InRange) : m.reset.machine.InRange := by
  have hs := reset_settings m
  obtain ⟨cleared, memory, _, _, hr⟩ := h.reset_eq
  rw [hr] at hs ⊢
  refine ⟨hs ▸ h.assembled, initial_inRange, Nat.zero_le _, ?_⟩
  intro a ha
  cases ha

theorem withMemory_inRange {m : Machine} (h : m.InRange) {e : Except Fault Memory}
    (he : ∀ memory, e = .ok memory →
      memory.guard = m.memory.guard ∧ memory.spare = m.memory.spare) :
    (m.withMemory e).machine.InRange := by
  have hs := withMemory_settings he
  cases e with
  | error f => exact h
  | ok memory => exact h.of_parts hs h.regs rfl

/-- **Every operation keeps the machine in range.** -/
theorem inRange_kept : Kept InRange where
  step _ h := h.step
  tick _ h := h.tick
  key _ i pressed h := h.setKey i pressed
  reset _ h := reset_inRange h
  store m a value h :=
    h.of_parts ((settings_kept m.settings).store m a value rfl) h.regs rfl
  load _ _ _ h := withMemory_inRange h fun _ => Memory.load_outline
  clear _ h := withMemory_inRange h fun _ => Memory.clear_outline

/-- A program that fits is loaded. -/
theorem create_eq (program : Array UInt8) (hp : program.size ≤ programCapacity)
    (dialect : Dialect) (strict : Bool) (entropy : Entropy) :
    ∃ memory, Memory.initial.load program programStart = .ok memory ∧
      create program dialect strict entropy =
        .ok (powerOn memory program dialect strict entropy) := by
  have hg : Memory.initial.guard = programStart := rfl
  have hc : programStart + programCapacity = 0x1000 := rfl
  obtain ⟨memory, hl⟩ := Memory.initial.load_eq_ok program programStart (by omega) (by omega)
  refine ⟨memory, hl, ?_⟩
  rw [create, if_neg (by omega), hl]

theorem powerOn_inRange {program : Array UInt8} (hp : program.size ≤ programCapacity)
    {memory : Memory} (hl : Memory.initial.load program programStart = .ok memory)
    (dialect : Dialect) (strict : Bool) (entropy : Entropy) :
    (powerOn memory program dialect strict entropy).InRange := by
  obtain ⟨hg, hm⟩ := Memory.load_outline hl
  refine ⟨⟨rfl, rfl, hg, hm, hp⟩, initial_inRange, Nat.zero_le _, ?_⟩
  intro a ha
  cases ha

/-- A word of the program, where it was loaded. -/
theorem readWord_of_load {program : Array UInt8} {memory : Memory}
    (hl : Memory.initial.load program programStart = .ok memory) {k : Nat}
    (hp : k + 2 ≤ program.size) (hc : program.size ≤ programCapacity) :
    memory.readWord (programStart + k) = .ofBytes (program.getD k 0) (program.getD (k + 1) 0) := by
  have hs : programStart = 0x200 := rfl
  have hcap : programCapacity = 0xE00 := rfl
  have hcell (j : Nat) (hj : j < program.size) :
      (Memory.cell (programStart + j)).val = programStart + j := by
    show (((programStart : Int) + j) % 0x1000).toNat = _
    omega
  have hnext : (programStart : Int) + k + 1 = programStart + (k + 1 : Nat) := by omega
  rw [Memory.readWord, hnext, Memory.read_load hl, Memory.read_load hl, hcell k (by omega),
    hcell (k + 1) (by omega), if_pos (by omega), if_pos (by omega)]
  simp

/-- The first instruction is made of the first two bytes of the program. -/
theorem powerOn_fetch {program : Array UInt8} (hp : 2 ≤ program.size)
    (hc : program.size ≤ programCapacity) {memory : Memory}
    (hl : Memory.initial.load program programStart = .ok memory)
    (dialect : Dialect) (strict : Bool) (entropy : Entropy) :
    (powerOn memory program dialect strict entropy).fetch =
      .ofBytes (program.getD 0 0) (program.getD 1 0) :=
  readWord_of_load hl (k := 0) hp hc

/-- Where a new machine starts. -/
theorem create_start (program : Array UInt8) (hp : program.size ≤ programCapacity)
    (hf : 2 ≤ program.size) (dialect : Dialect) (strict : Bool) (entropy : Entropy) :
    ∃ m, create program dialect strict entropy = .ok m ∧ m.InRange ∧
      m.entropy = entropy ∧ m.awaiting = false ∧ m.regs = .initial ∧ m.stack = .empty ∧
      m.fetch = .ofBytes (program.getD 0 0) (program.getD 1 0) := by
  obtain ⟨memory, hl, hc⟩ := create_eq program hp dialect strict entropy
  exact ⟨_, hc, powerOn_inRange hp hl .., rfl, rfl, rfl, rfl, powerOn_fetch hf hp hl ..⟩

/-- A new machine that was given other registers. -/
theorem create_with (program : Array UInt8) (hp : program.size ≤ programCapacity)
    (hf : 2 ≤ program.size) (dialect : Dialect) (strict : Bool) (entropy : Entropy)
    {r : Registers} (hr : r.InRange) :
    ∃ start m, create program dialect strict entropy = .ok start ∧ m = { start with regs := r } ∧
      m.WellFormed ∧ m.regs = r ∧ m.awaiting = false ∧ m.dialect = dialect ∧
      m.screen = .blank ∧ Memory.initial.Guarded m.memory ∧
      m.memory.readWord programStart = .ofBytes (program.getD 0 0) (program.getD 1 0) := by
  obtain ⟨memory, hl, hc⟩ := create_eq program hp dialect strict entropy
  have hm := powerOn_inRange hp hl dialect strict entropy
  exact ⟨_, _, hc, rfl, (wellFormed_iff _).mpr (hm.of_parts rfl hr rfl), rfl, rfl, rfl, rfl,
    Memory.guarded_load hl, readWord_of_load hl (k := 0) hf hp⟩

end Machine

end Chip8

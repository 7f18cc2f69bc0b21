import Chip8.Machine.Operation
import Chip8.Proofs.Machine.Execute
import Chip8.Proofs.Memory

/-!
What a step can do, in one inversion (`step_steps`), and what every operation
keeps if the few primitive ones keep it (`Kept.applyAll`). First use: the
settings of a machine never change (`applyAll_settings`).
-/

namespace Chip8

namespace Machine

@[simp] theorem counted_regs (m : Machine) : m.counted.regs = m.regs := rfl

@[simp] theorem counted_stack (m : Machine) : m.counted.stack = m.stack := rfl

@[simp] theorem counted_awaiting (m : Machine) : m.counted.awaiting = m.awaiting := rfl

@[simp] theorem counted_count (m : Machine) : m.counted.count = m.count + 1 := rfl

/-- The answer of a step and the machine behind it. -/
inductive Steps (m : Machine) : Except Fault Bool → Machine → Prop
  | waiting : m.awaiting = true → Steps m (.ok false) m
  | illegal : m.awaiting = false → m.table.lookup m.fetch = none → m.strict = true →
      Steps m (.error (.illegalOpcode m.regs.pc m.fetch)) m
  | skipped : m.awaiting = false → m.table.lookup m.fetch = none → m.strict = false →
      Steps m (.ok false) m.advance.counted
  | executed {i drew} : m.awaiting = false → m.table.lookup m.fetch = some i →
      (m.advance.execute i.op m.fetch).result = .ok drew →
      Steps m (.ok drew) (m.advance.execute i.op m.fetch).machine.counted
  | undone {i f} : m.awaiting = false → m.table.lookup m.fetch = some i →
      (m.advance.execute i.op m.fetch).result = .error f → f.isStack = true →
      Steps m (.error f) m
  | broken {i f} : m.awaiting = false → m.table.lookup m.fetch = some i →
      (m.advance.execute i.op m.fetch).result = .error f → f.isStack = false →
      Steps m (.error f) (m.advance.execute i.op m.fetch).machine

theorem step_steps (m : Machine) : Steps m m.step.result m.step.machine := by
  unfold step
  cases ha : m.awaiting with
  | true => exact .waiting ha
  | false =>
    simp only [Bool.false_eq_true, ↓reduceIte]
    cases hl : m.table.lookup m.fetch with
    | none =>
      simp only [skipUnknown]
      cases hs : m.strict with
      | true => exact .illegal ha hl hs
      | false => exact .skipped ha hl hs
    | some i =>
      simp only [perform]
      cases hr : (m.advance.execute i.op m.fetch).result with
      | ok drew => exact .executed ha hl hr
      | error f =>
        cases hf : f.isStack with
        | false =>
          simp only [hf, Bool.false_eq_true, ↓reduceIte]
          exact .broken ha hl hr hf
        | true =>
          -- The program counter is put back, and nothing else had changed.
          have hm := execute_machine_of_isStack hr hf
          simp only [hm, hf, ↓reduceIte]
          exact .undone ha hl hr hf

theorem step_of_awaiting {m : Machine} (h : m.awaiting = true) : m.step = done m := by
  simp [step, h]

/-! ## What every operation keeps -/

/-- `P` is kept by each operation that is not made of others. -/
structure Kept (P : Machine → Prop) : Prop where
  step : ∀ m, P m → P m.step.machine
  tick : ∀ m, P m → P m.tick
  key : ∀ m i pressed, P m → P (m.setKey i pressed).machine
  reset : ∀ m, P m → P m.reset.machine
  store : ∀ m a value, P m → P (m.store a value).machine
  load : ∀ m image start, P m → P (m.load image start).machine
  clear : ∀ m, P m → P (m.withMemory m.memory.clear).machine

theorem run_kept {P : Machine → Prop} (hstep : ∀ m, P m → P m.step.machine) {m : Machine}
    (h : P m) (n : Nat) : P (m.run n).machine := by
  induction n generalizing m with
  | zero => exact h
  | succ n ih =>
    unfold run
    split
    · exact h
    · cases hr : m.step.result with
      | error f => simpa [hr] using hstep m h
      | ok drew => simpa [hr] using ih (hstep m h)

namespace Kept

variable {P : Machine → Prop}

theorem key_any (k : Kept P) {m : Machine} (h : P m) (i : Int) (pressed : Bool) :
    P (m.key i pressed).machine := by
  unfold Machine.key
  cases Keypad.index i with
  | ok i => exact k.key m i pressed h
  | error f => exact h

theorem namedKey (k : Kept P) {m : Machine} (h : P m) (name : String) (pressed : Bool) :
    P (m.namedKey name pressed).machine := by
  unfold Machine.namedKey
  cases Keypad.ofName? name with
  | some i => exact k.key m i pressed h
  | none => exact h

theorem apply (k : Kept P) {m : Machine} (h : P m) (op : Operation) : P (m.apply op).machine := by
  cases op with
  | step => exact k.step m h
  | run n => exact run_kept k.step h n.toNat
  | tick => exact k.tick m h
  | keyDown i => exact k.key_any h i true
  | keyUp i => exact k.key_any h i false
  | press name => exact k.namedKey h name true
  | release name => exact k.namedKey h name false
  | reset => exact k.reset m h
  | store a value => exact k.store m a value h
  | load image start => exact k.load m image start h
  | clearProgram => exact k.clear m h

theorem applyAll (k : Kept P) {m : Machine} (h : P m) (ops : List Operation) :
    P (m.applyAll ops) := by
  induction ops generalizing m with
  | nil => exact h
  | cons op ops ih => exact ih (k.apply h op)

end Kept

/-! ## Settings -/

/-- What a machine is built with. -/
structure Settings where
  dialect : Dialect
  strict : Bool
  table : Table
  program : Array UInt8
  capacity : Nat
  guard : Nat
  spare : List UInt8
  stream : Nat → Draw

def settings (m : Machine) : Settings :=
  ⟨m.dialect, m.strict, m.table, m.program, m.stack.capacity, m.memory.guard, m.memory.spare,
    m.entropy.stream⟩

theorem RegistersOnly.settings_eq {m m' : Machine} (h : RegistersOnly m m') :
    m'.settings = m.settings := by
  rw [h.same]
  rfl

theorem Executes.settings_eq {m m' : Machine} {w : Word} {op : Op} (h : Executes m w op m') :
    m'.settings = m.settings := by
  cases h with
  | registers h => exact h.settings_eq
  | screen s _ h => exact h.settings_eq
  | call h => simp only [settings, CallStack.push_capacity h]
  | ret h => simp only [settings, CallStack.pop_capacity h]
  | random h => exact h.settings_eq
  | await => rfl
  | store bytes _ h =>
    rw [h.settings_eq]
    simp [settings]

@[simp] theorem step_settings (m : Machine) : m.step.machine.settings = m.settings := by
  have h := step_steps m
  generalize m.step.machine = m', m.step.result = r at h
  cases h with
  | waiting | illegal | undone | skipped => rfl
  | executed | broken => exact (execute_executes ..).settings_eq

theorem withMemory_settings {m : Machine} {e : Except Fault Memory}
    (h : ∀ memory, e = .ok memory →
      memory.guard = m.memory.guard ∧ memory.spare = m.memory.spare) :
    (m.withMemory e).machine.settings = m.settings := by
  cases e with
  | error f => rfl
  | ok memory =>
    obtain ⟨hg, hs⟩ := h memory rfl
    simp only [withMemory, settings, hg, hs]

@[simp] theorem reset_settings (m : Machine) : m.reset.machine.settings = m.settings := by
  unfold reset
  cases hc : m.memory.clear with
  | error f => rfl
  | ok cleared =>
    obtain ⟨hg, hs⟩ := Memory.clear_outline hc
    cases hl : cleared.load m.program programStart with
    | error f => simp only [settings, hl, hg, hs]
    | ok memory =>
      obtain ⟨hg', hs'⟩ := Memory.load_outline hl
      simp only [settings, hl, hg', hs', hg, hs, CallStack.clear]

@[simp] theorem setKey_settings (m : Machine) (i : Fin 16) (pressed : Bool) :
    (m.setKey i pressed).machine.settings = m.settings := by
  simp only [setKey, keyEdge]
  split <;> rfl

theorem settings_kept (s : Settings) : Kept fun m => m.settings = s where
  step m h := (step_settings m).trans h
  tick _ h := h
  key m i pressed h := (setKey_settings m i pressed).trans h
  reset m h := (reset_settings m).trans h
  store m a value h := by
    rw [← h]
    simp [settings, Machine.store]
  load _ _ _ h := (withMemory_settings fun _ => Memory.load_outline).trans h
  clear _ h := (withMemory_settings fun _ => Memory.clear_outline).trans h

/-- What is told of the settings alone stays. -/
theorem kept_of_settings (q : Settings → Prop) : Kept fun m => q m.settings where
  step m h := by simpa using h
  tick _ h := h
  key m i pressed h := by simpa using h
  reset m h := by simpa using h
  store m a value h := by rwa [(settings_kept m.settings).store m a value rfl]
  load m image start h := by rwa [(settings_kept m.settings).load m image start rfl]
  clear m h := by rwa [(settings_kept m.settings).clear m rfl]

/-- **No operation changes the settings.** -/
@[simp] theorem applyAll_settings (m : Machine) (ops : List Operation) :
    (m.applyAll ops).settings = m.settings := (settings_kept m.settings).applyAll rfl ops

end Machine

end Chip8

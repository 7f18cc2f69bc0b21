import Chip8.Machine.Execute
import Chip8.Proofs.CallStack
import Chip8.Proofs.Lists

/-!
What an instruction can touch. Beyond the registers it changes at most one part
of the machine, and only few instructions change one (`execute_executes`); the
registers stay in range. Four instructions can fail, each for one reason
(`execute_error_iff`), and a fault of the call stack leaves the machine alone.
-/

namespace Chip8

namespace Word

theorem nnn_lt (w : Word) : w.nnn < 0x1000 := Nat.mod_lt _ (by omega)

end Word

/-- Sixteen bits of index, twelve bits of program counter, eight bits of timers. -/
structure Registers.InRange (r : Registers) : Prop where
  index : 0 ≤ r.i ∧ r.i ≤ 0xFFFF
  counter : 0 ≤ r.pc ∧ r.pc ≤ 0xFFF
  delay : 0 ≤ r.dt ∧ r.dt ≤ 0xFF
  sound : 0 ≤ r.st ∧ r.st ≤ 0xFF

namespace Machine

/-! ## Fields behind an update -/

@[simp] theorem done_machine (m : Machine) : (done m).machine = m := rfl

@[simp] theorem done_result (m : Machine) : (done m).result = .ok false := rfl

@[simp] theorem setV_get (m : Machine) (k j : Fin 16) (b : UInt8) :
    (m.setV k b).regs.v.get j = if k = j then b else m.regs.v.get j := get_set ..

@[simp] theorem setFlag_get (m : Machine) (j : Fin 16) (b : Bool) :
    (m.setFlag b).regs.v.get j = if 15 = j then if b then 1 else 0 else m.regs.v.get j :=
  get_set ..

@[simp] theorem advance_v (m : Machine) : m.advance.regs.v = m.regs.v := rfl

@[simp] theorem advance_stack (m : Machine) : m.advance.stack = m.stack := rfl

@[simp] theorem advance_awaiting (m : Machine) : m.advance.awaiting = m.awaiting := rfl

@[simp] theorem advance_count (m : Machine) : m.advance.count = m.count := rfl

@[simp] theorem advance_entropy (m : Machine) : m.advance.entropy = m.entropy := rfl

/-! ## What is changed -/

/-- Nothing but the registers differs, and they are in range if they were. -/
structure RegistersOnly (m m' : Machine) : Prop where
  same : m' = { m with regs := m'.regs }
  inRange : m.regs.InRange → m'.regs.InRange

namespace RegistersOnly

variable {m m' m'' : Machine}

theorem refl (m : Machine) : RegistersOnly m m := ⟨rfl, id⟩

theorem trans (h : RegistersOnly m m') (h' : RegistersOnly m' m'') : RegistersOnly m m'' := by
  refine ⟨?_, fun hr => h'.inRange (h.inRange hr)⟩
  have e := h'.same
  rw [h.same] at e
  exact e

theorem setAll (h : RegistersOnly m m') (v : Vector UInt8 16) :
    RegistersOnly m { m' with regs.v := v } :=
  h.trans ⟨rfl, fun hr => ⟨hr.index, hr.counter, hr.delay, hr.sound⟩⟩

theorem setV (h : RegistersOnly m m') (k : Fin 16) (b : UInt8) : RegistersOnly m (m'.setV k b) :=
  h.setAll _

theorem setFlag (h : RegistersOnly m m') (b : Bool) : RegistersOnly m (m'.setFlag b) := h.setV 15 _

theorem jump (h : RegistersOnly m m') {a : Int} (ha : 0 ≤ a ∧ a ≤ 0xFFF) :
    RegistersOnly m (m'.jump a) :=
  h.trans ⟨rfl, fun hr => ⟨hr.index, ha, hr.delay, hr.sound⟩⟩

theorem advance (h : RegistersOnly m m') : RegistersOnly m m'.advance :=
  h.jump (by omega)

theorem skipIf (h : RegistersOnly m m') (c : Bool) : RegistersOnly m (m'.skipIf c) := by
  cases c with
  | false => exact h
  | true => exact h.advance

theorem logicFlag (h : RegistersOnly m m') : RegistersOnly m m'.logicFlag := by
  unfold Machine.logicFlag
  split
  · exact h.setFlag false
  · exact h

theorem setIndex (h : RegistersOnly m m') {a : Int} (ha : 0 ≤ a ∧ a ≤ 0xFFFF) :
    RegistersOnly m { m' with regs.i := a } :=
  h.trans ⟨rfl, fun hr => ⟨ha, hr.counter, hr.delay, hr.sound⟩⟩

theorem setDelay (h : RegistersOnly m m') {t : Int} (ht : 0 ≤ t ∧ t ≤ 0xFF) :
    RegistersOnly m { m' with regs.dt := t } :=
  h.trans ⟨rfl, fun hr => ⟨hr.index, hr.counter, ht, hr.sound⟩⟩

theorem setSound (h : RegistersOnly m m') {t : Int} (ht : 0 ≤ t ∧ t ≤ 0xFF) :
    RegistersOnly m { m' with regs.st := t } :=
  h.trans ⟨rfl, fun hr => ⟨hr.index, hr.counter, hr.delay, ht⟩⟩

theorem afterTransfer (h : RegistersOnly m m') (w : Word) :
    RegistersOnly m (m'.afterTransfer w) := by
  unfold Machine.afterTransfer
  split
  · exact h.setIndex (by omega)
  · exact h

end RegistersOnly

/-- How the instruction `op` of the word `w` changes a machine, also where it fails. -/
inductive Executes (m : Machine) (w : Word) : Op → Machine → Prop
  | registers {op m'} : RegistersOnly m m' → Executes m w op m'
  | screen {op m'} (screen : Screen 64 32) : op = .cls ∨ op = .drw →
      RegistersOnly { m with screen } m' → Executes m w op m'
  | call {stack} : m.stack.push m.regs.pc = .ok stack →
      Executes m w .call { m with stack, regs.pc := w.nnn }
  | ret {a stack} : m.stack.pop = .ok (a, stack) →
      Executes m w .ret { m with stack, regs.pc := a.val }
  | random {m'} : RegistersOnly { m with entropy := m.entropy.next } m' → Executes m w .rnd m'
  | await : Executes m w .ldVxK { m with awaiting := true, keyRegister := w.x }
  | store {op m'} (bytes : List UInt8) : op = .ldBVx ∨ op = .ldMemVx →
      RegistersOnly { m with memory := m.memory.storeAll m.regs.i bytes } m' → Executes m w op m'

theorem execute_executes (m : Machine) (op : Op) (w : Word) :
    Executes m w op (m.execute op w).machine := by
  have start := RegistersOnly.refl m
  have hnnn : (0 : Int) ≤ w.nnn ∧ (w.nnn : Int) ≤ 0xFFF := by
    have := w.nnn_lt
    omega
  have hvx : (0 : Int) ≤ (m.vx w).toNat ∧ ((m.vx w).toNat : Int) ≤ 0xFF := by
    have := (m.vx w).toNat_lt
    omega
  cases op with
  | cls => exact .screen .blank (.inl rfl) (.refl _)
  | ret =>
    show Executes m w .ret m.ret.machine
    unfold ret
    cases h : m.stack.pop with
    | ok p => exact .ret h
    | error f => exact .registers start
  | sys => exact .registers start
  | jp => exact .registers (start.jump hnnn)
  | call =>
    show Executes m w .call (m.call w).machine
    unfold call
    cases h : m.stack.push m.regs.pc with
    | ok stack => exact .call h
    | error f => exact .registers start
  | seVxKk | sneVxKk | seVxVy | sneVxVy | skp | sknp => exact .registers (start.skipIf _)
  | ldVxKk | addVxKk | ldVxVy => exact .registers (start.setV _ _)
  | or | and | xor => exact .registers (start.setV _ _).logicFlag
  | addVxVy | sub | subn | shr | shl => exact .registers ((start.setV _ _).setFlag _)
  | ldI => exact .registers (start.setIndex (by omega))
  | jpV0 => exact .registers (start.jump (by omega))
  | rnd =>
    show Executes m w .rnd (m.drawRandom w).machine
    unfold drawRandom
    cases m.entropy.current with
    | value n => exact .random ((RegistersOnly.refl _).setV _ _)
    | unavailable => exact .random ((RegistersOnly.refl _).setV _ _)
    | broken => exact .random (.refl _)
  | drw => exact .screen _ (.inr rfl) ((RegistersOnly.refl _).setFlag _)
  | ldVxDt =>
    show Executes m w .ldVxDt (m.readDelay w).machine
    unfold readDelay
    split
    · exact .registers (start.setV _ _)
    · exact .registers start
  | ldVxK => exact .await
  | ldDtVx => exact .registers (start.setDelay hvx)
  | ldStVx => exact .registers (start.setSound hvx)
  | addIVx => exact .registers (start.setIndex (by omega))
  | ldFVx =>
    have : glyphAddress (m.vx w).toNat ≤ 0xFFFF := by
      unfold glyphAddress glyphSize
      omega
    exact .registers (start.setIndex (by omega))
  | ldBVx => exact .store _ (.inl rfl) (.refl _)
  | ldMemVx => exact .store _ (.inr rfl) ((RegistersOnly.refl _).afterTransfer w)
  | ldVxMem => exact .registers ((start.setAll _).afterTransfer w)

/-- Only four instructions fail, each for one reason. -/
theorem execute_error_iff (m : Machine) (op : Op) (w : Word) (f : Fault) :
    (m.execute op w).result = .error f ↔
      op = .call ∧ m.stack.push m.regs.pc = .error f ∨
      op = .ret ∧ m.stack.pop = .error f ∨
      op = .rnd ∧ (∃ reason, m.entropy.current = .broken reason ∧ f = .noEntropy reason) ∨
      op = .ldVxDt ∧ ¬(0 ≤ m.regs.dt ∧ m.regs.dt < 0x100) ∧ f = .byteRange := by
  cases op with
  | ret =>
    show m.ret.result = .error f ↔ _
    unfold ret
    cases m.stack.pop <;> simp
  | call =>
    show (m.call w).result = .error f ↔ _
    unfold call
    cases m.stack.push m.regs.pc <;> simp
  | rnd =>
    show (m.drawRandom w).result = .error f ↔ _
    unfold drawRandom
    cases m.entropy.current <;> simp [eq_comm]
  | ldVxDt =>
    show (m.readDelay w).result = .error f ↔ _
    unfold readDelay
    split <;> rename_i h
    · simp [h]
    · simp [h, eq_comm]
  | _ => simp [execute, drawSprite, storeAtIndex]

/-- Faults of other kinds come from the random source and the delay timer. -/
theorem op_of_not_isStack {m : Machine} {op : Op} {w : Word} {f : Fault}
    (h : (m.execute op w).result = .error f) (hf : f.isStack = false) :
    op = .rnd ∨ op = .ldVxDt := by
  rcases (execute_error_iff m op w f).mp h with ⟨_, hp⟩ | ⟨_, hp⟩ | ⟨e, _⟩ | ⟨e, _⟩
  · rw [((CallStack.push_error_iff _ _ _).mp hp).2] at hf
    cases hf
  · rw [((CallStack.pop_error_iff _ _).mp hp).2] at hf
    cases hf
  · exact Or.inl e
  · exact Or.inr e

/-- A fault of the call stack comes before any change. -/
theorem execute_machine_of_isStack {m : Machine} {op : Op} {w : Word} {f : Fault}
    (h : (m.execute op w).result = .error f) (hf : f.isStack = true) :
    (m.execute op w).machine = m := by
  rcases (execute_error_iff m op w f).mp h with ⟨rfl, hp⟩ | ⟨rfl, hp⟩ | ⟨_, _, _, rfl⟩ | ⟨_, _, rfl⟩
  · show (m.call w).machine = m
    simp [call, hp]
  · show m.ret.machine = m
    simp [ret, hp]
  · cases hf
  · cases hf

end Machine

end Chip8

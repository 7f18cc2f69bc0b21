import Chip8.Proofs.Machine.Reachable

/-!
Waiting for a key. A machine waits exactly when it executed `Fx0A` and has seen
no key and no reset since (`history_awaits`); until then only its timers and the
held keys change (`suspended_applyAll`), and the first key goes to the register
that waits for it (`key_wait`).
-/

namespace Chip8

/-- The instruction `Fx0A`. -/
def Word.isKeyWait (w : Word) : Bool := w.group = 0xF && w.kk = 0x0A

theorem Word.isKeyWait_eq (w : Word) : w.isKeyWait = decide (Standard.op? w = some .ldVxK) := by
  simp [isKeyWait, Standard.op?_eq_ldVxK_iff]

/-- Stepping, running, ticks, keys that go up, and keys that do not exist. -/
def Operation.isIdle : Operation → Bool
  | .step | .run _ | .tick | .keyUp _ => true
  | .keyDown i => i < 0 || 15 < i
  | _ => false

/-! ## Histories -/

/-- What counts for waiting: an instruction, a key that goes down, a reset. -/
inductive Moment where
  | executed (w : Word)
  | pressed (i : Fin 16)
  | reset
  deriving DecidableEq, Repr

namespace Moment

/-- Whether a key is awaited after the moment. -/
def awaits (before : Bool) : Moment → Bool
  | executed w => before || w.isKeyWait
  | pressed _ | reset => false

/-- A key or a reset. -/
def endsWait : Moment → Bool
  | executed _ => false
  | pressed _ | reset => true

theorem foldl_awaits_iff (h : List Moment) (b : Bool) :
    h.foldl awaits b = true ↔
      b = true ∧ (∀ x ∈ h, x.endsWait = false) ∨
      ∃ before w after, h = before ++ executed w :: after ∧ w.isKeyWait = true ∧
        ∀ x ∈ after, x.endsWait = false := by
  induction h generalizing b with
  | nil => simp
  | cons x h ih =>
    rw [List.foldl_cons, ih]
    constructor
    · rintro (⟨hb, hn⟩ | ⟨before, w, after, rfl, hw, hn⟩)
      · cases x with
        | pressed i => cases hb
        | reset => cases hb
        | executed w =>
          cases hw : w.isKeyWait with
          | true => exact Or.inr ⟨[], w, h, rfl, hw, hn⟩
          | false =>
            simp only [awaits, hw, Bool.or_false] at hb
            refine Or.inl ⟨hb, ?_⟩
            intro y hy
            rcases List.mem_cons.mp hy with rfl | hy
            · rfl
            · exact hn y hy
      · exact Or.inr ⟨x :: before, w, after, rfl, hw, hn⟩
    · rintro (⟨rfl, hn⟩ | ⟨before, w, after, he, hw, hn⟩)
      · have hx := hn x List.mem_cons_self
        refine Or.inl ⟨?_, fun y hy => hn y (List.mem_cons_of_mem _ hy)⟩
        cases x with
        | executed w => rfl
        | pressed i => cases hx
        | reset => cases hx
      · cases before with
        | nil =>
          obtain ⟨rfl, rfl⟩ := List.cons.inj he
          exact Or.inl ⟨by simp [awaits, hw], hn⟩
        | cons y before =>
          obtain ⟨rfl, rfl⟩ := List.cons.inj he
          exact Or.inr ⟨before, w, after, rfl, hw, hn⟩

end Moment

namespace Machine

def stepMoments (m : Machine) : List Moment :=
  if m.awaiting then []
  else match m.step.result with
    | .ok _ => [.executed m.fetch]
    | .error _ => []

/-- A fault ends the run. -/
def runMoments (m : Machine) : Nat → List Moment
  | 0 => []
  | n + 1 => m.stepMoments ++ match m.step.result with
    | .ok _ => m.step.machine.runMoments n
    | .error _ => []

def moments (m : Machine) : Operation → List Moment
  | .step => m.stepMoments
  | .run n => m.runMoments n.toNat
  | .keyDown i => match Keypad.index i with
    | .ok i => [.pressed i]
    | .error _ => []
  | .press name => match Keypad.ofName? name with
    | some i => [.pressed i]
    | none => []
  | .reset => [.reset]
  | .tick | .keyUp _ | .release _ | .store .. | .load .. | .clearProgram => []

/-- The moments of a sequence of operations. -/
def history (m : Machine) : List Operation → List Moment
  | [] => []
  | op :: ops => m.moments op ++ (m.apply op).machine.history ops

@[simp] theorem execute_awaiting (m : Machine) (op : Op) (w : Word) :
    (m.execute op w).machine.awaiting = (m.awaiting || op = .ldVxK) := by
  by_cases ho : op = .ldVxK
  · subst ho
    simp [execute]
  · have he := execute_executes m op w
    simp only [ho, decide_false, Bool.or_false]
    generalize (m.execute op w).machine = m' at he
    cases he with
    | registers h | screen _ _ h | random h | store _ _ h => rw [h.same]
    | call | ret => rfl
    | await => exact absurd rfl ho

theorem InRange.step_awaits {m : Machine} (h : m.InRange) :
    m.step.machine.awaiting = m.stepMoments.foldl Moment.awaits m.awaiting := by
  have hs := step_steps m
  unfold stepMoments
  generalize m.step.machine = m', m.step.result = r at hs
  cases hs with
  | waiting ha => simp [ha]
  | illegal | undone => simp
  | @skipped ha hl _ =>
    have hn : Standard.op? m.fetch = none := by
      rw [← h.lookup_op, hl]
      rfl
    have hw : m.fetch.isKeyWait = false := by simp [Word.isKeyWait_eq, hn]
    simp [ha, Moment.awaits, hw]
  | @executed i drew ha hl hr =>
    have hw : m.fetch.isKeyWait = decide (i.op = .ldVxK) := by
      simp [Word.isKeyWait_eq, h.op?_eq hl]
    simp [ha, Moment.awaits, hw]
  | @broken i f ha hl hr hf =>
    have ho : i.op ≠ .ldVxK := by
      rcases op_of_not_isStack hr hf with e | e <;> simp [e]
    simp [ha, ho]

theorem InRange.run_awaits {m : Machine} (h : m.InRange) (n : Nat) :
    (m.run n).machine.awaiting = (m.runMoments n).foldl Moment.awaits m.awaiting := by
  induction n generalizing m with
  | zero => rfl
  | succ n ih =>
    rw [runMoments, List.foldl_append, ← h.step_awaits]
    cases hr : m.step.result with
    | error f =>
      have ha : m.awaiting = false := by
        cases ha : m.awaiting with
        | false => rfl
        | true => rw [step_of_awaiting ha] at hr; cases hr
      simp [run, ha, hr]
    | ok drew =>
      rw [← ih h.step]
      cases ha : m.awaiting with
      | false => simp [run, ha, hr]
      | true =>
        rw [step_of_awaiting ha]
        cases n <;> simp [run, ha]

@[simp] theorem setKey_awaiting (m : Machine) (i : Fin 16) (pressed : Bool) :
    (m.setKey i pressed).machine.awaiting = (m.awaiting && !pressed) := by
  simp only [setKey, keyEdge]
  cases pressed <;> cases m.awaiting <;> rfl

@[simp] theorem withMemory_awaiting (m : Machine) (e : Except Fault Memory) :
    (m.withMemory e).machine.awaiting = m.awaiting := by
  cases e <;> rfl

theorem InRange.apply_awaits {m : Machine} (h : m.InRange) (op : Operation) :
    (m.apply op).machine.awaiting = (m.moments op).foldl Moment.awaits m.awaiting := by
  cases op with
  | step => exact h.step_awaits
  | run n => exact h.run_awaits n.toNat
  | tick => rfl
  | keyDown i =>
    show (m.key i true).machine.awaiting = _
    cases hi : Keypad.index i with
    | ok k => simp [key, moments, hi, Moment.awaits]
    | error f => simp [key, moments, hi]
  | keyUp i =>
    show (m.key i false).machine.awaiting = m.awaiting
    cases hi : Keypad.index i with
    | ok k => simp [key, hi]
    | error f => simp [key, hi]
  | press name =>
    show (m.namedKey name true).machine.awaiting = _
    cases hi : Keypad.ofName? name with
    | some k => simp [namedKey, moments, hi, Moment.awaits]
    | none => simp [namedKey, moments, hi]
  | release name =>
    show (m.namedKey name false).machine.awaiting = m.awaiting
    cases hi : Keypad.ofName? name with
    | some k => simp [namedKey, hi]
    | none => simp [namedKey, hi]
  | reset =>
    obtain ⟨_, _, _, _, hr⟩ := h.reset_eq
    show m.reset.machine.awaiting = false
    rw [hr]
  | store a value => rfl
  | load image start => exact withMemory_awaiting ..
  | clearProgram => exact withMemory_awaiting ..

/-- **Whether a key is awaited can be read off the history.** -/
theorem InRange.history_awaits {m : Machine} (h : m.InRange) (ops : List Operation) :
    (m.applyAll ops).awaiting = (m.history ops).foldl Moment.awaits m.awaiting := by
  induction ops generalizing m with
  | nil => rfl
  | cons op ops ih =>
    rw [history, List.foldl_append, ← h.apply_awaits]
    exact ih (inRange_kept.apply h op)

/-! ## Waiting and the key that ends it -/

theorem run_of_awaiting {m : Machine} (h : m.awaiting = true) (n : Nat) : m.run n = done m := by
  cases n with
  | zero => rfl
  | succ n => simp [run, h]

/-- A waiting machine after `n` ticks, with other keys held. -/
def suspended (m : Machine) (n : Nat) (keypad : Keypad) : Machine :=
  { m with regs.dt := max 0 (m.regs.dt - n), regs.st := max 0 (m.regs.st - n), keypad }

/-- The key `i` goes to the register that waits. -/
def resolved (m : Machine) (i : Fin 16) : Machine :=
  { m with
    regs.v := m.regs.v.set m.keyRegister (UInt8.ofNat i.val) m.keyRegister.isLt
    awaiting := false, keypad := m.keypad.set i true }

theorem suspended_zero {m : Machine} (h : m.InRange) : m.suspended 0 m.keypad = m := by
  have hd : max 0 (m.regs.dt - (0 : Nat)) = m.regs.dt := by
    have := h.regs.delay
    omega
  have hs : max 0 (m.regs.st - (0 : Nat)) = m.regs.st := by
    have := h.regs.sound
    omega
  rw [suspended, hd, hs]

theorem countDown_max (t : Int) (n : Nat) :
    countDown (max 0 (t - n)) = max 0 (t - (n + 1 : Nat)) := by
  unfold countDown
  split <;> omega

theorem suspended_apply {m : Machine} (ha : m.awaiting = true) (n : Nat) (keypad : Keypad)
    {op : Operation} (ho : op.isIdle = true) :
    ∃ keypad', ((m.suspended n keypad).apply op).machine =
      m.suspended (n + if op = .tick then 1 else 0) keypad' := by
  have ht : (m.suspended n keypad).awaiting = true := ha
  cases op with
  | step =>
    refine ⟨keypad, ?_⟩
    show (m.suspended n keypad).step.machine = _
    rw [step_of_awaiting ht]
    rfl
  | run k =>
    refine ⟨keypad, ?_⟩
    show ((m.suspended n keypad).run k.toNat).machine = _
    rw [run_of_awaiting ht]
    rfl
  | tick =>
    refine ⟨keypad, ?_⟩
    show (m.suspended n keypad).tick = m.suspended (n + 1) keypad
    simp only [tick, suspended, countDown_max]
  | keyUp i =>
    show ∃ keypad', ((m.suspended n keypad).key i false).machine = _
    unfold key
    cases Keypad.index i with
    | error f => exact ⟨keypad, rfl⟩
    | ok k => exact ⟨keypad.set k false, rfl⟩
  | keyDown i =>
    refine ⟨keypad, ?_⟩
    have hi : Keypad.index i = .error (.keyIndex i) := by
      simp only [Operation.isIdle, Bool.or_eq_true, decide_eq_true_eq] at ho
      rw [Keypad.index, dif_neg (by omega)]
    show ((m.suspended n keypad).key i true).machine = _
    simp only [key, hi]
    rfl
  | _ => cases ho

/-- **A waiting machine only counts its timers down.** -/
theorem suspended_applyAll {m : Machine} (ha : m.awaiting = true) (n : Nat) (keypad : Keypad)
    {ops : List Operation} (ho : ∀ op ∈ ops, op.isIdle = true) :
    ∃ keypad', (m.suspended n keypad).applyAll ops =
      m.suspended (n + ops.count .tick) keypad' := by
  induction ops generalizing n keypad with
  | nil => exact ⟨keypad, rfl⟩
  | cons op ops ih =>
    obtain ⟨k, hk⟩ := suspended_apply ha n keypad (ho op List.mem_cons_self)
    obtain ⟨k', hk'⟩ := ih (n + if op = .tick then 1 else 0) k
      (fun o hm => ho o (List.mem_cons_of_mem _ hm))
    refine ⟨k', ?_⟩
    rw [applyAll, hk, hk', List.count_cons, Nat.add_assoc, Nat.add_comm (List.count _ _)]
    simp only [beq_iff_eq]

@[simp] theorem keypad_index (i : Fin 16) : Keypad.index (i.val : Int) = .ok i := by
  rw [Keypad.index, dif_pos (by omega)]
  rfl

@[simp] theorem ofInt_key (i : Fin 16) : UInt8.ofInt (i.val : Int) = UInt8.ofNat i.val := by
  unfold UInt8.ofInt
  congr 1
  omega

theorem keyDown_of_awaiting {m : Machine} (h : m.awaiting = true) (i : Fin 16) :
    (m.keyDown i.val).machine = m.resolved i ∧ (m.keyDown i.val).result = .ok () := by
  simp [keyDown, key, setKey, keyEdge, h]
  rfl

theorem keyDown_of_not_awaiting {m : Machine} (h : m.awaiting = false) (i : Fin 16) :
    (m.keyDown i.val).machine = { m with keypad := m.keypad.set i true } := by
  simp [keyDown, key, setKey, keyEdge, h]

theorem keyUp_machine (m : Machine) (i : Fin 16) :
    (m.keyUp i.val).machine = { m with keypad := m.keypad.set i false } := by
  simp [keyUp, key, setKey, keyEdge]

theorem keyDown_v {m : Machine} (h : m.awaiting = false) (i : Int) :
    (m.keyDown i).machine.regs.v = m.regs.v := by
  unfold keyDown key
  cases Keypad.index i with
  | error f => rfl
  | ok k => simp [setKey, keyEdge, h]

/-- `Fx0A` makes a machine wait, and nothing else. -/
theorem InRange.step_of_isKeyWait {m : Machine} (h : m.InRange) (ha : m.awaiting = false)
    (hw : m.fetch.isKeyWait = true) :
    m.step.result = .ok false ∧
      m.step.machine = { m with
        regs := m.advance.regs, count := m.count + 1
        awaiting := true, keyRegister := m.fetch.x } := by
  rw [Word.isKeyWait_eq, decide_eq_true_eq] at hw
  obtain ⟨i, hl, ho⟩ := h.lookup_of_op? hw
  simp [Machine.step, ha, hl, perform, ho, execute, done, Machine.counted, Machine.advance]

theorem InRange.not_awaiting_after {m : Machine} (h : m.InRange) (ha : m.awaiting = false)
    {ops : List Operation} (hn : ∀ w, .executed w ∈ m.history ops → w.isKeyWait = false) :
    (m.applyAll ops).awaiting = false := by
  rw [Bool.eq_false_iff, h.history_awaits, ha, ne_eq, Moment.foldl_awaits_iff]
  rintro (⟨hf, _⟩ | ⟨before, w, after, he, hw, _⟩)
  · cases hf
  · rw [hn w (by simp [he])] at hw
    cases hw

/-- **The protocol of waiting.** A machine waits exactly if it executed `Fx0A`
with no key and no reset since. While it waits, steps and runs answer `false`
and only the timers go down and keys go up; the first key goes to the waiting
register and ends the wait, whether it was held or not. A machine that does not
wait changes the flag of a key alone, and this goes on until `Fx0A` is executed. -/
theorem key_wait {program : Array UInt8} {dialect : Dialect} {strict : Bool} {entropy : Entropy}
    {start : Machine} (hc : create program dialect strict entropy = .ok start)
    (ops : List Operation) {m : Machine} (hm : start.applyAll ops = m) :
    (m.awaiting = true ↔
      ∃ before w after, start.history ops = before ++ .executed w :: after ∧
        w.isKeyWait = true ∧ ∀ x ∈ after, x.endsWait = false) ∧
    (m.awaiting = true → ∀ idle, (∀ op ∈ idle, op.isIdle = true) →
      ∃ keypad, m.applyAll idle = m.suspended (idle.count .tick) keypad ∧
        (m.applyAll idle).step.result = .ok false ∧
        (∀ n, ((m.applyAll idle).run n).result = .ok false) ∧
        ∀ i : Fin 16, ((m.applyAll idle).keyDown i.val).machine = (m.applyAll idle).resolved i ∧
          ((m.applyAll idle).keyDown i.val).result = .ok ()) ∧
    (∀ other : Machine, other.awaiting = false → ∀ i : Fin 16,
      (other.keyDown i.val).machine = { other with keypad := other.keypad.set i true } ∧
      (other.keyUp i.val).machine = { other with keypad := other.keypad.set i false }) ∧
    (m.awaiting = false →
      ∀ later, (∀ w, .executed w ∈ m.history later → w.isKeyWait = false) →
        ∀ i, ((m.applyAll later).keyDown i).machine.regs.v = (m.applyAll later).regs.v) := by
  have hstart := (Reachable.create hc).inRange
  have hr : m.InRange := hm ▸ ((Reachable.create hc).applyAll ops).inRange
  refine ⟨?_, ?_, fun other ho i => ⟨keyDown_of_not_awaiting ho i, keyUp_machine other i⟩, ?_⟩
  · have hs : start.awaiting = false := by
      obtain ⟨memory, _, rfl⟩ := create_ok hc
      rfl
    rw [← hm, hstart.history_awaits, hs, Moment.foldl_awaits_iff]
    simp
  · intro ha idle hidle
    obtain ⟨keypad, hk⟩ := suspended_applyAll ha 0 m.keypad hidle
    rw [suspended_zero hr, Nat.zero_add] at hk
    have hw : (m.applyAll idle).awaiting = true := by
      rw [hk]
      exact ha
    refine ⟨keypad, hk, ?_, ?_, fun i => keyDown_of_awaiting hw i⟩
    · rw [step_of_awaiting hw]
      rfl
    · intro n
      rw [run_of_awaiting hw]
      rfl
  · intro ha later hn i
    exact keyDown_v (hr.not_awaiting_after ha hn) i

/-- A program that begins by waiting for a key, which comes after a tick, a run
and a key that does not exist. -/
theorem key_wait_first_instruction :
    ∃ s, create #[0xF5, 0x0A] .modern false .closed = .ok s ∧
      (s.applyAll [.step]).awaiting = true ∧
      ((s.applyAll [.step]).applyAll [.tick, .run 7, .keyDown 16]).step.result = .ok false ∧
      (s.applyAll [.step, .tick, .run 7, .keyDown 16, .keyDown 14]).regs.v.get 5 = 14 ∧
      (s.applyAll [.step, .tick, .run 7, .keyDown 16, .keyDown 14]).awaiting = false := by
  obtain ⟨s, hc, hr, _, ha, _, _, hf⟩ := create_start #[0xF5, 0x0A] (by decide) (by decide)
    .modern false .closed
  have hw : s.fetch.isKeyWait = true := by rw [hf]; decide
  obtain ⟨hok, hstep⟩ := hr.step_of_isKeyWait ha hw
  have hh : s.history [.step] = [] ++ .executed s.fetch :: [] := by
    simp [history, moments, stepMoments, ha, hok]
  obtain ⟨hiff, hwait, _⟩ := key_wait hc [.step] rfl
  have hm : (s.applyAll [.step]).awaiting = true :=
    hiff.mpr ⟨[], s.fetch, [], hh, hw, by simp⟩
  obtain ⟨keypad, hk, hst, _, hkey⟩ := hwait hm [.tick, .run 7, .keyDown 16]
    (by simp [Operation.isIdle])
  have hlast : s.applyAll [.step, .tick, .run 7, .keyDown 16, .keyDown 14] =
      ((s.applyAll [.step]).applyAll [.tick, .run 7, .keyDown 16]).resolved 14 := (hkey 14).1
  have hreg : s.step.machine.keyRegister = 5 := by
    rw [hstep]
    show s.fetch.x = 5
    rw [hf]
    decide
  refine ⟨s, hc, hm, hst, ?_, ?_⟩
  · rw [hlast, hk]
    show (s.step.machine.regs.v.set s.step.machine.keyRegister 14).get 5 = 14
    simp only [hreg]
    exact Vector.getElem_set_self ..
  · rw [hlast]
    rfl

end Machine

end Chip8

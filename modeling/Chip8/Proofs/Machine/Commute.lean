import Chip8.Proofs.Machine.Footprint
import Chip8.Proofs.Machine.Lockstep

/-!
What a host does between the instructions of a program. Ticks and keys commute with every
step that does not look at them and does not set them, and ticks with every input; so it
makes no difference where among the steps of a frame its ticks come
(`host_events_commute`).
-/

namespace Chip8

namespace Word

/-- The words `Fx07`, `Fx15` and `Fx18`. -/
def isTimed (w : Word) : Bool := w.isF 0x07 || w.isF 0x15 || w.isF 0x18

/-- The words `Ex9E` and `ExA1`. -/
def isKeyTest (w : Word) : Bool := w.group = 0xE && (w.kk = 0x9E || w.kk = 0xA1)

end Word

/-- All but ticks and resets. -/
def Operation.isTimeless : Operation → Bool
  | .tick | .reset => false
  | _ => true

namespace Op

variable {op : Op} {w : Word}

theorem ignores_timers (hf : op.shape.Fits w) (hw : w.isTimed = false) (d : Dialect)
    (delay sound : Int → Int) : op.Ignores w d (.timers delay sound) := by
  refine ⟨fun _ => rfl, ?_, ?_, fun _ => rfl, op.sensitive_self w d⟩
  · intro hu
    cases op <;> simp_all [usesDelay, shape, Shape.Fits, Word.isTimed, Word.isF]
  · intro hu
    cases op <;> simp_all [usesSound, shape, Shape.Fits, Word.isTimed, Word.isF]

theorem ignores_held (hf : op.shape.Fits w) (hw : w.isKeyTest = false) (d : Dialect)
    (keys : Keypad → Keypad) : op.Ignores w d (.held keys) := by
  refine ⟨fun _ => rfl, fun _ => rfl, fun _ => rfl, ?_, op.sensitive_self w d⟩
  intro hu
  cases op <;> simp_all [usesKeys, shape, Shape.Fits, Word.isKeyTest]

end Op

namespace Machine

variable {m : Machine}

theorem InRange.step_timers (h : m.InRange)
    (hw : m.awaiting = false → m.fetch.isTimed = false) (delay sound : Int → Int) :
    (m.change (.timers delay sound)).step = m.step.change (.timers delay sound) := by
  apply step_change fun _ _ => rfl
  intro i ha hl
  exact Op.ignores_timers (Standard.fits_of_op? (h.op?_eq hl)) (hw ha) _ _ _

theorem InRange.step_held (h : m.InRange)
    (hw : m.awaiting = false → m.fetch.isKeyTest = false) (keys : Keypad → Keypad) :
    (m.change (.held keys)).step = m.step.change (.held keys) := by
  apply step_change fun _ _ => rfl
  intro i ha hl
  exact Op.ignores_held (Standard.fits_of_op? (h.op?_eq hl)) (hw ha) _ _

/-! ## Two operations in either order -/

/-- The order of two operations makes no difference, neither to the machine nor to what
each of them answers. -/
structure Commutes (m : Machine) (a b : Operation) : Prop where
  machine : ((m.apply a).machine.apply b).machine = ((m.apply b).machine.apply a).machine
  first : ((m.apply b).machine.apply a).result = (m.apply a).result
  second : ((m.apply a).machine.apply b).result = (m.apply b).result

/-- An operation `a` that comes to a change commutes with one that ignores the change. -/
theorem commutes_of_change {a b : Operation} {c : Change}
    (hb : (m.change c).apply b = (m.apply b).change c)
    (hbefore : (m.apply a).machine = m.change c)
    (hafter : ((m.apply b).machine.apply a).machine = (m.apply b).machine.change c)
    (hresult : ((m.apply b).machine.apply a).result = (m.apply a).result) :
    m.Commutes a b where
  machine := by
    rw [hbefore, hb, hafter]
    rfl
  first := hresult
  second := by
    rw [hbefore, hb]
    rfl

theorem apply_step_change {c : Change} (h : (m.change c).step = m.step.change c) :
    (m.change c).apply .step = (m.apply .step).change c :=
  (congrArg Outcome.answered h).trans (Outcome.answered_change _ c)

/-- What an edge of the key `i` makes of the keypad. -/
def edge (i : Int) (pressed : Bool) (k : Keypad) : Keypad :=
  match Keypad.index i with
  | .ok i => k.set i pressed
  | .error _ => k

theorem key_eq_change (m : Machine) (i : Int) (pressed : Bool)
    (h : (pressed && m.awaiting) = false) :
    (m.key i pressed).machine = m.change (.held (edge i pressed)) ∧
      (m.key i pressed).result = (Keypad.index i).map fun _ => () := by
  unfold key edge
  cases Keypad.index i with
  | error f => exact ⟨rfl, rfl⟩
  | ok k => simp [setKey, keyEdge, h, change, Change.held, Change.nothing, Except.map]

theorem InRange.commutes_tick_step (h : m.InRange)
    (hw : m.awaiting = false → m.fetch.isTimed = false) : m.Commutes .tick .step :=
  commutes_of_change (apply_step_change (h.step_timers hw countDown countDown)) rfl rfl rfl

theorem InRange.commutes_keyUp_step (h : m.InRange)
    (hw : m.awaiting = false → m.fetch.isKeyTest = false) (i : Int) :
    m.Commutes (.keyUp i) .step := by
  have hkey := m.key_eq_change i false rfl
  have hkey' := m.step.machine.key_eq_change i false rfl
  refine commutes_of_change (apply_step_change (h.step_held hw _)) hkey.1 hkey'.1 ?_
  exact congrArg (Except.map fun _ => none) (hkey'.2.trans hkey.2.symm)

theorem InRange.commutes_keyDown_step (h : m.InRange) (ha : m.awaiting = false)
    (ht : m.fetch.isKeyTest = false) (hk : m.fetch.isKeyWait = false) (i : Int) :
    m.Commutes (.keyDown i) .step := by
  have ha' : m.step.machine.awaiting = false := by
    rw [h.step_awaits, stepMoments, ha]
    cases m.step.result <;> simp [Moment.awaits, hk]
  have hkey := m.key_eq_change i true ha
  have hkey' := m.step.machine.key_eq_change i true ha'
  refine commutes_of_change (apply_step_change (h.step_held (fun _ => ht) _)) hkey.1 hkey'.1 ?_
  exact congrArg (Except.map fun _ => none) (hkey'.2.trans hkey.2.symm)

theorem commutes_tick_input (m : Machine) {op : Operation} (ho : op.isInput = true) :
    m.Commutes .tick op :=
  commutes_of_change (c := .timers countDown countDown) (apply_change rfl ho) rfl rfl rfl

/-! ## Ticks among other operations -/

theorem exists_of_isTimed {w : Word} (h : w.isTimed = true) :
    ∃ op, Standard.op? w = some op ∧ (op = .ldVxDt ∨ op = .ldDtVx ∨ op = .ldStVx) := by
  simp only [Word.isTimed, Word.isF, Bool.or_eq_true, Bool.and_eq_true, decide_eq_true_eq] at h
  rcases h with (h | h) | h
  · exact ⟨.ldVxDt, (Standard.op?_eq_iff_fits (by decide) w).mpr h, .inl rfl⟩
  · exact ⟨.ldDtVx, (Standard.op?_eq_iff_fits (by decide) w).mpr h, .inr (.inl rfl)⟩
  · exact ⟨.ldStVx, (Standard.op?_eq_iff_fits (by decide) w).mpr h, .inr (.inr rfl)⟩

/-- Instructions on the timers do not fail. -/
theorem InRange.executed_of_isTimed (h : m.InRange) (ha : m.awaiting = false)
    (hw : m.fetch.isTimed = true) : .executed m.fetch ∈ m.stepMoments := by
  obtain ⟨op, ho, hop⟩ := exists_of_isTimed hw
  have hx : (m.advance.execute op m.fetch).result = .ok false := by
    rcases hop with rfl | rfl | rfl
    · have hd := h.regs.delay
      show (m.advance.readDelay m.fetch).result = _
      rw [readDelay, if_pos]
      · rfl
      · show 0 ≤ m.regs.dt ∧ m.regs.dt < 0x100
        omega
    · rfl
    · rfl
  simp [stepMoments, ha, (h.step_of_execute ha op ho hx).1]

theorem timers_lockstep (delay sound : Int → Int) :
    Lockstep InRange (fun m m' => m' = m.change (.timers delay sound))
      (fun w => !w.isTimed) Operation.isTimeless where
  kept := inRange_kept
  awaiting := by
    rintro m m' rfl
    rfl
  step := by
    rintro m m' hm rfl hp
    refine .of_change (hm.step_timers ?_ delay sound) rfl
    intro ha
    cases hw : m.fetch.isTimed with
    | false => rfl
    | true =>
      have := hp _ (hm.executed_of_isTimed ha hw)
      rw [hw] at this
      cases this
  tick := by
    intro h
    cases h
  reset := by
    intro h
    cases h
  input := by
    rintro m m' op ho rfl
    exact .of_change (apply_change rfl ho) rfl

/-- What `k` ticks make of a timer. -/
def elapse (k : Nat) (t : Int) : Int := if 0 < t then max 0 (t - k) else t

theorem elapse_countDown (k : Nat) (t : Int) : elapse k (countDown t) = elapse (k + 1) t := by
  by_cases ht : 0 < t
  · simp only [elapse, countDown, ht, ↓reduceIte]
    split <;> omega
  · simp only [elapse, countDown, ht, ↓reduceIte]

theorem elapse_of_nonneg {t : Int} (h : 0 ≤ t) (k : Nat) : elapse k t = max 0 (t - k) := by
  unfold elapse
  split <;> omega

theorem ticks_eq_change (m : Machine) (k : Nat) :
    m.ticks k = m.change (.timers (elapse k) (elapse k)) := by
  induction k generalizing m with
  | zero =>
    have h : elapse 0 = id := by
      funext t
      unfold elapse
      split
      · simp only [id]
        omega
      · rfl
    rw [h]
    rfl
  | succ k ih =>
    show m.tick.ticks k = _
    rw [ih]
    simp only [change, Change.timers, Change.nothing, tick, id, elapse_countDown]

/-- Timers stand still as long as nothing sets them and no tick comes. -/
theorem InRange.apply_timers_eq (h : m.InRange) {op : Operation} (ho : op.isTimeless = true)
    (hp : ∀ w, .executed w ∈ m.moments op → w.isTimed = false) :
    (m.apply op).machine.regs.dt = m.regs.dt ∧ (m.apply op).machine.regs.st = m.regs.st := by
  -- Setting the timers to what they are is a change that `op` ignores.
  have hsame : m = m.change (.timers (fun _ => m.regs.dt) fun _ => m.regs.st) := rfl
  have hs := ((timers_lockstep _ _).apply h hsame ho (by simpa using hp)).machine
  exact ⟨congrArg (·.regs.dt) hs, congrArg (·.regs.st) hs⟩

theorem InRange.applyAll_timers_eq (h : m.InRange) {ops : List Operation}
    (ho : ∀ op ∈ ops, op.isTimeless = true)
    (hp : ∀ w, .executed w ∈ m.history ops → w.isTimed = false) :
    (m.applyAll ops).regs.dt = m.regs.dt ∧ (m.applyAll ops).regs.st = m.regs.st := by
  induction ops generalizing m with
  | nil => exact ⟨rfl, rfl⟩
  | cons op ops ih =>
    obtain ⟨hd, hs⟩ := h.apply_timers_eq (ho op List.mem_cons_self) fun w hw =>
      hp w (List.mem_append_left _ hw)
    obtain ⟨hd', hs'⟩ := ih (inRange_kept.apply h op)
      (fun op' ho' => ho op' (List.mem_cons_of_mem _ ho'))
      (fun w hw => hp w (List.mem_append_right _ hw))
    exact ⟨hd'.trans hd, hs'.trans hs⟩

theorem tick_ticks (m : Machine) (k : Nat) : (m.ticks k).tick = m.ticks (k + 1) := by
  induction k generalizing m with
  | zero => rfl
  | succ k ih => exact ih m.tick

theorem InRange.apply_ticks (h : m.InRange) (k : Nat) {op : Operation}
    (ho : op.isTimeless = true) (hp : ∀ w, .executed w ∈ m.moments op → w.isTimed = false) :
    ((m.ticks k).apply op).machine = (m.apply op).machine.ticks k := by
  rw [ticks_eq_change, ticks_eq_change]
  exact ((timers_lockstep _ _).apply h rfl ho (by simpa using hp)).machine

/-- A list of operations without its ticks. -/
def untimed (ops : List Operation) : List Operation := ops.filter (· ≠ .tick)

theorem isTimeless_of_mem_untimed {ops : List Operation} (hr : .reset ∉ ops) :
    ∀ op ∈ untimed ops, op.isTimeless = true := by
  intro op hop
  obtain ⟨hop, ht⟩ := List.mem_filter.mp hop
  cases op with
  | tick => simp at ht
  | reset => exact absurd hop hr
  | _ => rfl

/-- **Ticks can wait.** Those among operations that leave the timers alone come to as many
behind them. -/
theorem InRange.applyAll_untimed (h : m.InRange) (k : Nat) {ops : List Operation}
    (hr : .reset ∉ ops) (hp : ∀ w, .executed w ∈ m.history (untimed ops) → w.isTimed = false) :
    (m.ticks k).applyAll ops = (m.applyAll (untimed ops)).ticks (k + ops.count .tick) := by
  induction ops generalizing m k with
  | nil => rfl
  | cons op ops ih =>
    have hr' : .reset ∉ ops := fun hm => hr (List.mem_cons_of_mem _ hm)
    by_cases ht : op = .tick
    · subst ht
      have hu : untimed (.tick :: ops) = untimed ops := by simp [untimed]
      rw [hu] at hp ⊢
      calc
        (m.ticks k).applyAll (.tick :: ops) = (m.ticks (k + 1)).applyAll ops := by
          rw [← tick_ticks]
          rfl
        _ = (m.applyAll (untimed ops)).ticks (k + 1 + ops.count .tick) := ih h (k + 1) hr' hp
        _ = (m.applyAll (untimed ops)).ticks (k + (Operation.tick :: ops).count .tick) := by
          rw [List.count_cons_self, Nat.add_assoc, Nat.add_comm 1]
    · have hu : untimed (op :: ops) = op :: untimed ops := by simp [untimed, ht]
      rw [hu] at hp ⊢
      have hop := isTimeless_of_mem_untimed hr op (by rw [hu]; exact List.mem_cons_self)
      have happly := h.apply_ticks k hop fun w hw => hp w (List.mem_append_left _ hw)
      rw [List.count_cons_of_ne ht]
      show ((m.ticks k).apply op).machine.applyAll ops = _
      rw [happly]
      exact ih (inRange_kept.apply h op) k hr' fun w hw => hp w (List.mem_append_right _ hw)

/-- **What a host does commutes with what does not observe it.** A tick and a step come to the
same in either order, unless the step executes `Fx07`, `Fx15` or `Fx18`; so do a key that goes
up and a step, unless that executes `Ex9E` or `ExA1`, and a key that goes down, if the machine
does not wait and does not begin to; and a tick and any key. So the ticks among operations that
execute no instruction on the timers can be put anywhere between them: they lower both timers
by their number, down to zero, and change nothing else. -/
theorem host_events_commute (h : Reachable m) :
    ((m.awaiting = false → m.fetch.isTimed = false) → m.Commutes .tick .step) ∧
    ((m.awaiting = false → m.fetch.isKeyTest = false) → ∀ i, m.Commutes (.keyUp i) .step) ∧
    (m.awaiting = false → m.fetch.isKeyTest = false → m.fetch.isKeyWait = false →
      ∀ i, m.Commutes (.keyDown i) .step) ∧
    (∀ i, m.Commutes .tick (.keyDown i) ∧ m.Commutes .tick (.keyUp i)) ∧
    ∀ ops, .reset ∉ ops →
      (∀ w, .executed w ∈ m.history (untimed ops) → w.isTimed = false) →
      m.applyAll ops = (m.applyAll (untimed ops)).ticks (ops.count .tick) ∧
      (m.applyAll ops).regs.dt = max 0 (m.regs.dt - ops.count .tick) ∧
      (m.applyAll ops).regs.st = max 0 (m.regs.st - ops.count .tick) := by
  have hm := h.inRange
  refine ⟨hm.commutes_tick_step, hm.commutes_keyUp_step, hm.commutes_keyDown_step,
    fun i => ⟨m.commutes_tick_input rfl, m.commutes_tick_input rfl⟩, ?_⟩
  intro ops hr hp
  have hlast := hm.applyAll_untimed 0 hr hp
  rw [Nat.zero_add] at hlast
  obtain ⟨hd, hs⟩ := hm.applyAll_timers_eq (isTimeless_of_mem_untimed hr) hp
  have hdelay := hm.regs.delay
  have hsound := hm.regs.sound
  refine ⟨hlast, ?_, ?_⟩
  · show ((m.ticks 0).applyAll ops).regs.dt = _
    rw [hlast, ticks_eq_change, ← elapse_of_nonneg hdelay.1, ← hd]
    rfl
  · show ((m.ticks 0).applyAll ops).regs.st = _
    rw [hlast, ticks_eq_change, ← elapse_of_nonneg hsound.1, ← hs]
    rfl

/-- A program that sets the delay timer to five and then adds, with a tick on either side of
the addition. -/
theorem host_events_commute_countdown :
    ∃ start m, create #[0x60, 0x05, 0xF0, 0x15, 0x70, 0x01] .modern false
        .closed = .ok start ∧
      start.applyAll [.step, .step] = m ∧ Reachable m ∧ m.regs.dt = 5 ∧
      m.Commutes .tick .step ∧ m.Commutes (.keyUp 3) .step ∧ m.Commutes (.keyDown 3) .step ∧
      (∀ w, .executed w ∈ m.history [.step] → w.isTimed = false) ∧
      m.applyAll [.tick, .step, .tick] = (m.applyAll [.step]).ticks 2 ∧
      (m.applyAll [.tick, .step, .tick]).regs.dt = 3 := by
  have hsize : (#[0x60, 0x05, 0xF0, 0x15, 0x70, 0x01] : Array UInt8).size ≤ programCapacity := by
    decide
  obtain ⟨memory, hl, hc⟩ := create_eq #[0x60, 0x05, 0xF0, 0x15, 0x70, 0x01] hsize .modern false
    .closed
  have hr := powerOn_inRange hsize hl .modern false .closed
  generalize hs : powerOn memory _ .modern false .closed = start at hc hr
  have hload : start.fetch = 0x6005 := by
    rw [← hs]
    exact readWord_of_load hl (k := 0) (by decide) hsize
  obtain ⟨-, hloaded⟩ := hr.step_of_fits (by rw [← hs]; rfl) .ldVxKk (by decide)
    (by rw [hload]; rfl) rfl
  have hset : start.step.machine.fetch = 0xF015 := by
    rw [hloaded, hload, ← hs]
    exact readWord_of_load hl (k := 2) (by decide) hsize
  obtain ⟨-, hwait⟩ := hr.step.step_of_fits (by rw [hloaded, ← hs]; rfl) .ldDtVx (by decide)
    (by rw [hset]; exact ⟨rfl, rfl⟩) rfl
  have hreach : Reachable (start.applyAll [.step, .step]) := (Reachable.create hc).applyAll _
  have hm : start.applyAll [.step, .step] = start.step.machine.step.machine := rfl
  have hadd : start.step.machine.step.machine.fetch = 0x7001 := by
    rw [hwait, hset, hloaded, hload, ← hs]
    exact readWord_of_load hl (k := 4) (by decide) hsize
  have hawaiting : start.step.machine.step.machine.awaiting = false := by
    rw [hwait, hset, hloaded, hload, ← hs]
    rfl
  have hdelay : start.step.machine.step.machine.regs.dt = 5 := by
    rw [hwait, hset, hloaded, hload, ← hs]
    rfl
  rw [hm] at hreach
  generalize start.step.machine.step.machine = m at hm hreach hadd hawaiting hdelay
  have hp : ∀ w, .executed w ∈ m.history [.step] → w.isTimed = false := by
    intro w hw
    have hw : w = 0x7001 := by
      simp only [history, moments, stepMoments, hawaiting, hadd] at hw
      cases hx : m.step.result <;> simp_all
    rw [hw]
    decide
  obtain ⟨htick, hup, hdown, -, hticks⟩ := host_events_commute hreach
  obtain ⟨hlast, hcount, -⟩ := hticks [.tick, .step, .tick] (by simp) hp
  refine ⟨start, m, hc, hm, hreach, hdelay, ?_, ?_, ?_, hp, hlast, ?_⟩
  · exact htick fun _ => by rw [hadd]; decide
  · exact hup (fun _ => by rw [hadd]; decide) 3
  · exact hdown hawaiting (by rw [hadd]; decide) (by rw [hadd]; decide) 3
  · rw [hcount, hdelay]
    rfl

end Machine

end Chip8

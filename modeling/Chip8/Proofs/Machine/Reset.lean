import Chip8.Proofs.Machine.Interpreter

/-!
Resetting a machine. The interpreter area is as it was at power-on and the
settings never change, so clearing the rest and loading the program again gives
the machine that was created, up to the draws taken since (`reset_powerOn`).
-/

namespace Chip8

namespace Machine

/-- What each operation of a sequence leaves, answers and reports. -/
def outcomes (m : Machine) : List Operation → List (Outcome Answer)
  | [] => []
  | op :: ops => m.apply op :: (m.apply op).machine.outcomes ops

/-- A reset machine is one that was just switched on. -/
theorem InRange.reset_eq_powerOn {m : Machine} (h : m.InRange)
    (hg : Memory.initial.Guarded m.memory) {memory : Memory}
    (hl : Memory.initial.load m.program programStart = .ok memory) :
    m.reset = ⟨powerOn memory m.program m.dialect m.strict m.entropy, .ok (), []⟩ := by
  have hstack : m.stack.clear = .empty := by
    rw [CallStack.clear, h.capacity]
    rfl
  unfold reset
  simp only [Memory.clear_eq_initial hg, hl, hstack, powerOn, ← h.table]

/-- However a machine was operated, its reset is a power-on with its own program and settings,
where only the random source goes on. -/
theorem Reachable.reset_eq {m : Machine} (h : Reachable m) :
    ∃ fresh, Machine.create m.program m.dialect m.strict m.entropy = .ok fresh ∧
      m.reset = ⟨fresh, .ok (), []⟩ := by
  have hr := h.inRange
  obtain ⟨memory, hl, hc⟩ := create_eq m.program hr.assembled.fits m.dialect m.strict m.entropy
  exact ⟨_, hc, hr.reset_eq_powerOn h.guarded hl⟩

/-- A second reset does nothing. -/
theorem Reachable.reset_twice {m : Machine} (h : Reachable m) :
    m.reset.machine.reset.machine = m.reset.machine := by
  obtain ⟨fresh, hc, hr⟩ := h.reset_eq
  rw [hr]
  obtain ⟨again, hc', hr'⟩ := (Reachable.create hc).reset_eq
  rw [hr']
  obtain ⟨memory, hl, rfl⟩ := create_ok hc
  exact Except.ok.inj (hc'.symm.trans hc)

/-- **A reset is a power-on.** After any operations it succeeds, and what it leaves is
in every part the machine that was created, with as many draws taken as before
the reset: whatever is done next is answered as by a new machine whose random
source stands at that position. -/
theorem reset_powerOn {program : Array UInt8} {dialect : Dialect} {strict : Bool}
    {entropy : Entropy} {start : Machine}
    (hc : create program dialect strict entropy = .ok start) (ops : List Operation) :
    ∃ fresh,
      create program dialect strict
        { entropy with position := (start.applyAll ops).entropy.position } = .ok fresh ∧
      fresh = { start with entropy := fresh.entropy } ∧
      (start.applyAll ops).reset = ⟨fresh, .ok (), []⟩ ∧
      ∀ later, (start.applyAll ops).reset.machine.outcomes later = fresh.outcomes later := by
  have hr := ((Reachable.create hc).applyAll ops).inRange
  have hg := guarded_of_create hc ops
  have hs := applyAll_settings start ops
  have hsize := size_of_create hc
  obtain ⟨memory, hl, rfl⟩ := create_ok hc
  generalize applyAll _ ops = m at hr hg hs
  have hprogram : m.program = program := congrArg Settings.program hs
  have hdialect : m.dialect = dialect := congrArg Settings.dialect hs
  have hstrict : m.strict = strict := congrArg Settings.strict hs
  have hstream : m.entropy.stream = entropy.stream := congrArg Settings.stream hs
  have hentropy : m.entropy = { entropy with position := m.entropy.position } := by
    rw [← hstream]
  have hreset := hr.reset_eq_powerOn hg (hprogram ▸ hl)
  rw [hprogram, hdialect, hstrict, hentropy] at hreset
  obtain ⟨memory', hl', hc'⟩ := create_eq program hsize dialect strict
    { entropy with position := m.entropy.position }
  rw [hl] at hl'
  cases hl'
  refine ⟨_, hc', rfl, hreset, ?_⟩
  intro later
  rw [hreset]

/-- A program that calls itself until the stack is full, reset after the host has
written over it. -/
theorem reset_powerOn_full_stack :
    ∃ start fresh,
      create #[0x22, 0x00] .modern true ⟨fun _ => .value 7, 0⟩ = .ok start ∧
      fresh = { start with entropy := fresh.entropy } ∧
      (start.applyAll
        [.run 40, .store 0x200 0xF0, .store 0x201 0x0A, .load #[1, 2, 3] 0xFFD, .keyDown 99,
          .step]).reset = ⟨fresh, .ok (), []⟩ := by
  obtain ⟨start, hc, _⟩ := create_start #[0x22, 0x00] (by decide) (by decide) .modern true
    ⟨fun _ => .value 7, 0⟩
  obtain ⟨fresh, _, hf, hr, _⟩ := reset_powerOn hc
    [.run 40, .store 0x200 0xF0, .store 0x201 0x0A, .load #[1, 2, 3] 0xFFD, .keyDown 99, .step]
  exact ⟨start, fresh, hc, hf, hr⟩

end Machine

end Chip8

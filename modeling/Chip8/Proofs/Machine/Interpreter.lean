import Chip8.Proofs.Machine.Reachable

/-!
The interpreter area. Whatever a machine does and whatever a host writes, the
cells below the guard stay as they were at power-on (`guarded_kept`); so `Fx29`
finds every glyph of the font (`interpreter_area`).
-/

namespace Chip8

namespace Machine

theorem Executes.guarded {m m' : Machine} {w : Word} {op : Op} (h : Executes m w op m') :
    m.memory.Guarded m'.memory := by
  cases h with
  | registers h | screen _ _ h | random h =>
    rw [h.same]
    exact .refl _
  | call | ret | await => exact .refl _
  | store bytes _ h =>
    rw [h.same]
    exact Memory.guarded_storeAll _ _ _

theorem step_guarded (m : Machine) : m.memory.Guarded m.step.machine.memory := by
  have hs := step_steps m
  generalize m.step.machine = m', m.step.result = r at hs
  cases hs with
  | waiting | illegal | undone | skipped => exact .refl _
  | executed | broken => exact (execute_executes m.advance _ _).guarded

@[simp] theorem setKey_memory (m : Machine) (i : Fin 16) (pressed : Bool) :
    (m.setKey i pressed).machine.memory = m.memory := by
  simp only [setKey, keyEdge]
  split <;> rfl

theorem reset_guarded (m : Machine) : m.memory.Guarded m.reset.machine.memory := by
  unfold reset
  cases hc : m.memory.clear with
  | error f => exact .refl _
  | ok cleared =>
    have hg := Memory.guarded_clear hc
    cases hl : cleared.load m.program programStart with
    | error f => simpa only [hl] using hg
    | ok memory => simpa only [hl] using hg.trans (Memory.guarded_load hl)

theorem withMemory_guarded {m : Machine} {e : Except Fault Memory}
    (h : ∀ memory, e = .ok memory → m.memory.Guarded memory) :
    m.memory.Guarded (m.withMemory e).machine.memory := by
  cases e with
  | error f => exact .refl _
  | ok memory => exact h memory rfl

/-- **No operation writes below the guard.** -/
theorem guarded_kept (area : Memory) : Kept fun m => area.Guarded m.memory where
  step m h := h.trans m.step_guarded
  tick _ h := h
  key m i pressed h := by simpa using h
  reset m h := h.trans m.reset_guarded
  store m a value h := h.trans (Memory.guarded_store m.memory a value)
  load _ _ _ h := h.trans (withMemory_guarded fun _ => Memory.guarded_load)
  clear _ h := h.trans (withMemory_guarded fun _ => Memory.guarded_clear)

/-- What lies below the program is that of the initial memory. -/
theorem Reachable.guarded {m : Machine} (h : Reachable m) : Memory.initial.Guarded m.memory := by
  induction h with
  | create hc =>
    obtain ⟨memory, hl, rfl⟩ := create_ok hc
    exact Memory.guarded_load hl
  | apply op _ ih => exact (guarded_kept Memory.initial).apply ih op

theorem guarded_of_create {program : Array UInt8} {dialect : Dialect} {strict : Bool}
    {entropy : Entropy} {start : Machine}
    (hc : create program dialect strict entropy = .ok start) (ops : List Operation) :
    Memory.initial.Guarded (start.applyAll ops).memory :=
  ((Reachable.create hc).applyAll ops).guarded

/-- `Fx29` sets the index register, and nothing else behind the fetch. -/
theorem InRange.step_of_glyph {m : Machine} (h : m.InRange) (ha : m.awaiting = false)
    (hg : m.fetch.group = 0xF) (hk : m.fetch.kk = 0x29) :
    m.step.result = .ok false ∧
      m.step.machine = { m.advance.counted with
        regs.i := glyphAddress (m.vx m.fetch).toNat } := by
  obtain ⟨i, hl, ho⟩ :=
    h.lookup_of_op? ((Standard.op?_eq_iff_fits (by decide) _).mpr ⟨hg, hk⟩ : _ = some Op.ldFVx)
  simp [Machine.step, ha, hl, perform, ho, execute, done, Machine.counted, Machine.advance,
    Machine.vx]

/-- **The interpreter area is immutable.** The font and the zeros behind it are
what lies below the program after any operations; so where `Fx29` is executed,
whatever the registers hold, the five bytes at the index register are the glyph
of the low digit of `Vx`. -/
theorem interpreter_area {program : Array UInt8} {dialect : Dialect} {strict : Bool}
    {entropy : Entropy} {start : Machine}
    (hc : create program dialect strict entropy = .ok start)
    (ops : List Operation) {m : Machine} (hm : start.applyAll ops = m) :
    m.memory.block 0 programStart =
      fontBytes ++ List.replicate (programStart - fontBytes.length) 0 ∧
    (m.awaiting = false → m.fetch.group = 0xF → m.fetch.kk = 0x29 → ∀ v : Vector UInt8 16,
      ({ m with regs.v := v }).step.result = .ok false ∧
      ({ m with regs.v := v }).step.machine.memory.block
          ({ m with regs.v := v }).step.machine.regs.i 5 =
        Memory.glyph ((v.get m.fetch.x).toNat % 16)) := by
  have hg : Memory.initial.Guarded m.memory := hm ▸ guarded_of_create hc ops
  have hr : m.InRange := hm ▸ ((Reachable.create hc).applyAll ops).inRange
  refine ⟨hg.area_eq, ?_⟩
  intro ha hgroup hkk v
  have hv : ({ m with regs.v := v } : Machine).InRange :=
    hr.registersOnly ((RegistersOnly.refl m).setAll v)
  obtain ⟨hok, hstep⟩ := hv.step_of_glyph ha hgroup hkk
  refine ⟨hok, ?_⟩
  rw [hstep]
  exact hg.glyph_eq _

/-- A program that asks for a glyph, behind a store that wraps around to the font and
a load that begins one byte too early. -/
theorem interpreter_area_wrapped_store :
    ∃ start m, create #[0xF3, 0x29] .modern false .closed = .ok start ∧
      start.applyAll [.store 0x1000 0xFF, .load #[1, 2, 3] 0x1FF, .tick] = m ∧
      m.awaiting = false ∧ m.fetch.group = 0xF ∧ m.fetch.kk = 0x29 ∧
      m.memory.block 0 programStart =
        fontBytes ++ List.replicate (programStart - fontBytes.length) 0 ∧
      (({ m with regs.v := .replicate 16 0xAB }).step.machine.memory.block
          ({ m with regs.v := .replicate 16 0xAB }).step.machine.regs.i 5 =
        [0xE0, 0x90, 0xE0, 0x90, 0xE0]) := by
  obtain ⟨s, hc, hs, _, ha, _, _, hf⟩ := create_start #[0xF3, 0x29] (by decide) (by decide)
    .modern false .closed
  have hg : s.memory.guard = 0x200 := hs.assembled.guard
  have hstore : s.memory.store 0x1000 0xFF = s.memory :=
    Memory.store_of_lt (by rw [hg]; decide) _
  have hload : s.memory.load #[1, 2, 3] 0x1FF = .error (.imageMisfit 3 0x1FF) :=
    if_pos (Or.inl (by rw [hg]; decide))
  have hm : s.applyAll [.store 0x1000 0xFF, .load #[1, 2, 3] 0x1FF, .tick] = s.tick := by
    simp [applyAll, apply, Machine.store, Machine.load, hstore, hload, withMemory, Outcome.silent]
  have hgroup : s.tick.fetch.group = 0xF := by
    show s.fetch.group = 0xF
    rw [hf]
    decide
  have hkk : s.tick.fetch.kk = 0x29 := by
    show s.fetch.kk = 0x29
    rw [hf]
    decide
  obtain ⟨harea, hglyph⟩ := interpreter_area hc _ hm
  refine ⟨s, s.tick, hc, hm, ha, hgroup, hkk, harea, ?_⟩
  rw [(hglyph ha hgroup hkk (.replicate 16 0xAB)).2]
  have hx : (Vector.replicate 16 (0xAB : UInt8)).get s.tick.fetch.x = 0xAB :=
    Vector.getElem_replicate _
  rw [hx]
  decide

end Machine

end Chip8

import Chip8.Proofs.Machine.Lockstep

/-!
The low twelve bits of the index register. Whatever reads or writes memory takes addresses
modulo 4096, and what is added to the register is taken modulo a multiple of that; so two
machines whose index registers agree modulo 4096, and that are equal otherwise, cannot be
told apart (`outcomes_of_indexAlike`).
-/

namespace Chip8

namespace Machine

/-- Nothing differs but the index register, and that by a multiple of 4096. -/
structure IndexAlike (m m' : Machine) : Prop where
  same : m' = { m with regs.i := m'.regs.i }
  index : m'.regs.i % 0x1000 = m.regs.i % 0x1000

namespace IndexAlike

variable {m m' : Machine}

theorem of_index {i : Int} (h : i % 0x1000 = m.regs.i % 0x1000) :
    IndexAlike m (m.change (.toIndex i)) := ⟨rfl, h⟩

theorem exists_index (h : IndexAlike m m') :
    ∃ i, i % 0x1000 = m.regs.i % 0x1000 ∧ m' = m.change (.toIndex i) :=
  ⟨m'.regs.i, h.index, h.same⟩

/-- What does not look at the index register and does not set it. -/
theorem outcome {α : Type} {f : Machine → Outcome α} (h : IndexAlike m m')
    (hf : ∀ i, f (m.change (.toIndex i)) = (f m).change (.toIndex i)) :
    (f m).Matches IndexAlike (f m') := by
  obtain ⟨i, hi, rfl⟩ := h.exists_index
  refine .of_change (hf i) (of_index ?_)
  -- Here the register is set to what it is.
  have hsame : (f m).machine.regs.i = m.regs.i := congrArg (·.machine.regs.i) (hf m.regs.i)
  rw [hsame]
  exact hi

theorem map {f : Machine → Machine} (h : IndexAlike m m')
    (hf : ∀ i, f (m.change (.toIndex i)) = (f m).change (.toIndex i)) :
    IndexAlike (f m) (f m') :=
  (h.outcome (f := fun m => done (f m)) fun i => congrArg done (hf i)).machine

theorem advance (h : IndexAlike m m') : IndexAlike m.advance m'.advance :=
  h.map fun _ => rfl

theorem jump (h : IndexAlike m m') (a : Int) : IndexAlike (m.jump a) (m'.jump a) :=
  h.map (f := (·.jump a)) fun _ => rfl

theorem counted (h : IndexAlike m m') : IndexAlike m.counted m'.counted :=
  h.map fun _ => rfl

theorem tick (h : IndexAlike m m') : IndexAlike m.tick m'.tick :=
  h.map fun _ => rfl

theorem vx (h : IndexAlike m m') (w : Word) : m'.vx w = m.vx w := by
  rw [h.same]
  rfl

theorem registersTo (h : IndexAlike m m') (w : Word) : m'.registersTo w = m.registersTo w := by
  rw [h.same]
  rfl

theorem setAll (h : IndexAlike m m') (v : Vector UInt8 16) :
    IndexAlike { m with regs.v := v } { m' with regs.v := v } :=
  h.map (f := fun m => { m with regs.v := v }) fun _ => rfl

theorem afterTransfer (h : IndexAlike m m') (w : Word) :
    IndexAlike (m.afterTransfer w) (m'.afterTransfer w) := by
  obtain ⟨i, hi, rfl⟩ := h.exists_index
  show IndexAlike _ (if m.dialect.transferAdvancesIndex then _ else _)
  unfold Machine.afterTransfer
  split
  · refine ⟨rfl, ?_⟩
    show (i + w.x.val + 1) % 0x10000 % 0x1000 = (m.regs.i + w.x.val + 1) % 0x10000 % 0x1000
    omega
  · exact of_index hi

theorem storeAtIndex (h : IndexAlike m m') (bytes : List UInt8) :
    (m.storeAtIndex bytes).Matches IndexAlike (m'.storeAtIndex bytes) := by
  obtain ⟨i, hi, rfl⟩ := h.exists_index
  refine .of_change ?_ (of_index hi)
  show Outcome.mk { m.change (.toIndex i) with memory := m.memory.storeAll i bytes } _
    (m.memory.storeAllEvents i bytes) = _
  rw [m.memory.storeAll_congr hi, m.memory.storeAllEvents_congr hi]
  rfl

theorem drawSprite (h : IndexAlike m m') (w : Word) :
    (m.drawSprite w).Matches IndexAlike (m'.drawSprite w) := by
  obtain ⟨i, hi, rfl⟩ := h.exists_index
  have hb : (m.change (.toIndex i)).memory.block (m.change (.toIndex i)).regs.i w.n =
      m.memory.block m.regs.i w.n := m.memory.block_congr hi w.n
  refine .of_change ?_ (of_index hi)
  unfold Machine.drawSprite
  rw [hb]
  rfl

theorem registersFrom (h : IndexAlike m m') (w : Word) :
    m'.registersFrom w = m.registersFrom w := by
  obtain ⟨i, hi, rfl⟩ := h.exists_index
  unfold Machine.registersFrom
  congr 1
  funext k
  have hr : (m.change (.toIndex i)).memory.read ((m.change (.toIndex i)).regs.i + k.val) =
      m.memory.read (m.regs.i + k.val) := by
    apply Memory.read_congr
    show (i + k.val) % 0x1000 = (m.regs.i + k.val) % 0x1000
    omega
  rw [hr]
  rfl

theorem execute (h : IndexAlike m m') (op : Op) (w : Word) :
    (m.execute op w).Matches IndexAlike (m'.execute op w) := by
  cases hu : op.usesIndex with
  | false =>
    refine h.outcome (f := (·.execute op w)) fun i => execute_change ?_
    refine ⟨?_, fun _ => rfl, fun _ => rfl, fun _ => rfl, op.sensitive_self w _⟩
    intro hu'
    rw [hu] at hu'
    cases hu'
  | true =>
    cases op with
    | ldI | ldFVx =>
      obtain ⟨i, hi, rfl⟩ := h.exists_index
      exact ⟨⟨rfl, rfl⟩, rfl, rfl⟩
    | addIVx =>
      obtain ⟨i, hi, rfl⟩ := h.exists_index
      refine ⟨⟨rfl, ?_⟩, rfl, rfl⟩
      show (i + (m.vx w).toNat) % 0x10000 % 0x1000 =
        (m.regs.i + (m.vx w).toNat) % 0x10000 % 0x1000
      omega
    | drw => exact h.drawSprite w
    | ldBVx =>
      show (m.storeAtIndex (decimalDigits (m.vx w))).Matches IndexAlike
        (m'.storeAtIndex (decimalDigits (m'.vx w)))
      rw [h.vx w]
      exact h.storeAtIndex _
    | ldMemVx =>
      have hs := h.storeAtIndex (m.registersTo w)
      show Outcome.Matches IndexAlike _ { m'.storeAtIndex (m'.registersTo w) with
        machine := (m'.storeAtIndex (m'.registersTo w)).machine.afterTransfer w }
      rw [h.registersTo w]
      exact ⟨hs.machine.afterTransfer w, hs.result, hs.events⟩
    | ldVxMem =>
      have hv : IndexAlike { m with regs.v := m.registersFrom w }
          { m' with regs.v := m'.registersFrom w } := by
        rw [h.registersFrom w]
        exact h.setAll _
      exact .done (hv.afterTransfer w)
    | _ => cases hu

theorem step (h : IndexAlike m m') : m.step.Matches IndexAlike m'.step := by
  obtain ⟨i, hi, rfl⟩ := h.exists_index
  have hawaiting : (m.change (.toIndex i)).awaiting = m.awaiting := rfl
  have hlookup : (m.change (.toIndex i)).table.lookup (m.change (.toIndex i)).fetch =
      m.table.lookup m.fetch := rfl
  unfold Machine.step
  rw [hawaiting, hlookup]
  cases m.awaiting with
  | true => exact ⟨h, rfl, rfl⟩
  | false =>
    cases m.table.lookup m.fetch with
    | none =>
      have hstrict : (m.change (.toIndex i)).strict = m.strict := rfl
      simp only [Bool.false_eq_true, ↓reduceIte, skipUnknown, hstrict]
      cases m.strict with
      | true => exact ⟨h, rfl, rfl⟩
      | false => exact ⟨h.advance.counted, rfl, rfl⟩
    | some instruction =>
      have hx := h.advance.execute instruction.op m.fetch
      have hfetch : (m.change (.toIndex i)).fetch = m.fetch := rfl
      have hpc : (m.change (.toIndex i)).regs.pc = m.regs.pc := rfl
      simp only [Bool.false_eq_true, ↓reduceIte, perform, hfetch, hpc, hx.result, hx.events]
      cases (m.advance.execute instruction.op m.fetch).result with
      | ok drew => exact ⟨hx.machine.counted, rfl, rfl⟩
      | error f =>
        dsimp only
        cases f.isStack with
        | true => exact ⟨hx.machine.jump _, rfl, rfl⟩
        | false => exact ⟨hx.machine, rfl, rfl⟩

theorem reset (h : IndexAlike m m') : m.reset.Matches IndexAlike m'.reset := by
  obtain ⟨i, hi, rfl⟩ := h.exists_index
  have hc : (m.change (.toIndex i)).memory.clear = m.memory.clear := rfl
  unfold Machine.reset
  rw [hc]
  cases m.memory.clear with
  | error f => exact ⟨h, rfl, rfl⟩
  | ok cleared =>
    have hl : cleared.load (m.change (.toIndex i)).program programStart =
        cleared.load m.program programStart := rfl
    simp only [hl]
    cases cleared.load m.program programStart with
    | error f => exact ⟨⟨rfl, hi⟩, rfl, rfl⟩
    | ok memory => exact ⟨⟨rfl, rfl⟩, rfl, rfl⟩

end IndexAlike

theorem indexAlike_lockstep :
    Lockstep (fun _ => True) IndexAlike (fun _ => true) (fun _ => true) where
  kept := by constructor <;> intros <;> trivial
  awaiting m m' h := by
    rw [h.same]
  step m m' _ h _ := h.step
  tick _ m m' h := h.tick
  reset _ m m' h := h.reset
  input m m' op ho h := h.outcome (f := (·.apply op)) fun _ => apply_change rfl ho

/-- **Only the low twelve bits of the index register are observable.** Machines that are equal
but for index registers that agree modulo 4096 answer every operation alike and report the
same, and every operation leaves them so. -/
theorem outcomes_of_indexAlike {m m' : Machine} (h : IndexAlike m m') (ops : List Operation) :
    List.Forall₂ (Outcome.Matches IndexAlike) (m.outcomes ops) (m'.outcomes ops) :=
  indexAlike_lockstep.outcomes trivial h (fun _ _ => rfl) (fun _ _ => rfl)

/-- A program that adds to the index register, stores through it and draws what it stored. -/
theorem outcomes_of_indexAlike_store_and_draw :
    ∃ m, create #[0xF2, 0x1E, 0xF5, 0x55, 0xD0, 0x15] .modern true .closed =
        .ok m ∧
      IndexAlike { m with regs.i := 0x0FFE } { m with regs.i := 0x7FFE } ∧
      List.Forall₂ (Outcome.Matches IndexAlike)
        ({ m with regs.i := 0x0FFE }.outcomes [.run 3, .tick, .keyDown 4, .reset])
        ({ m with regs.i := 0x7FFE }.outcomes [.run 3, .tick, .keyDown 4, .reset]) := by
  obtain ⟨m, hc, _⟩ := create_start #[0xF2, 0x1E, 0xF5, 0x55, 0xD0, 0x15] (by decide) (by decide)
    .modern true .closed
  have h : IndexAlike { m with regs.i := 0x0FFE } { m with regs.i := 0x7FFE } :=
    .of_index (m := { m with regs.i := 0x0FFE }) rfl
  exact ⟨m, hc, h, outcomes_of_indexAlike h _⟩

end Machine

end Chip8

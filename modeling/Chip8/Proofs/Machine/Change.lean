import Chip8.Proofs.Machine.Step

/-!
Parts that few instructions look at: the index register, the timers, the keys, the
dialect; and the strictness, which none does. Whatever is done to those that an
instruction ignores, it does the same and leaves what was done in place
(`execute_change`); so does the step that takes it (`step_change`), and so do keys and
writes into the memory (`apply_change`).
-/

namespace Chip8

/-- Keys and writes into the memory. -/
def Operation.isInput : Operation → Bool
  | .step | .run _ | .tick | .reset => false
  | _ => true

/-- What is done to the parts that few instructions look at. -/
structure Change where
  index : Int → Int
  delay : Int → Int
  sound : Int → Int
  keys : Keypad → Keypad
  dialect : Dialect → Dialect
  strict : Bool → Bool

namespace Change

def nothing : Change := ⟨id, id, id, id, id, id⟩

def timers (delay sound : Int → Int) : Change := { nothing with delay, sound }

def held (keys : Keypad → Keypad) : Change := { nothing with keys }

def toIndex (i : Int) : Change := { nothing with index := fun _ => i }

def toDialect (d : Dialect) : Change := { nothing with dialect := fun _ => d }

def toStrict (b : Bool) : Change := { nothing with strict := fun _ => b }

end Change

namespace Op

def usesIndex : Op → Bool
  | ldI | addIVx | ldFVx | drw | ldBVx | ldMemVx | ldVxMem => true
  | _ => false

def usesDelay : Op → Bool
  | ldVxDt | ldDtVx => true
  | _ => false

def usesSound : Op → Bool
  | ldStVx => true
  | _ => false

def usesKeys : Op → Bool
  | skp | sknp => true
  | _ => false

/-- Whether `op` does something else with `w` in the dialect `d'` than in `d`. -/
def sensitive (op : Op) (w : Word) (d d' : Dialect) : Bool :=
  match op with
  | shr | shl => d.shiftReadsVy != d'.shiftReadsVy && w.x != w.y
  | jpV0 => d.jumpReadsVx != d'.jumpReadsVx && w.x != 0
  | ldMemVx | ldVxMem => d.transferAdvancesIndex != d'.transferAdvancesIndex
  | or | and | xor => d.logicClearsFlag != d'.logicClearsFlag
  | _ => false

theorem sensitive_self (op : Op) (w : Word) (d : Dialect) : op.sensitive w d d = false := by
  cases op <;> simp [sensitive]

/-- What the instruction looks at or sets is left alone by `c`. -/
structure Ignores (op : Op) (w : Word) (d : Dialect) (c : Change) : Prop where
  index : op.usesIndex = true → c.index = id
  delay : op.usesDelay = true → c.delay = id
  sound : op.usesSound = true → c.sound = id
  keys : op.usesKeys = true → c.keys = id
  dialect : op.sensitive w d (c.dialect d) = false

end Op

def Machine.change (m : Machine) (c : Change) : Machine :=
  { m with
    regs.i := c.index m.regs.i, regs.dt := c.delay m.regs.dt, regs.st := c.sound m.regs.st
    keypad := c.keys m.keypad, dialect := c.dialect m.dialect, strict := c.strict m.strict }

namespace Outcome

def change {α : Type} (o : Outcome α) (c : Change) : Outcome α :=
  { o with machine := o.machine.change c }

@[simp] theorem silent_change (o : Outcome Unit) (c : Change) :
    (o.change c).silent = o.silent.change c := rfl

@[simp] theorem answered_change (o : Outcome Bool) (c : Change) :
    (o.change c).answered = o.answered.change c := rfl

end Outcome

namespace Machine

variable {m : Machine} {c : Change}

@[simp] theorem setV_change (m : Machine) (c : Change) (k : Fin 16) (b : UInt8) :
    (m.change c).setV k b = (m.setV k b).change c := rfl

@[simp] theorem setFlag_change (m : Machine) (c : Change) (b : Bool) :
    (m.change c).setFlag b = (m.setFlag b).change c := rfl

@[simp] theorem skipIf_change (m : Machine) (c : Change) (b : Bool) :
    (m.change c).skipIf b = (m.skipIf b).change c := by
  cases b <;> rfl

theorem keyHeld_change (h : c.keys = id) (w : Word) :
    (m.change c).keyHeld w = m.keyHeld w := by
  have hk : (m.change c).keypad = m.keypad := congrFun h _
  unfold keyHeld
  rw [hk]
  rfl

theorem logicFlag_change (h : (c.dialect m.dialect).logicClearsFlag = m.dialect.logicClearsFlag) :
    (m.change c).logicFlag = m.logicFlag.change c := by
  show (if (c.dialect m.dialect).logicClearsFlag then _ else _) = _
  rw [h]
  unfold logicFlag
  split <;> rfl

theorem shiftSource_change {w : Word}
    (h : (c.dialect m.dialect).shiftReadsVy = m.dialect.shiftReadsVy ∨ w.x = w.y) :
    (m.change c).shiftSource w = m.shiftSource w := by
  show (if (c.dialect m.dialect).shiftReadsVy then m.vy w else m.vx w) = _
  unfold shiftSource
  rcases h with h | h
  · rw [h]
  · have hv : m.vy w = m.vx w := by rw [vy, vx, h]
    simp [hv]

theorem afterTransfer_change {w : Word} (hi : c.index = id)
    (h : (c.dialect m.dialect).transferAdvancesIndex = m.dialect.transferAdvancesIndex) :
    (m.change c).afterTransfer w = (m.afterTransfer w).change c := by
  show (if (c.dialect m.dialect).transferAdvancesIndex then _ else _) = _
  rw [h]
  unfold afterTransfer
  split
  · simp [change, hi]
  · rfl

theorem index_change (hi : c.index = id) : (m.change c).regs.i = m.regs.i := congrFun hi _

theorem storeAtIndex_change (hi : c.index = id) (bytes : List UInt8) :
    (m.change c).storeAtIndex bytes = (m.storeAtIndex bytes).change c := by
  unfold storeAtIndex
  rw [index_change hi]
  rfl

theorem drawSprite_change (hi : c.index = id) (w : Word) :
    (m.change c).drawSprite w = (m.drawSprite w).change c := by
  unfold drawSprite
  rw [index_change hi]
  rfl

theorem registersFrom_change (hi : c.index = id) (w : Word) :
    (m.change c).registersFrom w = m.registersFrom w := by
  unfold registersFrom
  rw [index_change hi]
  rfl

/-- **What an instruction ignores makes no difference to it.** -/
theorem execute_change {op : Op} {w : Word} (h : op.Ignores w m.dialect c) :
    (m.change c).execute op w = (m.execute op w).change c := by
  have hd := h.dialect
  cases op with
  | cls | sys | jp | ldVxKk | addVxKk | ldVxVy | addVxVy | sub | subn | ldVxK => rfl
  | seVxKk | sneVxKk | seVxVy | sneVxVy => exact congrArg done (skipIf_change m c _)
  | ret =>
    have hs : (m.change c).stack = m.stack := rfl
    show (m.change c).ret = m.ret.change c
    unfold ret
    rw [hs]
    cases m.stack.pop <;> rfl
  | call =>
    have hs : (m.change c).stack.push (m.change c).regs.pc = m.stack.push m.regs.pc := rfl
    show (m.change c).call w = (m.call w).change c
    unfold call
    rw [hs]
    cases m.stack.push m.regs.pc <;> rfl
  | or | and | xor =>
    simp only [Op.sensitive, bne_eq_false_iff_eq] at hd
    exact congrArg done (logicFlag_change (m := m.setV _ _) hd.symm)
  | shr | shl =>
    simp only [Op.sensitive, Bool.and_eq_false_iff, bne_eq_false_iff_eq] at hd
    simp only [execute, shiftSource_change (hd.imp_left Eq.symm), setV_change, setFlag_change]
    rfl
  | jpV0 =>
    have hregister : (if (m.change c).dialect.jumpReadsVx then w.x else 0) =
        if m.dialect.jumpReadsVx then w.x else 0 := by
      simp only [Op.sensitive, Bool.and_eq_false_iff, bne_eq_false_iff_eq] at hd
      rcases hd with hd | hd
      · show (if (c.dialect m.dialect).jumpReadsVx then w.x else 0) = _
        rw [hd]
      · simp [hd]
    simp only [execute, hregister]
    rfl
  | rnd =>
    have he : (m.change c).entropy.current = m.entropy.current := rfl
    show (m.change c).drawRandom w = (m.drawRandom w).change c
    unfold drawRandom
    rw [he]
    cases m.entropy.current <;> rfl
  | ldI | addIVx | ldFVx =>
    obtain ⟨index, _, _, _, _, _⟩ := c
    obtain rfl : index = id := h.index rfl
    rfl
  | drw => exact drawSprite_change (h.index rfl) w
  | skp | sknp =>
    simp only [execute, keyHeld_change (h.keys rfl), skipIf_change]
    rfl
  | ldVxDt =>
    obtain ⟨_, delay, _, _, _, _⟩ := c
    obtain rfl : delay = id := h.delay rfl
    show (if 0 ≤ m.regs.dt ∧ m.regs.dt < 0x100 then _ else _) =
      Outcome.change (if 0 ≤ m.regs.dt ∧ m.regs.dt < 0x100 then _ else _) _
    split <;> rfl
  | ldDtVx =>
    obtain ⟨_, delay, _, _, _, _⟩ := c
    obtain rfl : delay = id := h.delay rfl
    rfl
  | ldStVx =>
    obtain ⟨_, _, sound, _, _, _⟩ := c
    obtain rfl : sound = id := h.sound rfl
    rfl
  | ldBVx => exact storeAtIndex_change (h.index rfl) _
  | ldMemVx =>
    simp only [Op.sensitive, bne_eq_false_iff_eq] at hd
    have ht := afterTransfer_change (m := (m.storeAtIndex (m.registersTo w)).machine) (w := w)
      (h.index rfl) hd.symm
    show { (m.change c).storeAtIndex (m.registersTo w) with
      machine := ((m.change c).storeAtIndex (m.registersTo w)).machine.afterTransfer w } = _
    rw [storeAtIndex_change (h.index rfl)]
    exact congrArg (Outcome.mk · (.ok false) (m.storeAtIndex (m.registersTo w)).events) ht
  | ldVxMem =>
    simp only [Op.sensitive, bne_eq_false_iff_eq] at hd
    have ht := afterTransfer_change (m := { m with regs.v := m.registersFrom w }) (w := w)
      (h.index rfl) hd.symm
    show done ({ m.change c with regs.v := (m.change c).registersFrom w }.afterTransfer w) = _
    rw [registersFrom_change (h.index rfl)]
    exact congrArg done ht

/-- **What the next instruction ignores makes no difference to the step that takes it**, nor
does strictness where there is an instruction. -/
theorem step_change (hs : m.awaiting = false → m.table.lookup m.fetch = none →
      c.strict m.strict = m.strict)
    (h : ∀ i, m.awaiting = false → m.table.lookup m.fetch = some i →
      i.op.Ignores m.fetch m.dialect c) : (m.change c).step = m.step.change c := by
  have hawaiting : (m.change c).awaiting = m.awaiting := rfl
  have hlookup : (m.change c).table.lookup (m.change c).fetch = m.table.lookup m.fetch := rfl
  unfold step
  rw [hawaiting, hlookup]
  cases ha : m.awaiting with
  | true => rfl
  | false =>
    cases hl : m.table.lookup m.fetch with
    | none =>
      have hstrict : (m.change c).strict = m.strict := hs ha hl
      simp only [Bool.false_eq_true, ↓reduceIte, skipUnknown, hstrict]
      cases m.strict <;> rfl
    | some i =>
      have hx : (m.change c).advance.execute i.op (m.change c).fetch =
          (m.advance.execute i.op m.fetch).change c := execute_change (m := m.advance) (h i ha hl)
      simp only [Bool.false_eq_true, ↓reduceIte, perform, hx]
      cases hr : (m.advance.execute i.op m.fetch).result with
      | ok drew => simp only [Outcome.change, hr]; rfl
      | error f => cases hf : f.isStack <;> simp only [Outcome.change, hr, hf] <;> rfl

/-! ## Keys and writes -/

@[simp] theorem keyEdge_change (m : Machine) (c : Change) (i : Int) (pressed : Bool) :
    (m.change c).keyEdge i pressed = (m.keyEdge i pressed).change c := by
  have ha : (m.change c).awaiting = m.awaiting := rfl
  unfold keyEdge
  rw [ha]
  cases hw : pressed && m.awaiting <;> rfl

theorem setKey_change (hk : c.keys = id) (i : Fin 16) (pressed : Bool) :
    (m.change c).setKey i pressed = (m.setKey i pressed).change c := by
  have hset : { m.change c with keypad := (m.change c).keypad.set i pressed } =
      { m with keypad := m.keypad.set i pressed }.change c := by
    simp only [change, hk, id]
  simp only [setKey, hset, keyEdge_change, Outcome.change]

@[simp] theorem withMemory_change (m : Machine) (c : Change) (e : Except Fault Memory) :
    (m.change c).withMemory e = (m.withMemory e).change c := by
  cases e <;> rfl

theorem apply_change (hk : c.keys = id) {op : Operation} (ho : op.isInput = true) :
    (m.change c).apply op = (m.apply op).change c := by
  have hkey (i : Int) (pressed : Bool) :
      (m.change c).key i pressed = (m.key i pressed).change c := by
    unfold key
    cases Keypad.index i with
    | ok i => exact setKey_change hk i pressed
    | error f => rfl
  have hnamed (name : String) (pressed : Bool) :
      (m.change c).namedKey name pressed = (m.namedKey name pressed).change c := by
    unfold namedKey
    cases Keypad.ofName? name with
    | some i =>
      simp only [setKey_change hk]
      rfl
    | none => rfl
  cases op with
  | keyDown i => exact (congrArg Outcome.silent (hkey i true)).trans (Outcome.silent_change _ c)
  | keyUp i => exact (congrArg Outcome.silent (hkey i false)).trans (Outcome.silent_change _ c)
  | press name =>
    exact (congrArg Outcome.answered (hnamed name true)).trans (Outcome.answered_change _ c)
  | release name =>
    exact (congrArg Outcome.answered (hnamed name false)).trans (Outcome.answered_change _ c)
  | store a value => rfl
  | load image start =>
    exact (congrArg Outcome.silent (withMemory_change m c _)).trans (Outcome.silent_change _ c)
  | clearProgram =>
    exact (congrArg Outcome.silent (withMemory_change m c _)).trans (Outcome.silent_change _ c)
  | _ => cases ho

/-! ## Reset -/

/-- A reset leaves the dialect and the strictness alone. -/
theorem reset_change (m : Machine)
    (hc : c = { Change.nothing with dialect := c.dialect, strict := c.strict }) :
    (m.change c).reset = m.reset.change c := by
  have hclear : (m.change c).memory.clear = m.memory.clear := rfl
  rw [hc] at hclear ⊢
  unfold reset
  rw [hclear]
  cases m.memory.clear with
  | error f => rfl
  | ok cleared =>
    have hload : cleared.load (m.change c).program programStart =
        cleared.load m.program programStart := rfl
    rw [hc] at hload
    simp only [hload]
    cases cleared.load m.program programStart <;> rfl

end Machine

end Chip8

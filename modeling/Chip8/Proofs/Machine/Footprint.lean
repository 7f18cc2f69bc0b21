import Chip8.Proofs.Machine.Fault

/-!
Footprints. A machine is made of parts (`Part`), and each word says which of
them its instruction may change (`Word.touches`); a step leaves all others alone
(`step_footprint`). The random source is drawn from by `Cxkk`, once, and by no
other word.
-/

namespace Chip8

inductive Part where
  | memory | screen | stack | keys
  | index | counter | delay | sound
  | register (k : Fin 16)
  | wait
  | random
  | count
  | settings
  deriving DecidableEq

/-- What two machines have in a part is the same. -/
def Part.Same (m m' : Machine) : Part → Prop
  | memory => m'.memory = m.memory
  | screen => m'.screen = m.screen
  | stack => m'.stack = m.stack
  | keys => m'.keypad = m.keypad
  | index => m'.regs.i = m.regs.i
  | counter => m'.regs.pc = m.regs.pc
  | delay => m'.regs.dt = m.regs.dt
  | sound => m'.regs.st = m.regs.st
  | register k => m'.regs.v.get k = m.regs.v.get k
  | wait => (m'.awaiting, m'.keyRegister) = (m.awaiting, m.keyRegister)
  | random => m'.entropy = m.entropy
  | count => m'.count = m.count
  | settings => (m'.dialect, m'.strict, m'.table, m'.program) =
      (m.dialect, m.strict, m.table, m.program)

namespace Word

/-- The words `Fxkk`. -/
def isF (w : Word) (kk : UInt8) : Bool := w.group = 0xF && w.kk = kk

/-- The words `8xyn` where `n` is listed. -/
def is8 (w : Word) (ns : List (Fin 16)) : Bool := w.group = 8 && ns.any fun n => w.n = n.val

def writesVx (w : Word) : Bool :=
  w.group = 6 || w.group = 7 || w.is8 [0, 1, 2, 3, 4, 5, 6, 7, 0xE] || w.group = 0xC || w.isF 0x07

def writesFlag (w : Word) (d : Dialect) : Bool :=
  w.is8 [4, 5, 6, 7, 0xE] || w.group = 0xD || d.logicClearsFlag && w.is8 [1, 2, 3]

/-- Whether the instruction of a word may change a part. -/
def touches (w : Word) (d : Dialect) : Part → Bool
  | .memory => w.isF 0x33 || w.isF 0x55
  | .screen => w = 0x00E0 || w.group = 0xD
  | .stack => w.group = 2 || w = 0x00EE
  | .index => w.group = 0xA || w.isF 0x1E || w.isF 0x29 ||
      d.transferAdvancesIndex && (w.isF 0x55 || w.isF 0x65)
  | .delay => w.isF 0x15
  | .sound => w.isF 0x18
  | .register k => k = w.x && w.writesVx || k ≤ w.x && w.isF 0x65 || k = 0xF && w.writesFlag d
  | .wait => w.isF 0x0A
  | .random => w.group = 0xC
  | .counter | .count => true
  | .keys | .settings => false

end Word

namespace Machine

/-- `m` with one part taken from `source`. -/
def put (m source : Machine) : Part → Machine
  | .memory => { m with memory := source.memory }
  | .screen => { m with screen := source.screen }
  | .stack => { m with stack := source.stack }
  | .keys => { m with keypad := source.keypad }
  | .index => { m with regs.i := source.regs.i }
  | .counter => { m with regs.pc := source.regs.pc }
  | .delay => { m with regs.dt := source.regs.dt }
  | .sound => { m with regs.st := source.regs.st }
  | .register k => m.setV k (source.regs.v.get k)
  | .wait => { m with awaiting := source.awaiting, keyRegister := source.keyRegister }
  | .random => { m with entropy := source.entropy }
  | .count => { m with count := source.count }
  | .settings => { m with
      dialect := source.dialect, strict := source.strict
      table := source.table, program := source.program }

theorem put_same (m source : Machine) {p q : Part} (h : q ≠ p) : q.Same m (m.put source p) := by
  cases p with
  | register k =>
    cases q with
    | register j =>
      show (m.setV k _).regs.v.get j = _
      rw [setV_get, if_neg]
      rintro rfl
      exact h rfl
    | _ => rfl
  | _ => cases q <;> first | rfl | exact absurd rfl h

/-- Only parts in `S` differ. -/
def Confined (S : Part → Bool) (m m' : Machine) : Prop := ∀ p, S p = false → p.Same m m'

namespace Confined

variable {S : Part → Bool} {m m' m'' : Machine}

theorem refl (S : Part → Bool) (m : Machine) : Confined S m m := by
  intro p _
  cases p <;> rfl

theorem trans (h : Confined S m m') (h' : Confined S m' m'') : Confined S m m'' := by
  intro p hp
  have e := h p hp
  have e' := h' p hp
  cases p <;> exact Eq.trans e' e

/-- One part more is set. -/
theorem set (h : Confined S m m') {p : Part} (hp : S p = true) (hs : m'' = m'.put m'' p) :
    Confined S m m'' := by
  refine h.trans ?_
  intro q hq
  rw [hs]
  apply put_same
  rintro rfl
  rw [hp] at hq
  cases hq

theorem setV (h : Confined S m m') {k : Fin 16} (hk : S (.register k) = true) (b : UInt8) :
    Confined S m (m'.setV k b) := by
  refine h.set hk ?_
  simp [put]

theorem setFlag (h : Confined S m m') (hk : S (.register 15) = true) (b : Bool) :
    Confined S m (m'.setFlag b) := h.setV hk _

theorem jump (h : Confined S m m') (hc : S .counter = true) (a : Int) :
    Confined S m (m'.jump a) := h.set hc rfl

theorem advance (h : Confined S m m') (hc : S .counter = true) : Confined S m m'.advance :=
  h.jump hc _

theorem skipIf (h : Confined S m m') (hc : S .counter = true) (b : Bool) :
    Confined S m (m'.skipIf b) := by
  cases b with
  | false => exact h
  | true => exact h.advance hc

theorem logicFlag (h : Confined S m m')
    (hk : m'.dialect.logicClearsFlag = true → S (.register 15) = true) :
    Confined S m m'.logicFlag := by
  unfold Machine.logicFlag
  split
  · exact h.setFlag (hk ‹_›) false
  · exact h

theorem afterTransfer (h : Confined S m m')
    (hi : m'.dialect.transferAdvancesIndex = true → S .index = true) (w : Word) :
    Confined S m (m'.afterTransfer w) := by
  unfold Machine.afterTransfer
  split
  · exact h.set (hi ‹_›) rfl
  · exact h

end Confined

@[simp] theorem registersFrom_get (m : Machine) (w : Word) (k : Fin 16) :
    (m.registersFrom w).get k =
      if k ≤ w.x then m.memory.read (m.regs.i + k.val) else m.regs.v.get k :=
  Vector.getElem_ofFn k.isLt

/-- An instruction changes what its words touch. -/
theorem execute_confined (m : Machine) {op : Op} {w : Word} (hf : op.shape.Fits w) :
    Confined (w.touches m.dialect) m (m.execute op w).machine := by
  have start := Confined.refl (w.touches m.dialect) m
  have hvx : w.writesVx = true → w.touches m.dialect (.register w.x) = true := by
    intro h
    simp [Word.touches, h]
  have hflag : w.writesFlag m.dialect = true → w.touches m.dialect (.register 15) = true := by
    intro h
    simp [Word.touches, h]
  cases op
  all_goals simp only [Op.shape, Shape.Fits] at hf
  case sys => exact start
  case jp | jpV0 => exact start.jump rfl _
  case seVxKk | sneVxKk | seVxVy | sneVxVy | skp | sknp => exact start.skipIf rfl _
  case cls => exact start.set (p := .screen) (by simp [Word.touches, hf]) rfl
  case ret =>
    show Confined _ m m.ret.machine
    unfold ret
    cases m.stack.pop with
    | error f => exact start
    | ok p =>
      have hs : Confined (w.touches m.dialect) m { m with stack := p.2 } :=
        start.set (p := .stack) (by simp [Word.touches, hf]) rfl
      exact hs.jump rfl _
  case call =>
    show Confined _ m (m.call w).machine
    unfold call
    cases m.stack.push m.regs.pc with
    | error f => exact start
    | ok stack =>
      have hs : Confined (w.touches m.dialect) m { m with stack } :=
        start.set (p := .stack) (by simp [Word.touches, hf]) rfl
      exact hs.jump rfl _
  case ldVxKk | addVxKk | ldVxVy =>
    exact start.setV (hvx (by simp [Word.writesVx, Word.is8, hf])) _
  case or | and | xor =>
    exact (start.setV (hvx (by simp [Word.writesVx, Word.is8, hf])) _).logicFlag fun hd =>
      hflag (by
        replace hd : m.dialect.logicClearsFlag = true := hd
        simp [Word.writesFlag, Word.is8, hf, hd])
  case addVxVy | sub | subn | shr | shl =>
    exact (start.setV (hvx (by simp [Word.writesVx, Word.is8, hf])) _).setFlag
      (hflag (by simp [Word.writesFlag, Word.is8, hf])) _
  case rnd =>
    have hn : Confined (w.touches m.dialect) m { m with entropy := m.entropy.next } :=
      start.set (p := .random) (by simp [Word.touches, hf]) rfl
    have hx := hvx (by simp [Word.writesVx, hf])
    show Confined _ m (m.drawRandom w).machine
    unfold drawRandom
    cases m.entropy.current with
    | value n => exact hn.setV hx _
    | unavailable => exact hn.setV hx _
    | broken => exact hn
  case drw =>
    have hs : ∀ screen, Confined (w.touches m.dialect) m { m with screen } := fun _ =>
      start.set (p := .screen) (by simp [Word.touches, hf]) rfl
    exact (hs _).setFlag (hflag (by simp [Word.writesFlag, hf])) _
  case ldVxDt =>
    show Confined _ m (m.readDelay w).machine
    unfold readDelay
    split
    · exact start.setV (hvx (by simp [Word.writesVx, Word.isF, hf])) _
    · exact start
  case ldI | addIVx | ldFVx =>
    exact start.set (p := .index) (by simp [Word.touches, Word.isF, hf]) rfl
  case ldVxK => exact start.set (p := .wait) (by simp [Word.touches, Word.isF, hf]) rfl
  case ldDtVx => exact start.set (p := .delay) (by simp [Word.touches, Word.isF, hf]) rfl
  case ldStVx => exact start.set (p := .sound) (by simp [Word.touches, Word.isF, hf]) rfl
  case ldBVx => exact start.set (p := .memory) (by simp [Word.touches, Word.isF, hf]) rfl
  case ldMemVx =>
    have hs : Confined (w.touches m.dialect) m (m.storeAtIndex (m.registersTo w)).machine :=
      start.set (p := .memory) (by simp [Word.touches, Word.isF, hf]) rfl
    refine hs.afterTransfer (fun hd => ?_) w
    replace hd : m.dialect.transferAdvancesIndex = true := hd
    simp [Word.touches, Word.isF, hf, hd]
  case ldVxMem =>
    have hs : Confined (w.touches m.dialect) m { m with regs.v := m.registersFrom w } := by
      intro p hp
      cases p with
      | register k =>
        have hk : ¬k ≤ w.x := by
          intro hk
          simp [Word.touches, Word.isF, hf, hk] at hp
        show (m.registersFrom w).get k = _
        rw [registersFrom_get, if_neg hk]
      | _ => rfl
    refine hs.afterTransfer (fun hd => ?_) w
    replace hd : m.dialect.transferAdvancesIndex = true := hd
    simp [Word.touches, Word.isF, hf, hd]

theorem InRange.step_confined {m : Machine} (h : m.InRange) :
    Confined (m.fetch.touches m.dialect) m m.step.machine := by
  have start := Confined.refl (m.fetch.touches m.dialect) m
  have hs := step_steps m
  generalize m.step.machine = m', m.step.result = r at hs
  cases hs with
  | waiting | illegal | undone => exact start
  | skipped => exact (start.advance rfl).set (p := .count) rfl rfl
  | executed _ hl _ =>
    have he := execute_confined m.advance (Standard.fits_of_op? (h.op?_eq hl))
    exact ((start.advance rfl).trans he).set (p := .count) rfl rfl
  | broken _ hl _ _ =>
    exact (start.advance rfl).trans
      (execute_confined m.advance (Standard.fits_of_op? (h.op?_eq hl)))

/-- A step that succeeds is its instruction, behind the fetch and counted. -/
theorem InRange.step_of_op {m : Machine} (h : m.InRange) (ha : m.awaiting = false) {op : Op}
    (ho : Standard.op? m.fetch = some op) {drew : Bool} (hr : m.step.result = .ok drew) :
    m.step.machine = (m.advance.execute op m.fetch).machine.counted ∧
      (m.advance.execute op m.fetch).result = .ok drew := by
  obtain ⟨i, hl, rfl⟩ := h.lookup_of_op? ho
  have hs := step_steps m
  rw [hr] at hs
  generalize m.step.machine = m' at hs
  cases hs with
  | waiting hw =>
    rw [ha] at hw
    cases hw
  | skipped _ hn =>
    rw [hl] at hn
    cases hn
  | executed _ hl' he =>
    rw [hl] at hl'
    cases hl'
    exact ⟨rfl, he⟩

/-- A draw is masked by the low byte of the word, and is zero from a source that gives
nothing. -/
theorem InRange.step_of_random {m : Machine} (h : m.InRange) (ha : m.awaiting = false)
    (hw : m.fetch.group = 0xC) {drew : Bool} (hr : m.step.result = .ok drew) :
    m.step.machine.entropy = m.entropy.next ∧
      m.step.machine.regs.v.get m.fetch.x &&& ~~~m.fetch.kk = 0 ∧
      (∀ reason, m.entropy.current = .unavailable reason →
        m.step.machine.regs.v.get m.fetch.x = 0) := by
  have ho : Standard.op? m.fetch = some .rnd := (Standard.op?_eq_iff_fits (by decide) _).mpr hw
  obtain ⟨hm, he⟩ := h.step_of_op ha ho hr
  replace he : (m.advance.drawRandom m.fetch).result = .ok drew := he
  rw [hm]
  show (m.advance.drawRandom m.fetch).machine.entropy = _ ∧
    (m.advance.drawRandom m.fetch).machine.regs.v.get _ &&& _ = 0 ∧
    (∀ reason, _ → (m.advance.drawRandom m.fetch).machine.regs.v.get _ = 0)
  have hcur : m.advance.entropy.current = m.entropy.current := rfl
  unfold drawRandom at he ⊢
  rw [hcur] at he ⊢
  cases hd : m.entropy.current with
  | value n =>
    refine ⟨rfl, ?_, by simp⟩
    simp only [done_machine, setV_get, ↓reduceIte]
    rw [UInt8.and_assoc, UInt8.and_not_self, UInt8.and_zero]
  | unavailable =>
    refine ⟨rfl, ?_, fun _ _ => ?_⟩
    · simp
    · simp
  | broken =>
    rw [hd] at he
    cases he

/-- **Footprints.** A step that succeeds changes no part but those that its word touches.
`Cxkk` draws once, and its result has no bit outside `kk` and is zero if the source
gives nothing. A word without an instruction moves the program counter and is counted. -/
theorem step_footprint {m : Machine} (h : m.WellFormed) (ha : m.awaiting = false) {drew : Bool}
    (hr : m.step.result = .ok drew) :
    (∀ p, m.fetch.touches m.dialect p = false → p.Same m m.step.machine) ∧
    (m.fetch.group = 0xC →
      m.step.machine.entropy = m.entropy.next ∧
      m.step.machine.regs.v.get m.fetch.x &&& ~~~m.fetch.kk = 0 ∧
      (∀ reason, m.entropy.current = .unavailable reason →
        m.step.machine.regs.v.get m.fetch.x = 0)) ∧
    ((∀ i ∈ Standard.instructions, i.matchesWord m.fetch = false) →
      m.step.machine =
        { m with regs.pc := (m.regs.pc + 2) % 0x1000, count := m.count + 1 }) := by
  have hm := (wellFormed_iff m).mp h
  refine ⟨hm.step_confined, fun hw => hm.step_of_random ha hw hr, ?_⟩
  intro hn
  have hl := hm.lookup_eq_none_iff.mpr hn
  have hs := step_steps m
  rw [hr] at hs
  generalize m.step.machine = m' at hs
  cases hs with
  | waiting hw =>
    rw [ha] at hw
    cases hw
  | skipped => rfl
  | executed _ hl' _ =>
    rw [hl] at hl'
    cases hl'

/-- A program that begins with a draw into `V3`. -/
theorem step_footprint_first_draw :
    ∃ m, create #[0xC3, 0x0F] .modern false ⟨fun _ => .value (-1), 0⟩ = .ok m ∧
      m.WellFormed ∧ m.awaiting = false ∧ m.fetch.group = 0xC ∧ m.step.result = .ok false ∧
      m.step.machine.memory = m.memory ∧
      m.step.machine.regs.v.get 4 = m.regs.v.get 4 ∧
      m.step.machine.regs.v.get 3 &&& 0xF0 = 0 ∧
      m.step.machine.entropy.position = 1 := by
  obtain ⟨m, hc, hm, he, ha, _, _, hf⟩ := create_start #[0xC3, 0x0F] (by decide) (by decide)
    .modern false ⟨fun _ => .value (-1), 0⟩
  have hw : m.fetch.group = 0xC := by
    rw [hf]
    decide
  have hx : m.fetch.x = 3 ∧ ~~~m.fetch.kk = 0xF0 := by
    rw [hf]
    decide
  obtain ⟨i, hl, ho⟩ :=
    hm.lookup_of_op? ((Standard.op?_eq_iff_fits (by decide) _).mpr hw : _ = some Op.rnd)
  have hcur : m.entropy.current = .value (-1) := by
    rw [he]
    rfl
  have hr : m.step.result = .ok false := by
    simp [step, ha, hl, perform, ho, execute, drawRandom, hcur]
  have hwell := (wellFormed_iff m).mpr hm
  obtain ⟨hsame, hrandom, _⟩ := step_footprint hwell ha hr
  obtain ⟨hnext, hbits, _⟩ := hrandom hw
  rw [hx.1, hx.2] at hbits
  refine ⟨m, hc, hwell, ha, hw, hr, ?_, ?_, hbits, ?_⟩
  · exact hsame .memory (by rw [hf]; rfl)
  · exact hsame (.register 4) (by rw [hf]; rfl)
  · rw [hnext, he]
    rfl

end Machine

end Chip8

import Chip8.Proofs.Machine.Footprint
import Chip8.Proofs.Machine.Lockstep

/-!
How far the switches of a dialect reach. Each is about a few words, and what it is set to
shows in those alone: machines that are equal but for their dialects cannot be told apart
while no word is executed that is about a switch in which these differ
(`outcomes_of_insensitive`).
-/

namespace Chip8

/-- The words about a switch in which the dialects differ: `8xy6` and `8xyE` of two registers,
`Bnnn` with a first digit, `Fx55` and `Fx65`, and `8xy1` to `8xy3`. -/
def Word.sensitive (w : Word) (d d' : Dialect) : Bool :=
  d.shiftReadsVy != d'.shiftReadsVy && w.is8 [6, 0xE] && w.x != w.y ||
  d.jumpReadsVx != d'.jumpReadsVx && w.group = 0xB && w.x != 0 ||
  d.transferAdvancesIndex != d'.transferAdvancesIndex && (w.isF 0x55 || w.isF 0x65) ||
  d.logicClearsFlag != d'.logicClearsFlag && w.is8 [1, 2, 3]

namespace Op

variable {op : Op} {w : Word} {d d' : Dialect}

theorem sensitive_of_word (hf : op.shape.Fits w) (hw : w.sensitive d d' = false) :
    op.sensitive w d d' = false := by
  simp only [Word.sensitive, Bool.or_eq_false_iff] at hw
  obtain ⟨⟨⟨hshift, hjump⟩, htransfer⟩, hlogic⟩ := hw
  cases op with
  | shr | shl =>
    obtain ⟨hg, hn⟩ := hf
    simpa [sensitive, Word.is8, hg, hn] using hshift
  | jpV0 =>
    have hg : w.group = 0xB := hf
    simpa [sensitive, hg] using hjump
  | ldMemVx | ldVxMem =>
    obtain ⟨hg, hk⟩ := hf
    simpa [sensitive, Word.isF, hg, hk] using htransfer
  | or | and | xor =>
    obtain ⟨hg, hn⟩ := hf
    simpa [sensitive, Word.is8, hg, hn] using hlogic
  | _ => rfl

/-- No instruction that can fail is about a dialect. -/
theorem sensitive_of_execute_error {m : Machine} {f : Fault}
    (h : (m.execute op w).result = .error f) (d d' : Dialect) : op.sensitive w d d' = false := by
  rcases (Machine.execute_error_iff _ _ _ _).mp h with ⟨rfl, _⟩ | ⟨rfl, _⟩ | ⟨rfl, _⟩ | ⟨rfl, _⟩
  all_goals rfl

theorem ignores_dialect (h : op.sensitive w d d' = false) : op.Ignores w d (.toDialect d') :=
  ⟨fun _ => rfl, fun _ => rfl, fun _ => rfl, fun _ => rfl, h⟩

end Op

namespace Machine

variable {m : Machine}

theorem step_dialect (ht : m.table = Standard.table) (d : Dialect)
    (hp : ∀ w, .executed w ∈ m.stepMoments → w.sensitive m.dialect d = false) :
    (m.change (.toDialect d)).step = m.step.change (.toDialect d) := by
  apply step_change fun _ _ => rfl
  intro i ha hl
  apply Op.ignores_dialect
  have ho : Standard.op? m.fetch = some i.op := by
    rw [Standard.op?, ← ht, hl]
    rfl
  cases hr : (m.advance.execute i.op m.fetch).result with
  | error f => exact Op.sensitive_of_execute_error hr _ _
  | ok drew =>
    have hx : m.step.result = .ok drew := by simp [step, ha, hl, perform, hr]
    exact Op.sensitive_of_word (Standard.fits_of_op? ho)
      (hp m.fetch (by simp [stepMoments, ha, hx]))

theorem dialect_lockstep (d d' : Dialect) :
    Lockstep (fun m => m.table = Standard.table ∧ m.dialect = d)
      (fun m m' => m' = m.change (.toDialect d')) (fun w => !w.sensitive d d')
      (fun _ => true) where
  kept := kept_of_settings fun s => s.table = Standard.table ∧ s.dialect = d
  awaiting := by
    rintro m m' rfl
    rfl
  step := by
    rintro m m' ⟨ht, rfl⟩ rfl hp
    exact .of_change (step_dialect ht d' (by simpa using hp)) rfl
  tick := by
    rintro - m m' rfl
    rfl
  reset := by
    rintro - m m' rfl
    exact .of_change (m.reset_change rfl) rfl
  input := by
    rintro m m' op ho rfl
    exact .of_change (apply_change rfl ho) rfl

/-- **A dialect shows only in the words that are about it.** As long as no word executed is
about a switch in which two dialects differ, a machine of one and the same machine of the
other answer every operation alike, report the same and stay equal but for the dialect. -/
theorem outcomes_of_insensitive (ht : m.table = Standard.table) (d : Dialect)
    (ops : List Operation)
    (hp : ∀ w, .executed w ∈ m.history ops → w.sensitive m.dialect d = false) :
    { m with dialect := d }.outcomes ops =
      (m.outcomes ops).map fun o => { o with machine := { o.machine with dialect := d } } :=
  Outcome.Matches.eq_map_change <|
    (dialect_lockstep m.dialect d).outcomes ⟨ht, rfl⟩ rfl (fun _ _ => rfl) (by simpa using hp)

/-- A shift within one register and a jump over `V0`, which are the same in every dialect. -/
theorem outcomes_of_insensitive_shift_and_jump :
    ∃ m, create #[0x81, 0x16, 0xB0, 0x00] .modern false .closed = .ok m ∧
      m.table = Standard.table ∧
      (∀ w, .executed w ∈ m.history [.step, .step, .tick] →
        w.sensitive m.dialect ⟨true, true, true, true⟩ = false) ∧
      { m with dialect := ⟨true, true, true, true⟩ }.outcomes [.step, .step, .tick] =
        (m.outcomes [.step, .step, .tick]).map fun o =>
          { o with machine := { o.machine with dialect := ⟨true, true, true, true⟩ } } := by
  have hsize : (#[0x81, 0x16, 0xB0, 0x00] : Array UInt8).size ≤ programCapacity := by decide
  obtain ⟨memory, hl, hc⟩ := create_eq #[0x81, 0x16, 0xB0, 0x00] hsize .modern false
    .closed
  have hr := powerOn_inRange hsize hl .modern false .closed
  generalize hm : powerOn memory _ .modern false .closed = m at hc hr
  have hdialect : m.dialect = .modern := by rw [← hm]; rfl
  have hawaiting : m.awaiting = false := by rw [← hm]; rfl
  have hshift : m.fetch = 0x8116 := by
    rw [← hm]
    exact readWord_of_load hl (k := 0) (by decide) hsize
  obtain ⟨hresult, hshifted⟩ := hr.step_of_fits hawaiting .shr (by decide)
    (by rw [hshift]; exact ⟨rfl, rfl⟩) rfl
  have hawaiting' : m.step.machine.awaiting = false := by
    rw [hshifted, ← hm]
    rfl
  have hjump : m.step.machine.fetch = 0xB000 := by
    rw [hshifted, ← hm]
    exact readWord_of_load hl (k := 2) (by decide) hsize
  obtain ⟨hresult', -⟩ := hr.step.step_of_fits hawaiting' .jpV0 (by decide)
    (by rw [hjump]; rfl) rfl
  have hp : ∀ w, .executed w ∈ m.history [.step, .step, .tick] →
      w.sensitive m.dialect ⟨true, true, true, true⟩ = false := by
    intro w hw
    have hw : w = 0x8116 ∨ w = 0xB000 := by
      simpa [history, moments, apply, Outcome.answered, stepMoments, hawaiting, hawaiting',
        hresult, hresult', hshift, hjump] using hw
    rw [hdialect]
    rcases hw with rfl | rfl <;> decide
  exact ⟨m, hc, hr.table, hp, outcomes_of_insensitive hr.table _ _ hp⟩

end Machine

end Chip8

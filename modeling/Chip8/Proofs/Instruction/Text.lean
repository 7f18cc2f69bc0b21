import Chip8.Proofs.Instruction.Registration

/-!
The text of a word. A template whose fields are plain hexadecimal numbers can be filled
for every word, however little memory there is (`fill_of_isHex`); the standard operands are all
of that kind, so every word has a text under a table of standard instructions
(`Table.OfStandard.hasTexts`).
-/

namespace Chip8

namespace Text.Form

/-- Capital hexadecimal digits with a width for which there is memory, and nothing else asked
for. -/
def isHex (f : Form) : Bool :=
  f.letter = .char 'X' && f.places.isNone && !f.unsigned && f.width ≤ 0x2000

theorem whole_of_isHex {f : Form} (h : f.isHex = true) (kind : FormKind) (n : Nat) :
    ∃ cs, f.whole kind n = .ok cs ∧ ∀ room : Room, ¬room.bytes < f.width := by
  simp only [isHex, Bool.and_eq_true, decide_eq_true_eq, Bool.not_eq_true',
    Option.isNone_iff_eq_none] at h
  obtain ⟨⟨⟨hletter, hplaces⟩, hunsigned⟩, hwidth⟩ := h
  refine ⟨f.based 4 ['0', 'X'] (upperDigits 16 n), ?_, fun room => ?_⟩
  · simp [whole, integer, hletter, hplaces, hunsigned]
  · have hleast := room.least
    omega

end Text.Form

namespace Template

open Text (Code codes ofCodes)

def fieldNames : List String := ["nnn", "kk", "x", "y", "n"]

/-- A field of the word under its bare name, as a plain hexadecimal number. -/
def Hole.isHex (h : Hole) : Bool :=
  h.conversion.isNone && !h.form.contains openBrace &&
    (Text.Form.read .number h.form).toOption.any Text.Form.isHex &&
    (h.name.takeWhile fun c => c ≠ .char '.' && c ≠ .char '[') = h.name &&
    (position? h.name).toOption = some none && fieldNames.contains (ofCodes h.name)

def Piece.isHex : Piece → Bool
  | .code _ => true
  | .field h => h.isHex
  | .broken _ => false

theorem field?_of_mem {name : String} (h : name ∈ fieldNames) (w : Word) :
    ∃ n, field? w name = some n := by
  simp only [fieldNames, List.mem_cons, List.not_mem_nil, or_false] at h
  obtain rfl | rfl | rfl | rfl | rfl := h <;> exact ⟨_, rfl⟩

theorem toOption_eq_some {ε α : Type} {r : Except ε α} {a : α} (h : r.toOption = some a) :
    r = .ok a := by
  cases r with
  | error e => cases h
  | ok b => exact congrArg Except.ok (Option.some.inj h)

/-- What a piece of a template gives for a word: a code itself, a field its number in its form. -/
inductive Piece.Shows (w : Word) : Piece → Thunk (List Code) → Prop
  | code (c : Code) : Shows w (.code c) (Thunk.pure [c])
  | field {h : Hole} {f : Text.Form} {n : Nat} {cs : Thunk (List Code)} :
      Text.Form.read .number h.form = .ok f → field? w (ofCodes h.name) = some n →
      f.whole .number n = .ok cs → Shows w (.field h) cs

theorem fillHole_of_isHex {h : Hole} (hh : h.isHex = true) (w : Word) :
    ∃ cs, (∀ room expand, fillHole room expand w h = .ok cs) ∧ Piece.Shows w (.field h) cs := by
  simp only [Hole.isHex, Bool.and_eq_true, decide_eq_true_eq, Bool.not_eq_true',
    Option.isNone_iff_eq_none, List.contains_iff_mem, Option.any_eq_true] at hh
  obtain ⟨⟨⟨⟨⟨hconversion, hflat⟩, f, hread, hhex⟩, hbare⟩, hposition⟩, hknown⟩ := hh
  obtain ⟨n, hn⟩ := field?_of_mem hknown w
  obtain ⟨cs, hcs, hwidth⟩ := Text.Form.whole_of_isHex hhex .number n
  have hvalue : fieldValue w h.name = .ok (.number n) := by
    unfold fieldValue
    dsimp only
    rw [hbare, toOption_eq_some hposition]
    simp only [hn, List.drop_length]
    rfl
  refine ⟨cs, fun room expand => ?_, .field (toOption_eq_some hread) hn hcs⟩
  unfold fillHole
  rw [hvalue, hconversion, hflat]
  show laid room (.number n) h.form = .ok cs
  simp only [laid, formed, toOption_eq_some hread, hcs, if_neg (hwidth room)]

theorem fillPieces_of_isHex {ps : List Piece} (h : ∀ p ∈ ps, p.isHex = true) (w : Word) :
    ∃ css, (∀ room expand, fillPieces room expand w ps = .ok css) ∧
      List.Forall₂ (Piece.Shows w) ps css := by
  induction ps with
  | nil => exact ⟨_, fun _ _ => rfl, .nil⟩
  | cons p ps ih =>
    obtain ⟨rest, hrest, hshows⟩ := ih fun q hq => h q (List.mem_cons_of_mem _ hq)
    have hp := h p List.mem_cons_self
    cases p with
    | code c =>
      refine ⟨Thunk.pure [c] :: rest, fun room expand => ?_, .cons (.code c) hshows⟩
      rw [fillPieces, hrest]
      rfl
    | field hole =>
      obtain ⟨cs, hcs, hshown⟩ := fillHole_of_isHex hp w
      refine ⟨cs :: rest, fun room expand => ?_, .cons hshown hshows⟩
      rw [fillPieces, hcs, hrest]
      rfl
    | broken e => cases hp

def isHex (template : String) : Bool := (pieces .plain (codes template)).all Piece.isHex

/-- **A template of plain hexadecimal fields can be filled for every word**, with what its pieces
show. -/
theorem fill_of_isHex {template : String} (h : isHex template = true) (w : Word) :
    ∃ css, (∀ room, fill room template w = .ok (ofCodes (css.flatMap Thunk.get))) ∧
      List.Forall₂ (Piece.Shows w) (pieces .plain (codes template)) css := by
  obtain ⟨css, hcss, hshows⟩ := fillPieces_of_isHex (List.all_eq_true.mp h) w
  refine ⟨css, fun room => ?_, hshows⟩
  rw [fill, fillWithin, hcss]
  rfl

end Template

namespace Standard

theorem operands_isHex : ∀ i ∈ instructions, Template.isHex i.operands = true := by
  decide +kernel

/-- A standard instruction has a text for every word. -/
theorem exists_text {i : Instruction} (hi : i ∈ instructions) (w : Word) :
    ∃ s, ∀ room, Instruction.textIn room (some i) w = .ok s := by
  obtain ⟨css, hcss, -⟩ := Template.fill_of_isHex (operands_isHex i hi) w
  simp only [Instruction.textIn, hcss]
  split <;> exact ⟨_, fun _ => rfl⟩

end Standard

/-- Standard instructions, registered in any order and some of them refused. -/
def Table.OfStandard (t : Table) : Prop :=
  ∃ is, (∀ i ∈ is, i ∈ Standard.instructions) ∧ t = empty.registerEach is

theorem Table.OfStandard.mem {t : Table} (h : t.OfStandard) :
    ∀ i ∈ t.entries, i ∈ Standard.instructions := by
  obtain ⟨is, his, rfl⟩ := h
  rw [registerEach_entries empty_grouped]
  exact fun i hi => his i ((mem_foldl_take hi).resolve_left List.not_mem_nil)

/-- Every word has a text, whatever the memory. -/
def Table.HasTexts (t : Table) : Prop := ∀ w, ∃ s, ∀ room, t.formatIn room w = .ok s

theorem Table.OfStandard.hasTexts {t : Table} (h : t.OfStandard) : t.HasTexts := by
  intro w
  have hg : t.Grouped := by
    obtain ⟨is, -, rfl⟩ := h
    exact registerEach_grouped empty_grouped is
  unfold Table.formatIn
  cases hl : t.lookup w with
  | none => exact ⟨_, fun _ => rfl⟩
  | some i =>
    rw [lookup_eq_find? hg] at hl
    exact Standard.exists_text (h.mem i (List.mem_of_find?_eq_some hl)) w

theorem Standard.table_ofStandard : table.OfStandard :=
  ⟨instructions, fun _ h => h, by decide +kernel⟩

/-- **Every word has a text.** -/
theorem Standard.format_standard (w : Word) : table.format w = .ok (text w) := by
  obtain ⟨s, hs⟩ := table_ofStandard.hasTexts w
  have hformat : table.format w = .ok s := hs .full
  rw [text, hformat]
  rfl

end Chip8

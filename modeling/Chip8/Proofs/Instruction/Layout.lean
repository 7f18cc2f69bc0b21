import Chip8.Proofs.Instruction.Order
import Chip8.Proofs.Instruction.Text
import Chip8.Proofs.Text.Hex
import Chip8.Proofs.Text.Message
import Mathlib.Data.List.Pairwise

/-!
Texts of words, character by character. The text of a word is laid out in cells, each a character
of its own or a digit of the word (`toList_format`). The layouts of two instructions clash
somewhere, whatever the digits (`layouts_apart`), so a text tells its instruction
(`eq_of_text_eq`). It shows the digits that the instruction leaves open, but for the `y` of a
shift, and tells the word but for that (`format_eq_iff`).
-/

namespace Chip8

open Text (Code codes ofCodes hexDigit hexDigits)

/-! ## Digits of a word -/

namespace Word

/-- The digit that has `k` to its right. -/
def digit (w : Word) (k : Nat) : Nat := w.val / 16 ^ k % 16

theorem digit_lt (w : Word) (k : Nat) : w.digit k < 16 := Nat.mod_lt _ (by omega)

theorem digit_zero (w : Word) : w.digit 0 = w.n := by
  rw [digit, Nat.pow_zero, Nat.div_one]
  rfl

theorem digit_two (w : Word) : w.digit 2 = w.x.val := rfl

theorem digit_three (w : Word) : w.digit 3 = w.group.val := by
  simp only [digit, group]
  omega

theorem digit_kk (w : Word) : w.digit 0 = w.kk.toNat % 16 ∧ w.digit 1 = w.kk.toNat / 16 := by
  have hkk := (w.kk_eq_iff w.kk).mp rfl
  simp only [digit]
  omega

/-- The two differ in `y` at most. -/
def EqButY (w w' : Word) : Prop := w.group = w'.group ∧ w.x = w'.x ∧ w.n = w'.n

theorem eq_of_digits {w w' : Word} (h : ∀ k < 4, w.digit k = w'.digit k) : w = w' := by
  have h0 := h 0 (by omega)
  have h1 := h 1 (by omega)
  have h2 := h 2 (by omega)
  have h3 := h 3 (by omega)
  simp only [digit] at h0 h1 h2 h3
  apply Fin.ext
  omega

end Word

/-! ## Cells -/

/-- A character of its own, or the digit of a word that has `k` to its right. -/
inductive Cell where
  | char (c : Char)
  | digit (k : Nat)
  deriving DecidableEq, Repr

namespace Cell

def shown (w : Word) : Cell → Char
  | char c => c
  | digit k => hexDigit (w.digit k)

/-- The place of the digit in a cell. -/
def place? : Cell → Option Nat
  | char _ => none
  | digit k => some k

/-- The two show no character in common, whatever the words. -/
def clash : Cell → Cell → Bool
  | char c, char d => c ≠ d
  | char c, digit _ | digit _, char c => (Text.digitValue? 16 c).isNone
  | digit _, digit _ => false

/-- Of different length, or with a clash on the way. -/
def apart : List Cell → List Cell → Bool
  | [], [] => false
  | c :: l, d :: l' => c.clash d || apart l l'
  | [], _ :: _ | _ :: _, [] => true

/-- The `k` digits that have `low` to their right. -/
def span (low : Nat) : Nat → List Cell
  | 0 => []
  | k + 1 => span (low + 1) k ++ [digit low]

theorem clash_comm (c d : Cell) : c.clash d = d.clash c := by
  cases c with
  | char c =>
    cases d with
    | char d => exact decide_eq_decide.mpr ne_comm
    | digit k => rfl
  | digit k => cases d <;> rfl

theorem apart_comm (l l' : List Cell) : apart l l' = apart l' l := by
  induction l generalizing l' with
  | nil => cases l' <;> rfl
  | cons c l ih =>
    cases l' with
    | nil => rfl
    | cons d l' => rw [apart, apart, clash_comm, ih]

theorem char_ne_digit {c : Char} (h : (Text.digitValue? 16 c).isNone = true) (w : Word) (k : Nat) :
    c ≠ hexDigit (w.digit k) := by
  rintro rfl
  rw [Text.digitValue?_hexDigit (w.digit_lt k)] at h
  cases h

theorem shown_ne_of_clash {c d : Cell} (h : c.clash d = true) (w w' : Word) :
    c.shown w ≠ d.shown w' := by
  cases c with
  | char c =>
    cases d with
    | char d => exact of_decide_eq_true h
    | digit k => exact char_ne_digit h w' k
  | digit k =>
    cases d with
    | char d => exact (char_ne_digit h w k).symm
    | digit j => cases h

theorem map_shown_ne_of_apart {l l' : List Cell} (h : apart l l' = true) (w w' : Word) :
    l.map (shown w) ≠ l'.map (shown w') := by
  induction l generalizing l' with
  | nil =>
    cases l' with
    | nil => cases h
    | cons d l' => exact (List.cons_ne_nil _ _).symm
  | cons c l ih =>
    cases l' with
    | nil => exact List.cons_ne_nil _ _
    | cons d l' =>
      intro he
      rw [List.map_cons, List.map_cons, List.cons.injEq] at he
      rcases (Bool.or_eq_true _ _).mp h with hc | hl
      · exact shown_ne_of_clash hc w w' he.1
      · exact ih hl he.2

/-- One layout shows the same of two words that are the same in the digits that it shows. -/
theorem map_shown_eq_iff (l : List Cell) (w w' : Word) :
    l.map (shown w) = l.map (shown w') ↔
      ∀ k ∈ l.filterMap place?, w.digit k = w'.digit k := by
  rw [List.map_inj_left]
  simp only [List.mem_filterMap]
  constructor
  · rintro h k ⟨c, hc, hk⟩
    cases c with
    | char c => cases hk
    | digit j =>
      cases hk
      exact Text.hexDigit_inj (w.digit_lt _) (w'.digit_lt _) (h _ hc)
  · intro h c hc
    cases c with
    | char c => rfl
    | digit k => exact congrArg hexDigit (h k ⟨_, hc, rfl⟩)

theorem map_shown_span (w : Word) (low k : Nat) :
    (span low k).map (shown w) = hexDigits k (w.val / 16 ^ low) := by
  induction k generalizing low with
  | zero => rfl
  | succ k ih =>
    rw [span, List.map_append, ih, hexDigits, Nat.div_div_eq_div_mul, ← Nat.pow_succ]
    rfl

theorem map_shown_char (w : Word) (cs : List Char) : (cs.map char).map (shown w) = cs := by
  rw [List.map_map]
  exact List.map_id cs

end Cell

/-! ## Forms and fields -/

namespace Text.Form

/-- Nothing is filled in where the width is reached. -/
theorem padded_of_full {f : Form} {lead : List Code} {body : Thunk (List Code)}
    (h : f.width ≤ lead.length + body.get.length) :
    f.padded lead body = Thunk.pure (lead ++ body.get) := by
  apply Thunk.ext
  have hgap : f.width - (lead.length + body.get.length) = 0 := Nat.sub_eq_zero_of_le h
  simp only [padded, Thunk.get, Thunk.pure] at hgap ⊢
  cases f.side <;> simp [hgap]

/-- A capital hexadecimal number as it is. -/
def bare : Form := { plain .number with letter := .char 'X' }

/-- A capital hexadecimal number with zeros up to a width. -/
def filled (width : Nat) : Form :=
  { plain .number with filler := .char '0', side := .inner, width, letter := .char 'X' }

/-- The form of `k` digits. -/
def ofDigits (k : Nat) : Form := if k = 1 then bare else filled k

theorem whole_bare {n : Nat} (hn : n < 16) :
    bare.whole .number n = .ok (Thunk.pure [.char (hexDigit n)]) := by
  have hbased : bare.whole .number n = .ok (bare.based 4 ['0', 'X'] (upperDigits 16 n)) := rfl
  rw [hbased, upperDigits_of_lt hn]
  rfl

theorem whole_filled {k n : Nat} (hn : n < 16 ^ (k + 1)) :
    (filled (k + 1)).whole .number n = .ok (Thunk.pure ((hexDigits (k + 1) n).map .char)) := by
  have hbased : (filled (k + 1)).whole .number n =
      .ok ((filled (k + 1)).based 4 ['0', 'X'] (upperDigits 16 n)) := rfl
  have hdigits (n : Nat) (ds : List Char) : (filled n).grouped 4 n ds =
      List.replicate (n - ds.length) '0' ++ ds := rfl
  have hbody : (filled (k + 1)).based 4 ['0', 'X'] (upperDigits 16 n) =
      (filled (k + 1)).padded [] (Thunk.pure ((hexDigits (k + 1) n).map .char)) := by
    rw [← replicate_upperDigits hn, ← hdigits, based, number]
    simp [filled, signText, plain, Thunk.pure, Thunk.get]
  rw [hbased, hbody, padded_of_full]
  · rfl
  · refine Nat.le_of_eq ?_
    show k + 1 = 0 + ((hexDigits (k + 1) n).map Code.char).length
    rw [List.length_map, length_hexDigits, Nat.zero_add]

theorem whole_ofDigits {k n : Nat} (hk : 1 ≤ k) (hn : n < 16 ^ k) :
    (ofDigits k).whole .number n = .ok (Thunk.pure ((hexDigits k n).map .char)) := by
  obtain ⟨j, rfl⟩ := Nat.exists_eq_add_of_le' hk
  unfold ofDigits
  split
  · next hone =>
    obtain rfl : j = 0 := by omega
    have hlt : n < 16 := hn
    rw [whole_bare hlt, hexDigits, hexDigits, Nat.mod_eq_of_lt hlt]
    rfl
  · exact whole_filled hn

end Text.Form

namespace Text

theorem flatMap_chars_hexDigits (k n : Nat) :
    ((hexDigits k n).map Code.char).flatMap Code.chars = hexDigits k n := by
  have hone : ∀ c ∈ hexDigits k n, (Code.char c).chars = [c] := by
    intro c hc
    obtain ⟨d, rfl⟩ := exists_of_mem_hexDigits hc
    exact if_neg (digitChar_ne_mark d).2
  rw [List.flatMap_map, List.flatMap_congr hone]
  exact List.flatMap_singleton' _

end Text

namespace Template

/-- Where a field lies in a word: how many digits are to its right, and how many it has. -/
def extent : String → Nat × Nat
  | "nnn" => (0, 3)
  | "kk" => (0, 2)
  | "x" => (2, 1)
  | "y" => (1, 1)
  | _ => (0, 1)

theorem field?_eq_extent {w : Word} {name : String} {n : Nat} (h : field? w name = some n) :
    n = w.val / 16 ^ (extent name).1 % 16 ^ (extent name).2 ∧
      1 ≤ (extent name).2 ∧ (extent name).2 ≤ 3 := by
  unfold field? at h
  -- The five fields, in the order of `field?`; no other name has a number.
  split at h
  all_goals cases h
  all_goals refine ⟨?_, by decide, by decide⟩
  · exact (congrArg (· % 16 ^ 3) (Nat.div_one w.val)).symm
  · exact ((w.kk_eq_iff _).mp rfl).symm.trans (congrArg (· % 16 ^ 2) (Nat.div_one w.val).symm)
  · rfl
  · rfl
  · exact (congrArg (· % 16 ^ 1) (Nat.div_one w.val)).symm

/-- The cells of a field of a word. -/
def Hole.cells (h : Hole) : List Cell :=
  Cell.span (extent (ofCodes h.name)).1 (extent (ofCodes h.name)).2

def Piece.cells : Piece → List Cell
  | .code c => c.chars.map .char
  | .field h => h.cells
  | .broken _ => []

/-- A field has the form of as many digits as it has itself. -/
def Piece.isFitted : Piece → Bool
  | .field h =>
    (Text.Form.read .number h.form).toOption = some (.ofDigits (extent (ofCodes h.name)).2)
  | _ => true

theorem Piece.Shows.chars {w : Word} {p : Piece} {cs : Thunk (List Code)} (h : p.Shows w cs)
    (hp : p.isFitted = true) : cs.get.flatMap Code.chars = p.cells.map (Cell.shown w) := by
  cases h with
  | code c =>
    rw [Piece.cells, Cell.map_shown_char]
    exact List.append_nil _
  | @field h f n _ hread hfield hwhole =>
    have hform := toOption_eq_some (of_decide_eq_true hp)
    rw [hread] at hform
    cases hform
    obtain ⟨hn, hlow, hhigh⟩ := field?_eq_extent hfield
    have hlt : n < 16 ^ (extent (ofCodes h.name)).2 := hn ▸ Nat.mod_lt _ (Nat.pow_pos (by omega))
    rw [Text.Form.whole_ofDigits hlow hlt] at hwhole
    cases hwhole
    have hdigits := Text.hexDigits_mod (extent (ofCodes h.name)).2
      (w.val / 16 ^ (extent (ofCodes h.name)).1)
    rw [← hn] at hdigits
    rw [Piece.cells, Hole.cells, Cell.map_shown_span, ← hdigits]
    exact Text.flatMap_chars_hexDigits _ n

/-- The cells of the text that a template is filled to. -/
def layout (template : String) : List Cell := (pieces .plain (codes template)).flatMap Piece.cells

theorem chars_of_shows {w : Word} {ps : List Piece} {css : List (Thunk (List Code))}
    (h : List.Forall₂ (Piece.Shows w) ps css) (hp : ∀ p ∈ ps, p.isFitted = true) :
    (css.flatMap Thunk.get).flatMap Code.chars = (ps.flatMap Piece.cells).map (Cell.shown w) := by
  induction h with
  | nil => rfl
  | @cons p cs ps css hshows _ ih =>
    rw [List.flatMap_cons, List.flatMap_cons, List.flatMap_append, List.map_append,
      hshows.chars (hp p List.mem_cons_self), ih fun q hq => hp q (List.mem_cons_of_mem p hq)]

end Template

/-! ## Texts -/

namespace Standard

theorem operands_isFitted : ∀ i ∈ instructions,
    (Template.pieces .plain (codes i.operands)).all Template.Piece.isFitted = true := by
  decide +kernel

/-- What can be found for a word. -/
def found : List (Option Instruction) := none :: instructions.map some

theorem mem_found {i : Instruction} (hi : i ∈ instructions) : some i ∈ found :=
  List.mem_cons_of_mem _ (List.mem_map_of_mem hi)

theorem lookup_mem_found (w : Word) : table.lookup w ∈ found := by
  cases hi : table.lookup w with
  | none => exact List.mem_cons_self
  | some i => exact mem_found (mem_of_lookup hi).1

/-- The cells of the text of a word: a mnemonic with its operands, or data. -/
def layout : Option Instruction → List Cell
  | none => "DW #".toList.map .char ++ Cell.span 0 4
  | some i =>
    if i.operands.isEmpty then i.mnemonic.toList.map .char
    else (i.mnemonic ++ " ").toList.map .char ++ Template.layout i.operands

theorem toList_text {i : Option Instruction} (hi : i ∈ found) {w : Word} {s : String}
    (h : Instruction.text i w = .ok s) : s.toList = (layout i).map (Cell.shown w) := by
  rcases List.mem_cons.mp hi with rfl | hi
  · cases h
    have hdigits : (Text.hex 4 w.val).toList = hexDigits 4 w.val :=
      Text.toList_hex (by decide) w.isLt
    rw [layout, List.map_append, Cell.map_shown_char, Cell.map_shown_span, Nat.pow_zero,
      Nat.div_one, String.toList_append, hdigits]
  · obtain ⟨i, hmem, rfl⟩ := List.mem_map.mp hi
    rw [Instruction.text, Instruction.textIn] at h
    rw [layout]
    split at h <;> rename_i he
    · cases h
      rw [if_pos he, Cell.map_shown_char]
    · obtain ⟨css, hfill, hshows⟩ := Template.fill_of_isHex (operands_isHex i hmem) w
      rw [hfill] at h
      cases h
      rw [if_neg he, List.map_append, Cell.map_shown_char, String.toList_append, ofCodes,
        String.toList_ofList, Template.layout,
        Template.chars_of_shows hshows (List.all_eq_true.mp (operands_isFitted i hmem))]

/-- **A text is the layout of its instruction, with the digits of the word.** -/
theorem toList_format {w : Word} {s : String} (h : table.format w = .ok s) :
    s.toList = (layout (table.lookup w)).map (Cell.shown w) :=
  toList_text (lookup_mem_found w) h

theorem layouts_apart :
    found.Pairwise fun i j => Cell.apart (layout i) (layout j) = true := by decide +kernel

instance : Std.Symm fun i j => Cell.apart (layout i) (layout j) = true :=
  ⟨fun _ _ h => (Cell.apart_comm _ _).trans h⟩

/-- **A text tells the instruction**, whatever the words. -/
theorem eq_of_text_eq {i j : Option Instruction} (hi : i ∈ found) (hj : j ∈ found) {w w' : Word}
    {s : String} (h : Instruction.text i w = .ok s) (h' : Instruction.text j w' = .ok s) :
    i = j := by
  by_contra hne
  apply Cell.map_shown_ne_of_apart (layouts_apart.forall hi hj hne) w w'
  rw [← toList_text hi h, ← toList_text hj h']

end Standard

/-! ## Words of one text -/

/-- Whether a shape fixes the digit that has `k` to its right. -/
def Shape.fixes : Shape → Nat → Bool
  | whole _, _ => true
  | group _, k => k = 3
  | nibble .., k => k = 3 || k = 0
  | byte .., k => k = 3 || k = 1 || k = 0

theorem Shape.digit_eq {s : Shape} {w w' : Word} (h : s.Fits w) (h' : s.Fits w') {k : Nat}
    (hk : s.fixes k = true) : w.digit k = w'.digit k := by
  cases s with
  | whole v =>
    cases h
    cases h'
    rfl
  | group g =>
    obtain rfl : k = 3 := of_decide_eq_true hk
    rw [w.digit_three, w'.digit_three, h, h']
  | nibble g n =>
    simp only [fixes, Bool.or_eq_true, decide_eq_true_eq] at hk
    rcases hk with rfl | rfl
    · rw [w.digit_three, w'.digit_three, h.1, h'.1]
    · rw [w.digit_zero, w'.digit_zero, h.2, h'.2]
  | byte g kk =>
    simp only [fixes, Bool.or_eq_true, decide_eq_true_eq] at hk
    rcases hk with (rfl | rfl) | rfl
    · rw [w.digit_three, w'.digit_three, h.1, h'.1]
    · rw [w.digit_kk.2, w'.digit_kk.2, h.2, h'.2]
    · rw [w.digit_kk.1, w'.digit_kk.1, h.2, h'.2]

namespace Standard

/-- A digit that an instruction neither fixes nor shows is the `y` of a shift. -/
theorem instructions_tell : ∀ i ∈ instructions, ∀ k < 4,
    i.op.shape.fixes k = true ∨ k ∈ (layout (some i)).filterMap Cell.place? ∨
      k = 1 ∧ (i.op = .shr ∨ i.op = .shl) := by decide +kernel

theorem data_shows : ∀ k < 4, k ∈ (layout none).filterMap Cell.place? := by decide

theorem shifts_show : ∀ i ∈ instructions, i.op = .shr ∨ i.op = .shl →
    (layout (some i)).filterMap Cell.place? = [2] := by decide +kernel

theorem lookup_eq_of_format_eq {w w' : Word} (h : table.format w = table.format w') :
    table.lookup w = table.lookup w' :=
  eq_of_text_eq (lookup_mem_found w) (lookup_mem_found w') (format_standard w)
    (h.symm.trans (format_standard w))

theorem shown_eq_of_format_eq {w w' : Word} (h : table.format w = table.format w') :
    ∀ k ∈ (layout (table.lookup w)).filterMap Cell.place?, w.digit k = w'.digit k := by
  refine (Cell.map_shown_eq_iff _ w w').mp ?_
  rw [← toList_format (format_standard w), lookup_eq_of_format_eq h,
    ← toList_format (h.symm.trans (format_standard w))]

/-- Words of one text have each digit in common, fixed or shown, but for the `y` of a shift. -/
theorem digit_eq_of_format_eq {w w' : Word} (h : table.format w = table.format w') {k : Nat}
    (hk : k < 4) : w.digit k = w'.digit k ∨
      k = 1 ∧ ∃ op, (op = .shr ∨ op = .shl) ∧ op? w = some op ∧ op? w' = some op := by
  have hlookup := lookup_eq_of_format_eq h
  have hshown := shown_eq_of_format_eq h k
  cases hi : table.lookup w with
  | none =>
    rw [hi] at hshown
    exact .inl (hshown (data_shows k hk))
  | some i =>
    rw [hi] at hlookup hshown
    obtain ⟨hmem, hmatch⟩ := mem_of_lookup hi
    rcases instructions_tell i hmem k hk with hfixed | hcell | ⟨hone, hshift⟩
    · have hfits := (matchesWord_iff_fits hmem w).mp hmatch
      have hfits' := (matchesWord_iff_fits hmem w').mp (mem_of_lookup hlookup.symm).2
      exact .inl (Shape.digit_eq hfits hfits' hfixed)
    · exact .inl (hshown hcell)
    · refine .inr ⟨hone, i.op, hshift, ?_, ?_⟩
      · rw [op?, hi, Option.map_some]
      · rw [op?, ← hlookup, Option.map_some]

theorem format_eq_of_shift {w w' : Word} (hx : w.x = w'.x) {op : Op} (hs : op = .shr ∨ op = .shl)
    (h : op? w = some op) (h' : op? w' = some op) : table.format w = table.format w' := by
  obtain ⟨i, hi, rfl⟩ := Option.map_eq_some_iff.mp h
  obtain ⟨j, hj, hop⟩ := Option.map_eq_some_iff.mp h'
  have hmem := (mem_of_lookup hi).1
  obtain rfl := eq_of_op_eq (mem_of_lookup hj).1 hmem hop
  rw [format_standard, format_standard, Except.ok.injEq, ← String.toList_inj,
    toList_format (format_standard w), toList_format (format_standard w'), hi, hj,
    Cell.map_shown_eq_iff, shifts_show j hmem hs]
  intro k hk
  cases List.mem_singleton.mp hk
  rw [w.digit_two, w'.digit_two, hx]

/-- **A text tells the word, but for the `y` of a shift.** -/
theorem format_eq_iff (w w' : Word) : table.format w = table.format w' ↔
    w = w' ∨ w.EqButY w' ∧ ∃ op, (op = .shr ∨ op = .shl) ∧ op? w = some op ∧ op? w' = some op := by
  constructor
  · intro h
    have hother : ∀ k < 4, k ≠ 1 → w.digit k = w'.digit k := fun k hk hne =>
      (digit_eq_of_format_eq h hk).resolve_right fun hy => hne hy.1
    rcases digit_eq_of_format_eq h (show 1 < 4 by decide) with hone | ⟨-, hshift⟩
    · refine .inl (Word.eq_of_digits fun k hk => ?_)
      by_cases hk1 : k = 1
      · rw [hk1, hone]
      · exact hother k hk hk1
    · have hgroup := hother 3 (by decide) (by decide)
      have hx := hother 2 (by decide) (by decide)
      have hn := hother 0 (by decide) (by decide)
      rw [w.digit_three, w'.digit_three] at hgroup
      rw [w.digit_two, w'.digit_two] at hx
      rw [w.digit_zero, w'.digit_zero] at hn
      exact .inr ⟨⟨Fin.ext hgroup, Fin.ext hx, hn⟩, hshift⟩
  · rintro (rfl | ⟨⟨-, hx, -⟩, op, hs, h, h'⟩)
    · rfl
    · exact format_eq_of_shift hx hs h h'

example : text 0x8126 = "SHR V1" ∧ text 0x8136 = "SHR V1" := by decide +kernel

end Standard

end Chip8

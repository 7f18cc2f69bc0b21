/-!
Texts by their codes. A text may hold a half of a surrogate pair on its own,
which is no character. A string keeps such a half as a `keeper` behind a `mark`,
and a mark of its own doubled, so that it keeps every text exactly:
`codes_ofCodes`. Codes come before strings wherever the characters of a text are
counted, taken one by one or shown by their numbers.
-/

namespace Chip8.Text

/-- The first half of a pair, and how many there are. -/
def firstHalf : Nat := 0xd800
abbrev halfCount : Nat := 0x800

inductive Code where
  | char (c : Char)
  /-- The half that lies `k` above the first one. -/
  | half (k : Fin halfCount)
  deriving DecidableEq, Repr

/-- An unassigned character right below the halves: strings are ordered as their
texts are. -/
def mark : Char := Char.ofNat 0xd7ff

def keeperBase : Nat := 0x100000

def keeper (k : Fin halfCount) : Char := Char.ofNat (keeperBase + k.val)

/-- The code that a character behind a mark keeps. -/
def kept (c : Char) : Code :=
  if h : keeperBase ≤ c.toNat ∧ c.toNat - keeperBase < halfCount then
    .half ⟨c.toNat - keeperBase, h.2⟩
  else .char c

namespace Code

def number : Code → Nat
  | char c => c.toNat
  | half k => firstHalf + k.val

def ofNat (n : Nat) : Code :=
  if h : firstHalf ≤ n ∧ n - firstHalf < halfCount then .half ⟨n - firstHalf, h.2⟩
  else .char (Char.ofNat n)

def isHalf : Code → Bool
  | char _ => false
  | half _ => true

/-- The characters that a string has for it. -/
def chars : Code → List Char
  | char c => if c = mark then [mark, mark] else [c]
  | half k => [mark, keeper k]

end Code

def codesOf : List Char → List Code
  | [] => []
  | [c] => [.char c]
  | c :: d :: cs => if c = mark then kept d :: codesOf cs else .char c :: codesOf (d :: cs)

def codes (s : String) : List Code := codesOf s.toList

def ofCodes (cs : List Code) : String := String.ofList (cs.flatMap Code.chars)

/-- How many codes a text has. -/
def size (s : String) : Nat := (codes s).length

/-- Spaces on the right up to `width` codes. -/
def padRight (width : Nat) (s : String) : String :=
  s ++ String.ofList (List.replicate (width - size s) ' ')

/-! ## Reading back -/

@[simp] theorem toNat_keeper (k : Fin halfCount) : (keeper k).toNat = keeperBase + k.val := by
  have hk := k.isLt
  have hv : (keeperBase + k.val).isValidChar := by
    simp only [Nat.isValidChar, keeperBase, halfCount] at *
    omega
  rw [keeper, Char.ofNat, dif_pos hv]
  rfl

@[simp] theorem kept_keeper (k : Fin halfCount) : kept (keeper k) = .half k := by
  simp [kept]

@[simp] theorem kept_mark : kept mark = .char mark := by decide

theorem codesOf_cons {c : Char} (h : c ≠ mark) (cs : List Char) :
    codesOf (c :: cs) = .char c :: codesOf cs := by
  cases cs <;> simp [codesOf, h]

theorem codesOf_chars (c : Code) (cs : List Char) :
    codesOf (c.chars ++ cs) = c :: codesOf cs := by
  cases c with
  | half k => simp [Code.chars, codesOf]
  | char c =>
    by_cases h : c = mark
    · simp [Code.chars, codesOf, h]
    · simp [Code.chars, h, codesOf_cons h]

/-- A string keeps every text exactly. -/
theorem codes_ofCodes (cs : List Code) : codes (ofCodes cs) = cs := by
  simp only [codes, ofCodes, String.toList_ofList]
  induction cs with
  | nil => rfl
  | cons c cs ih => rw [List.flatMap_cons, codesOf_chars, ih]

end Chip8.Text

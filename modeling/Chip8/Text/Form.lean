import Chip8.Number.Decimal
import Chip8.Number.Size
import Chip8.Text.Numeral
import Chip8.Text.Quoted

/-!
Forms: how a number or a text is laid out. A form names, in this order and all
of it optional, a fill character with a side, a sign, the marker of the radix, a
least width, a mark between groups of digits, places, and a letter. What is laid
out is made when it is asked for.
-/

namespace Chip8.Text

inductive Side where
  | left
  | right
  | centre
  /-- Between the sign and the digits. -/
  | inner
  deriving DecidableEq, Repr

inductive SignRule where
  | minus
  | plus
  | gap
  deriving DecidableEq, Repr

/-- What a form is applied to. -/
inductive FormKind where
  | number
  /-- A truth, laid out as the number zero or one. -/
  | truth
  | text
  deriving DecidableEq, Repr

namespace FormKind

def name : FormKind → String
  | number => "int"
  | truth => "bool"
  | text => "str"

/-- The word for it where a part of the form is refused. -/
def describe : FormKind → String
  | number | truth => "integer"
  | text => "string"

def side : FormKind → Side
  | number | truth => .right
  | text => .left

def letter : FormKind → Code
  | number | truth => .char 'd'
  | text => .char 's'

end FormKind

structure Form where
  filler : Code
  side : Side
  sign : Option SignRule
  /-- Asks for a zero without a minus sign. -/
  unsigned : Bool
  marked : Bool
  width : Nat
  groupMark : Option Char
  places : Option Nat
  letter : Code
  deriving DecidableEq, Repr

inductive FormError where
  | digits
  | twoMarks
  | markWith (mark : Char) (letter : Code)
  | placesMissing
  | unreadable (form : String) (kind : FormKind)
  | letter (c : Code) (kind : FormKind)
  | placesOfWhole
  | unsigned (kind : FormKind)
  | signOfChar
  | markerOfChar
  | noChar
  | gapOfText
  | signOfText
  | markerOfText
  | innerText
  | places
  | size (e : SizeError)
  deriving DecidableEq, Repr

/-- A letter beyond ASCII, or one that is blank, by its number. -/
def shownLetter (c : Code) : String :=
  if 32 < c.number && c.number < 128 then ofCodes [c] else "\\x" ++ lowerHex 0 c.number

def FormError.message : FormError → String
  | .digits => "Too many decimal digits in format string"
  | .twoMarks => "Cannot specify both ',' and '_'."
  | .markWith mark c =>
    "Cannot specify '" ++ String.singleton mark ++ "' with '" ++ shownLetter c ++ "'."
  | .placesMissing => "Format specifier missing precision"
  | .unreadable form kind =>
    "Invalid format specifier '" ++ form ++ "' for object of type '" ++ kind.name ++ "'"
  | .letter c kind =>
    "Unknown format code '" ++ shownLetter c ++ "' for object of type '" ++ kind.name ++ "'"
  | .placesOfWhole => "Precision not allowed in integer format specifier"
  | .unsigned kind =>
    "Negative zero coercion (z) not allowed in " ++ kind.describe ++ " format specifier"
  | .signOfChar => "Sign not allowed with integer format specifier 'c'"
  | .markerOfChar => "Alternate form (#) not allowed with integer format specifier 'c'"
  | .noChar => "%c arg not in range(0x110000)"
  | .gapOfText => "Space not allowed in string format specifier"
  | .signOfText => "Sign not allowed in string format specifier"
  | .markerOfText => "Alternate form (#) not allowed in string format specifier"
  | .innerText => "'=' alignment not allowed in string format specifier"
  | .places => "precision too big"
  | .size e => e.message

def side? : Code → Option Side
  | .char '<' => some .left
  | .char '>' => some .right
  | .char '^' => some .centre
  | .char '=' => some .inner
  | _ => none

def signRule? : Code → Option SignRule
  | .char '-' => some .minus
  | .char '+' => some .plus
  | .char ' ' => some .gap
  | _ => none

def digit? : Code → Option Nat
  | .char c => decimalDigit? c
  | .half _ => none

/-- Decimal digits of any script in front, as a number, and whether there were any. -/
def takeDigits (value : Nat) (any : Bool) : List Code → Except FormError (Nat × Bool × List Code)
  | [] => .ok (value, any, [])
  | c :: cs =>
    match digit? c with
    | none => .ok (value, any, c :: cs)
    | some d =>
      if Number.largestIndex < value * 10 + d then .error .digits
      else takeDigits (value * 10 + d) true cs

namespace Form

def plain (kind : FormKind) : Form :=
  ⟨.char ' ', kind.side, none, false, false, 0, none, none, kind.letter⟩

/-- The side, behind its filler if there is one, and whether the filler and the
side are given. -/
def takeSide (f : Form) : List Code → Form × Bool × Bool × List Code
  | c :: d :: cs =>
    match side? d, side? c with
    | some side, _ => ({ f with filler := c, side }, true, true, cs)
    | none, some side => ({ f with side }, false, true, d :: cs)
    | none, none => (f, false, false, c :: d :: cs)
  | [c] =>
    match side? c with
    | some side => ({ f with side }, false, true, [])
    | none => (f, false, false, [c])
  | [] => (f, false, false, [])

def takeSign (f : Form) : List Code → Form × List Code
  | c :: cs => match signRule? c with
    | some rule => ({ f with sign := some rule }, cs)
    | none => (f, c :: cs)
  | [] => (f, [])

def takeUnsigned (f : Form) : List Code → Form × List Code
  | .char 'z' :: cs => ({ f with unsigned := true }, cs)
  | cs => (f, cs)

def takeMarker (f : Form) : List Code → Form × List Code
  | .char '#' :: cs => ({ f with marked := true }, cs)
  | cs => (f, cs)

/-- A zero in front of the width fills with zeros; numbers are then filled
behind the sign, unless a side is given. -/
def takeZero (f : Form) (kind : FormKind) (filled sided : Bool) : List Code → Form × List Code
  | .char '0' :: cs =>
    if filled then (f, .char '0' :: cs)
    else
      ({ f with filler := .char '0', side := if sided || kind = .text then f.side else .inner }, cs)
  | cs => (f, cs)

def takeGroupMark (f : Form) : List Code → Except FormError (Form × List Code)
  | .char ',' :: .char '_' :: _ | .char '_' :: .char ',' :: _ => .error .twoMarks
  | .char ',' :: cs => .ok ({ f with groupMark := some ',' }, cs)
  | .char '_' :: cs => .ok ({ f with groupMark := some '_' }, cs)
  | cs => .ok (f, cs)

def takePlaces (f : Form) : List Code → Except FormError (Form × List Code)
  | .char '.' :: cs => do
    let (places, any, cs) ← takeDigits 0 false cs
    if any then .ok ({ f with places := some places }, cs) else .error .placesMissing
  | cs => .ok (f, cs)

/-- Groups are marked in decimal by either mark, in other radices by the lower one;
a null character is refused later, as a letter. -/
def groupsFit (mark : Char) : Code → Bool
  | .half _ => false
  | .char letter =>
    letter ∈ ['d', 'e', 'f', 'g', 'E', 'G', '%', 'F', '\x00'] ||
      (mark = '_' && letter ∈ ['b', 'o', 'x', 'X'])

def checkGroups (f : Form) : Except FormError Form :=
  match f.groupMark with
  | none => .ok f
  | some mark => if groupsFit mark f.letter then .ok f else .error (.markWith mark f.letter)

def read (kind : FormKind) (form : List Code) : Except FormError Form := do
  let (f, filled, sided, cs) := (plain kind).takeSide form
  let (f, cs) := f.takeSign cs
  let (f, cs) := f.takeUnsigned cs
  let (f, cs) := f.takeMarker cs
  let (f, cs) := f.takeZero kind filled sided cs
  let (width, _, cs) ← takeDigits 0 false cs
  let (f, cs) ← takeGroupMark { f with width } cs
  let (f, cs) ← f.takePlaces cs
  match cs with
  | [] => f.checkGroups
  | [letter] => checkGroups { f with letter }
  | _ => .error (.unreadable (ofCodes form) kind)

/-- Marks the digits, given from the last one, between groups of `size`. -/
def markGroups (mark : Char) (size : Nat) (k : Nat) : List Char → List Char
  | [] => []
  | d :: ds =>
    if k = size then mark :: d :: markGroups mark size 1 ds
    else d :: markGroups mark size (k + 1) ds

/-- The number of digits that, marked in groups of `size`, are at least `width` wide. -/
def digitsToFill (size width : Nat) : Nat :=
  if width = 0 then 0 else width / (size + 1) * size + max 1 (width % (size + 1))

/-- The whole digits of a number, filled with zeros up to `width` and marked. -/
def grouped (f : Form) (size width : Nat) (ds : List Char) : List Char :=
  match f.groupMark with
  | none => List.replicate (width - ds.length) '0' ++ ds
  | some mark =>
    let ds := List.replicate (digitsToFill size width - ds.length) '0' ++ ds
    (markGroups mark size 0 ds.reverse).reverse

def signText (f : Form) (negative : Bool) : List Char :=
  if negative then ['-']
  else match f.sign with
    | some .plus => ['+']
    | some .gap => [' ']
    | _ => []

/-- `lead` and `body` with the filler on its side. -/
def padded (f : Form) (lead : List Code) (body : Thunk (List Code)) : Thunk (List Code) :=
  Thunk.mk fun _ =>
    let body := body.get
    let gap := f.width - (lead.length + body.length)
    let fill (n : Nat) := List.replicate n f.filler
    match f.side with
      | .left => lead ++ body ++ fill gap
      | .right => fill gap ++ lead ++ body
      | .centre => fill (gap / 2) ++ lead ++ body ++ fill (gap - gap / 2)
      | .inner => lead ++ fill gap ++ body

/-- Whole digits and what stands behind them, with zeros among the groups where
the form fills with zeros behind the sign. -/
def number (f : Form) (size : Nat) (lead : List Char) (parts : Thunk (List Char × List Char)) :
    Thunk (List Code) :=
  f.padded (lead.map .char) (Thunk.mk fun _ =>
    let (whole, tail) := parts.get
    let filled := f.filler = .char '0' && f.side = .inner
    let room := if filled then f.width - (lead.length + tail.length) else 0
    (f.grouped size room whole ++ tail).map .char)

def character (f : Form) (n : Nat) : Except FormError (Thunk (List Code)) :=
  if f.sign.isSome then .error .signOfChar
  else if f.marked then .error .markerOfChar
  else if 0x110000 ≤ n then .error .noChar
  else .ok (f.padded [] (Thunk.pure [.ofNat n]))

def based (f : Form) (size : Nat) (marker ds : List Char) : Thunk (List Code) :=
  f.number size (f.signText false ++ if f.marked then marker else []) (Thunk.pure (ds, []))

def integer (f : Form) (n : Nat) : Except FormError (Thunk (List Code)) :=
  if f.places.isSome then .error .placesOfWhole
  else if f.unsigned then .error (.unsigned .number)
  else match f.letter with
    | .char 'b' => .ok (f.based 4 ['0', 'b'] (digits 2 n))
    | .char 'o' => .ok (f.based 4 ['0', 'o'] (digits 8 n))
    | .char 'x' => .ok (f.based 4 ['0', 'x'] (digits 16 n))
    | .char 'X' => .ok (f.based 4 ['0', 'X'] (upperDigits 16 n))
    | .char 'c' => f.character n
    | _ => .ok (f.based 3 [] (digits 10 n))

/-- A number with a fraction; `tail` stands behind it. -/
def real (f : Form) (shape : Number.RealShape) (capital : Bool) (n : Nat) (tail : List Char) :
    Except FormError (Thunk (List Code)) :=
  let places := f.places.getD 6
  if Number.largestPlaces < places then .error .places
  else .ok (f.number 3 (f.signText false) (Thunk.mk fun _ =>
    let body := (Number.RealForm.mk shape places f.marked).body n 0
    let body := if capital then body.map Char.toUpper else body
    (body.takeWhile Char.isDigit, body.dropWhile Char.isDigit ++ tail)))

/-- A natural number in the form. -/
def whole (f : Form) (kind : FormKind) (n : Nat) : Except FormError (Thunk (List Code)) :=
  match f.letter with
  | .char 'b' | .char 'c' | .char 'd' | .char 'o' | .char 'x' | .char 'X' | .char 'n' =>
    f.integer n
  | .char 'e' => f.real .exponent false n []
  | .char 'E' => f.real .exponent true n []
  | .char 'f' => f.real .fixed false n []
  | .char 'F' => f.real .fixed true n []
  | .char 'g' => f.real .general false n []
  | .char 'G' => f.real .general true n []
  | .char '%' => f.real .fixed false (n * 100) ['%']
  | c => .error (.letter c kind)

/-- A text in the form; the places are its greatest length. -/
def text (f : Form) (cs : List Code) : Except FormError (Thunk (List Code)) :=
  if f.letter ≠ .char 's' then .error (.letter f.letter .text)
  else if f.sign = some .gap then .error .gapOfText
  else if f.sign.isSome then .error .signOfText
  else if f.unsigned then .error (.unsigned .text)
  else if f.marked then .error .markerOfText
  else if f.side = .inner then .error .innerText
  else .ok (f.padded [] (Thunk.pure (match f.places with
    | some n => cs.take n
    | none => cs)))

end Form

end Chip8.Text

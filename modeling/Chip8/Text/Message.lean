import Chip8.Number.Quantity
import Chip8.Number.Shortest
import Chip8.Number.Size
import Chip8.Text.Quoted

/-!
Message templates: `%` marks a place that takes the next argument, in the form
that the letter behind it names. A template whose places do not fit the
arguments is not filled; the arguments are then listed behind it. What goes into
the places is made once all of them fit.
-/

namespace Chip8.Text

inductive Argument where
  | text (s : String)
  | whole (n : Int)
  | truth (b : Bool)
  | nothing
  | real (x : Float)
  | list (items : List Argument)
  | record (fields : List (String × Argument))
  deriving Inhabited

/-- Values that cannot be written in the form asked for. -/
inductive MessageError where
  | character
  | places
  | number (e : NumberError)
  | size (e : SizeError)
  deriving DecidableEq, Repr

def MessageError.message : MessageError → String
  | .character => "%c arg not in range(0x110000)"
  | .places => "precision too large"
  | .number e => e.message
  | .size e => e.message

/-- Why a template is not filled: it does not fit its arguments, or an argument
that fits cannot be written. -/
inductive Unfilled where
  | misfit
  | failed (e : MessageError)
  deriving DecidableEq, Repr

mutual

/-- Texts stand in quotes. -/
def Argument.listed (quote : String → String) : Argument → String
  | .text s => quote s
  | .whole n => decimal 0 n
  | .truth b => if b then "True" else "False"
  | .nothing => "None"
  | .real x => Number.shortestText x
  | .list items => "[" ++ listedItems quote items ++ "]"
  | .record fields => "\x7b" ++ listedFields quote fields ++ "\x7d"

def listedItems (quote : String → String) : List Argument → String
  | [] => ""
  | [a] => a.listed quote
  | a :: rest => a.listed quote ++ ", " ++ listedItems quote rest

def listedFields (quote : String → String) : List (String × Argument) → String
  | [] => ""
  | [(name, a)] => quote name ++ ": " ++ a.listed quote
  | (name, a) :: rest => quote name ++ ": " ++ a.listed quote ++ ", " ++ listedFields quote rest

end

def Argument.shown : Argument → String
  | .text s => s
  | a => a.listed quoted

def Argument.whole? : Argument → Option Int
  | .whole n => some n
  | .truth b => some (if b then 1 else 0)
  | _ => none

/-- Its whole part. -/
def Argument.toWhole : Argument → Except Unfilled Int
  | .real x =>
    match Number.truncate x with
    | .ok n => .ok n
    | .error .nanToWhole => .error .misfit
    | .error e => .error (.failed (.number e))
  | a => match a.whole? with
    | some n => .ok n
    | none => .error .misfit

def Argument.toReal : Argument → Except Unfilled Float
  | .real x => .ok x
  | a => match a.whole? with
    | none => .error .misfit
    | some n => match (Quantity.whole n).toFloat with
      | .ok x => .ok x
      | .error e => .error (.failed (.number e))

/-- A text of one code, or the code of a number. -/
def Argument.toCode : Argument → Except Unfilled Code
  | .text s => match codes s with
    | [c] => .ok c
    | _ => .error .misfit
  | a => match a.whole? with
    | none => .error .misfit
    | some n =>
      if 0 ≤ n && n < 0x110000 then .ok (.ofNat n.toNat) else .error (.failed .character)

/-- Flags, least width and places of one `%`. -/
structure Placeholder where
  left : Bool
  zeros : Bool
  plus : Bool
  gap : Bool
  marked : Bool
  width : Nat
  places : Option Nat

namespace Placeholder

def plain : Placeholder := ⟨false, false, false, false, false, 0, none⟩

/-- The width may come from an argument; below zero it is a width to the left,
and none where it has no counterpart above zero. -/
def withWidth (p : Placeholder) (n : Int) : Except Unfilled Placeholder :=
  if Number.isIndex n then
    let width := if n.natAbs ≤ Number.largestIndex then n.natAbs else 0
    .ok { p with width, left := p.left || n < 0 }
  else .error (.failed (.size .length))

/-- The places may come from an argument; below zero there are none. -/
def withPlaces (p : Placeholder) (n : Int) : Except Unfilled Placeholder :=
  if -(Number.largestPlaces : Int) - 1 ≤ n && n ≤ Number.largestPlaces then
    .ok { p with places := some n.toNat }
  else .error (.failed (.size .places))

end Placeholder

def takeNumber (value : Nat) : List Char → Nat × List Char
  | c :: cs => if c.isDigit then takeNumber (value * 10 + (c.toNat - '0'.toNat)) cs
    else (value, c :: cs)
  | [] => (value, [])

def takeFlags (p : Placeholder) : List Char → Placeholder × List Char
  | '-' :: cs => takeFlags { p with left := true } cs
  | '0' :: cs => takeFlags { p with zeros := true } cs
  | '+' :: cs => takeFlags { p with plus := true } cs
  | ' ' :: cs => takeFlags { p with gap := true } cs
  | '#' :: cs => takeFlags { p with marked := true } cs
  | cs => (p, cs)

/-- What is left of the template and of the arguments. -/
abbrev Rest := List Char × List Argument

/-- A number in the template, up to `most`, or the next argument for a star. -/
def takeSize (use : Int → Except Unfilled Placeholder) (most : Nat) :
    Rest → Except Unfilled (Placeholder × Rest)
  | ('*' :: _, []) => .error .misfit
  | ('*' :: cs, a :: args) =>
    match a.whole? with
    | none => .error .misfit
    | some n => (use n).map fun p => (p, cs, args)
  | (cs, args) =>
    let (n, cs) := takeNumber 0 cs
    if most < n then .error .misfit else (use n).map fun p => (p, cs, args)

def takePlaces (p : Placeholder) : Rest → Except Unfilled (Placeholder × Rest)
  | ('.' :: cs, args) => takeSize p.withPlaces Number.largestPlaces (cs, args)
  | rest => .ok (p, rest)

/-- A letter for the width of an integer says nothing. -/
def skipLength : List Char → List Char
  | c :: cs => if c = 'h' || c = 'l' || c = 'L' then cs else c :: cs
  | [] => []

def takePlaceholder (cs : List Char) (args : List Argument) :
    Except Unfilled (Placeholder × Rest) := do
  let (p, cs) := takeFlags .plain cs
  let (p, rest) ← takeSize p.withWidth Number.largestIndex (cs, args)
  let (p, cs, args) ← takePlaces p rest
  .ok (p, skipLength cs, args)

namespace Placeholder

def sign (p : Placeholder) (negative : Bool) : List Char :=
  if negative then ['-'] else if p.plus then ['+'] else if p.gap then [' '] else []

/-- Only numbers are filled up with zeros, between `lead` and `body`. -/
def laid (p : Placeholder) (numeric : Bool) (lead : List Char) (body : Thunk (List Char)) :
    Thunk String :=
  Thunk.mk fun _ =>
    let body := body.get
    let gap := p.width - (codesOf (lead ++ body)).length
    String.ofList (
      if p.left then lead ++ body ++ List.replicate gap ' '
      else if numeric && p.zeros then lead ++ List.replicate gap '0' ++ body
      else List.replicate gap ' ' ++ lead ++ body)

def text (p : Placeholder) (s : String) : Thunk String :=
  p.laid false [] (match p.places with
    | some n => ((codes s).take n).flatMap Code.chars
    | none => s.toList)

/-- The places are a least number of digits. -/
def whole (p : Placeholder) (marker : List Char) (digits : Nat → List Char) (n : Int) :
    Except Unfilled (Thunk String) :=
  let least := p.places.getD 0
  if Number.largestPlaces - 3 < least then .error (.failed .places)
  else
    let ds := digits n.natAbs
    .ok (p.laid true (p.sign (n < 0) ++ if p.marked then marker else [])
      (Thunk.mk fun _ => List.replicate (least - ds.length) '0' ++ ds))

/-- The digits of a real without its sign. -/
def realBody (p : Placeholder) (shape : Number.RealShape) : Number.Exact → List Char
  | .finite _ m e =>
    (Number.RealForm.mk shape (p.places.getD 6) p.marked).body (m * Nat.pow 2 e.toNat) (-e).toNat
  | .infinite _ => ['i', 'n', 'f']
  | .nan => ['n', 'a', 'n']

def real (p : Placeholder) (shape : Number.RealShape) (capital : Bool) (x : Float) :
    Thunk String :=
  let exact := Number.exact x
  p.laid true (p.sign exact.negative) (Thunk.mk fun _ =>
    let body := p.realBody shape exact
    if capital then body.map Char.toUpper else body)

def fill (p : Placeholder) (letter : Char) (a : Argument) : Except Unfilled (Thunk String) :=
  let real (shape : Number.RealShape) (capital : Bool) := a.toReal.map (p.real shape capital)
  let based (marker : List Char) (digits : Nat → List Char) := match a.whole? with
    | some n => p.whole marker digits n
    | none => .error .misfit
  match letter with
  | 's' => .ok (p.text a.shown)
  | 'r' => .ok (p.text (a.listed quoted))
  | 'a' => .ok (p.text (a.listed quotedAscii))
  | 'd' | 'i' | 'u' => a.toWhole.bind (p.whole [] (digits 10))
  | 'x' => based ['0', 'x'] (digits 16)
  | 'X' => based ['0', 'X'] (upperDigits 16)
  | 'o' => based ['0', 'o'] (digits 8)
  | 'c' => a.toCode.map fun c => p.laid false [] c.chars
  | 'e' => real .exponent false
  | 'E' => real .exponent true
  | 'f' => real .fixed false
  | 'F' => real .fixed true
  | 'g' => real .general false
  | 'G' => real .general true
  | _ => .error .misfit

end Placeholder

/-- The arguments in brackets; a single one keeps its comma. -/
def listed (args : List Argument) : String :=
  "(" ++ listedItems quoted args ++ (if args.length = 1 then ",)" else ")")

section

variable (room : Room)

/-- What a placeholder makes is as wide as it says, if there is memory for that. -/
def Placeholder.fillIn (p : Placeholder) (letter : Char) (a : Argument) :
    Except Unfilled (Thunk String) :=
  match p.fill letter a with
  | .error e => .error e
  | .ok s => if room.bytes < p.width then .error (.failed (.size .memory)) else .ok s

/-- `fuel` bounds the places still to be read; the length of the template is enough. -/
def fillFrom : Nat → List Char → List Argument → Except Unfilled (List (Thunk String))
  | 0, _, _ => .error .misfit
  | _ + 1, [], args => if args.isEmpty then .ok [] else .error .misfit
  | fuel + 1, '%' :: '%' :: cs, args => (fillFrom fuel cs args).map (Thunk.pure "%" :: ·)
  | fuel + 1, '%' :: cs, args =>
    match takePlaceholder cs args with
    | .ok (p, letter :: cs, a :: args) => do
      let s ← p.fillIn room letter a
      .ok (s :: (← fillFrom fuel cs args))
    | .ok _ => .error .misfit
    | .error e => .error e
  | fuel + 1, c :: cs, args => (fillFrom fuel cs args).map (Thunk.pure (String.singleton c) :: ·)

def fill (template : String) (args : List Argument) : Except Unfilled String :=
  let cs := template.toList
  (fillFrom room (cs.length + 1) cs args).map fun pieces => String.join (pieces.map Thunk.get)

def message (template : String) (args : List Argument) : Except MessageError String :=
  if args.isEmpty then .ok template
  else match fill room template args with
    | .ok s => .ok s
    | .error .misfit => .ok (template ++ " " ++ listed args)
    | .error (.failed e) => .error e

/-- Only a text has places to fill. -/
def messageOf (template : Argument) (args : List Argument) : Except MessageError String :=
  match template with
  | .text s => message room s args
  | a => .ok (if args.isEmpty then a.shown else a.shown ++ " " ++ listed args)

end

end Chip8.Text

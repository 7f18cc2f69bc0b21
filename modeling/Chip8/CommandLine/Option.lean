import Chip8.Path
import Chip8.Text.Numeral

/-!
The options of the command line: how they are spelled, abbreviated and told
apart from other arguments.
-/

namespace Chip8.CommandLine

inductive Setting where
  | help
  | scale
  | fullscreen
  | clock
  | palette
  | mute
  | strict
  | shiftVy
  | jumpVx
  | incrementI
  | logicVf
  deriving DecidableEq, Repr

/-- In the order in which they are listed. -/
def spellings : List (String × Setting) :=
  [("-h", .help), ("--help", .help), ("--scale", .scale), ("--fullscreen", .fullscreen),
   ("--clock", .clock), ("--palette", .palette), ("--mute", .mute), ("--strict", .strict),
   ("--shift-vy", .shiftVy), ("--jump-vx", .jumpVx), ("--increment-i", .incrementI),
   ("--logic-vf", .logicVf)]

namespace Setting

def takesValue : Setting → Bool
  | scale | clock | palette => true
  | _ => false

/-- All spellings. -/
def name (s : Setting) : String :=
  "/".intercalate ((spellings.filter (·.2 = s)).map (·.1))

end Setting

inductive UsageError where
  | ambiguous (argument : String) (candidates : List String)
  | valueExpected (s : Setting)
  | valueIgnored (s : Setting) (text : String)
  | notWhole (s : Setting) (text : String)
  | notChoice (s : Setting) (text : String) (choices : List String)
  | romRequired
  | unrecognized (arguments : List String)
  | romMissing (path : Path)
  | scaleNotPositive
  | clockNotPositive
  deriving DecidableEq, Repr

def UsageError.message : UsageError → String
  | .ambiguous argument candidates =>
    "ambiguous option: " ++ argument ++ " could match " ++ ", ".intercalate candidates
  | .valueExpected s => "argument " ++ s.name ++ ": expected one argument"
  | .valueIgnored s text =>
    "argument " ++ s.name ++ ": ignored explicit argument " ++ Text.quoted text
  | .notWhole s text => "argument " ++ s.name ++ ": invalid int value: " ++ Text.quoted text
  | .notChoice s text choices =>
    "argument " ++ s.name ++ ": invalid choice: " ++ Text.quoted text ++ " (choose from " ++
      ", ".intercalate (choices.map Text.quoted) ++ ")"
  | .romRequired => "the following arguments are required: rom"
  | .unrecognized arguments => "unrecognized arguments: " ++ " ".intercalate arguments
  | .romMissing path => "ROM file not found: " ++ path.text
  | .scaleNotPositive => "--scale must be positive"
  | .clockNotPositive => "--clock must be positive"

/-- An option as it is written: by its letter or by its name, and perhaps with a
text behind `=` or right behind the letter. -/
structure Spelled where
  setting : Setting
  short : Bool
  text : Option String
  deriving DecidableEq, Repr

/-- What an argument is, before options take their values. -/
inductive Role where
  | plain
  | separator
  | option (o : Spelled)
  | unknown
  deriving DecidableEq, Repr

/-- Ends the options and is itself no value. -/
def separator : String := "--"

def setting? (spelling : String) : Option Setting :=
  (spellings.find? (·.1 = spelling)).map (·.2)

/-- Whether an option is spelled by its letter. -/
def isShort (spelling : String) : Bool := spelling.length = 2

/-- Before and behind the first `=`. -/
def cutAtEquals (s : String) : Option (String × String) :=
  let cs := s.toList
  match cs.dropWhile (· ≠ '=') with
  | [] => none
  | _ :: value => some (String.ofList (cs.takeWhile (· ≠ '=')), String.ofList value)

/-- The options that a spelling abbreviates. A single dash may be followed by
the letter of an option and a text. -/
def candidates (argument : String) : List (String × Spelled) :=
  match argument.toList with
  | '-' :: '-' :: _ =>
    let (start, text) := match cutAtEquals argument with
      | some (start, text) => (start, some text)
      | none => (argument, none)
    (spellings.filter fun o => start.toList.isPrefixOf o.1.toList).map fun o =>
      (o.1, ⟨o.2, false, text⟩)
  | dash :: letter :: rest =>
    let short := String.ofList [dash, letter]
    (spellings.filter (·.1 = short)).map fun o => (o.1, ⟨o.2, true, some (String.ofList rest)⟩)
  | _ => []

def isDigitText (cs : List Char) : Bool := cs.all fun c => (Text.decimalDigit? c).isSome

/-- A minus sign before digits, with at most one point among them. -/
def isNegativeNumber (cs : List Char) : Bool :=
  match cs with
  | '-' :: ds =>
    let ds := if ds.getLast? = some '\n' then ds.dropLast else ds
    match ds.dropWhile (· ≠ '.') with
    | [] => !ds.isEmpty && isDigitText ds
    | _ :: fraction =>
      isDigitText (ds.takeWhile (· ≠ '.')) && !fraction.isEmpty && isDigitText fraction
  | _ => false

/-- The role of an argument before any separator. -/
def role (argument : String) : Except UsageError Role :=
  match argument.toList with
  | '-' :: _ :: _ =>
    match setting? argument with
    | some s => .ok (.option ⟨s, isShort argument, none⟩)
    | none =>
      match (cutAtEquals argument).bind fun p =>
          (setting? p.1).map fun s => Spelled.mk s (isShort p.1) (some p.2) with
      | some o => .ok (.option o)
      | none =>
        match candidates argument with
        | [(_, o)] => .ok (.option o)
        | [] =>
          if isNegativeNumber argument.toList || argument.toList.contains ' ' then .ok .plain
          else .ok .unknown
        | many => .error (.ambiguous argument (many.map (·.1)))
  | _ => .ok .plain

/-- Behind a separator every argument is plain. -/
def roles : List String → Except UsageError (List (String × Role))
  | [] => .ok []
  | argument :: rest =>
    if argument = separator then .ok ((argument, .separator) :: rest.map fun a => (a, .plain))
    else do
      let r ← role argument
      let others ← roles rest
      .ok ((argument, r) :: others)

end Chip8.CommandLine

import Chip8.CommandLine.Option
import Chip8.Frontend.Basic

/-!
Reading the arguments of the command line into a configuration.
-/

namespace Chip8.CommandLine

structure Arguments where
  rom : Option String
  extras : List String
  config : Config
  /-- Settings whose value was dropped. -/
  emptied : List Setting

/-- Why reading arguments ends early: help was asked for, or a mistake. -/
inductive Stop where
  | help
  | usage (e : UsageError)
  deriving DecidableEq, Repr

def paletteNames : List String := Palette.named.map (·.1)

def whole (s : Setting) (text : String) : Except Stop Int :=
  match Text.readInt 10 text with
  | some n => .ok n
  | none => .error (.usage (.notWhole s text))

/-- Settings without a value ignore `text`. -/
def assign (c : Config) (s : Setting) (text : String) : Except Stop Config :=
  match s with
  | .help => .error .help
  | .scale => (whole s text).map fun n => { c with scale := .whole n }
  | .clock => (whole s text).map fun n => { c with clockHz := .whole n }
  | .palette =>
    if text ∈ paletteNames then .ok { c with palette := text }
    else .error (.usage (.notChoice s text paletteNames))
  | .fullscreen => .ok { c with fullscreen := true }
  | .mute => .ok { c with sound := false }
  | .strict => .ok { c with strict := true }
  | .shiftVy => .ok { c with dialect.shiftReadsVy := true }
  | .jumpVx => .ok { c with dialect.jumpReadsVx := true }
  | .incrementI => .ok { c with dialect.transferAdvancesIndex := true }
  | .logicVf => .ok { c with dialect.logicClearsFlag := true }

/-- A value that is only the separator is dropped, and the setting has none. -/
def Arguments.set (a : Arguments) (s : Setting) (text : String) : Except Stop Arguments :=
  let others := a.emptied.filter (· ≠ s)
  if s.takesValue && text = separator then .ok { a with emptied := s :: others }
  else (assign a.config s text).map fun config => { a with config, emptied := others }

/-- Letters behind that of an option must be options of their own; what is left
from the first one that is not has no use. -/
def readLetters (s : Setting) : List Char → Except Stop Unit
  | [] => .ok ()
  | letter :: rest =>
    match setting? (String.ofList ['-', letter]) with
    | some next => readLetters next rest
    | none => .error (.usage (.valueIgnored s (String.ofList (letter :: rest))))

/-- An option whose value, if it takes one, is written together with it. -/
def Arguments.setSpelled (a : Arguments) (o : Spelled) : Except Stop Arguments :=
  let s := o.setting
  match o.text with
  | none => a.set s ""
  | some text =>
    if s.takesValue then a.set s text
    else if o.short && text ≠ "" then (readLetters s text.toList).bind fun () => a.set s text
    else .error (.usage (.valueIgnored s text))

/-- The first plain argument names the program; a separator right beside it is
dropped. All else that no option takes is left over. -/
def Arguments.read (a : Arguments) : List (String × Role) → Except Stop Arguments
  | [] => .ok a
  | (_, .option o) :: rest =>
    if o.setting.takesValue && o.text.isNone then
      match rest with
      | (value, .plain) :: rest =>
        match a.set o.setting value with
        | .error e => .error e
        | .ok a => a.read rest
      | _ => .error (.usage (.valueExpected o.setting))
    else match a.setSpelled o with
      | .error e => .error e
      | .ok a => a.read rest
  | (text, .plain) :: rest =>
    if a.rom.isSome then { a with extras := a.extras ++ [text] }.read rest
    else match rest with
      | (_, .separator) :: rest => { a with rom := some text }.read rest
      | rest => { a with rom := some text }.read rest
  | (text, .separator) :: rest =>
    if a.rom.isSome then { a with extras := a.extras ++ [text] }.read rest
    else match rest with
      | (name, .plain) :: rest => { a with rom := some name }.read rest
      | rest => { a with extras := a.extras ++ [text] }.read rest
  | (text, .unknown) :: rest => { a with extras := a.extras ++ [text] }.read rest

/-- What the command line asks for. -/
structure Request where
  config : Config
  /-- Settings that stand without a value. -/
  emptied : List Setting

/-- A missing program is reported before arguments left over. -/
def Arguments.toRequest (a : Arguments) : Except Stop Request :=
  match a.rom with
  | none => .error (.usage .romRequired)
  | some rom =>
    if a.extras.isEmpty then .ok ⟨{ a.config with romPath := some (.ofString rom) }, a.emptied⟩
    else .error (.usage (.unrecognized a.extras))

def parse (argv : List String) : Except Stop Request :=
  match roles argv with
  | .error e => .error (.usage e)
  | .ok tokens => ((⟨none, [], .standard, []⟩ : Arguments).read tokens).bind Arguments.toRequest

end Chip8.CommandLine

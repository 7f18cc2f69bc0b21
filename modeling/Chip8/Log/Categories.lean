import Chip8.Text.Blank
import Chip8.Text.Lower
import Chip8.Text.Refusal

/-!
Log categories. A setting names them between commas, `all` turns on every one,
and a line is written when its category is on.
-/

namespace Chip8

/-- Sorted, without repetition. -/
structure Categories where
  names : List String
  deriving DecidableEq, Repr

namespace Categories

def none : Categories := ⟨[]⟩

def insert (name : String) : List String → List String
  | [] => [name]
  | n :: ns =>
    if name = n then n :: ns
    else if name < n then name :: n :: ns
    else n :: insert name ns

/-- A setting is read as the system gives it back. -/
def ofSetting (setting : String) : Categories :=
  let parts := (Text.cutAt ',' (Text.systemText setting).toList).map fun cs =>
    Text.lower (String.ofList (Text.trimBy Text.isBlank cs))
  ⟨(parts.filter (· ≠ "")).foldr insert []⟩

/-- Whether any category is on. -/
def active (c : Categories) : Bool := !c.names.isEmpty

def enabled (c : Categories) (category : String) : Bool :=
  c.names.contains "all" || c.names.contains (Text.lower category)

end Categories

/-- A setting and the categories read from it; they differ after the setting
changed and until it is read again. -/
structure LogSetting where
  setting : Option String
  categories : Categories

namespace LogSetting

def ofSetting (setting : Option String) : LogSetting :=
  ⟨setting, .ofSetting (setting.getD "")⟩

/-- A new setting, which is not read yet. -/
def change (s : LogSetting) : Option String → Except Text.Refusal LogSetting
  | none => .ok { s with setting := none }
  | some setting => match Text.refusal? setting with
    | some r => .error r
    | none => .ok { s with setting := some setting }

def reload (s : LogSetting) : LogSetting := .ofSetting s.setting

end LogSetting

/-- A printed line, with its end. -/
def logLine (category text : String) : String :=
  "[CHIP8][" ++ category ++ "] " ++ text ++ "\n"

end Chip8

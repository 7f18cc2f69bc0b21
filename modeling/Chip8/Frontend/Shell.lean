import Chip8.Frontend.Frame
import Chip8.Text.Numeral

/-!
The debug shell: it shows the machine, and its only commands that change
anything are reset and quit.
-/

namespace Chip8

inductive ShellCommand where
  | resume
  | cpu
  | screen
  | trace
  | reset
  | memory (argument : String)
  | quit
  | unknown
  deriving DecidableEq, Repr

namespace ShellCommand

/-- What a line says. -/
def word (line : String) : String := Text.lower (Text.trim line)

def ofWord (command : String) : ShellCommand :=
  if command ∈ ["", "resume"] then .resume
  else if command ∈ ["c", "cpu"] then .cpu
  else if command ∈ ["s", "screen"] then .screen
  else if command ∈ ["t", "trace"] then .trace
  else if command ∈ ["r", "reset"] then .reset
  else if command.toList.head? = some 'm' then
    .memory (Text.trim (String.ofList command.toList.tail))
  else if command ∈ ["q", "quit", "exit"] then .quit
  else .unknown

def read (line : String) : ShellCommand := ofWord (word line)

end ShellCommand

namespace Frontend

def sayCpu (f : Frontend) : Frontend := f.sayLines f.machine.describe

def defaultTraceLimit : Int := 64

def sayLatest (f : Frontend) (limit : Option Int) : Frontend :=
  match f.trace with
  | none => f.sayLine "Trace recorder is disabled. Set CHIP8_DEBUG=trace to enable it."
  | some t =>
    let lines := t.lines limit
    if lines.isEmpty then f.sayLine "Trace buffer is empty."
    else f.sayLines ("Last trace entries:" :: lines.map ("  " ++ ·))

def defaultDumpLength : Int := 0x40

/-- Start and length of a dump: no argument, a start, or both. -/
inductive DumpRange where
  | range (start length : Int)
  | unreadable
  | blank
  deriving DecidableEq, Repr

def DumpRange.read (pc : Int) (argument : String) : DumpRange :=
  if argument.isEmpty then .range pc defaultDumpLength
  else match Text.words argument with
    | [] => .blank
    | start :: rest =>
      match Text.readInt 16 start with
      | none => .unreadable
      | some start =>
        match rest with
        | [] => .range start defaultDumpLength
        | length :: _ =>
          match Text.readInt 10 length with
          | none => .unreadable
          | some length => .range start length

/-- An argument of blanks alone has no start to read. -/
def sayMemory (f : Frontend) (argument : String) : Frontend × Except FrontendError Unit :=
  match DumpRange.read f.machine.regs.pc argument with
  | .blank => (f, .error .argumentMissing)
  | .unreadable => (f.sayLine "Usage: m [start_hex] [length]", .ok ())
  | .range start length =>
    if length ≤ 0 then (f.sayLine "Length must be positive.", .ok ())
    else (f.sayLines (f.machine.dump start length), .ok ())

def resetMachine (f : Frontend) : Frontend := (f.adopt f.machine.reset).sayLine "Machine reset."

/-- Runs a command; says whether the shell stays open. -/
def shellCommand (f : Frontend) : ShellCommand → Frontend × Bool
  | .resume => (f, false)
  | .cpu => (f.sayCpu, true)
  | .screen => (f.sayLine (f.machine.screen.text "#" "."), true)
  | .trace => (f.sayLatest (some defaultTraceLimit), true)
  | .reset => (f.resetMachine, true)
  | .memory argument => ((f.sayMemory argument).1, true)
  | .quit => ({ f.sayLine "Exiting emulator." with running := false }, false)
  | .unknown =>
    (f.sayLine "Commands: [Enter]=resume, [c]pu, [m]em, [s]creen, [t]race, [r]eset, [q]uit", true)

def promptText : String := "debug> "

def prompt (f : Frontend) : Frontend := f.say promptText

def leaveShell (f : Frontend) : Frontend := f.prompt.sayLine "Resuming emulator."

/-- Reads commands while the frontend runs, until one closes the shell; returns
the lines left. -/
def shellLines (f : Frontend) : List Typed → Frontend × List Typed
  | [] => (if f.running then f.leaveShell else f, [])
  | .broken :: rest => if f.running then (f.leaveShell, rest) else (f, .broken :: rest)
  | .line s :: rest =>
    if f.running then
      match f.prompt.shellCommand (.read s) with
      | (f, true) => f.shellLines rest
      | (f, false) => (f, rest)
    else (f, .line s :: rest)

def openShell (f : Frontend) : Frontend :=
  f.sayLines
    ["", "=== CHIP-8 Debug Menu ===",
     "Enter command: [c]pu, [m]em, [s]creen, [t]race, [r]eset, [q]uit, [Enter] resume"]

/-- Drops the events that came while the shell was open. -/
def closeShell (f : Frontend) (typed : List Typed) : Frontend :=
  let f := { f with host := { f.host with typed } }
  if f.window then f.call .clearEvents else f

def shell (f : Frontend) : Frontend :=
  let (f, typed) := f.openShell.shellLines f.host.typed
  f.closeShell typed

end Frontend

end Chip8

import Chip8.CommandLine.Arguments
import Chip8.CommandLine.Help
import Chip8.Frontend.Loop

/-!
The program as started from the command line: its exit code and what it prints.
-/

namespace Chip8.CommandLine

/-- How the program ends: by itself, with an exit code of its own choice, or by
an error that it does not handle. -/
inductive Ending where
  | finished
  | exited (code : Nat)
  | escaped (e : FrontendError)
  | unset (s : Setting)
  deriving DecidableEq, Repr

/-- A setting without a value is no number to compare, and no name. -/
def unsetMessage (s : Setting) : String :=
  if s = .palette then "'list' object has no attribute 'lower'"
  else "'<=' not supported between instances of 'list' and 'int'"

structure Launch where
  ending : Ending
  host : Host
  output : String
  errors : String

def usageText (e : UsageError) : String :=
  usage ++ programName ++ ": error: " ++ e.message ++ "\n"

def Launch.stopped (h : Host) : Stop → Launch
  | .help => ⟨.exited 0, h, help, ""⟩
  | .usage e => ⟨.exited 2, h, "", usageText e⟩

/-- Errors of the frontend itself end the program with a message. -/
def isHandled : FrontendError → Bool
  | .libraryMissing | .romRequired | .romMissing _ | .romRejected .. | .stopped .. => true
  | .machineRejected _ (.programTooLarge _) => true
  | _ => false

def Launch.ofRun (r : Run) : Launch :=
  match r.result with
  | .ok () => ⟨.finished, r.host, r.output, ""⟩
  | .error e =>
    if isHandled e then
      ⟨.exited 1, r.host, r.output, programName ++ ": " ++ e.message ++ "\n"⟩
    else ⟨.escaped e, r.host, r.output, ""⟩

/-- Ends the program before anything is printed. -/
def Launch.silent (h : Host) (e : Ending) : Launch := ⟨e, h, "", ""⟩

/-- What is checked before the frontend is set up. -/
def precheck (r : Request) (files : Files) (h : Host) : Except Launch Unit :=
  let usage (e : UsageError) := Except.error (Launch.stopped h (.usage e))
  let unset (s : Setting) := Except.error (Launch.silent h (.unset s))
  match r.config.romPath with
  | none => usage .romRequired
  | some path =>
    match files.holds path with
    | .error e => .error (.silent h (.escaped (.romUnreadable path e)))
    | .ok false => usage (.romMissing path)
    | .ok true =>
      if .scale ∈ r.emptied then unset .scale
      else if !r.config.scale.isPositive then usage .scaleNotPositive
      else if .clock ∈ r.emptied then unset .clock
      else if !r.config.clockHz.isPositive then usage .clockNotPositive
      else if .palette ∈ r.emptied then unset .palette
      else .ok ()

def launch (argv : List String) (files : Files) (categories : Categories) (entropy : Entropy)
    (h : Host) : Launch :=
  match parse argv with
  | .error s => .stopped h s
  | .ok r =>
    match precheck r files h with
    | .error l => l
    | .ok () =>
      match r.config.check with
      | .error e => .silent h (.escaped (.invalid e))
      | .ok palette => .ofRun (r.config.run palette categories entropy files h)

end Chip8.CommandLine

import Chip8.CommandLine.Launch

/-!
The command line. Window and sound need a library that is not linked here, so a
run ends where that library is asked for.
-/

namespace Chip8.Main

/-- What lies at a path of the file system; of a file, as much as will be read. -/
def nodeAt (path : String) : IO (Option FileNode) := do
  try
    let file ← IO.FS.Handle.mk path .read
    return some (.file (.bytes (← file.read (programCapacity + 1).toUSize).data))
  catch
    | .inappropriateType .. => return some .directory
    | _ => return none

def filesFor (argv : List String) : IO Files := do
  match CommandLine.parse argv with
  | .error _ => return []
  | .ok r =>
    match r.config.romPath with
    | none => return []
    | some path =>
      match ← nodeAt path.text with
      | none => return []
      | some node => return Files.only path node

end Chip8.Main

open Chip8 in
def main (argv : List String) : IO UInt32 := do
  let files ← Chip8.Main.filesFor argv
  let categories := Categories.ofSetting ((← IO.getEnv "CHIP8_DEBUG").getD "")
  let host := { Host.quiet with missing := true }
  let launched := CommandLine.launch argv files categories (.cycle #[]) host
  IO.print launched.output
  IO.eprint launched.errors
  match launched.ending with
  | .finished => return 0
  | .exited code => return code.toUInt32
  | .escaped e =>
    IO.eprintln e.message
    return 1
  | .unset s =>
    IO.eprintln (CommandLine.unsetMessage s)
    return 1

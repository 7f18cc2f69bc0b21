import Chip8.Path

/-!
A tree of files, where a path leads in it, and making files and directories.
Places are lists of names from the root down; a path without a root starts at
the current directory.
-/

namespace Chip8

/-- What a file gives to a reader. -/
inductive Contents where
  | bytes (data : Array UInt8)
  /-- As many bytes as are asked for. -/
  | endless
  deriving DecidableEq, Repr

inductive FileNode where
  | file (contents : Contents)
  /-- A file that may not be opened. -/
  | locked
  | directory
  deriving DecidableEq, Repr

/-- Why a path leads to no file, or nothing can be made there. -/
inductive PathFault where
  | missing
  | denied
  | present
  | directory
  | notDirectory
  | nameTooLong
  | refused (r : Text.Refusal)
  deriving DecidableEq, Repr

def PathFault.message (e : PathFault) (p : Path) : String :=
  match e with
  | missing => "[Errno 2] No such file or directory: " ++ Text.quoted p.text
  | denied => "[Errno 13] Permission denied: " ++ Text.quoted p.text
  | present => "[Errno 17] File exists: " ++ Text.quoted p.text
  | directory => "[Errno 21] Is a directory: " ++ Text.quoted p.text
  | notDirectory => "[Errno 20] Not a directory: " ++ Text.quoted p.text
  | nameTooLong => "[Errno 36] File name too long: " ++ Text.quoted p.text
  | refused r => r.message

/-- What lies at a place; directories on the way to it need not be listed. -/
abbrev Files := List (List String × FileNode)

namespace Files

/-- The current directory, whose name no path can spell. -/
def current : List String := ["tmp", ""]

def start (p : Path) : List String := if p.root.isEmpty then current else []

def rootNames : List String :=
  ["bin", "boot", "dev", "etc", "home", "lib", "lib64", "media", "mnt", "opt", "proc", "root",
   "run", "sbin", "srv", "sys", "tmp", "usr", "var"]

/-- Files that keep nothing of what is written to them. -/
def devices : Files :=
  (["dev", "null"], .file (.bytes #[])) ::
    ["zero", "full", "random", "urandom"].map fun n => (["dev", n], .file .endless)

/-- What there is before any file is made. -/
def standard : Files :=
  (current, .directory) :: devices ++ rootNames.map fun n => ([n], .directory)

def node? (files : Files) (place : List String) : Option FileNode :=
  match files.find? (·.1 = place) with
  | some entry => some entry.2
  | none =>
    if place.isEmpty || files.any (fun entry => place.isPrefixOf entry.1) then some .directory
    else none

/-- The most bytes of one name, and of a path with the zero byte that ends it. -/
def nameLimit : Nat := 255
def pathLimit : Nat := 4096

/-- The root is its own parent. Names are alike where their bytes are. -/
def next (place : List String) (part : String) : List String :=
  if part = ".." then place.dropLast else place ++ [Text.systemText part]

/-- The place that a name leads to from a place, which has to be a directory. -/
def enter (files : Files) (place : List String) (part : String) : Except PathFault (List String) :=
  match files.node? place with
  | none => .error .missing
  | some (.file _) | some .locked => .error .notDirectory
  | some .directory =>
    if part ≠ ".." && nameLimit < (Text.systemBytes part).length then .error .nameTooLong
    else .ok (next place part)

/-- The place that a path leads to, whether or not there is anything. -/
def locate (files : Files) (p : Path) : Except PathFault (List String) :=
  match Text.refusal? p.text with
  | some r => .error (.refused r)
  | none =>
    if pathLimit ≤ (Text.systemBytes p.text).length then .error .nameTooLong
    else p.parts.foldlM files.enter (start p)

def find (files : Files) (p : Path) : Except PathFault FileNode :=
  match files.locate p with
  | .error e => .error e
  | .ok place => match files.node? place with
    | some node => .ok node
    | none => .error .missing

def read (files : Files) (p : Path) : Except PathFault Contents :=
  match files.find p with
  | .ok (.file contents) => .ok contents
  | .ok .locked => .error .denied
  | .ok .directory => .error .directory
  | .error e => .error e

/-- Whether a path leads anywhere; one that is too long is refused. -/
def holds (files : Files) (p : Path) : Except PathFault Bool :=
  match files.find p with
  | .ok _ => .ok true
  | .error .nameTooLong => .error .nameTooLong
  | .error _ => .ok false

def write (files : Files) (p : Path) (data : Array UInt8) : Except PathFault Files :=
  match files.locate p with
  | .error e => .error e
  | .ok place => match files.node? place with
    | some .directory => .error .directory
    | some .locked => .error .denied
    | _ =>
      if devices.any (·.1 = place) then .ok files
      else .ok ((place, .file (.bytes data)) :: files)

def makeDirectory (files : Files) (p : Path) : Except PathFault Files :=
  match files.locate p with
  | .error e => .error e
  | .ok place =>
    if (files.node? place).isSome then .error .present else .ok ((place, .directory) :: files)

/-- A directory that could not be made may be there already. -/
def settle (files : Files) (p : Path) : Except (Path × PathFault) Files :=
  match files.makeDirectory p with
  | .ok files => .ok files
  | .error e => match files.find p with
    | .ok .directory => .ok files
    | _ => .error (p, e)

/-- Sees to a directory and those above it; `parts` come from the last to the
first. The path that could not be made is told with its fault. -/
def ensure (files : Files) (root : String) (parts : List String) :
    Except (Path × PathFault) Files :=
  match parts with
  | [] => .ok files
  | part :: above =>
    let p : Path := ⟨root, (part :: above).reverse⟩
    match files.makeDirectory p with
    | .error .missing => (ensure files root above).bind fun files => files.settle p
    | _ => files.settle p

/-- Sees to the directories above a path. -/
def ensureAbove (files : Files) (p : Path) : Except (Path × PathFault) Files :=
  files.ensure p.root (p.parts.reverse.drop 1)

/-- The places that a path goes through. -/
def passed (place : List String) : List String → List (List String)
  | [] => []
  | part :: rest => next place part :: passed (next place part) rest

/-- A node at a path, and nothing else. -/
def only (p : Path) (node : FileNode) : Files :=
  (p.parts.foldl next (start p), node) ::
    (passed (start p) p.parts.dropLast).map fun place => (place, .directory)

end Files

end Chip8

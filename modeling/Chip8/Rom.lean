import Chip8.Files
import Chip8.Log.Event
import Chip8.Memory

/-!
Program images as they are read, from a stream in memory or from a file: at least
one byte and at most a limit.
-/

namespace Chip8

inductive RomError where
  | empty
  | exceeds (limit : Int)
  | count
  | size (e : SizeError)
  deriving DecidableEq, Repr

/-- A limit may be told whatever its length: no stream takes one beyond the range of an index. -/
def RomError.message : RomError → String
  | .empty => "ROM image is empty"
  | .exceeds limit => "ROM image exceeds " ++ Text.decimal 0 limit ++ " bytes"
  | .count => "read length must be non-negative or -1"
  | .size e => e.message

namespace Rom

/-- One byte beyond the limit is enough to see that there are too many; a
negative count reads everything. -/
def readUpTo (count : Int) (data : Array UInt8) : Array UInt8 :=
  if count < 0 then data else data.extract 0 count.toNat

def load (limit : Int) (data : Array UInt8) : Except RomError (Array UInt8) :=
  let image := readUpTo (limit + 1) data
  if image.size = 0 then .error .empty
  else if limit < image.size then .error (.exceeds limit)
  else .ok image

/-- From a stream in memory. -/
def loadBytes (limit : Int) (data : Array UInt8) : Except RomError (Array UInt8) :=
  if Number.isIndex (limit + 1) then load limit data else .error (.size .index)

/-- The largest block of bytes; the rest of the range goes to its header. -/
def largestBlock : Int := Number.largestIndex - 33

/-- An endless file gives one byte too many, and has no whole to read. -/
def loadContents (limit : Int) : Contents → Except RomError (Array UInt8)
  | .bytes data => load limit data
  | .endless =>
    if limit + 1 < 0 then .error (.size .memory)
    else if limit + 1 = 0 then .error .empty
    else .error (.exceeds limit)

/-- A file takes no count below minus one, and room for the whole count. -/
def loadFile (room : Room) (limit : Int) (contents : Contents) :
    Except RomError (Array UInt8) :=
  if !Number.isIndex (limit + 1) then .error (.size .index)
  else if limit + 1 < -1 then .error .count
  else if largestBlock < limit + 1 then .error (.size .block)
  else if room.bytes < limit + 1 then .error (.size .memory)
  else loadContents limit contents

/-- What there is to say of an image that was read. -/
def events : Except RomError (Array UInt8) → List Event
  | .error _ => []
  | .ok image =>
    (if image.size % 2 = 1 then [.oddImage image.size] else []) ++ [.imageRead image.size]

end Rom

end Chip8

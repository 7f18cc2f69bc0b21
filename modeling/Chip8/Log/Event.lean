import Chip8.Instruction.Table
import Chip8.Log.Categories

/-!
What the machine has to say about its work: every event has a category and a
text. Events are values; whether one is printed is decided by the categories
that are on.
-/

namespace Chip8

inductive Event where
  | fetched (pc : Int) (word : Word) (instruction : Option Instruction)
  | unknownIgnored (word : Word) (pc : Int)
  | nativeIgnored (address : Nat)
  | randomFailed (reason : String)
  | writeIgnored (address : Nat) (value : UInt8)
  | keyDown (index : Fin 16)
  | keyUp (index : Fin 16)
  | unmappedPress (name : String)
  | unmappedRelease (name : String)
  | keyOutOfRange (value : UInt8)
  | keyWaitResolved (register : Fin 16) (index : Int)
  | keyEvent (name : String) (pressed : Bool)
  | oddImage (length : Nat)
  | imageRead (length : Nat)
  deriving DecidableEq

namespace Event

def category : Event → String
  | fetched .. | unknownIgnored .. | nativeIgnored .. | randomFailed .. => "cpu"
  | writeIgnored .. => "memory"
  | keyDown .. | keyUp .. | unmappedPress .. | unmappedRelease .. | keyOutOfRange ..
  | keyWaitResolved .. | keyEvent .. => "input"
  | oddImage .. | imageRead .. => "loader"

def text : Event → String
  | fetched pc word i =>
    Text.hex 3 pc ++ " " ++ Text.hex 4 word.val ++ " " ++
      ((Instruction.text i word).toOption).getD ""
  | unknownIgnored word pc =>
    "unknown opcode " ++ Text.hex 4 word.val ++ " at " ++ Text.hex 3 pc ++ " ignored"
  | nativeIgnored address => "SYS #" ++ Text.hex 3 address ++ " ignored"
  | randomFailed reason => "random source failed: " ++ reason
  | writeIgnored address value =>
    "ignored write addr=" ++ Text.lowerHex 3 address ++ " val=" ++ Text.lowerHex 2 value.toNat
  | keyDown index => "key_down=" ++ Text.hex 0 index.val
  | keyUp index => "key_up=" ++ Text.hex 0 index.val
  | unmappedPress name => "unmapped_press=" ++ name
  | unmappedRelease name => "unmapped_release=" ++ name
  | keyOutOfRange value =>
    "key index " ++ Text.hex 2 value.toNat ++ " out of range treated as released"
  | keyWaitResolved register index =>
    "key wait resolved V" ++ Text.hex 0 register.val ++ "=" ++ Text.hex 0 index
  | keyEvent name pressed =>
    "event=" ++ name ++ " pressed=" ++ (if pressed then "True" else "False")
  | oddImage length => "odd ROM length=" ++ Text.decimal 0 length
  | imageRead length => "read " ++ Text.decimal 0 length ++ " bytes of ROM"

end Event

/-- The lines of the events whose category is on. -/
def Categories.print (c : Categories) (events : List Event) : String :=
  String.join ((events.filter fun e => c.enabled e.category).map fun e => logLine e.category e.text)

end Chip8

import Chip8.Text.Code
import Chip8.Text.Radix

/-!
The texts that the system takes as names and settings. It takes them for their
bytes. They hold no null character, and of the halves of pairs only those that
stand for a byte.
-/

namespace Chip8.Text

inductive Refusal where
  | nullCharacter
  /-- Halves from `first` to `last`; `code` is that of the first one. -/
  | halves (first last code : Nat)
  deriving DecidableEq, Repr

def Refusal.message : Refusal → String
  | .nullCharacter => "embedded null byte"
  | .halves first last code =>
    let place := if first = last then
        " '\\u" ++ lowerHex 4 code ++ "' in position " ++ decimal 0 first
      else "s in position " ++ decimal 0 first ++ "-" ++ decimal 0 last
    "'utf-8' codec can't encode character" ++ place ++ ": surrogates not allowed"

/-- The byte that a half stands for. -/
def Code.byte? : Code → Option UInt8
  | char _ => none
  | half k => if 0x480 ≤ k.val && k.val < 0x500 then some (UInt8.ofNat (k.val - 0x400)) else none

/-- The half for a byte that is part of no character. -/
def ofByte (b : UInt8) : Code := .ofNat (0xdc00 + b.toNat)

/-- The first halves that stand for no bytes, with all halves behind them;
`place` is that of the first code. -/
def refusedHalves? (place : Nat) : List Code → Option Refusal
  | [] => none
  | c :: cs =>
    if c.isHalf && c.byte?.isNone then
      some (.halves place (place + (cs.takeWhile Code.isHalf).length) c.number)
    else refusedHalves? (place + 1) cs

def refusal? (s : String) : Option Refusal :=
  match refusedHalves? 0 (codes s) with
  | some r => some r
  | none => if s.toList.contains '\x00' then some .nullCharacter else none

/-- The bytes that the system takes a text for. -/
def systemBytes (s : String) : List UInt8 :=
  (codes s).flatMap fun
    | .char c => String.utf8EncodeChar c
    | .half k => (Code.half k).byte?.toList

/-- The character in front, if the bytes there are one. -/
def leading? (bs : List UInt8) : Option Char := (bs.take 4).toByteArray.utf8DecodeChar? 0

/-- `skip` bytes belong to the character before them. -/
def codesOfBytes (skip : Nat) : List UInt8 → List Code
  | [] => []
  | b :: bs => match skip with
    | n + 1 => codesOfBytes n bs
    | 0 => match leading? (b :: bs) with
      | some c => .char c :: codesOfBytes (c.utf8Size - 1) bs
      | none => ofByte b :: codesOfBytes 0 bs

/-- The text that the system gives back for one it took: halves whose bytes make
up a character come back as the character. -/
def systemText (s : String) : String := ofCodes (codesOfBytes 0 (systemBytes s))

end Chip8.Text

import Chip8.Text.Blank
import Chip8.Text.Radix

/-!
Reading a whole number from text: blanks around it, one sign, in base sixteen a
marker `0x`, digits of any script, and single underscores between digits.
-/

namespace Chip8.Text

/-- The zero of every run of ten decimal digits. -/
def zeroDigits : List Nat :=
  [0x30, 0x660, 0x6f0, 0x7c0, 0x966, 0x9e6, 0xa66, 0xae6, 0xb66, 0xbe6, 0xc66, 0xce6, 0xd66,
   0xde6, 0xe50, 0xed0, 0xf20, 0x1040, 0x1090, 0x17e0, 0x1810, 0x1946, 0x19d0, 0x1a80, 0x1a90,
   0x1b50, 0x1bb0, 0x1c40, 0x1c50, 0xa620, 0xa8d0, 0xa900, 0xa9d0, 0xa9f0, 0xaa50, 0xabf0,
   0xff10, 0x104a0, 0x10d30, 0x11066, 0x110f0, 0x11136, 0x111d0, 0x112f0, 0x11450, 0x114d0,
   0x11650, 0x116c0, 0x11730, 0x118e0, 0x11950, 0x11c50, 0x11d50, 0x11da0, 0x16a60, 0x16ac0,
   0x16b50, 0x1d7ce, 0x1d7d8, 0x1d7e2, 0x1d7ec, 0x1d7f6, 0x1e140, 0x1e2f0, 0x1e950, 0x1fbf0]

def decimalDigit? (c : Char) : Option Nat :=
  (zeroDigits.find? fun z => z ≤ c.toNat && c.toNat < z + 10).map (c.toNat - ·)

/-- Digits and blanks of every script as their ASCII forms; all else beyond
ASCII is no part of a number. -/
def plainNumeralChar (c : Char) : Char :=
  if c.toNat < 0x7f then c
  else if isBlank c then ' '
  else match decimalDigit? c with
    | some d => Char.ofNat (0x30 + d)
    | none => '?'

def isNumeralBlank (c : Char) : Bool :=
  c = ' ' || (0x09 ≤ c.toNat && c.toNat ≤ 0x0d)

def digitValue? (base : Nat) (c : Char) : Option Nat :=
  let v :=
    if '0' ≤ c && c ≤ '9' then some (c.toNat - '0'.toNat)
    else if 'a' ≤ c && c ≤ 'z' then some (c.toNat - 'a'.toNat + 10)
    else if 'A' ≤ c && c ≤ 'Z' then some (c.toNat - 'A'.toNat + 10)
    else none
  v.filter (· < base)

/-- `digit` says whether the character before is a digit: an underscore may
follow nothing else, and a number may end in nothing else. The count of digits
comes with the value. -/
def readDigits (base : Nat) (value count : Nat) (digit : Bool) : List Char → Option (Nat × Nat)
  | [] => if digit then some (value, count) else none
  | c :: cs =>
    if c = '_' then
      if digit then readDigits base value count false cs else none
    else match digitValue? base c with
      | some d => readDigits base (value * base + d) (count + 1) true cs
      | none => none

def withoutMarker (base : Nat) : List Char → List Char
  | '0' :: c :: rest =>
    if base = 16 && (c = 'x' || c = 'X') then
      match rest with
      | '_' :: tail => tail
      | _ => rest
    else '0' :: c :: rest
  | cs => cs

def readMagnitude (base : Nat) (cs : List Char) : Option Nat := do
  let (value, count) ← readDigits base 0 0 false (withoutMarker base cs)
  if base = 10 && digitLimit < count then none else some value

def readInt (base : Nat) (s : String) : Option Int :=
  match trimBy isNumeralBlank (s.toList.map plainNumeralChar) with
  | '-' :: cs => (readMagnitude base cs).map fun n => -(n : Int)
  | '+' :: cs => (readMagnitude base cs).map fun n => (n : Int)
  | cs => (readMagnitude base cs).map fun n => (n : Int)

end Chip8.Text

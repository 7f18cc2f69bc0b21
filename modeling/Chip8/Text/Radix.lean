/-!
Integers written in a radix, with a least width. The width counts the sign and
the radix marker, and the gap is filled with zeros behind them: `-1` in three
hexadecimal places is `-01`.
-/

namespace Chip8.Text

def digits (base n : Nat) : List Char := Nat.toDigits base n

def upperDigits (base n : Nat) : List Char := (digits base n).map Char.toUpper

/-- `marker` stands between the sign and the digits `ds` of the absolute value. -/
def zeroFilled (marker : List Char) (width : Nat) (negative : Bool) (ds : List Char) : String :=
  let sign := if negative then ['-'] else []
  let gap := width - (sign.length + marker.length + ds.length)
  String.ofList (sign ++ marker ++ List.replicate gap '0' ++ ds)

def hex (width : Nat) (n : Int) : String :=
  zeroFilled [] width (n < 0) (upperDigits 16 n.natAbs)

def lowerHex (width : Nat) (n : Int) : String :=
  zeroFilled [] width (n < 0) (digits 16 n.natAbs)

/-- Hexadecimal behind the marker `0x`. -/
def markedHex (width : Nat) (n : Int) : String :=
  zeroFilled ['0', 'x'] width (n < 0) (digits 16 n.natAbs)

/-- However long the number is. -/
def decimal (width : Nat) (n : Int) : String :=
  zeroFilled [] width (n < 0) (digits 10 n.natAbs)

/-- The most digits a number may have in a base that is no power of two. -/
def digitLimit : Nat := 4300

/-- Whether a number may be told in a text; one with more digits is refused there. -/
def isWritable (n : Int) : Bool := (digits 10 n.natAbs).length ≤ digitLimit

end Chip8.Text

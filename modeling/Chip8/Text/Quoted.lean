import Chip8.Text.Code
import Chip8.Text.Printable
import Chip8.Text.Radix

/-!
A text in quotes on one line. Double quotes are taken only where the text holds
single quotes and no double ones; a backslash, the quote and every code that is
not shown are escaped.
-/

namespace Chip8.Text

def singleQuote : Char := Char.ofNat 0x27
def doubleQuote : Char := Char.ofNat 0x22

def quoteFor (cs : List Char) : Char :=
  if cs.contains singleQuote && !cs.contains doubleQuote then doubleQuote else singleQuote

def escapeHex (letter : Char) (width n : Nat) : List Char :=
  '\\' :: letter :: (lowerHex width n).toList

/-- By its number. -/
def Code.escaped (c : Code) : List Char :=
  if c.number < 0x100 then escapeHex 'x' 2 c.number
  else if c.number < 0x10000 then escapeHex 'u' 4 c.number
  else escapeHex 'U' 8 c.number

/-- A half of a pair is never shown. -/
def escaped (shown : Char → Bool) (quote : Char) : Code → List Char
  | .half k => (Code.half k).escaped
  | .char c =>
    if c = quote || c = '\\' then ['\\', c]
    else if c = '\n' then ['\\', 'n']
    else if c = '\r' then ['\\', 'r']
    else if c = '\t' then ['\\', 't']
    else if shown c then (Code.char c).chars
    else (Code.char c).escaped

def quotedBy (shown : Char → Bool) (s : String) : String :=
  let quote := quoteFor s.toList
  String.ofList (quote :: (codes s).flatMap (escaped shown quote) ++ [quote])

def quoted (s : String) : String := quotedBy isPrintable s

def isAscii (c : Char) : Bool := c.toNat < 0x80

/-- Nothing beyond ASCII is shown. -/
def quotedAscii (s : String) : String := quotedBy (fun c => isAscii c && isPrintable c) s

end Chip8.Text

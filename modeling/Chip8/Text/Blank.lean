import Chip8.Text.Runs

/-!
Blank characters, trimming, and cutting a text at blanks, at line ends, or at a
mark.
-/

namespace Chip8.Text

/-- The code points of blanks, as first and last of a run. -/
def blankRuns : List (Nat × Nat) :=
  [(0x09, 0x0d), (0x1c, 0x20), (0x85, 0x85), (0xa0, 0xa0), (0x1680, 0x1680), (0x2000, 0x200a),
   (0x2028, 0x2029), (0x202f, 0x202f), (0x205f, 0x205f), (0x3000, 0x3000)]

def isBlank (c : Char) : Bool := inRuns blankRuns c

def trimBy (p : Char → Bool) (cs : List Char) : List Char :=
  ((cs.dropWhile p).reverse.dropWhile p).reverse

def trim (s : String) : String := String.ofList (trimBy isBlank s.toList)

/-- The words read so far in reverse, the current one in reverse as `word`. -/
def wordsFrom (word : List Char) : List Char → List String
  | [] => if word.isEmpty then [] else [String.ofList word.reverse]
  | c :: cs =>
    if isBlank c then
      if word.isEmpty then wordsFrom [] cs else String.ofList word.reverse :: wordsFrom [] cs
    else wordsFrom (c :: word) cs

/-- The maximal runs of characters that are not blank. -/
def words (s : String) : List String := wordsFrom [] s.toList

/-- The code points that end a line; all of them are blank. -/
def lineEndRuns : List (Nat × Nat) :=
  [(0x0a, 0x0d), (0x1c, 0x1e), (0x85, 0x85), (0x2028, 0x2029)]

def isLineEnd (c : Char) : Bool := inRuns lineEndRuns c

/-- The last line of the trimmed text. -/
def lastLine (s : String) : String :=
  String.ofList ((trimBy isBlank s.toList).reverse.takeWhile (!isLineEnd ·)).reverse

/-- The parts between marks; `part` is the current one in reverse. -/
def cutFrom (mark : Char) (part : List Char) : List Char → List (List Char)
  | [] => [part.reverse]
  | c :: cs =>
    if c = mark then part.reverse :: cutFrom mark [] cs else cutFrom mark (c :: part) cs

def cutAt (mark : Char) (cs : List Char) : List (List Char) := cutFrom mark [] cs

end Chip8.Text

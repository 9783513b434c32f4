import PitWall.Text.Case

namespace PitWall.Sheet
open Text

-- A line is kept trimmed, under its number in the text.
structure Line where
  number : Nat
  text : List Char
deriving DecidableEq

def Line.says (line : Line) (keyword : String) : Bool := upper line.text == keyword.toList
def Line.closes (line : Line) : Bool := line.says "END"

-- Blank lines only count; `stop` is the number behind the last line.
structure Source where
  lines : List Line
  stop : Nat

def numbered : Nat → List (List Char) → List Line
  | _, [] => []
  | number, text :: rest =>
    if text.isEmpty then numbered (number + 1) rest else ⟨number,text⟩ :: numbered (number + 1) rest

def Source.of (text : String) : Source :=
  let pieces := (cut '\n' text.toList).map trim
  ⟨numbered 1 pieces,pieces.length + 1⟩

-- The lines of a block up to its END, and what comes after; a block without an END runs to the end
-- of the text.
structure Block where
  body : List Line
  rest : List Line
  cursor : Nat

def Block.of (stop : Nat) (lines : List Line) : Block :=
  let body := lines.takeWhile (!·.closes)
  match lines.dropWhile (!·.closes) with
  | [] => ⟨body,[],stop⟩
  | closing :: rest => ⟨body,rest,closing.number + 1⟩

end PitWall.Sheet

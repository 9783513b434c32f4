namespace PitWall.Sheet

-- The blanks that separate the words of a line: ASCII white space, unlike what trimming removes.
def isGap (c : Char) : Bool := c = ' ' || ('\t' ≤ c && c ≤ '\r')

def isDigit (c : Char) : Bool := '0' ≤ c && c ≤ '9'
def isWordChar (c : Char) : Bool :=
  isDigit c || ('A' ≤ c && c ≤ 'Z') || ('a' ≤ c && c ≤ 'z') || c = '_'

-- What a blank in a line may hold. Every capture is a longest run of admitted characters.
inductive Field where
  | token
  | word
  | count
  | numeral
  | quotation
deriving DecidableEq

def quotationMark : Char := '\x22'

def Field.admits : Field → Char → Bool
  | .token, c => !isGap c
  | .word, c => isWordChar c
  | .count, c => isDigit c
  | .numeral, c => isDigit c || c = '.'
  | .quotation, c => c ≠ quotationMark

-- A count has at most six digits; a numeral has a digit and at most one point.
def Field.accepts : Field → List Char → Bool
  | .count, run => !run.isEmpty && run.length ≤ 6
  | .numeral, run => run.any isDigit && run.count '.' ≤ 1
  | _, run => !run.isEmpty

inductive Piece where
  | literal (text : List Char)
  | gap
  | field (kind : Field)
deriving DecidableEq

abbrev Pattern := List Piece

-- Literals are met in either ASCII case.
def afterLiteral? : List Char → List Char → Option (List Char)
  | [], rest => some rest
  | l :: literal, c :: rest => if l.toLower = c.toLower then afterLiteral? literal rest else none
  | _ :: _, [] => none

namespace Pattern

def read? : Pattern → List Char → Option (List (List Char))
  | [], [] => some []
  | [], _ :: _ => none
  | .literal text :: pattern, line => (afterLiteral? text line).bind (read? pattern)
  | .gap :: pattern, line =>
    if (line.takeWhile isGap).isEmpty then none else read? pattern (line.dropWhile isGap)
  | .field kind :: pattern, line =>
    let run := line.takeWhile kind.admits
    if kind.accepts run then (read? pattern (line.dropWhile kind.admits)).map (run :: ·) else none

-- The plainest line with the given captures: literals as they stand and one space to a gap.
def write : Pattern → List (List Char) → List Char
  | [], _ => []
  | .literal text :: pattern, captures => text ++ write pattern captures
  | .gap :: pattern, captures => ' ' :: write pattern captures
  | .field _ :: pattern, capture :: captures => capture ++ write pattern captures
  | .field _ :: pattern, [] => write pattern []

end Pattern
end PitWall.Sheet

namespace PitWall.Outline

structure Cursor where
  rest : List Char
  line : Nat
  column : Nat

def isBreak (c : Char) : Bool := c = '\n' || c = '\x85' || c = '\u2028' || c = '\u2029'

def isClear : List Char → Bool
  | [] => true
  | c :: _ => c = ' ' || c = '\t' || isBreak c

namespace Cursor

def past (cursor : Cursor) (count : Nat) : Cursor :=
  {cursor with rest := cursor.rest.drop count, column := cursor.column + count}

def atEnd (cursor : Cursor) : Bool := cursor.rest.isEmpty

-- Spaces, comments and line ends. A tab is none of them.
def skipFrom (comment : Bool) : List Char → Nat → Nat → Cursor
  | [],line,column => ⟨[],line,column⟩
  | c :: rest,line,column =>
    if isBreak c then skipFrom false rest (line + 1) 0
    else if comment || c = ' ' then skipFrom comment rest line (column + 1)
    else if c = '#' then skipFrom true rest line (column + 1)
    else ⟨c :: rest,line,column⟩

def skip (cursor : Cursor) : Cursor := skipFrom false cursor.rest cursor.line cursor.column

def skipSpaces (cursor : Cursor) : Cursor := cursor.past (cursor.rest.takeWhile (· = ' ')).length

-- A line of three dashes or three points separates documents.
def isMarker (text : String) (cursor : Cursor) : Bool :=
  cursor.column == 0 && text.toList.isPrefixOf cursor.rest && isClear (cursor.rest.drop 3)

def startsDocument (cursor : Cursor) : Bool := cursor.isMarker "---"
def endsDocument (cursor : Cursor) : Bool := cursor.isMarker "..."
def stops (cursor : Cursor) : Bool := cursor.atEnd || cursor.startsDocument || cursor.endsDocument

def isEntry (cursor : Cursor) : Bool :=
  match cursor.rest with
  | '-' :: rest => isClear rest
  | _ => false

end Cursor
end PitWall.Outline

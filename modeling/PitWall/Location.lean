import PitWall.Text.Blank

namespace PitWall.Location
open Text

-- What a path leads to. A part before its end may be a file, and a part or the whole too long.
inductive Found where
  | file (content : List UInt8)
  | absent
  | directory
  | notDirectory
  | tooLong

def separator : Char := '/'

-- Two leading separators stay two; any other number of them is one.
def root (path : List Char) : List Char :=
  match (path.takeWhile (· = separator)).length with
  | 0 => []
  | 2 => [separator,separator]
  | _ => [separator]

def parts (path : List Char) : List (List Char) :=
  (cut separator path).filter fun part => !part.isEmpty && part ≠ ['.']

-- Empty parts and single points lead nowhere; the path of nothing is the point.
def normal (path : String) : String :=
  let chars := path.toList
  let text := root chars ++ joinWith [separator] (parts chars)
  if text.isEmpty then "." else String.ofList text

def longestPart : Nat := 255
def longestPath : Nat := 4095

def isPath (path : String) : Bool := !path.toList.contains '\x00'

end PitWall.Location

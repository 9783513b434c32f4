import PitWall.Text.Blank
import PitWall.Text.CaseData

namespace PitWall.Text
open CaseData

def moved (runs : List Run) (c : Char) : List Char :=
  match runs.find? (·.covers c.toNat) with
  | some run => [Char.ofNat (c.toNat + run.shift).toNat]
  | none => [c]

-- Core's `Char.toUpper` and `Char.toLower` know ASCII only; the tables hold the rest.
structure Casing where
  ascii : Char → Char
  longer : List (Nat × List Nat)
  runs : List Run

def Casing.letters (casing : Casing) (c : Char) : List Char :=
  if c.toNat < 128 then [casing.ascii c]
  else match casing.longer.find? (·.1 == c.toNat) with
    | some (_,letters) => letters.map Char.ofNat
    | none => moved casing.runs c

def capitals : Casing := ⟨Char.toUpper,upperLonger,upperRuns⟩
def smallLetters : Casing := ⟨Char.toLower,lowerLonger,lowerRuns⟩

def upperOf (c : Char) : List Char := capitals.letters c
def lowerOf (c : Char) : List Char := smallLetters.letters c

def upper (s : List Char) : List Char := s.flatMap upperOf

def isCased (c : Char) : Bool := inRanges casedRanges c.toNat
def isPassedOver (c : Char) : Bool := inRanges passedOverRanges c.toNat

def meetsCased (s : List Char) : Bool := (s.dropWhile isPassedOver).head?.any isCased

def capitalSigma : Char := 'Σ'

-- A capital sigma ends a word when a cased letter stands before it and none after it; `before` is
-- what has been read, nearest first.
def lowerFrom (before : List Char) : List Char → List Char
  | [] => []
  | c :: rest =>
    (if c = capitalSigma then [if meetsCased before && !meetsCased rest then 'ς' else 'σ'] else lowerOf c)
      ++ lowerFrom (c :: before) rest

def lower (s : List Char) : List Char := lowerFrom [] s

def upperAscii (s : List Char) : List Char := s.map Char.toUpper
def lowerAscii (s : List Char) : List Char := s.map Char.toLower

end PitWall.Text

import PitWall.Run

namespace PitWall.Report
open Decimal

-- Columns are filled up with spaces and never cut.
def toRight (width : Nat) (text : List Char) : List Char := text.leftpad width ' '
def toLeft (width : Nat) (text : List Char) : List Char := text.rightpad width ' '

def signedText (n : Int) : List Char := if n < 0 then intText n else '+' :: intText n

def seconds (places : Nat) (x : Float) : List Char := (fixed places).write x

def fact (label : String) (value : List Char) : List Char := "  ".toList ++ label.toList ++ " : ".toList ++ value

def ruleOf (mark : Char) : List Char := List.replicate 56 mark

def banner : List (List Char) := ["Race Strategy Simulator v0.1.0".toList,ruleOf '=']

def parenthesised (text : List Char) : List Char := " (".toList ++ text ++ [')']

def place (position : Int) : List Char := 'P' :: intText position

def headLines (outcome : Simulation.Outcome Float) : List (List Char) :=
  [[],
   "Strategy : ".toList ++ outcome.strategy.label.toList,
   "Circuit  : ".toList ++ outcome.race.trackName.toList,
   ruleOf '-']

def prediction (outcome : Simulation.Outcome Float) : List (List Char) :=
  let range := "range ".toList ++ place outcome.range.best ++ '-' :: place outcome.range.worst
  let lost := seconds 1 outcome.pitTimeLoss ++ " s in pit lane".toList
  [fact "Predicted finish" (place outcome.predictedFinish ++ parenthesised range),
   fact "Positions gained" (signedText outcome.gained),
   fact "Race time       " (seconds 1 outcome.raceTime ++ " s".toList),
   fact "Pit stops       " (intText outcome.pitStops ++ parenthesised lost),
   fact "P(points)       " (percent outcome.pointsChance),
   fact "P(beat start)   " (percent outcome.beatingStartChance)]

def columns (cells : List (List Char)) : List Char := cells.flatMap (' ' :: ' ' :: ·)

def stintHead : List Char :=
  columns [toRight 5 "Stint".toList,toLeft 12 "Tire".toList,toRight 4 "Laps".toList,
    toRight 8 "Avg (s)".toList,toRight 8 "Best (s)".toList,toRight 7 "Pos".toList]

def stintLine (stint : Simulation.StintMetrics Float) : List Char :=
  columns [toRight 5 (intText stint.number),toLeft 12 (Vocabulary.spelling stint.compound).toList,
    toRight 4 (intText stint.laps),toRight 8 (seconds 3 stint.averageTime),
    toRight 8 (seconds 3 stint.bestTime),place stint.start ++ "->".toList ++ place stint.finish]

def advisoryLine (advisory : Advisory) : List Char :=
  "  [".toList ++ toLeft 8 (Text.upper (Vocabulary.spelling advisory.severity).toList) ++ "] ".toList
    ++ (Vocabulary.spelling advisory.area).toList ++ ": ".toList ++ advisory.message.toList

def ofOutcome (outcome : Simulation.Outcome Float) : List (List Char) :=
  headLines outcome ++ prediction outcome
    ++ [] :: stintHead :: outcome.stints.map stintLine
    ++ [] :: "Advisories:".toList :: (Advisory.sort outcome.advisories).map advisoryLine
    ++ [[],"Race profile: ".toList ++ outcome.brief.overtaking.toList]

def rejection (diagnostics : List Sheet.Diagnostic) : List (List Char) :=
  ("Strategy rejected (".toList ++ digitsOf diagnostics.length ++ " problems):".toList)
    :: diagnostics.map fun diagnostic => ' ' :: ' ' :: diagnostic.text.toList

def marked (mark : String) (message : String) : List Char := mark.toList ++ ": ".toList ++ message.toList

-- What was odd about the sheet, and then either what was wrong with it or how the race goes.
def ofRun (run : Run) : List (List Char) :=
  run.reading.warnings.map (marked "WARNING" ·.message)
    ++ match run.outcome with
      | none => rejection run.reading.diagnostics
      | some outcome => run.issues.map (marked "NOTE" ·.message) ++ ofOutcome outcome

def text (lines : List (List Char)) : String := String.ofList (lines.flatMap (· ++ ['\n']))

end PitWall.Report

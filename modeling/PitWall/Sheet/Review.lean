import PitWall.Arithmetic
import PitWall.Race

namespace PitWall.Sheet

-- What a second look at a document may find. None of it stands in the way of a race.
inductive Issue where
  | raceLength (laps : Int)
  | fieldSize (cars : Int)
  | startBelowOne
  | targetBelowOne
  | targetBeyondField
  | emptyStint (number laps : Int)
  | stintBeyondRace (number laps : Int)
  | overtakingChance
deriving DecidableEq

def Issue.message : Issue → String
  | .raceLength laps => s!"Total laps {laps} is outside reasonable range (1-100)"
  | .fieldSize cars => s!"Field size {cars} is outside reasonable range (2-30)"
  | .startBelowOne => "Starting position must be at least P1"
  | .targetBelowOne => "Target position must be at least P1"
  | .targetBeyondField => "Target position cannot exceed field size"
  | .emptyStint number laps => s!"Stint {number} has invalid lap count: {laps}"
  | .stintBeyondRace number laps => s!"Stint {number} laps ({laps}) exceed race length"
  | .overtakingChance => "Overtaking chance must be between 0.0 and 1.0"

def raise (found : Bool) (issue : Issue) : List Issue := if found then [issue] else []

def targetIssues (race : Race) : Option Int → List Issue
  | none => []
  | some target => raise (target < 1) .targetBelowOne ++ raise (race.fieldSize < target) .targetBeyondField

def stintIssues (race : Race) (stint : Stint) : List Issue :=
  raise (stint.laps < 1) (.emptyStint stint.number stint.laps)
    ++ raise (race.laps < stint.laps) (.stintBeyondRace stint.number stint.laps)

variable {R : Type} [Arithmetic R]

-- An unordered chance lies outside as well.
def isShare (chance : R) : Bool := Arithmetic.atMost 0.0 chance && Arithmetic.atMost chance 1.0

def review (document : Document R) : List Issue :=
  let race := document.race
  let car := document.car
  raise (!(1 ≤ race.laps && race.laps ≤ 100)) (.raceLength race.laps)
    ++ raise (!(2 ≤ race.fieldSize && race.fieldSize ≤ 30)) (.fieldSize race.fieldSize)
    ++ raise (car.start < 1) .startBelowOne
    ++ targetIssues race car.target
    ++ document.strategy.stints.flatMap (stintIssues race)
    ++ raise (!isShare document.track.overtakingChance) .overtakingChance

end PitWall.Sheet

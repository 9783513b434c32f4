import PitWall.Vocabulary

namespace PitWall

inductive Flaw where
  | unnamedTrack | noLaps | noRivals | offTheGrid | noStints
deriving DecidableEq

def Flaw.message : Flaw → String
  | .unnamedTrack => "track_name must not be empty."
  | .noLaps => "total_laps must be >= 1."
  | .noRivals => "field_size must be >= 2."
  | .offTheGrid => "starting_grid_position must be >= 1."
  | .noStints => "Strategy must contain at least one stint."

-- A value put to its own checks; none when there was no cause to.
abbrev Attempt (α : Type) := Option (Except Flaw α)

namespace Attempt
variable {α : Type}

def when (cause : Bool) (checked : Except Flaw α) : Attempt α := if cause then some checked else none

def value? (attempt : Attempt α) : Option α := attempt.bind Except.toOption

def flaw? : Attempt α → Option Flaw
  | some (.error flaw) => some flaw
  | _ => none

end Attempt

structure Race where
  trackName : String
  laps : Int
  weather : Weather
  fieldSize : Int
  named : trackName ≠ ""
  someLap : 1 ≤ laps
  rivals : 2 ≤ fieldSize
deriving DecidableEq

def Race.of (trackName : String) (laps : Int) (weather : Weather) (fieldSize : Int) : Except Flaw Race :=
  if named : trackName = "" then .error .unnamedTrack
  else if someLap : 1 ≤ laps then
    if rivals : 2 ≤ fieldSize then .ok ⟨trackName,laps,weather,fieldSize,named,someLap,rivals⟩
    else .error .noRivals
  else .error .noLaps

structure Car where
  start : Int
  pace : PaceClass
  risk : RiskProfile
  -- The worst finish that would do; none when there is no target.
  target : Option Int
  onGrid : 1 ≤ start
deriving DecidableEq

def Car.of (start : Int) (pace : PaceClass) (risk : RiskProfile) (target : Option Int) : Except Flaw Car :=
  if onGrid : 1 ≤ start then .ok ⟨start,pace,risk,target,onGrid⟩ else .error .offTheGrid

structure Stint where
  number : Int
  compound : Compound
  laps : Int
deriving DecidableEq

-- The laps of the stints should add up to the race, but need not.
structure Strategy where
  label : String
  stints : List Stint
  someStint : stints ≠ []
deriving DecidableEq

namespace Strategy

def of (label : String) (stints : List Stint) : Except Flaw Strategy :=
  if someStint : stints = [] then .error .noStints else .ok ⟨label,stints,someStint⟩

def laps (plan : Strategy) : Int := plan.stints.foldr (fun stint laps => stint.laps + laps) 0
def pitStops (plan : Strategy) : Nat := plan.stints.length - 1
def usesWetWeatherTires (plan : Strategy) : Bool := plan.stints.any (·.compound.isWetWeather)
def first (plan : Strategy) : Stint := plan.stints.head plan.someStint
def last (plan : Strategy) : Stint := plan.stints.getLast plan.someStint

end Strategy

structure Turn where
  number : Int
  name : String
  tags : List String
  note : String
deriving DecidableEq

def Turn.hasTag (turn : Turn) (tag : String) : Bool := turn.tags.contains tag

structure WinnerStint where
  compound : Compound
  laps : Int
deriving DecidableEq

structure PreviousWinner where
  year : Int
  label : String
  stints : List WinnerStint
deriving DecidableEq

structure Track (R : Type) where
  aero : AeroDemand
  difficulty : Difficulty
  overtakingChance : R
  turns : List Turn
  winner : Option PreviousWinner
deriving BEq

structure Document (R : Type) where
  race : Race
  car : Car
  track : Track R
  strategy : Strategy
deriving BEq

end PitWall

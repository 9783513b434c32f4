import PitWall.Race

namespace PitWall

structure Brief where
  overtaking : String
  aero : AeroDemand
  aeroDescription : String
  turns : List String
  winner : Option String
deriving DecidableEq

namespace Brief

def overtakingSummary : Difficulty → String
  | .easy => "Easy overtaking (expect 2-4 on-track passes possible) - "
      ++ "undercuts and strategy can pay off"
  | .medium => "Moderate overtaking (expect 1-2 on-track passes possible) - "
      ++ "track position matters but strategy helps"
  | .hard => "Hard overtaking (0-1 on-track passes likely) - "
      ++ "track position is critical, avoid losing places in pits"

def aeroDescriptionOf : AeroDemand → String
  | .downforceReliant => "High downforce track - focus on mechanical grip and corner speed"
  | .dragReliant => "Low downforce track - top speed and DRS zones are crucial"
  | .balanced => "Balanced aerodynamic requirements - versatile setup options"

def turnSummary (turn : Turn) : String := s!"Turn {turn.number} ({turn.name}): {turn.note}"

def winnerSummary (winner : PreviousWinner) : String :=
  let stints := winner.stints.map fun stint => s!"{Vocabulary.spelling stint.compound}({stint.laps})"
  s!"{winner.year}: {winner.label} - " ++ " -> ".intercalate stints

def ofTrack {R : Type} (track : Track R) : Brief :=
  ⟨overtakingSummary track.difficulty,track.aero,aeroDescriptionOf track.aero,
    track.turns.map turnSummary,track.winner.map winnerSummary⟩

end Brief

structure PlanSummary where
  race : Race
  car : Car
  label : String
  stints : List (Compound × Int)
  laps : Int
  pitStops : Nat
  usesWetWeatherTires : Bool

def PlanSummary.of {R : Type} (document : Document R) : PlanSummary :=
  let plan := document.strategy
  ⟨document.race,document.car,plan.label,plan.stints.map fun stint => (stint.compound,stint.laps),
    plan.laps,plan.pitStops,plan.usesWetWeatherTires⟩

end PitWall

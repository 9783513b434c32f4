import PitWall.Race
import PitWall.Tables.Basic

namespace PitWall

-- A remark on a plan. It never stands in the way of a race.
structure Advisory where
  area : Area
  severity : Severity
  message : String
  detail : Option String
deriving DecidableEq

namespace Advisory

-- The most severe first; equally severe ones stay in order.
def sort (advisories : List Advisory) : List Advisory :=
  advisories.mergeSort fun left right => right.severity.rank ≤ left.severity.rank

def note (area : Area) (severity : Severity) (message detail : String) : Advisory :=
  ⟨area,severity,message,some detail⟩

variable {R : Type} [Arithmetic R]

-- How far past its cliff a set of tires may be run before it counts as a high risk.
def overrunLimit (cliffLap : Int) : Except Fault R := do
  return (← Arithmetic.ofInt cliffLap) * 1.3

def overrun (stint : Stint) (cliffLap : Int) : Advisory :=
  let compound := Vocabulary.spelling stint.compound
  note .tire .high s!"Stint {stint.number} may push {compound} tires past cliff"
    s!"Running {stint.laps} laps on {compound} compound which has cliff at lap {cliffLap}"

def dryInTheWet (stint : Stint) : Advisory :=
  note .weather .critical s!"Stint {stint.number} uses dry tires in wet conditions"
    "Consider using INTERMEDIATE or WET tires for wet weather"

def ofStint (stint : Stint) (race : Race) (tables : Tables R) : Except Fault (List Advisory) := do
  let cliffLap := (tables.tire stint.compound).cliffLap
  let limit : R ← overrunLimit cliffLap
  return (if Arithmetic.exceeds stint.laps limit then [overrun stint cliffLap] else [])
    ++ (if race.weather = .wet && !stint.compound.isWetWeather then [dryInTheWet stint] else [])

end Advisory
end PitWall

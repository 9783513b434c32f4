import PitWall.Tables.Basic

namespace PitWall.Tables
variable {R : Type} [Arithmetic R]

def standardCircuit : Circuit R := ⟨85.0,22.0,0.035,110.0,1.8⟩

-- A known circuit has a lap time and a pit lane of its own.
def known (key : String) (baseLapTime pitLaneTimeLoss : R) : String × CircuitOverride R :=
  (key,⟨some baseLapTime,some pitLaneTimeLoss,none,none,none⟩)

def standardOverrides : List (String × CircuitOverride R) :=
  [known "MONZA" 82.0 24.0, known "MONACO" 73.0 18.0, known "SPA" 105.0 21.0,
   known "SILVERSTONE" 88.0 20.0, known "SUZUKA" 91.0 22.0, known "BAHRAIN" 90.0 21.0,
   known "JEDDAH" 88.0 23.0, known "MELBOURNE" 79.0 24.0, known "IMOLA" 76.0 25.0,
   known "MIAMI" 89.0 22.0, known "BARCELONA" 78.0 21.0, known "MONTREAL" 73.0 23.0,
   known "AUSTRIA" 65.0 20.0, known "BUDAPEST" 77.0 21.0, known "ZANDVOORT" 72.0 18.0,
   known "SINGAPORE" 94.0 26.0, known "AUSTIN" 96.0 22.0, known "MEXICO" 78.0 20.0,
   known "INTERLAGOS" 72.0 22.0, known "VEGAS" 93.0 23.0, known "QATAR" 84.0 21.0,
   known "ABUDHABI" 85.0 20.0]

def standardTire : Compound → TireData R
  | .soft => ⟨1.0,0.08,15,2.5⟩
  | .medium => ⟨0.97,0.05,25,2.0⟩
  | .hard => ⟨0.94,0.03,40,1.8⟩
  | .intermediate => ⟨0.95,0.04,30,2.0⟩
  | .wet => ⟨0.92,0.035,35,1.5⟩

def standardWeather : Weather → R
  | .cool => 0.85
  | .normal => 1.0
  | .hot => 1.25
  | .wet => 1.1

def standardPace : PaceClass → PaceData R
  | .frontRunner => ⟨-1.5,1.4,1.5,1,6,3⟩
  | .midfield => ⟨0.0,1.0,1.0,5,14,9⟩
  | .backmarker => ⟨1.2,0.6,0.7,10,20,16⟩

def standardRisk : RiskProfile → RiskData R
  | .conservative => ⟨0.7,0.85,0.98⟩
  | .balanced => ⟨1.0,1.0,1.0⟩
  | .aggressive => ⟨1.4,1.2,1.05⟩

-- Per lap.
def standardOvertaking : Difficulty → R
  | .easy => 0.04
  | .medium => 0.025
  | .hard => 0.012

def standard : Tables R where
  defaultCircuit := standardCircuit
  overrides := standardOverrides
  tire := standardTire
  weather weather := some (standardWeather weather)
  pace := standardPace
  risk := standardRisk
  overtaking difficulty := some (standardOvertaking difficulty)

end PitWall.Tables

import PitWall.Tables.Schema
import PitWall.Decimal.Notation

namespace PitWall.Tables
open Decimal

-- Tables as a tables file, one figure to a line and without exponents.
def indented (depth : Nat) (text : List Char) : List Char := List.replicate (2 * depth) ' ' ++ text

def headLine (depth : Nat) (key : String) : List Char := indented depth (key.toList ++ [':'])
def figureLine (depth : Nat) (key : String) (figure : List Char) : List Char :=
  headLine depth key ++ ' ' :: figure

def real (x : Float) : List Char := plain.write x
def whole (n : Int) : List Char := intText n

def circuitFigure (circuit : Circuit Float) : CircuitField → Option (List Char)
  | .baseLapTime => some (real circuit.baseLapTime)
  | .pitLaneTimeLoss => some (real circuit.pitLaneTimeLoss)
  | .fuelEffectPerKg => some (real circuit.fuelEffectPerKg)
  | .startingFuelKg => some (real circuit.startingFuelKg)
  | .fuelConsumptionPerLap => some (real circuit.fuelConsumptionPerLap)

def overrideFigure (override : CircuitOverride Float) : CircuitField → Option (List Char)
  | .baseLapTime => override.baseLapTime.map real
  | .pitLaneTimeLoss => override.pitLaneTimeLoss.map real
  | .fuelEffectPerKg => override.fuelEffectPerKg.map real
  | .startingFuelKg => override.startingFuelKg.map real
  | .fuelConsumptionPerLap => override.fuelConsumptionPerLap.map real

def tireFigure (tire : TireData Float) : TireField → Option (List Char)
  | .initialGrip => some (real tire.initialGrip)
  | .degradationRate => some (real tire.degradationRate)
  | .cliffLap => some (whole tire.cliffLap)
  | .cliffMultiplier => some (real tire.cliffMultiplier)

def paceFigure (pace : PaceData Float) : PaceField → Option (List Char)
  | .lapTimeDelta => some (real pace.lapTimeDelta)
  | .overtakingAbility => some (real pace.overtakingAbility)
  | .defenseAbility => some (real pace.defenseAbility)
  | .realisticCeiling => some (whole pace.realisticCeiling)
  | .realisticFloor => some (whole pace.realisticFloor)
  | .typicalFinish => some (whole pace.typicalFinish)

def riskFigure (risk : RiskData Float) : RiskField → Option (List Char)
  | .overtakingAggressiveness => some (real risk.overtakingAggressiveness)
  | .tireManagement => some (real risk.tireManagement)
  | .pitStopEfficiency => some (real risk.pitStopEfficiency)

def figureLines {K : Type} [Vocabulary K] (depth : Nat) (figure : K → Option (List Char)) : List (List Char) :=
  Vocabulary.all.filterMap fun key => (figure key).map (figureLine depth (Vocabulary.spelling key))

def entryLines {F : Type} [Vocabulary F] (key : String) (figure : F → Option (List Char)) : List (List Char) :=
  headLine 1 key :: figureLines 2 figure

def keyedLines {K F : Type} [Vocabulary K] [Vocabulary F] (figure : K → F → Option (List Char)) :
    List (List Char) :=
  Vocabulary.all.flatMap fun key => entryLines (Vocabulary.spelling key) (figure key)

def topicLines (tables : Tables Float) : Topic → List (List Char)
  | .defaultCircuit => figureLines 1 (circuitFigure tables.defaultCircuit)
  | .circuits => tables.overrides.flatMap fun (key,override) => entryLines key (overrideFigure override)
  | .tires => keyedLines fun compound => tireFigure (tables.tire compound)
  | .weather => figureLines 1 fun weather => (tables.weather weather).map real
  | .paceClasses => keyedLines fun pace => paceFigure (tables.pace pace)
  | .riskProfiles => keyedLines fun risk => riskFigure (tables.risk risk)
  | .overtakeBaseRates => figureLines 1 fun difficulty => (tables.overtaking difficulty).map real

def lines (tables : Tables Float) : List (List Char) :=
  Vocabulary.all.flatMap fun topic =>
    headLine 0 (Vocabulary.spelling topic) :: topicLines tables topic

def write (tables : Tables Float) : List Char := tables.lines.flatMap (· ++ ['\n'])

end PitWall.Tables

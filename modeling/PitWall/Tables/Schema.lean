import PitWall.Tables.Basic
import PitWall.Tables.Value

namespace PitWall.Tables

inductive Topic where
  | defaultCircuit | circuits | tires | weather | paceClasses | riskProfiles | overtakeBaseRates
deriving DecidableEq

instance : Vocabulary Topic where
  all := [.defaultCircuit, .circuits, .tires, .weather, .paceClasses, .riskProfiles, .overtakeBaseRates]
  spelling
    | .defaultCircuit => "default_circuit" | .circuits => "circuits" | .tires => "tires"
    | .weather => "weather" | .paceClasses => "pace_classes" | .riskProfiles => "risk_profiles"
    | .overtakeBaseRates => "overtake_base_rates"

-- What a figure has to be: any number, one not below zero, or a whole one not below zero.
inductive Measure where
  | signed | positive | whole
deriving DecidableEq

inductive Figure (R : Type) where
  | number (value : R)
  | whole (value : Int)

-- The fields of an entry, each with its measure and the way it is overwritten.
structure Schema (F E R : Type) where
  measure : F → Measure
  put : F → Figure R → E → E

inductive CircuitField where
  | baseLapTime | pitLaneTimeLoss | fuelEffectPerKg | startingFuelKg | fuelConsumptionPerLap
deriving DecidableEq

instance : Vocabulary CircuitField where
  all := [.baseLapTime, .pitLaneTimeLoss, .fuelEffectPerKg, .startingFuelKg, .fuelConsumptionPerLap]
  spelling
    | .baseLapTime => "base_lap_time" | .pitLaneTimeLoss => "pit_lane_time_loss"
    | .fuelEffectPerKg => "fuel_effect_per_kg" | .startingFuelKg => "starting_fuel_kg"
    | .fuelConsumptionPerLap => "fuel_consumption_per_lap"

inductive TireField where
  | initialGrip | degradationRate | cliffLap | cliffMultiplier
deriving DecidableEq

instance : Vocabulary TireField where
  all := [.initialGrip, .degradationRate, .cliffLap, .cliffMultiplier]
  spelling
    | .initialGrip => "initial_grip" | .degradationRate => "degradation_rate"
    | .cliffLap => "cliff_lap" | .cliffMultiplier => "cliff_multiplier"

inductive PaceField where
  | lapTimeDelta | overtakingAbility | defenseAbility | realisticCeiling | realisticFloor | typicalFinish
deriving DecidableEq

instance : Vocabulary PaceField where
  all := [.lapTimeDelta, .overtakingAbility, .defenseAbility, .realisticCeiling, .realisticFloor,
    .typicalFinish]
  spelling
    | .lapTimeDelta => "lap_time_delta" | .overtakingAbility => "overtaking_ability"
    | .defenseAbility => "defense_ability" | .realisticCeiling => "realistic_ceiling"
    | .realisticFloor => "realistic_floor" | .typicalFinish => "typical_finish"

inductive RiskField where
  | overtakingAggressiveness | tireManagement | pitStopEfficiency
deriving DecidableEq

instance : Vocabulary RiskField where
  all := [.overtakingAggressiveness, .tireManagement, .pitStopEfficiency]
  spelling
    | .overtakingAggressiveness => "overtaking_aggressiveness" | .tireManagement => "tire_management"
    | .pitStopEfficiency => "pit_stop_efficiency"

variable {R : Type}

-- A figure of the wrong kind changes nothing; a figure that was measured is of the right kind.
def circuitSchema : Schema CircuitField (Circuit R) R where
  measure _ := .positive
  put
    | .baseLapTime,.number x,circuit => {circuit with baseLapTime := x}
    | .pitLaneTimeLoss,.number x,circuit => {circuit with pitLaneTimeLoss := x}
    | .fuelEffectPerKg,.number x,circuit => {circuit with fuelEffectPerKg := x}
    | .startingFuelKg,.number x,circuit => {circuit with startingFuelKg := x}
    | .fuelConsumptionPerLap,.number x,circuit => {circuit with fuelConsumptionPerLap := x}
    | _,.whole _,circuit => circuit

def overrideSchema : Schema CircuitField (CircuitOverride R) R where
  measure _ := .positive
  put
    | .baseLapTime,.number x,override => {override with baseLapTime := some x}
    | .pitLaneTimeLoss,.number x,override => {override with pitLaneTimeLoss := some x}
    | .fuelEffectPerKg,.number x,override => {override with fuelEffectPerKg := some x}
    | .startingFuelKg,.number x,override => {override with startingFuelKg := some x}
    | .fuelConsumptionPerLap,.number x,override => {override with fuelConsumptionPerLap := some x}
    | _,.whole _,override => override

def tireSchema : Schema TireField (TireData R) R where
  measure
    | .cliffLap => .whole
    | _ => .positive
  put
    | .initialGrip,.number x,tire => {tire with initialGrip := x}
    | .degradationRate,.number x,tire => {tire with degradationRate := x}
    | .cliffLap,.whole n,tire => {tire with cliffLap := n}
    | .cliffMultiplier,.number x,tire => {tire with cliffMultiplier := x}
    | _,_,tire => tire

def paceSchema : Schema PaceField (PaceData R) R where
  measure
    | .lapTimeDelta => .signed
    | .overtakingAbility | .defenseAbility => .positive
    | .realisticCeiling | .realisticFloor | .typicalFinish => .whole
  put
    | .lapTimeDelta,.number x,pace => {pace with lapTimeDelta := x}
    | .overtakingAbility,.number x,pace => {pace with overtakingAbility := x}
    | .defenseAbility,.number x,pace => {pace with defenseAbility := x}
    | .realisticCeiling,.whole n,pace => {pace with realisticCeiling := n}
    | .realisticFloor,.whole n,pace => {pace with realisticFloor := n}
    | .typicalFinish,.whole n,pace => {pace with typicalFinish := n}
    | _,_,pace => pace

def riskSchema : Schema RiskField (RiskData R) R where
  measure _ := .positive
  put
    | .overtakingAggressiveness,.number x,risk => {risk with overtakingAggressiveness := x}
    | .tireManagement,.number x,risk => {risk with tireManagement := x}
    | .pitStopEfficiency,.number x,risk => {risk with pitStopEfficiency := x}
    | _,.whole _,risk => risk

end PitWall.Tables

import PitWall.Advisory.Basic
import PitWall.Lap.Fuel
import PitWall.Lap.Tire
import PitWall.Position

namespace PitWall.Simulation
open Arithmetic

structure Setup (R : Type) where
  race : Race
  car : Car
  track : Track R
  tables : Tables R

variable {R : Type}

namespace Setup

def circuit (setup : Setup R) : Circuit R := setup.tables.circuit setup.race.trackName
def pace (setup : Setup R) : PaceData R := setup.tables.pace setup.car.pace
def risk (setup : Setup R) : RiskData R := setup.tables.risk setup.car.risk

variable [Arithmetic R]

def weather (setup : Setup R) : R := setup.tables.weatherMultiplier setup.race.weather
def rate (setup : Setup R) : R := setup.tables.overtakingRate setup.track.difficulty
def pitLoss (setup : Setup R) : R := setup.circuit.pitLaneTimeLoss * setup.risk.pitStopEfficiency

end Setup

structure Running (R : Type) where
  laps : Nat
  position : Int
  fuel : R

structure PitStop (R : Type) where
  lap : Nat
  onto : Compound
  loss : R

structure LapRecord (R : Type) where
  lap : Nat
  stint : Int
  compound : Compound
  time : R
  wear : R
  fuel : R
  traffic : R
  position : Int
  event : Option LapEvent
  detail : Option String

-- A lap as it is run: the record of it, and what only totals show.
structure DrivenLap (R : Type) where
  record : LapRecord R
  degradation : R
  stop : Option (PitStop R)

structure LapPlan where
  stint : Stint
  lap : Nat
  onto : Option Compound

section
variable [Arithmetic R]

-- Seconds gained behind another car where drag counts, and lost while being passed.
def slipstreamGain : R := 0.2
def passedLoss : R := 0.3
def congestionLoss : R := 0.1

def isCongested (position : Int) : Bool := 8 ≤ position && position ≤ 15

def trafficOf (track : Track R) (change : Position.Change) : R :=
  let passed := if change.overtook then 0.0 else if change.wasOvertaken then passedLoss else 0.0
  if isCongested change.position then passed + congestionLoss * (1.0 - track.overtakingChance) else passed

-- A later reason replaces an earlier one: start, a place gained or lost, a stop.
def eventOf (car : Car) (lap : Nat) (change : Position.Change) (onto : Option Compound) :
    Option (LapEvent × String) :=
  match onto with
  | some compound => some (.pitStop,s!"Pit stop for {Vocabulary.spelling compound} tires")
  | none =>
    if change.overtook then some (.overtake,s!"Passed car to move to P{change.position}")
    else if change.wasOvertaken then some (.overtaken,s!"Lost position, now P{change.position}")
    else if lap = 1 then some (.start,s!"Started P{car.start}") else none

-- Added in this order; a pit stop is never part of a lap time.
def lapTime (setup : Setup R) (plan : LapPlan) (fuel degradation traffic : R) (position : Int) : R :=
  let tire := setup.tables.tire plan.stint.compound
  let time := setup.circuit.baseLapTime + setup.pace.lapTimeDelta + degradation
    + Lap.fuelEffect setup.circuit fuel + Lap.freshPenalty tire plan.lap
  let time := if 1 < position && setup.track.aero = .dragReliant then time - slipstreamGain else time
  time + traffic

def driveLap (setup : Setup R) (running : Running R) (plan : LapPlan) : Except Fault (DrivenLap R × Running R) := do
  let lap := running.laps + 1
  let tire := setup.tables.tire plan.stint.compound
  let degradation ← Lap.degradation tire plan.lap setup.weather setup.risk.tireManagement
  let change ← Position.change running.position lap setup.rate setup.pace setup.risk setup.race.fieldSize
  let traffic := trafficOf setup.track change
  let wear ← Lap.wear tire plan.lap
  let fuel := Lap.burn setup.circuit running.fuel
  let event := eventOf setup.car lap change plan.onto
  let record : LapRecord R :=
    ⟨lap,plan.stint.number,plan.stint.compound,
      lapTime setup plan running.fuel degradation traffic change.position,wear,fuel,traffic,
      change.position,event.map (·.1),event.map (·.2)⟩
  return (⟨record,degradation,plan.onto.map fun onto => ⟨lap,onto,setup.pitLoss⟩⟩,
    ⟨lap,change.position,fuel⟩)

def driveLaps (setup : Setup R) (running : Running R) : List LapPlan → Except Fault (List (DrivenLap R) × Running R)
  | [] => .ok ([],running)
  | plan :: plans => do
    let (lap,next) ← driveLap setup running plan
    let (laps,last) ← driveLaps setup next plans
    return (lap :: laps,last)

-- The last lap of a stint ends in the pit lane when another stint follows.
def lapPlans (stint : Stint) (following : Option Stint) : List LapPlan :=
  let laps := stint.laps.toNat
  (List.range laps).map fun lap =>
    ⟨stint,lap + 1,if lap + 1 = laps then following.map (·.compound) else none⟩

structure StintRun (R : Type) where
  stint : Stint
  advisories : List Advisory
  laps : List (DrivenLap R)
  start : Int
  finish : Int
  -- What the stop behind the stint costs, whether or not the stint has a lap.
  pitLoss : R

def driveStint (setup : Setup R) (running : Running R) (stint : Stint) (following : Option Stint) :
    Except Fault (StintRun R × Running R) := do
  let advisories ← Advisory.ofStint stint setup.race setup.tables
  let (laps,next) ← driveLaps setup running (lapPlans stint following)
  return (⟨stint,advisories,laps,running.position,next.position,
    if following.isSome then setup.pitLoss else 0.0⟩,next)

def driveStints (setup : Setup R) (running : Running R) : List Stint → Except Fault (List (StintRun R) × Running R)
  | [] => .ok ([],running)
  | stint :: stints => do
    let (run,next) ← driveStint setup running stint stints.head?
    let (runs,last) ← driveStints setup next stints
    return (run :: runs,last)

def onTheGrid (setup : Setup R) : Running R := ⟨0,setup.car.start,setup.circuit.startingFuelKg⟩

end
end PitWall.Simulation

import PitWall.Advisory.Rules
import PitWall.Arithmetic.Average
import PitWall.Brief
import PitWall.Odds
import PitWall.Simulation.Drive

namespace PitWall.Simulation
open Arithmetic

structure StintMetrics (R : Type) where
  number : Int
  compound : Compound
  laps : Int
  averageTime : R
  bestTime : R
  worstTime : R
  degradationLoss : R
  pitTimeLoss : R
  start : Int
  finish : Int

structure PositionRange where
  best : Int
  worst : Int
deriving DecidableEq

structure Outcome (R : Type) where
  raceTime : R
  predictedFinish : Int
  range : PositionRange
  gained : Int
  pointsChance : R
  beatingStartChance : R
  stints : List (StintMetrics R)
  laps : List (LapRecord R)
  advisories : List Advisory
  brief : Brief
  pitStops : Nat
  pitTimeLoss : R
  stops : List (PitStop R)
  race : Race
  car : Car
  strategy : Strategy

variable {R : Type} [Arithmetic R]

-- A stint without laps has times of zero.
def metricsOf (run : StintRun R) : Except Fault (StintMetrics R) := do
  let times := run.laps.map (·.record.time)
  let average ← if times.isEmpty then .ok 0.0 else mean times
  let degradation := (run.laps.map (·.degradation)).foldl (· + ·) 0.0
  return ⟨run.stint.number,run.stint.compound,run.stint.laps,average,(least times).getD 0.0,
    (greatest times).getD 0.0,degradation,run.pitLoss,run.start,run.finish⟩

def timeWithStop (lap : DrivenLap R) : R :=
  lap.record.time + (match lap.stop with | some stop => stop.loss | none => 0.0)

def raceTime (laps : List (DrivenLap R)) : R := (laps.map timeWithStop).foldl (· + ·) 0.0
def pitTime (stops : List (PitStop R)) : R := (stops.map (·.loss)).foldl (· + ·) 0.0

def predict (bounds : Position.Envelope) (position : Int) : Int :=
  min bounds.floor (max bounds.ceiling position)

def variance : RiskProfile → Int
  | .aggressive => 2
  | .conservative | .balanced => 1

def rangeOf (bounds : Position.Envelope) (risk : RiskProfile) (predicted : Int) : PositionRange :=
  ⟨max bounds.ceiling (predicted - variance risk),min bounds.floor (predicted + variance risk + 1)⟩

def conclude (setup : Setup R) (plan : Strategy) (runs : List (StintRun R)) (last : Running R) :
    Except Fault (Outcome R) := do
  let bounds := Position.envelope setup.pace setup.race.fieldSize
  let predicted := predict bounds last.position
  let gained := setup.car.start - predicted
  let laps := runs.flatMap (·.laps)
  let stops := laps.filterMap (·.stop)
  let metrics ← runs.mapM metricsOf
  let rules ← advise Vocabulary.all ⟨setup.race,setup.car,setup.track,plan,setup.tables,predicted⟩
  let points ← Odds.points setup.pace predicted
  let beatingStart ← Odds.beatingStart setup.pace setup.car.start gained
  return { raceTime := raceTime laps
           predictedFinish := predicted
           range := rangeOf bounds setup.car.risk predicted
           gained := gained
           pointsChance := points
           beatingStartChance := beatingStart
           stints := metrics
           laps := laps.map (·.record)
           advisories := runs.flatMap (·.advisories) ++ rules
           brief := .ofTrack setup.track
           pitStops := plan.pitStops
           pitTimeLoss := pitTime stops
           stops := stops
           race := setup.race
           car := setup.car
           strategy := plan }

end Simulation

open Simulation in
-- Lap by lap and stint by stint; the same input always gives the same race.
def simulate {R : Type} [Arithmetic R] (race : Race) (car : Car) (plan : Strategy) (track : Track R)
    (tables : Tables R) : Except Fault (Outcome R) := do
  let setup : Setup R := ⟨race,car,track,tables⟩
  let (runs,last) ← driveStints setup (onTheGrid setup) plan.stints
  conclude setup plan runs last

end PitWall

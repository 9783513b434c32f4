import PitWall.Simulation.Outcome

namespace PitWall
open Arithmetic Simulation

inductive Cell (R : Type) where
  | missing
  | int (value : Int)
  | number (value : R)
  | text (value : String)

structure Frame (R : Type) where
  indexName : String
  index : List Int
  columns : List String
  rows : List (List (Cell R))

namespace Cell
variable {R : Type}

def word {α : Type} [Vocabulary α] (value : α) : Cell R := .text (Vocabulary.spelling value)
def optional {α : Type} (cell : α → Cell R) : Option α → Cell R
  | some value => cell value
  | none => .missing

-- What is no number is missing.
def figure [Arithmetic R] (value : R) : Cell R := if isNumber value then .number value else .missing

end Cell

namespace Frame
variable {R : Type} [Arithmetic R]

def lapColumns : List String :=
  ["stint_number", "tire_compound", "lap_time", "tire_wear", "fuel_load", "traffic_penalty", "position",
   "event", "event_detail"]

def lapCells (lap : LapRecord R) : List (Cell R) :=
  [.int lap.stint,.word lap.compound,.figure lap.time,.figure lap.wear,.figure lap.fuel,
   .figure lap.traffic,.int lap.position,.optional .word lap.event,.optional .text lap.detail]

def ofLaps (laps : List (LapRecord R)) : Frame R :=
  ⟨"lap_number",laps.map fun lap => lap.lap,lapColumns,laps.map lapCells⟩

def stintColumns : List String :=
  ["tire_compound", "total_laps", "avg_lap_time", "best_lap_time", "worst_lap_time",
   "total_degradation_loss", "pit_time_loss", "start_position", "end_position"]

def stintCells (stint : StintMetrics R) : List (Cell R) :=
  [.word stint.compound,.int stint.laps,.figure stint.averageTime,.figure stint.bestTime,
   .figure stint.worstTime,.figure stint.degradationLoss,.figure stint.pitTimeLoss,.int stint.start,
   .int stint.finish]

def ofStints (stints : List (StintMetrics R)) : Frame R :=
  ⟨"stint_number",stints.map (·.number),stintColumns,stints.map stintCells⟩

end Frame
end PitWall

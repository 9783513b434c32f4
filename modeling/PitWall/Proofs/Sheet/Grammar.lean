import Mathlib.Data.List.Forall2
import PitWall.Proofs.Sheet.LineKind
import PitWall.Proofs.Sheet.Terms
import PitWall.Sheet.Reader

namespace PitWall.Sheet
open Text

def contentLines (text : String) : List (List Char) := ((cut '\n' text.toList).map trim).filter (· ≠ [])

-- Letter case of any script is put aside, by the capitals.
def Says (line : List Char) (keyword : String) : Prop := upper line = keyword.toList

instance (line : List Char) (keyword : String) : Decidable (Says line keyword) :=
  inferInstanceAs (Decidable (upper line = keyword.toList))

-- One line of each kind and what it says; what a value may be is said here and nowhere else.
def RaceLine (line name : List Char) (laps : Nat) (weather : Weather) (cars : Nat) : Prop :=
  ∃ lapDigits word carDigits, LineKind.race.Fits line [name,lapDigits,word,carDigits] ∧ Names word weather ∧
    countValue lapDigits = laps ∧ countValue carDigits = cars ∧ (1 ≤ laps ∧ laps ≤ 100) ∧ (2 ≤ cars ∧ cars ≤ 30)

def CarLine (line : List Char) (start : Nat) (pace : PaceClass) (risk : RiskProfile) (target : Option Nat) : Prop :=
  ∃ digits paceWord riskWord, ∃ place : Option (List Char),
    LineKind.car.Fits line ([digits,paceWord,riskWord] ++ place.toList) ∧ Names paceWord pace ∧
    Names riskWord risk ∧ countValue digits = start ∧ place.map countValue = target ∧ 1 ≤ start

def AeroLine (line : List Char) (aero : AeroDemand) : Prop := ∃ word, LineKind.aero.Fits line [word] ∧ Names word aero

def OvertakingLine (line : List Char) (difficulty : Difficulty) (chance : Float) : Prop :=
  ∃ word numeral, LineKind.overtaking.Fits line [word,numeral] ∧ Names word difficulty ∧
    chanceValue numeral = chance ∧ isChance chance = true

def StrategyLine (line label : List Char) : Prop := LineKind.strategy.Fits line [label]

def StintLineOf (line : List Char) (stint : Stint) : Prop :=
  ∃ number word laps, LineKind.stint.Fits line [number,word,laps] ∧ Names word stint.compound ∧
    stint.number = countValue number ∧ stint.laps = countValue laps ∧ 1 ≤ countValue laps ∧ countValue laps ≤ 100

def TurnLine (line : List Char) (turn : Turn) : Prop :=
  ∃ number name tags note, LineKind.turn.Fits line [number,name,tags,note] ∧
    turn = ⟨countValue number,String.ofList name,riskTags tags,String.ofList note⟩

def YearLine (line : List Char) (year : Int) (label : String) : Prop :=
  ∃ digits words, LineKind.winnerYear.Fits line [digits,words] ∧ year = countValue digits ∧ label = String.ofList words

def WinnerStintLine (line : List Char) (stint : WinnerStint) : Prop :=
  ∃ word laps, LineKind.winnerStint.Fits line [word,laps] ∧ Names word stint.compound ∧ stint.laps = countValue laps

inductive Enclosed : List (List Char) → List (List Char) → List (List Char) → Prop where
  | closed (closing : Says line "END") : Enclosed (rows ++ line :: rest) rows rest
  | unclosed : Enclosed rows rows []

-- The plan has at least one stint.
inductive StrategyBlock : List (List Char) → List Char → List Stint → List (List Char) → Prop where
  | block (heading : StrategyLine line label) (enclosed : Enclosed below rows rest)
      (each : List.Forall₂ StintLineOf rows stints) (nonempty : rows ≠ []) :
      StrategyBlock (line :: below) label stints rest

-- Optional blocks: a line that says something else is left to what follows.
inductive TurnsBlock : List (List Char) → List Turn → List (List Char) → Prop where
  | absent (other : ∀ line ∈ below.head?, ¬ Says line "CRITICAL_TURNS") : TurnsBlock below [] below
  | listed (header : Says line "CRITICAL_TURNS") (enclosed : Enclosed below rows rest)
      (each : List.Forall₂ TurnLine rows turns) : TurnsBlock (line :: below) turns rest

inductive WinnerStints : List (List Char) → List WinnerStint → Prop where
  | absent (other : ∀ line ∈ below.head?, ¬ Says line "STINTS:") : WinnerStints below []
  | listed (header : Says line "STINTS:") (enclosed : Enclosed below rows rest)
      (each : List.Forall₂ WinnerStintLine rows stints) : WinnerStints (line :: below) stints

inductive WinnerBlock : List (List Char) → Option PreviousWinner → Prop where
  | absent (other : ∀ line ∈ below.head?, ¬ Says line "PREVIOUS_WINNER") : WinnerBlock below none
  | listed (header : Says line "PREVIOUS_WINNER") (year : YearLine yearRow number label)
      (stints : WinnerStints below listedStints) :
      WinnerBlock (line :: yearRow :: below) (some ⟨number,label,listedStints⟩)

structure Entries where
  name : List Char
  laps : Nat
  weather : Weather
  cars : Nat
  start : Nat
  pace : PaceClass
  risk : RiskProfile
  target : Option Nat
  aero : AeroDemand
  difficulty : Difficulty
  chance : Float
  label : List Char
  stints : List Stint
  turns : List Turn
  winner : Option PreviousWinner

-- What no sheet can do without: four lines and a plan.
inductive Essentials : List (List Char) → Entries → List (List Char) → Prop where
  | lines (race : RaceLine raceRow entries.name entries.laps entries.weather entries.cars)
      (car : CarLine carRow entries.start entries.pace entries.risk entries.target)
      (onGrid : entries.start ≤ entries.cars) (aero : AeroLine aeroRow entries.aero)
      (overtaking : OvertakingLine overtakingRow entries.difficulty entries.chance)
      (strategy : StrategyBlock below entries.label entries.stints rest) :
      Essentials (raceRow :: carRow :: aeroRow :: overtakingRow :: below) entries rest

inductive Lists : List (List Char) → Entries → Prop where
  | sheet (essentials : Essentials all entries behind) (turns : TurnsBlock behind entries.turns rest)
      (winner : WinnerBlock rest entries.winner) : Lists all entries

structure Entries.Make (entries : Entries) (document : Document Float) : Prop where
  trackName : document.race.trackName = String.ofList (upper entries.name)
  laps : document.race.laps = entries.laps
  weather : document.race.weather = entries.weather
  cars : document.race.fieldSize = entries.cars
  start : document.car.start = entries.start
  pace : document.car.pace = entries.pace
  risk : document.car.risk = entries.risk
  target : document.car.target = entries.target.map Int.ofNat
  track : document.track = ⟨entries.aero,entries.difficulty,entries.chance,entries.turns,entries.winner⟩
  label : document.strategy.label = String.ofList entries.label
  stints : document.strategy.stints = entries.stints

end PitWall.Sheet

import PitWall.Vocabulary
import PitWall.Decimal.Notation
import PitWall.Sheet.LineKind

namespace PitWall.Sheet

inductive Section where
  | race | car | track | strategy | criticalTurns | previousWinner
deriving DecidableEq

instance : Vocabulary Section where
  all := [.race, .car, .track, .strategy, .criticalTurns, .previousWinner]
  spelling
    | .race => "RACE" | .car => "CAR" | .track => "TRACK" | .strategy => "STRATEGY"
    | .criticalTurns => "CRITICAL_TURNS" | .previousWinner => "PREVIOUS_WINNER"

inductive Term where
  | weather | paceClass | riskProfile | aero | difficulty | compound
deriving DecidableEq

namespace Term

def title : Term → String
  | .weather => "weather" | .paceClass => "pace class" | .riskProfile => "risk profile"
  | .aero => "aero classification" | .difficulty => "overtaking difficulty"
  | .compound => "tire compound"

def choices : Term → String
  | .weather => Vocabulary.choices Weather
  | .paceClass => Vocabulary.choices PaceClass
  | .riskProfile => Vocabulary.choices RiskProfile
  | .aero => Vocabulary.choices AeroDemand
  | .difficulty => Vocabulary.choices Difficulty
  | .compound => Vocabulary.choices Compound

def place : Term → Section
  | .weather => .race
  | .paceClass | .riskProfile => .car
  | .aero | .difficulty => .track
  | .compound => .strategy

end Term

inductive Required where
  | race | car | aero | overtaking | strategy
deriving DecidableEq

namespace Required

def title : Required → String
  | .race => "RACE line" | .car => "CAR line" | .aero => "TRACK AERO line"
  | .overtaking => "TRACK OVERTAKING line" | .strategy => "STRATEGY block"

def place : Required → Section
  | .race => .race | .car => .car | .aero | .overtaking => .track | .strategy => .strategy

end Required

def LineKind.place : LineKind → Section
  | .race => .race | .car => .car | .aero | .overtaking => .track | .strategy | .stint => .strategy
  | .turn => .criticalTurns | .winnerYear | .winnerStint => .previousWinner

inductive Problem where
  | missing (line : Required)
  | malformed (kind : LineKind) (text : List Char)
  | unknownTerm (term : Term) (word : List Char)
  | lapCount (laps : Nat)
  | fieldSize (cars : Nat)
  | startPosition (start : Nat)
  | overtakingChance (chance : Float)
  | stintLaps (laps : Nat)
  | noStint
  | emptyWinner
  | winnerCompound (word : List Char)
  | startBeyondField (start cars : Nat)
  | incomplete

namespace Problem

def place : Problem → Option Section
  | .missing line => some line.place
  | .malformed kind _ => some kind.place
  | .unknownTerm term _ => some term.place
  | .lapCount _ | .fieldSize _ => some .race
  | .startPosition _ | .startBeyondField _ _ => some .car
  | .overtakingChance _ => some .track
  | .stintLaps _ | .noStint => some .strategy
  | .emptyWinner | .winnerCompound _ => some .previousWinner
  | .incomplete => none

def inQuotationMarks (text : List Char) : String :=
  String.ofList (quotationMark :: text ++ [quotationMark])

def message : Problem → String
  | .missing line => s!"Missing {line.title}"
  | .malformed kind text => s!"Invalid {kind.title}: " ++ inQuotationMarks text
  | .unknownTerm term word =>
    s!"Invalid {term.title}: " ++ inQuotationMarks word ++ s!". Must be one of: {term.choices}"
  | .lapCount laps => s!"Invalid lap count: {laps}. Must be between 1 and 100"
  | .fieldSize cars => s!"Invalid field size: {cars}. Must be between 2 and 30"
  | .startPosition start => s!"Invalid starting position: P{start}. Must be at least P1"
  | .overtakingChance chance =>
    "Invalid overtaking chance: " ++ String.ofList (Decimal.shown.write chance)
      ++ ". Must be between 0.0 and 1.0"
  | .stintLaps laps => s!"Invalid stint laps: {laps}. Must be between 1 and 100"
  | .noStint => "STRATEGY block must contain at least one STINT"
  | .emptyWinner => "PREVIOUS_WINNER block is empty"
  | .winnerCompound word => "Invalid tire compound in PREVIOUS_WINNER: " ++ inQuotationMarks word
  | .startBeyondField start cars =>
    s!"Starting position P{start} exceeds field size of {cars}"
  | .incomplete => "Missing required sections in DSL"

end Problem

structure Diagnostic where
  line : Nat
  problem : Problem

-- An empty section name is left out like an absent one.
def located (line : Int) (place : Option String) (message : String) : String :=
  match place with
  | none | some "" => s!"line {line}: {message}"
  | some place => s!"line {line} [{place}]: {message}"

namespace Diagnostic

def message (diagnostic : Diagnostic) : String := diagnostic.problem.message
def place (diagnostic : Diagnostic) : Option String := diagnostic.problem.place.map Vocabulary.spelling
def text (diagnostic : Diagnostic) : String := located diagnostic.line diagnostic.place diagnostic.message

end Diagnostic

inductive Caution where
  | lapMismatch (stintLaps raceLaps : Int)
  | dryTiresInTheWet
deriving DecidableEq

def Caution.message : Caution → String
  | .lapMismatch stintLaps raceLaps =>
    s!"Total stint laps ({stintLaps}) does not match race laps ({raceLaps}). "
      ++ "This may affect simulation accuracy."
  | .dryTiresInTheWet =>
    "Wet weather conditions but no wet or intermediate tires selected. Consider tire choice."

end PitWall.Sheet

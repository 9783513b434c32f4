import PitWall.Race
import PitWall.Decimal.Notation
import PitWall.Sheet.LineKind
import PitWall.Text.Case

namespace PitWall.Sheet
open Text Decimal

def spelled {α : Type} [Vocabulary α] (word : α) : List Char := (Vocabulary.spelling word).toList

def LineKind.write (kind : LineKind) (captures : List (List Char)) : List Char :=
  (kind.patterns.headD []).write captures

-- The shortest digits that read back, never with an exponent: a sheet has no way to read one.
def chanceText (chance : Float) : List Char := plain.write chance

def indented (depth : Nat) (line : List Char) : List Char := List.replicate (2 * depth) ' ' ++ line

def raceLine (race : Race) : List Char :=
  LineKind.race.write
    [upper race.trackName.toList,intText race.laps,spelled race.weather,intText race.fieldSize]

def carLine (car : Car) : List Char :=
  let captures := [intText car.start,spelled car.pace,spelled car.risk]
  match car.target with
  | some target => LineKind.targetPattern.write (captures ++ [intText target])
  | none => LineKind.noTargetPattern.write captures

def aeroLine (aero : AeroDemand) : List Char := LineKind.aero.write [spelled aero]

def overtakingLine (difficulty : Difficulty) (chance : Float) : List Char :=
  LineKind.overtaking.write [spelled difficulty,chanceText chance]

def stintLine (stint : Stint) : List Char :=
  LineKind.stint.write [intText stint.number,spelled stint.compound,intText stint.laps]

def strategyLines (plan : Strategy) : List (List Char) :=
  LineKind.strategy.write [plan.label.toList] :: plan.stints.map (indented 1 ∘ stintLine) ++ ["END".toList]

def turnLine (turn : Turn) : List Char :=
  LineKind.turn.write [intText turn.number,turn.name.toList,
    joinWith [','] (turn.tags.map String.toList),turn.note.toList]

def turnsLines (turns : List Turn) : List (List Char) :=
  if turns.isEmpty then [] else
    [[],"CRITICAL_TURNS".toList] ++ turns.map (indented 1 ∘ turnLine) ++ ["END".toList]

def winnerStintLine (stint : WinnerStint) : List Char :=
  LineKind.winnerStint.write [spelled stint.compound,intText stint.laps]

def winnerStintsLines (stints : List WinnerStint) : List (List Char) :=
  if stints.isEmpty then [] else
    indented 1 "STINTS:".toList :: stints.map (indented 2 ∘ winnerStintLine)

def winnerLines : Option PreviousWinner → List (List Char)
  | none => []
  | some winner =>
    [[],"PREVIOUS_WINNER".toList,
      indented 1 (LineKind.winnerYear.write [intText winner.year,winner.label.toList])]
      ++ winnerStintsLines winner.stints ++ ["END".toList]

def lines (document : Document Float) : List (List Char) :=
  [raceLine document.race,carLine document.car,aeroLine document.track.aero,
    overtakingLine document.track.difficulty document.track.overtakingChance,[]]
    ++ strategyLines document.strategy ++ turnsLines document.track.turns
    ++ winnerLines document.track.winner

-- Every line ends with a line feed, the last one too.
def write (document : Document Float) : String :=
  String.ofList ((lines document).flatMap fun line => line ++ ['\n'])

end PitWall.Sheet

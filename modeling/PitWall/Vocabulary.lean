namespace PitWall

-- A closed list of words: every member once, in the order in which choices are offered.
class Vocabulary (α : Type) where
  all : List α
  spelling : α → String

namespace Vocabulary
variable {α : Type} [Vocabulary α]

-- Exact spellings only; a reader that ignores case folds it first.
def ofSpelling? (word : String) : Option α := all.find? fun member => spelling member == word

def choices (α : Type) [Vocabulary α] : String := ", ".intercalate ((all (α := α)).map spelling)

end Vocabulary

inductive Weather where
  | cool | normal | hot | wet
deriving DecidableEq

instance : Vocabulary Weather where
  all := [.cool, .normal, .hot, .wet]
  spelling
    | .cool => "cool" | .normal => "normal" | .hot => "hot" | .wet => "wet"

inductive PaceClass where
  | frontRunner | midfield | backmarker
deriving DecidableEq

instance : Vocabulary PaceClass where
  all := [.frontRunner, .midfield, .backmarker]
  spelling
    | .frontRunner => "front_runner" | .midfield => "midfield" | .backmarker => "backmarker"

inductive RiskProfile where
  | conservative | balanced | aggressive
deriving DecidableEq

instance : Vocabulary RiskProfile where
  all := [.conservative, .balanced, .aggressive]
  spelling
    | .conservative => "conservative" | .balanced => "balanced" | .aggressive => "aggressive"

inductive Difficulty where
  | easy | medium | hard
deriving DecidableEq

instance : Vocabulary Difficulty where
  all := [.easy, .medium, .hard]
  spelling
    | .easy => "easy" | .medium => "medium" | .hard => "hard"

inductive AeroDemand where
  | downforceReliant | dragReliant | balanced
deriving DecidableEq

instance : Vocabulary AeroDemand where
  all := [.downforceReliant, .dragReliant, .balanced]
  spelling
    | .downforceReliant => "downforce_reliant" | .dragReliant => "drag_reliant" | .balanced => "balanced"

inductive Compound where
  | soft | medium | hard | intermediate | wet
deriving DecidableEq

instance : Vocabulary Compound where
  all := [.soft, .medium, .hard, .intermediate, .wet]
  spelling
    | .soft => "SOFT" | .medium => "MEDIUM" | .hard => "HARD" | .intermediate => "INTERMEDIATE"
    | .wet => "WET"

def Compound.isWetWeather : Compound → Bool
  | .intermediate | .wet => true
  | .soft | .medium | .hard => false

inductive LapEvent where
  | start | pitStop | overtake | overtaken
deriving DecidableEq

instance : Vocabulary LapEvent where
  all := [.start, .pitStop, .overtake, .overtaken]
  spelling
    | .start => "start" | .pitStop => "pit_stop" | .overtake => "overtake" | .overtaken => "overtaken"

-- What an advisory is about.
inductive Area where
  | tire | strategy | traffic | track | weather
deriving DecidableEq

instance : Vocabulary Area where
  all := [.tire, .strategy, .traffic, .track, .weather]
  spelling
    | .tire => "tire" | .strategy => "strategy" | .traffic => "traffic" | .track => "track"
    | .weather => "weather"

inductive Severity where
  | low | medium | high | critical
deriving DecidableEq

instance : Vocabulary Severity where
  all := [.low, .medium, .high, .critical]
  spelling
    | .low => "low" | .medium => "medium" | .high => "high" | .critical => "critical"

def Severity.rank : Severity → Nat
  | .low => 0 | .medium => 1 | .high => 2 | .critical => 3

end PitWall

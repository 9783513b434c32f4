import PitWall.Tables.Schema

namespace PitWall.Tables

inductive Spot (R : Type) where
  | defaultCircuit
  | circuit (name : Scalar R)
  | tire (member : Compound)
  | pace (member : PaceClass)
  | risk (member : RiskProfile)
  | weather (member : Weather)
  | overtaking (member : Difficulty)

inductive Number (R : Type) where
  | int (value : Int)
  | real (value : R)

inductive Refusal (R : Type) where
  | unknownTopics (names : List (Scalar R))
  | topicNotMapping (topic : Topic)
  | entryNotMapping (spot : Spot R)
  | unknownFields (spot : Spot R) (names : List (Scalar R))
  | unorderedNames (left right : Scalar R)
  | unknownKey (topic : Topic) (key : Scalar R)
  | notNumeric (spot : Spot R) (field : Option String) (kind : String)
  | negative (spot : Spot R) (field : Option String) (value : Number R)
  | notWhole (spot : Spot R) (field : Option String) (value : Number R)
  | cliffBelowOne (member : Compound)
  | finishOutOfOrder (member : PaceClass)
  | noDefense (member : PaceClass)
  | fault (cause : Fault)

variable {R : Type} [Arithmetic R]

def under {α : Type} [Vocabulary α] (topic : Topic) (member : α) : String :=
  Vocabulary.spelling topic ++ "." ++ Vocabulary.spelling member

def Spot.text : Spot R → String
  | .defaultCircuit => Vocabulary.spelling Topic.defaultCircuit
  | .circuit name => Vocabulary.spelling Topic.circuits ++ "." ++ name.shown
  | .tire member => under .tires member
  | .pace member => under .paceClasses member
  | .risk member => under .riskProfiles member
  | .weather member => under .weather member
  | .overtaking member => under .overtakeBaseRates member

def Number.text : Number R → String
  | .int value => toString value
  | .real value => Arithmetic.text value

def fieldText (spot : Spot R) : Option String → String
  | none => spot.text
  | some field => spot.text ++ "." ++ field

def listText (names : List (Scalar R)) : String :=
  "[" ++ ", ".intercalate (names.map Scalar.listed) ++ "]"

def keysOf : Topic → String
  | .tires => Vocabulary.choices Compound
  | .weather => Vocabulary.choices Weather
  | .paceClasses => Vocabulary.choices PaceClass
  | .riskProfiles => Vocabulary.choices RiskProfile
  | .overtakeBaseRates => Vocabulary.choices Difficulty
  | .defaultCircuit | .circuits => ""

namespace Refusal

def message : Refusal R → String
  | .unknownTopics names => "Unknown domain table sections: " ++ listText names
  | .topicNotMapping topic => "Section '" ++ Vocabulary.spelling topic ++ "' must be a mapping"
  | .entryNotMapping spot => spot.text ++ " must be a mapping"
  | .unknownFields spot names => spot.text ++ " has unknown fields " ++ listText names
  | .unorderedNames left right =>
    "'<' not supported between instances of '" ++ left.kind ++ "' and '" ++ right.kind ++ "'"
  | .unknownKey topic key =>
    Vocabulary.spelling topic ++ ": unknown key '" ++ key.shown ++ "', expected one of: " ++ keysOf topic
  | .notNumeric spot field kind => fieldText spot field ++ " must be numeric, got " ++ kind
  | .negative spot field value => fieldText spot field ++ " must be >= 0, got " ++ value.text
  | .notWhole spot field value => fieldText spot field ++ " must be a whole number, got " ++ value.text
  | .cliffBelowOne member => (Spot.tire (R := R) member).text ++ ": cliff_lap must be >= 1"
  | .finishOutOfOrder member => (Spot.pace (R := R) member).text
      ++ ": expected realistic_ceiling <= typical_finish <= realistic_floor"
  | .noDefense member => (Spot.pace (R := R) member).text ++ ": defense_ability must be > 0"
  | .fault cause => cause.message

end Refusal
end PitWall.Tables

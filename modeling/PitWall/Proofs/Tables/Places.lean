import PitWall.Proofs.Sheet.Terms
import PitWall.Tables.Merge

namespace PitWall
open Tables
variable {R : Type}

instance : Vocabulary.Lawful Topic := .of_list (by rintro ⟨⟩ <;> decide) (by decide) (by decide)
instance : Vocabulary.Lawful CircuitField := .of_list (by rintro ⟨⟩ <;> decide) (by decide) (by decide)
instance : Vocabulary.Lawful TireField := .of_list (by rintro ⟨⟩ <;> decide) (by decide) (by decide)
instance : Vocabulary.Lawful PaceField := .of_list (by rintro ⟨⟩ <;> decide) (by decide) (by decide)
instance : Vocabulary.Lawful RiskField := .of_list (by rintro ⟨⟩ <;> decide) (by decide) (by decide)

-- What an entry holds under a field; an override may hold nothing there.
def Circuit.figure (circuit : Circuit R) : CircuitField → Option (Figure R)
  | .baseLapTime => some (.number circuit.baseLapTime)
  | .pitLaneTimeLoss => some (.number circuit.pitLaneTimeLoss)
  | .fuelEffectPerKg => some (.number circuit.fuelEffectPerKg)
  | .startingFuelKg => some (.number circuit.startingFuelKg)
  | .fuelConsumptionPerLap => some (.number circuit.fuelConsumptionPerLap)

def CircuitOverride.figure (override : CircuitOverride R) : CircuitField → Option (Figure R)
  | .baseLapTime => override.baseLapTime.map .number
  | .pitLaneTimeLoss => override.pitLaneTimeLoss.map .number
  | .fuelEffectPerKg => override.fuelEffectPerKg.map .number
  | .startingFuelKg => override.startingFuelKg.map .number
  | .fuelConsumptionPerLap => override.fuelConsumptionPerLap.map .number

def TireData.figure (tire : TireData R) : TireField → Option (Figure R)
  | .initialGrip => some (.number tire.initialGrip)
  | .degradationRate => some (.number tire.degradationRate)
  | .cliffLap => some (.whole tire.cliffLap)
  | .cliffMultiplier => some (.number tire.cliffMultiplier)

def PaceData.figure (pace : PaceData R) : PaceField → Option (Figure R)
  | .lapTimeDelta => some (.number pace.lapTimeDelta)
  | .overtakingAbility => some (.number pace.overtakingAbility)
  | .defenseAbility => some (.number pace.defenseAbility)
  | .realisticCeiling => some (.whole pace.realisticCeiling)
  | .realisticFloor => some (.whole pace.realisticFloor)
  | .typicalFinish => some (.whole pace.typicalFinish)

def RiskData.figure (risk : RiskData R) : RiskField → Option (Figure R)
  | .overtakingAggressiveness => some (.number risk.overtakingAggressiveness)
  | .tireManagement => some (.number risk.tireManagement)
  | .pitStopEfficiency => some (.number risk.pitStopEfficiency)

namespace Tables
open Arithmetic

inductive Place where
  | defaultCircuit (field : CircuitField)
  | circuit (key : String) (field : CircuitField)
  | tire (member : Compound) (field : TireField)
  | pace (member : PaceClass) (field : PaceField)
  | risk (member : RiskProfile) (field : RiskField)
  | weather (member : Weather)
  | overtaking (member : Difficulty)

def figureAt (tables : Tables R) : Place → Option (Figure R)
  | .defaultCircuit field => tables.defaultCircuit.figure field
  | .circuit key field => (tables.overrides.lookup key).bind (·.figure field)
  | .tire member field => (tables.tire member).figure field
  | .pace member field => (tables.pace member).figure field
  | .risk member field => (tables.risk member).figure field
  | .weather member => (tables.weather member).map .number
  | .overtaking member => (tables.overtaking member).map .number

-- Only a pace may be below zero, and four figures are whole numbers.
def Place.measure : Place → Measure
  | .pace _ .lapTimeDelta => .signed
  | .tire _ .cliffLap | .pace _ .realisticCeiling | .pace _ .realisticFloor | .pace _ .typicalFinish => .whole
  | _ => .positive

def Scalar.isName (name : String) : Scalar R → Bool
  | .text other => other == name
  | _ => false

def Spelled (α : Type) [Vocabulary α] (key : Scalar R) : Prop := ∃ member : α, key = .text (Vocabulary.spelling member)

def Value.entries : Value R → List (Scalar R × Value R)
  | .mapping entries => entries
  | _ => []

-- A mapping has no key twice, so at most one entry is meant; of several names for one thing the last
-- to tell anything counts.
def latest? {α β : Type} (tells : α → Option β) (items : List α) : Option β := items.reverse.findSome? tells

def said (description : List (Scalar R × Value R)) (topic : Topic) : Option (Value R) :=
  (description.find? fun entry => entry.1.isName (Vocabulary.spelling topic)).map (·.2)

def topicOf (description : List (Scalar R × Value R)) (topic : Topic) : List (Scalar R × Value R) :=
  ((said description topic).map Value.entries).getD []

def fieldOf {F : Type} [Vocabulary F] (entries : List (Scalar R × Value R)) (field : F) : Option (Value R) :=
  latest? (fun entry => if entry.1.isName (Vocabulary.spelling field) then some entry.2 else none) entries

variable [Arithmetic R]

def namedField {F : Type} [Vocabulary F] (entries : List (Scalar R × Value R)) (meant : String → Bool) (field : F) :
    Option (Value R) :=
  latest? (fun entry => if meant entry.1.shown then fieldOf entry.2.entries field else none) entries

def namedValue (entries : List (Scalar R × Value R)) (name : String) : Option (Value R) :=
  latest? (fun entry => if entry.1.shown = name then some entry.2 else none) entries

-- The value that a description gives for a place; a circuit goes by every name with the same letters.
def given (description : List (Scalar R × Value R)) : Place → Option (Value R)
  | .defaultCircuit field => fieldOf (topicOf description .defaultCircuit) field
  | .circuit key field => namedField (topicOf description .circuits) (circuitKey · == key) field
  | .tire member field => namedField (topicOf description .tires) (· == Vocabulary.spelling member) field
  | .pace member field => namedField (topicOf description .paceClasses) (· == Vocabulary.spelling member) field
  | .risk member field => namedField (topicOf description .riskProfiles) (· == Vocabulary.spelling member) field
  | .weather member => namedValue (topicOf description .weather) (Vocabulary.spelling member)
  | .overtaking member => namedValue (topicOf description .overtakeBaseRates) (Vocabulary.spelling member)

-- A value as the figure it stands for; a number in a place for whole ones has no fraction to lose.
def converted (measure : Measure) : Value R → Option (Figure R)
  | .scalar (.int n) => if measure = .whole then some (.whole n) else (ofInt n).toOption.map .number
  | .scalar (.number x) => if measure = .whole then (floor x).toOption.map .whole else some (.number x)
  | _ => none

def Stands (measure : Measure) (given : Option (Value R)) (before after : Option (Figure R)) : Prop :=
  match given with
  | some value => ∃ figure, converted measure value = some figure ∧ after = some figure
  | none => after = before

def Overwrites (base : Tables R) (description : List (Scalar R × Value R)) (tables : Tables R) : Prop :=
  ∀ place, Stands place.measure (given description place) (base.figureAt place) (tables.figureAt place)

-- As tables are handed out: every override under the key of its name, and no key twice.
structure Filed (overrides : List (String × CircuitOverride R)) : Prop where
  keys : ∀ key ∈ overrides.map (·.1), circuitKey key = key
  distinct : (overrides.map (·.1)).Nodup

end Tables
end PitWall

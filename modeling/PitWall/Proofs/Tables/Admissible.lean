import PitWall.Proofs.Arithmetic.Doubles
import PitWall.Proofs.Tables.Overwriting

namespace PitWall.Tables
open Arithmetic
variable {R : Type}

-- A text with a code point that is no character in it is a text all the same.
def Scalar.IsText : Scalar R → Prop
  | .text _ => True
  | .codes points => ∃ point ∈ points, ¬ point.isValidChar
  | _ => False

inductive Value.Keyed : Value R → Prop where
  | scalar {value : Scalar R} : Keyed (.scalar value)
  | list {items : List (Value R)} : Keyed (.list items)
  | mapping {entries : List (Scalar R × Value R)} (texts : ∀ entry ∈ entries, entry.1.IsText)
      (below : ∀ entry ∈ entries, Keyed entry.2) : Keyed (.mapping entries)

theorem keyed_mapping_iff {entries : List (Scalar R × Value R)} :
    (Value.mapping entries).Keyed ↔ ∀ entry ∈ entries, entry.1.IsText ∧ entry.2.Keyed := by
  constructor
  · rintro (_ | _ | ⟨texts,below⟩)
    exact fun entry there => ⟨texts entry there,below entry there⟩
  · intro each
    exact .mapping (fun entry there => (each entry there).1) fun entry there => (each entry there).2

def IsEntry (F : Type) [Vocabulary F] (value : Value R) : Prop :=
  ∃ entries, value = .mapping entries ∧ ∀ entry ∈ entries, Spelled F entry.1

section
variable [Arithmetic R]

-- A topic may also be there and say nothing.
def IsSection (value : Value R) : Prop := value.isVoid = true ∨ ∃ entries, value = .mapping entries

structure WellShaped (description : List (Scalar R × Value R)) : Prop where
  topics : ∀ entry ∈ description, Spelled Topic entry.1
  defaultCircuit : ∀ value, said description .defaultCircuit = some value → IsEntry CircuitField value
  others : ∀ topic ≠ .defaultCircuit, ∀ value, said description topic = some value → IsSection value
  circuits : ∀ entry ∈ topicOf description .circuits, IsEntry CircuitField entry.2
  tires : ∀ entry ∈ topicOf description .tires, Spelled Compound entry.1 ∧ IsEntry TireField entry.2
  paces : ∀ entry ∈ topicOf description .paceClasses, Spelled PaceClass entry.1 ∧ IsEntry PaceField entry.2
  risks : ∀ entry ∈ topicOf description .riskProfiles, Spelled RiskProfile entry.1 ∧ IsEntry RiskField entry.2
  weathers : ∀ entry ∈ topicOf description .weather, Spelled Weather entry.1
  rates : ∀ entry ∈ topicOf description .overtakeBaseRates, Spelled Difficulty entry.1

inductive Stated (description : List (Scalar R × Value R)) : Place → Value R → Prop where
  | defaultCircuit {field : CircuitField} {value : Value R}
      (there : (.text (Vocabulary.spelling field),value) ∈ topicOf description .defaultCircuit) :
      Stated description (.defaultCircuit field) value
  | circuit {entry : Scalar R × Value R} {field : CircuitField} {value : Value R}
      (named : entry ∈ topicOf description .circuits)
      (there : (.text (Vocabulary.spelling field),value) ∈ entry.2.entries) :
      Stated description (.circuit (circuitKey entry.1.shown) field) value
  | tire {member : Compound} {entry : Value R} {field : TireField} {value : Value R}
      (named : (.text (Vocabulary.spelling member),entry) ∈ topicOf description .tires)
      (there : (.text (Vocabulary.spelling field),value) ∈ entry.entries) : Stated description (.tire member field) value
  | pace {member : PaceClass} {entry : Value R} {field : PaceField} {value : Value R}
      (named : (.text (Vocabulary.spelling member),entry) ∈ topicOf description .paceClasses)
      (there : (.text (Vocabulary.spelling field),value) ∈ entry.entries) : Stated description (.pace member field) value
  | risk {member : RiskProfile} {entry : Value R} {field : RiskField} {value : Value R}
      (named : (.text (Vocabulary.spelling member),entry) ∈ topicOf description .riskProfiles)
      (there : (.text (Vocabulary.spelling field),value) ∈ entry.entries) : Stated description (.risk member field) value
  | weather {member : Weather} {value : Value R}
      (there : (.text (Vocabulary.spelling member),value) ∈ topicOf description .weather) :
      Stated description (.weather member) value
  | overtaking {member : Difficulty} {value : Value R}
      (there : (.text (Vocabulary.spelling member),value) ∈ topicOf description .overtakeBaseRates) :
      Stated description (.overtaking member) value

-- What only the figures of whole tables can tell.
structure Sound (tables : Tables R) : Prop where
  cliff : ∀ compound, 1 ≤ (tables.tire compound).cliffLap
  ceiling : ∀ member, (tables.pace member).realisticCeiling ≤ (tables.pace member).typicalFinish
  finish : ∀ member, (tables.pace member).typicalFinish ≤ (tables.pace member).realisticFloor
  defense : ∀ member, atMost (tables.pace member).defenseAbility 0.0 = false

end

-- A value that may stand where it is measured so. A number that is none is not below zero, and not whole.
def Admits (measure : Measure) : Value Float → Prop
  | .scalar (.int n) => (measure = .signed ∨ 0 ≤ n) ∧ (measure = .whole ∨ ¬ TooLarge n)
  | .scalar (.number x) => (measure = .signed ∨ below x 0.0 = false) ∧ (measure = .whole → ∃ n, equals n x = true)
  | _ => False

def Refusal.Complains : Refusal R → Prop
  | .unorderedNames _ _ => False
  | .fault cause => cause = .flooredNaN
  | _ => True

inductive Overflow (measure : Measure) : Value Float → Refusal Float → Prop where
  | integer {n : Int} (real : measure ≠ .whole) (large : TooLarge n) :
      Overflow measure (.scalar (.int n)) (.fault .integerTooLarge)
  | infinite {x : Float} (whole : measure = .whole) (infinite : (Decimal.Double.of x).kind = .infinite) :
      Overflow measure (.scalar (.number x)) (.fault .flooredInfinity)

theorem shown_spelled {α : Type} [Vocabulary α] [Vocabulary.Lawful α] [Arithmetic R] {key : Scalar R} (text : key.IsText)
    (member : α) :
    key.shown = Vocabulary.spelling member ↔ key = .text (Vocabulary.spelling member) := by
  cases key with
  | text name => simp [Scalar.shown]
  | codes points =>
    simp only [reduceCtorEq,iff_false]
    intro same
    obtain ⟨point,among,bad⟩ := text
    have shown : replacement ∈ (Vocabulary.spelling member).toList := by
      rw [← same,Scalar.shown,String.toList_ofList]
      have image := List.mem_map_of_mem (f := charOf) among
      rwa [charOf,if_neg bad] at image
    have letters := (Vocabulary.Lawful.word member).2 _ shown
    revert letters
    decide
  | _ => cases text

end PitWall.Tables

import PitWall.Proofs.Arithmetic.Exact
import PitWall.Proofs.Tables.Acceptance

namespace PitWall.Tables
open Arithmetic

-- Tables after one description more; one that is refused leaves them as they were.
def amended {R : Type} [Arithmetic R] (tables : Tables R) (description : List (Scalar R × Value R)) : Tables R :=
  (tables.merge description).toOption.getD tables

-- A figure that may stand where it is measured so. A NaN is not below zero.
def Figure.Within (measure : Measure) : Figure Float → Prop
  | .whole n => 0 ≤ n
  | .number x => measure ≠ .signed → below x 0.0 = false

instance (measure : Measure) : DecidablePred (Figure.Within measure)
  | .whole n => inferInstanceAs (Decidable (0 ≤ n))
  | .number x => inferInstanceAs (Decidable (measure ≠ .signed → below x 0.0 = false))

def Figure.Finite : Figure Float → Prop
  | .whole _ => True
  | .number x => (rational? x).isSome = true

instance : DecidablePred Figure.Finite
  | .whole _ => inferInstanceAs (Decidable True)
  | .number x => inferInstanceAs (Decidable ((rational? x).isSome = true))

-- What is true of tables whatever they were amended with. An override may leave a field out and has
-- no place for anything but a circuit's fields.
structure WellKept (tables : Tables Float) : Prop where
  complete : ∀ place, (∀ key field, place ≠ .circuit key field) → (tables.figureAt place).isSome
  figures : ∀ place figure, tables.figureAt place = some figure → figure.Within place.measure
  cliff : ∀ compound, 1 ≤ (tables.tire compound).cliffLap
  finish : ∀ member, 0 ≤ (tables.pace member).realisticCeiling ∧
    (tables.pace member).realisticCeiling ≤ (tables.pace member).typicalFinish ∧
    (tables.pace member).typicalFinish ≤ (tables.pace member).realisticFloor
  defense : ∀ member, atMost (tables.pace member).defenseAbility 0.0 = false
  letters : ∀ key ∈ tables.overrides.map (·.1), ∀ c ∈ key.toList, 'A' ≤ c ∧ c ≤ 'Z'
  filed : Filed tables.overrides

theorem circuitKey_letters (name : String) : ∀ c ∈ (circuitKey name).toList, 'A' ≤ c ∧ c ≤ 'Z' := by
  intro c there
  unfold circuitKey at there
  rw [String.toList_ofList] at there
  simpa using List.of_mem_filter there

theorem Filed.letters {R : Type} {overrides : List (String × CircuitOverride R)} (filed : Filed overrides) :
    ∀ key ∈ overrides.map (·.1), ∀ c ∈ key.toList, 'A' ≤ c ∧ c ≤ 'Z' := by
  intro key there
  rw [← filed.keys key there]
  exact circuitKey_letters key

section
variable {measure : Measure} {value : Value Float} {figure : Figure Float}

theorem Taken.weighs (taken : Taken measure value figure) : Weighs measure value := by
  obtain ⟨spot,field,number,passed,_⟩ := taken
  have judged : Judged (measured measure spot field value) (Weighs measure value) fun _ => True :=
    measured_judged (fun _ _ => trivial) (fun _ _ => trivial) spot field
  exact judged.succeeds.mp ⟨number,passed,trivial⟩

theorem Taken.within (taken : Taken measure value figure) : figure.Within measure := by
  have weighs := taken.weighs
  have converted := taken.converted
  cases value with
  | scalar value =>
    cases value with
    | int n =>
      unfold Tables.converted at converted
      dsimp only at converted
      split at converted
      · rename_i whole
        cases converted
        exact weighs.resolve_left (whole ▸ nofun)
      · obtain ⟨x,made,rfl⟩ := Option.map_eq_some_iff.mp converted
        exact fun unsigned => ofInt_not_below (weighs.resolve_left unsigned) (ok_of_toOption made)
    | number x =>
      unfold Tables.converted at converted
      dsimp only at converted
      split at converted
      · rename_i whole
        obtain ⟨n,floored,rfl⟩ := Option.map_eq_some_iff.mp converted
        exact floor_not_below (weighs.1.resolve_left (whole ▸ nofun)) (ok_of_toOption floored)
      · cases converted
        exact weighs.1.resolve_left
    | _ => cases weighs
  | _ => cases weighs

variable {told : Option (Value Float)} {before after : Option (Figure Float)}

theorem Written.isSome (written : Written measure told before after) (present : before.isSome) : after.isSome := by
  cases told with
  | none =>
    have same : after = before := written
    rwa [same]
  | some value =>
    obtain ⟨new,_,stands⟩ := written
    rw [stands]
    rfl

end

theorem standardOverrides_figures : ∀ entry ∈ standardOverrides (R := Float), ∀ field ∈ Vocabulary.all (α := CircuitField),
    ∀ figure ∈ entry.2.figure field, figure.Within .positive ∧ figure.Finite := by
  decide +kernel

theorem standard_figures (place : Place) (figure : Figure Float) (found : standard.figureAt place = some figure) :
    figure.Within place.measure ∧ figure.Finite := by
  cases place with
  | defaultCircuit field => cases field <;> cases found <;> decide +kernel
  | circuit key field =>
    obtain ⟨override,listed,holds⟩ := Option.bind_eq_some_iff.mp found
    obtain ⟨_,_,split,_⟩ := List.lookup_eq_some_iff.mp listed
    have there : (key,override) ∈ standardOverrides (R := Float) := by
      change standardOverrides = _ at split
      rw [split]
      simp
    exact standardOverrides_figures _ there field (Vocabulary.Lawful.complete field) figure holds
  | tire member field => cases member <;> cases field <;> cases found <;> decide +kernel
  | pace member field => cases member <;> cases field <;> cases found <;> decide +kernel
  | risk member field => cases member <;> cases field <;> cases found <;> decide +kernel
  | weather member => cases member <;> cases found <;> decide +kernel
  | overtaking member => cases member <;> cases found <;> decide +kernel

theorem standard_wellKept : WellKept standard where
  complete place apart := by
    cases place with
    | circuit key field => exact absurd rfl (apart key field)
    | defaultCircuit field | tire _ field | pace _ field | risk _ field => cases field <;> rfl
    | weather | overtaking => rfl
  figures place figure found := (standard_figures place figure found).1
  cliff := standard_sound.cliff
  finish member := by cases member <;> decide
  defense := standard_sound.defense
  letters := standard_filed.letters
  filed := standard_filed

section
variable {base tables : Tables Float} {description : List (Scalar Float × Value Float)}

theorem merge_preserves (kept : WellKept base) (merged : base.merge description = .ok tables) : WellKept tables := by
  have sound := merge_sound merged
  obtain ⟨filed,written⟩ := merge_writes kept.filed merged
  have within (place) := (written place).holds (kept.figures place) fun _ _ _ taken => taken.within
  exact {
    complete := fun place apart => (written place).isSome (kept.complete place apart)
    figures := within
    cliff := sound.cliff
    finish := fun member => ⟨within (.pace member .realisticCeiling) _ rfl,sound.ceiling member,sound.finish member⟩
    defense := sound.defense
    letters := filed.letters
    filed := filed }

theorem amended_preserves (kept : WellKept base) : WellKept (amended base description) := by
  unfold amended
  cases merged : base.merge description with
  | ok tables => exact merge_preserves kept merged
  | error refusal => exact kept

theorem merge_known (merged : base.merge description = .ok tables) :
    ∀ entry ∈ topicOf description .circuits, ∀ field ∈ entry.2.entries, Spelled CircuitField field.1 := by
  obtain ⟨figures,drawn,_⟩ := merge_parts merged
  intro entry named
  obtain ⟨before,after,stepped⟩ := ok_of_foldlM (overwritten_parts drawn).overrides entry named
  exact mergeCircuit_known stepped

end

-- No history of descriptions, accepted or refused, leads to tables that are not in order, and whatever
-- is accepted next has nothing but a circuit's fields for the overrides.
theorem history_wellKept (descriptions : List (List (Scalar Float × Value Float))) :
    WellKept (descriptions.foldl amended standard) ∧
      ∀ description tables, (descriptions.foldl amended standard).merge description = .ok tables →
        ∀ entry ∈ topicOf description .circuits, ∀ field ∈ entry.2.entries, Spelled CircuitField field.1 := by
  refine ⟨?_,fun _ _ => merge_known⟩
  suffices onward : ∀ tables, WellKept tables → WellKept (descriptions.foldl amended tables) by
    exact onward standard standard_wellKept
  induction descriptions with
  | nil => exact fun _ kept => kept
  | cons description rest ih => exact fun tables kept => ih _ (amended_preserves kept)

end PitWall.Tables

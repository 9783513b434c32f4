import PitWall.Arithmetic.Rationals
import PitWall.Proofs.Tables.History

namespace PitWall
open Arithmetic

section
variable {R S : Type}

def Circuit.map (f : R → S) (circuit : Circuit R) : Circuit S :=
  ⟨f circuit.baseLapTime,f circuit.pitLaneTimeLoss,f circuit.fuelEffectPerKg,f circuit.startingFuelKg,
    f circuit.fuelConsumptionPerLap⟩

def CircuitOverride.map (f : R → S) (override : CircuitOverride R) : CircuitOverride S :=
  ⟨override.baseLapTime.map f,override.pitLaneTimeLoss.map f,override.fuelEffectPerKg.map f,
    override.startingFuelKg.map f,override.fuelConsumptionPerLap.map f⟩

def TireData.map (f : R → S) (tire : TireData R) : TireData S :=
  ⟨f tire.initialGrip,f tire.degradationRate,tire.cliffLap,f tire.cliffMultiplier⟩

def PaceData.map (f : R → S) (pace : PaceData R) : PaceData S :=
  ⟨f pace.lapTimeDelta,f pace.overtakingAbility,f pace.defenseAbility,pace.realisticCeiling,pace.realisticFloor,
    pace.typicalFinish⟩

def RiskData.map (f : R → S) (risk : RiskData R) : RiskData S :=
  ⟨f risk.overtakingAggressiveness,f risk.tireManagement,f risk.pitStopEfficiency⟩

def Tables.map (f : R → S) (tables : Tables R) : Tables S where
  defaultCircuit := tables.defaultCircuit.map f
  overrides := tables.overrides.map fun (key,override) => (key,override.map f)
  tire compound := (tables.tire compound).map f
  weather weather := (tables.weather weather).map f
  pace member := (tables.pace member).map f
  risk profile := (tables.risk profile).map f
  overtaking difficulty := (tables.overtaking difficulty).map f

end

namespace Tables

inductive FinitelyReached : Tables Float → Prop where
  | standard : FinitelyReached standard
  | merged {base tables : Tables Float} {description : List (Scalar Float × Value Float)} (before : FinitelyReached base)
      (finite : ∀ place x, given description place = some (.scalar (.number x)) → (rational? x).isSome)
      (merged : base.merge description = .ok tables) : FinitelyReached tables

theorem Taken.finite {measure : Measure} {value : Value Float} {figure : Figure Float} (taken : Taken measure value figure)
    (finite : ∀ x, value = .scalar (.number x) → (rational? x).isSome) : figure.Finite := by
  have converted := taken.converted
  unfold Tables.converted at converted
  split at converted
  · split at converted
    · cases converted; trivial
    · obtain ⟨x,made,rfl⟩ := Option.map_eq_some_iff.mp converted
      exact ofInt_isSome (ok_of_toOption made)
  · split at converted
    · obtain ⟨n,_,rfl⟩ := Option.map_eq_some_iff.mp converted
      trivial
    · cases converted
      exact finite _ rfl
  · cases converted

theorem FinitelyReached.reached {tables : Tables Float} (path : FinitelyReached tables) : Reached tables := by
  induction path with
  | standard => exact .standard
  | merged _ _ merged before => exact .merged before merged

theorem FinitelyReached.figures {tables : Tables Float} (path : FinitelyReached tables) :
    ∀ place figure, tables.figureAt place = some figure → figure.Finite := by
  induction path with
  | standard => exact fun place figure found => (standard_figures place figure found).2
  | merged before finite merged kept =>
    obtain ⟨_,written⟩ := merge_writes before.reached.filed merged
    intro place
    refine (written place).holds (kept place) fun value figure told taken => taken.finite fun x same => ?_
    exact finite place x (told.trans (congrArg some same))

def exactly (x : Float) : Rat := (rational? x).getD 0

-- Tables of exact numbers: amended by such, or amended by finite doubles and then read as what these are.
inductive ExactlyReached : Tables Rat → Prop where
  | exact {tables : Tables Rat} (reached : Reached tables) : ExactlyReached tables
  | doubles {tables : Tables Float} (reached : FinitelyReached tables) : ExactlyReached (tables.map exactly)

theorem atMost_zero_eq_false_iff {x : Rat} : atMost x 0.0 = false ↔ 0 < x := by
  have zero : (0.0 : Rat) = 0 := by decide +kernel
  change decide (x ≤ 0.0) = false ↔ _
  rw [decide_eq_false_iff_not,not_le,zero]

theorem standard_sound_exact : Sound (standard (R := Rat)) where
  cliff compound := by cases compound <;> decide
  ceiling member := by cases member <;> decide
  finish member := by cases member <;> decide
  defense member := by cases member <;> decide +kernel

theorem ExactlyReached.sound {tables : Tables Rat} (reached : ExactlyReached tables) : Sound tables := by
  cases reached with
  | exact reached => exact reached.sound standard_sound_exact
  | doubles path =>
    rename_i doubles
    have sound := path.reached.sound standard_sound
    refine ⟨sound.cliff,sound.ceiling,sound.finish,fun member => ?_⟩
    obtain ⟨v,number⟩ := Option.isSome_iff_exists.mp (path.figures (.pace member .defenseAbility) _ rfl)
    have positive : ¬ v ≤ 0 := by
      rw [← atMost_zero_iff number,sound.defense member]
      exact Bool.false_ne_true
    have read : exactly (doubles.pace member).defenseAbility = v := by
      unfold exactly
      rw [number]
      rfl
    change atMost (exactly (doubles.pace member).defenseAbility) 0.0 = false
    rw [read]
    exact atMost_zero_eq_false_iff.mpr (not_le.mp positive)

end Tables
end PitWall

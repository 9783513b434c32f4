import PitWall.Arithmetic.Rationals
import PitWall.Proofs.Tables.Circuits
import PitWall.Tables.Standard

namespace PitWall.Tables
variable {R : Type} [Arithmetic R] {base tables : Tables R} {description : List (Scalar R × Value R)}

structure Drawn (base : Tables R) (description : List (Scalar R × Value R)) (tables : Tables R) : Prop where
  circuit : mergeDefaultCircuit base.defaultCircuit description = .ok tables.defaultCircuit
  overrides : (topicOf description .circuits).foldlM mergeCircuit base.overrides = .ok tables.overrides
  tire : mergeKeyed .tires .tire tireSchema base.tire description = .ok tables.tire
  pace : mergeKeyed .paceClasses .pace paceSchema base.pace description = .ok tables.pace
  risk : mergeKeyed .riskProfiles .risk riskSchema base.risk description = .ok tables.risk
  weather : mergeScalars .weather .weather base.weather description = .ok tables.weather
  overtaking : mergeScalars .overtakeBaseRates .overtaking base.overtaking description = .ok tables.overtaking

theorem overwritten_parts (drawn : base.overwritten description = .ok tables) : Drawn base description tables := by
  obtain ⟨_,_,drawn⟩ := ok_of_bind drawn
  obtain ⟨_,circuit,drawn⟩ := ok_of_bind drawn
  obtain ⟨_,listed,drawn⟩ := ok_of_bind drawn
  obtain ⟨_,overrides,drawn⟩ := ok_of_bind drawn
  obtain ⟨_,tire,drawn⟩ := ok_of_bind drawn
  obtain ⟨_,pace,drawn⟩ := ok_of_bind drawn
  obtain ⟨_,risk,drawn⟩ := ok_of_bind drawn
  obtain ⟨_,weather,drawn⟩ := ok_of_bind drawn
  obtain ⟨_,overtaking,drawn⟩ := ok_of_bind drawn
  cases drawn
  cases topicEntries_ok listed
  exact ⟨circuit,overrides,tire,pace,risk,weather,overtaking⟩

theorem merge_parts (merged : base.merge description = .ok tables) :
    ∃ figures, base.overwritten description = .ok figures ∧ build figures = tables := by
  obtain ⟨figures,drawn,merged⟩ := ok_of_bind merged
  obtain ⟨_,_,merged⟩ := ok_of_bind merged
  obtain ⟨_,_,merged⟩ := ok_of_bind merged
  cases merged
  exact ⟨figures,drawn,rfl⟩

-- Place by place, before anything is filed.
theorem overwritten_writes (drawn : base.overwritten description = .ok tables) (place : Place) :
    Written place.measure (given description place) (base.figureAt place) (tables.figureAt place) := by
  have parts := overwritten_parts drawn
  cases place with
  | defaultCircuit field => exact mergeDefaultCircuit_writes parts.circuit field
  | circuit key field => exact circuits_written parts.overrides key field
  | tire member field =>
    have written := mergeKeyed_writes tire_reads parts.tire member field
    cases field <;> exact written
  | pace member field =>
    have written := mergeKeyed_writes pace_reads parts.pace member field
    cases field <;> exact written
  | risk member field => exact mergeKeyed_writes risk_reads parts.risk member field
  | weather member => exact mergeScalars_writes parts.weather member
  | overtaking member => exact mergeScalars_writes parts.overtaking member

theorem overwritten_overwrites (drawn : base.overwritten description = .ok tables) : Overwrites base description tables :=
  fun place => (overwritten_writes drawn place).stands

-- What is filed in the base stays filed, so the figures are handed out as they were written.
theorem merge_writes (filed : Filed base.overrides) (merged : base.merge description = .ok tables) :
    Filed tables.overrides ∧
      ∀ place, Written place.measure (given description place) (base.figureAt place) (tables.figureAt place) := by
  obtain ⟨figures,drawn,rfl⟩ := merge_parts merged
  have filed := (circuits_keys filed (overwritten_parts drawn).overrides).1
  rw [build_filed filed]
  exact ⟨filed,overwritten_writes drawn⟩

theorem standard_filed : Filed (standard (R := R)).overrides := by
  have names : (standard (R := R)).overrides.map (·.1) = (standard (R := Rat)).overrides.map (·.1) := rfl
  constructor
  · rw [names]
    decide +kernel
  · rw [names]
    decide +kernel

theorem merge_overwrites (filed : Filed base.overrides) (merged : base.merge description = .ok tables) :
    Overwrites base description tables ∧ Filed tables.overrides ∧
      base.overrides.map (·.1) <+: tables.overrides.map (·.1) ∧
      (∀ key, key ∈ tables.overrides.map (·.1) ↔ key ∈ base.overrides.map (·.1) ∨
        ∃ entry ∈ topicOf description .circuits, circuitKey entry.1.shown = key) ∧
      ∀ name field, (tables.circuit name).figure field =
        (tables.figureAt (.circuit (circuitKey name) field)).or (tables.figureAt (.defaultCircuit field)) := by
  obtain ⟨figures,drawn,rfl⟩ := merge_parts merged
  obtain ⟨filed,grown,keys⟩ := circuits_keys filed (overwritten_parts drawn).overrides
  rw [build_filed filed]
  exact ⟨overwritten_overwrites drawn,filed,grown,keys,circuit_figure figures⟩

-- One circuit under two names, another under a new one, and a tire and a weather beside them.
def spelledTwice : List (Scalar R × Value R) :=
  [(.text "circuits",.mapping
      [(.text "monza",.mapping [(.text "base_lap_time",.scalar (.int 81)),(.text "starting_fuel_kg",.scalar (.int 105))]),
        (.text "Hockenheim",.mapping []),
        (.text "Monza ",.mapping [(.text "base_lap_time",.scalar (.int 80))])]),
    (.text "tires",.mapping [(.text "SOFT",.mapping [(.text "cliff_lap",.scalar (.int 12))])]),
    (.text "weather",.mapping [(.text "hot",.scalar (.int 2))])]

theorem spelledTwice_overwrites : Filed (standard (R := Rat)).overrides ∧
    ∃ tables, (standard (R := Rat)).merge spelledTwice = .ok tables ∧ Overwrites standard spelledTwice tables ∧
      "HOCKENHEIM" ∈ tables.overrides.map (·.1) ∧ (tables.circuit "MONZA").baseLapTime = 80 ∧
      (tables.circuit "MONZA").startingFuelKg = 105 ∧ (tables.circuit "MONZA").pitLaneTimeLoss = 24 ∧
      (tables.tire .soft).cliffLap = 12 := by
  have run : ((standard (R := Rat)).merge spelledTwice).toOption.any (fun tables =>
      decide ("HOCKENHEIM" ∈ tables.overrides.map (·.1) ∧ (tables.circuit "MONZA").baseLapTime = 80 ∧
        (tables.circuit "MONZA").startingFuelKg = 105 ∧ (tables.circuit "MONZA").pitLaneTimeLoss = 24 ∧
        (tables.tire .soft).cliffLap = 12)) = true := by decide +kernel
  obtain ⟨tables,merged,figures⟩ := returns_of_any run
  have overwritten := merge_overwrites standard_filed merged
  exact ⟨standard_filed,tables,merged,overwritten.1,of_decide_eq_true figures⟩

inductive Reached : Tables R → Prop where
  | standard : Reached standard
  | merged {base tables : Tables R} {description : List (Scalar R × Value R)} (before : Reached base)
      (merged : base.merge description = .ok tables) : Reached tables

theorem Reached.filed (reached : Reached tables) : Filed tables.overrides := by
  induction reached with
  | standard => exact standard_filed
  | merged _ merged filed => exact (merge_writes filed merged).1

end PitWall.Tables

import PitWall.Arithmetic.Doubles
import PitWall.Lap.Tire
import PitWall.Proofs.Arithmetic.Rationals
import PitWall.Proofs.Checked
import PitWall.Tables.Merge
import PitWall.Tables.Standard

namespace PitWall.Lap
open Arithmetic

def ramp (cliff lap : Int) : Rat := (min (max 0 (lap - cliff)) cliffRamp : Int) / (cliffRamp : Int)

theorem ramp_before {cliff lap : Int} (before : lap ≤ cliff) : ramp cliff lap = 0 := by
  have flat : min (max 0 (lap - cliff)) cliffRamp = 0 := by
    unfold cliffRamp
    omega
  simp [ramp,flat]

theorem ramp_past {cliff lap : Int} (past : cliff < lap) :
    ramp cliff lap = (min (lap - cliff) cliffRamp : Int) / (cliffRamp : Int) := by
  unfold ramp
  rw [max_eq_right (by omega)]

theorem ramp_full {cliff lap : Int} (beyond : cliff + 10 ≤ lap) : ramp cliff lap = 1 := by
  have full : min (max 0 (lap - cliff)) cliffRamp = cliffRamp := by
    unfold cliffRamp
    omega
  unfold ramp
  rw [full]
  exact div_self (by decide +kernel)

theorem ramp_monotone (cliff : Int) : Monotone (ramp cliff) := by
  intro earlier later order
  unfold ramp
  have nonneg : (0 : Rat) ≤ (cliffRamp : Int) := by decide +kernel
  gcongr

theorem ramp_bounds (cliff lap : Int) : 0 ≤ ramp cliff lap ∧ ramp cliff lap ≤ 1 := by
  have low : ramp cliff (min lap cliff) = 0 := ramp_before (min_le_right _ _)
  have high : ramp cliff (max lap (cliff + 10)) = 1 := ramp_full (le_max_right _ _)
  constructor
  · rw [← low]
    exact ramp_monotone cliff (min_le_left _ _)
  · rw [← high]
    exact ramp_monotone cliff (le_max_left _ _)

def growth (tire : TireData Rat) (weather management : Rat) (lap : Int) : Rat :=
  weather * management + (tire.cliffMultiplier - 1) * ramp tire.cliffLap lap

def loss (tire : TireData Rat) (weather management : Rat) (lap : Int) : Rat :=
  tire.degradationRate * growth tire weather management lap * lap

theorem degradation_eq (tire : TireData Rat) (lap : Int) (weather management : Rat) :
    degradation tire lap weather management = .ok (loss tire weather management lap) := by
  have ten : ((cliffRamp : Int) : Rat) ≠ 0 := by decide +kernel
  unfold degradation loss growth
  dsimp only
  split
  · rename_i past
    simp only [ofInt_eq,ok_bind,quotient_eq _ ten,ramp_past past]
    apply congrArg Except.ok
    change (tire.degradationRate * weather * management + (tire.degradationRate * tire.cliffMultiplier - tire.degradationRate)
      * _ / _) * lap = _
    ring
  · rename_i before
    simp only [ofInt_eq,ok_bind,ramp_before (not_lt.mp before)]
    apply congrArg Except.ok
    change tire.degradationRate * weather * management * lap = _
    ring

section
variable {tire : TireData Rat} (worse : 1 ≤ tire.cliffMultiplier) (weather management : Rat)
include worse

theorem growth_monotone : Monotone (growth tire weather management) := by
  intro earlier later order
  have extra : 0 ≤ tire.cliffMultiplier - 1 := sub_nonneg.mpr worse
  have further := ramp_monotone tire.cliffLap order
  unfold growth
  gcongr

theorem le_growth (lap : Int) : weather * management ≤ growth tire weather management lap := by
  have extra : 0 ≤ tire.cliffMultiplier - 1 := sub_nonneg.mpr worse
  have nonneg := (ramp_bounds tire.cliffLap lap).1
  unfold growth
  apply le_add_of_nonneg_right
  positivity

end

-- A ramp only leads from what the weather and the driver make of the tire to what is left of that past the cliff.
theorem growth_nonneg {tire : TireData Rat} {weather management : Rat} (fresh : 0 ≤ weather * management)
    (old : 1 ≤ weather * management + tire.cliffMultiplier) (lap : Int) : 0 ≤ growth tire weather management lap := by
  obtain ⟨low,high⟩ := ramp_bounds tire.cliffLap lap
  have mixed : growth tire weather management lap = weather * management * (1 - ramp tire.cliffLap lap)
      + (weather * management + tire.cliffMultiplier - 1) * ramp tire.cliffLap lap := by
    unfold growth
    ring
  have left : 0 ≤ 1 - ramp tire.cliffLap lap := sub_nonneg.mpr high
  have right : 0 ≤ weather * management + tire.cliffMultiplier - 1 := sub_nonneg.mpr old
  rw [mixed]
  positivity

structure Ages (tire : TireData Rat) (weather management : Rat) (loss : Int → Rat) : Prop where
  before : ∀ lap ≤ tire.cliffLap, loss lap = tire.degradationRate * weather * management * lap
  beyond : ∀ lap, tire.cliffLap + 10 ≤ lap →
    loss lap = tire.degradationRate * (weather * management + tire.cliffMultiplier - 1) * lap
  onward : 1 ≤ tire.cliffMultiplier → MonotoneOn loss (Set.Ici 0)
  dearer : 1 ≤ tire.cliffMultiplier → ∀ lap, 0 ≤ lap → tire.degradationRate * weather * management * lap ≤ loss lap
  sign : (∀ lap, 0 ≤ lap → 0 ≤ loss lap) ↔ 1 ≤ weather * management + tire.cliffMultiplier

theorem loss_ages {tire : TireData Rat} {weather management : Rat} (rate : 0 < tire.degradationRate)
    (cliff : 1 ≤ tire.cliffLap) (hot : 0 ≤ weather) (hard : 0 ≤ management) :
    Ages tire weather management (loss tire weather management) where
  before lap before := by
    unfold loss growth
    rw [ramp_before before]
    ring
  beyond lap beyond := by
    unfold loss growth
    rw [ramp_full beyond]
    ring
  onward worse := by
    intro earlier driven later _ order
    have nonneg : (0 : Rat) ≤ earlier := by exact_mod_cast driven
    have further : (earlier : Rat) ≤ later := by exact_mod_cast order
    have grown := growth_monotone worse weather management order
    have positive : 0 ≤ growth tire weather management later :=
      le_trans (by positivity) (le_growth worse weather management later)
    unfold loss
    gcongr
  dearer worse lap driven := by
    have nonneg : (0 : Rat) ≤ lap := by exact_mod_cast driven
    have grown := le_growth worse weather management lap
    unfold loss
    rw [mul_assoc tire.degradationRate]
    gcongr
  sign := by
    constructor
    · intro paid
      have laps : (0 : Rat) < (tire.cliffLap + 10 : Int) := by exact_mod_cast (by omega : 0 < tire.cliffLap + 10)
      have full := paid (tire.cliffLap + 10) (by omega)
      unfold loss growth at full
      rw [ramp_full le_rfl] at full
      have old := nonneg_of_mul_nonneg_right (nonneg_of_mul_nonneg_left full laps) rate
      linarith
    · intro old lap driven
      have nonneg : (0 : Rat) ≤ lap := by exact_mod_cast driven
      have grown := growth_nonneg (by positivity) old lap
      unfold loss
      positivity

-- Tables whose soft tires lose nothing past their cliff and regain what they had lost before it.
def kindCliff {R : Type} : List (Tables.Scalar R × Tables.Value R) :=
  [(.text "tires",.mapping [(.text "SOFT",.mapping [(.text "cliff_multiplier",.scalar (.int 0))])])]

-- Whether old tires can come out faster than fresh ones is a question of the multiplier past the cliff. Where it is
-- at least one, they only get slower. Where it is less, they may: the loader admits tables by which a careful driver
-- on a cool day is faster on tires of twenty-five laps than on tires of one.
theorem degradation_ages :
    (∀ {tire : TireData Rat} {weather management : Rat}, 0 < tire.degradationRate → 1 ≤ tire.cliffLap →
      0 ≤ tire.cliffMultiplier → 0 ≤ weather → 0 ≤ management →
      ∃ loss, (∀ lap, degradation tire lap weather management = .ok (loss lap)) ∧ Ages tire weather management loss) ∧
    ∃ tables : Tables Rat, Tables.standard.merge kindCliff = .ok tables ∧
      Succeeds (Tables.standard.merge (kindCliff (R := Float))) ∧ (tables.tire .soft).cliffMultiplier < 1 ∧
      let cost lap := degradation (tables.tire .soft) lap (tables.weatherMultiplier .cool)
        (tables.risk .conservative).tireManagement
      ∃ fresh old, cost 1 = .ok fresh ∧ cost 25 = .ok old ∧ old < fresh := by
  constructor
  · intro tire weather management rate cliff _ hot hard
    exact ⟨loss tire weather management,fun lap => degradation_eq tire lap weather management,
      loss_ages rate cliff hot hard⟩
  · have run : (Tables.standard.merge kindCliff).toOption.any (fun tables : Tables Rat =>
        let cost := loss (tables.tire .soft) (tables.weatherMultiplier .cool) (tables.risk .conservative).tireManagement
        decide ((tables.tire .soft).cliffMultiplier < 1 ∧ cost 25 < cost 1)) = true := by decide +kernel
    have runToo : (Tables.standard.merge (kindCliff (R := Float))).toOption.any (fun _ => true) = true := by decide +kernel
    obtain ⟨tables,merged,checked⟩ := returns_of_any run
    obtain ⟨kind,faster⟩ := of_decide_eq_true checked
    exact ⟨tables,merged,(returns_of_any runToo).succeeds,kind,_,_,degradation_eq _ _ _ _,degradation_eq _ _ _ _,faster⟩

def kindTire : TireData Rat := {Tables.standardTire .soft with cliffMultiplier := 0}

theorem softTire_ages :
    (∃ loss : Int → Rat, (∀ lap, degradation (Tables.standardTire .soft) lap 1 1 = .ok (loss lap)) ∧
      loss 15 = 6 / 5 ∧ loss 25 = 5 ∧ loss 15 ≤ loss 20 ∧ ∀ lap, 0 ≤ lap → 0 ≤ loss lap) ∧
    ∃ loss : Int → Rat, (∀ lap, degradation kindTire lap (17 / 20) (17 / 20) = .ok (loss lap)) ∧
      ∃ lap, 0 ≤ lap ∧ loss lap < 0 := by
  constructor
  · obtain ⟨loss,paid,ages⟩ := @degradation_ages.1 (Tables.standardTire .soft) 1 1 (by decide +kernel) (by decide)
      (by decide +kernel) (by decide +kernel) (by decide +kernel)
    refine ⟨loss,paid,?_,?_,?_,?_⟩
    · exact (ages.before 15 (by decide)).trans (by decide +kernel)
    · exact (ages.beyond 25 (by decide)).trans (by decide +kernel)
    · exact ages.onward (by decide +kernel) (by decide) (by decide) (by decide)
    · exact ages.sign.mpr (by decide +kernel)
  · obtain ⟨loss,paid,ages⟩ := @degradation_ages.1 kindTire (17 / 20) (17 / 20) (by decide +kernel) (by decide)
      (by decide +kernel) (by decide +kernel) (by decide +kernel)
    refine ⟨loss,paid,?_⟩
    have refunded : ¬ ∀ lap, 0 ≤ lap → 0 ≤ loss lap := fun always => absurd (ages.sign.mp always) (by decide +kernel)
    push Not at refunded
    exact refunded

end PitWall.Lap

import PitWall.Proofs.Arithmetic.Doubles
import PitWall.Proofs.Simulation.Course
import PitWall.Proofs.Simulation.Progress

namespace PitWall.Position
open Arithmetic

-- The places that a start is worth, before the field is looked at.
def gainedPlaces (position : Int) (gain : Float) : Except Fault Int := do
  let seed ← startSeed position
  if below seed gain then floor ((← quotient seed gain) * (← ofInt (potentialGain position))) else return 0

end PitWall.Position

namespace PitWall
open Arithmetic Position

-- What tables must be for the numbers of a race on a field of thirty not to fail.
structure Tables.Steady (tables : Tables Float) : Prop where
  cliff : ∀ compound, 1 ≤ (tables.tire compound).cliffLap ∧ (tables.tire compound).cliffLap ≤ 100000
  life : ∀ compound, Returns (ofInt (tables.tire compound).cliffLap) fun cliff : Float => (!(cliff * 1.5 == 0.0)) = true
  defense : ∀ pace, (!((tables.pace pace).defenseAbility == 0.0)) = true
  ceiling : ∀ pace, 0 ≤ (tables.pace pace).realisticCeiling ∧ (tables.pace pace).realisticCeiling ≤ 100000
  usual : ∀ pace, 0 ≤ (tables.pace pace).typicalFinish ∧ (tables.pace pace).typicalFinish ≤ 100000
  opening : ∀ pace risk position, 1 ≤ position → position ≤ 30 → Succeeds (gainedPlaces position
    (0.3 * (tables.pace pace).overtakingAbility * (tables.risk risk).overtakingAggressiveness))

def IsStintLap (lap : Int) : Prop := 1 ≤ lap ∧ lap ≤ 100

theorem ofInt_nonzero : ∀ n < 100, (ofInt (n + 1 : Nat)).toOption.any (fun x : Float => !(x == 0.0)) = true := by
  decide +kernel

theorem ofInt_stint {lap : Int} (within : IsStintLap lap) :
    Returns (ofInt lap) fun x : Float => (!(x == 0.0)) = true := by
  obtain ⟨low,high⟩ := within
  have shape : lap = ((lap.toNat - 1 + 1 : Nat) : Int) := by omega
  rw [shape]
  exact returns_of_any (ofInt_nonzero _ (by omega))

namespace Lap
variable {tire : TireData Float} {lap : Int}

theorem lap_succeeds (within : IsStintLap lap) : Succeeds (ofInt lap : Except Fault Float) :=
  (ofInt_stint within).succeeds

theorem degradation_succeeds (weather management : Float) (within : IsStintLap lap) :
    Succeeds (degradation tire lap weather management) := by
  obtain ⟨low,high⟩ := within
  refine degradation_returns (lap_succeeds ⟨low,high⟩) _ _ (fun past => ?_) ?_
  · unfold cliffRamp
    exact ofInt_succeeds (moderate_of_bounds (by omega) (by omega))
  · have short : IsStintLap cliffRamp := ⟨by decide,by decide⟩
    obtain ⟨ten,converted,nonzero⟩ := ofInt_stint short
    exact ⟨ten,converted,fun x => quotient_succeeds x nonzero⟩

theorem wear_succeeds (counted : 1 ≤ tire.cliffLap) (small : tire.cliffLap ≤ 100000)
    (life : Returns (ofInt tire.cliffLap) fun cliff : Float => (!(cliff * 1.5 == 0.0)) = true) (within : IsStintLap lap) :
    Succeeds (wear tire lap) := by
  obtain ⟨low,high⟩ := within
  obtain ⟨cliff,converted,nonzero⟩ := life
  refine wear_returns (lap_succeeds ⟨low,high⟩) ⟨cliff,converted,fun x => quotient_succeeds x nonzero⟩ fun past => ?_
  exact ratio_succeeds (by omega) (moderate_of_bounds (by omega) (by omega))

end Lap

namespace Position
variable {position : Int} {pace : PaceData Float} {risk : RiskData Float}

theorem draw_succeeds {draw : Int} (low : 0 ≤ draw) (high : draw < 100) : Succeeds (ratio draw 100 : Except Fault Float) :=
  ratio_succeeds (by decide) (moderate_of_bounds (by omega) (by omega))

theorem startSeed_succeeds (position : Int) : Succeeds (startSeed position : Except Fault Float) := by
  obtain ⟨low,high⟩ := startDraw_bounds position
  exact draw_succeeds low high

theorem lapSeed_succeeds (lap position : Int) : Succeeds (lapSeed lap position : Except Fault Float) :=
  draw_succeeds (by unfold lapDraw; omega) (by unfold lapDraw; omega)

theorem firstLap_succeeds (fieldSize : Int) (defense : (!(pace.defenseAbility == 0.0)) = true)
    (opening : Succeeds (gainedPlaces position (0.3 * pace.overtakingAbility * risk.overtakingAggressiveness))) :
    Succeeds (firstLap position pace risk fieldSize) := by
  refine firstLap_returns (fun x => quotient_succeeds x defense) fieldSize (startSeed_succeeds position) ?_
  intro seed drawn gain beaten
  unfold gainedPlaces at opening
  rw [drawn] at opening
  change Succeeds (if below seed gain then _ else _) at opening
  rwa [if_pos beaten] at opening

theorem laterLap_succeeds (risk : RiskData Float) (lap fieldSize : Int) (rate : Float)
    (defense : (!(pace.defenseAbility == 0.0)) = true) : Succeeds (laterLap position lap rate pace risk fieldSize) :=
  laterLap_returns (fun x => quotient_succeeds x defense) fieldSize rate (lapSeed_succeeds lap position)

end Position

namespace Odds
variable {pace : PaceData Float} (ceiling : 0 ≤ pace.realisticCeiling ∧ pace.realisticCeiling ≤ 100000)
include ceiling

theorem points_succeeds {predicted : Int} (onField : 1 ≤ predicted ∧ predicted ≤ 30) : Succeeds (points pace predicted) := by
  refine points_returns (ofInt_succeeds ?_) (ofInt_succeeds (moderate_of_bounds (by omega) (by omega)))
  unfold pointsPositions
  exact moderate_of_bounds (by omega) (by omega)

theorem beatingStart_succeeds {start gained : Int} (usual : 0 ≤ pace.typicalFinish ∧ pace.typicalFinish ≤ 100000)
    (onField : 1 ≤ start ∧ start ≤ 30) (moderate : -30 ≤ gained ∧ gained ≤ 30) : Succeeds (beatingStart pace start gained) :=
  beatingStart_returns (ofInt_succeeds (moderate_of_bounds (by omega) (by omega)))
    (ofInt_succeeds (moderate_of_bounds (by omega) (by omega))) (ofInt_succeeds (moderate_of_bounds (by omega) (by omega)))

end Odds

namespace Simulation
variable {setup : Setup Float}

def Setup.OnField (setup : Setup Float) (position : Int) : Prop := 1 ≤ position ∧ position ≤ setup.race.fieldSize

theorem change_succeeds (steady : setup.tables.Steady) (small : setup.race.fieldSize ≤ 30) {position : Int} (driven : Nat)
    (onField : setup.OnField position) :
    Returns (change position (driven + 1 : Nat) setup.rate setup.pace setup.risk setup.race.fieldSize) fun next =>
      setup.OnField next.position := by
  obtain ⟨ceilingOnField,ordered,floorOnField⟩ := envelope_bounds setup.pace (one_le_fieldSize setup.race)
  have succeeds : Succeeds (change position (driven + 1 : Nat) setup.rate setup.pace setup.risk setup.race.fieldSize) := by
    unfold change
    split
    · exact firstLap_succeeds _ (steady.defense _) (steady.opening _ _ position onField.1 (Int.le_trans onField.2 small))
    · exact laterLap_succeeds _ _ _ _ (steady.defense _)
  obtain ⟨next,moved,_⟩ := succeeds
  refine ⟨next,moved,?_⟩
  by_cases first : driven = 0
  · subst first
    exact ((change_opening floorsUp_double moved).move ⟨ceilingOnField,Int.le_trans ordered floorOnField⟩ onField).onField
  · exact ((change_onward (by omega) moved).move ceilingOnField onField).onField

theorem overrunLimit_succeeds {tables : Tables Float} (steady : tables.Steady) (compound : Compound) :
    Succeeds (Advisory.overrunLimit (tables.tire compound).cliffLap : Except Fault Float) :=
  Returns.bind (steady.life compound) fun _ _ _ => succeeds_ok _

theorem mean_succeeds {times : List Float} (counted : IsStintLap times.length) : Succeeds (mean times) :=
  Returns.bind (ofInt_stint counted) fun _ _ nonzero => quotient_succeeds _ nonzero

theorem steady_passable (steady : setup.tables.Steady) (small : setup.race.fieldSize ≤ 30)
    (onField : setup.car.start ≤ setup.race.fieldSize) : Passable setup IsStintLap setup.OnField := by
  have onGrid := setup.car.onGrid
  have finish (position) := predict_bounds (envelope_bounds setup.pace (one_le_fieldSize setup.race)).2.1 position
  obtain ⟨ceilingOnField,ordered,floorOnField⟩ := envelope_bounds setup.pace (one_le_fieldSize setup.race)
  exact {
    limit := overrunLimit_succeeds steady
    degradation := fun _ _ within => Lap.degradation_succeeds _ _ within
    wear := fun compound _ within =>
      Lap.wear_succeeds (steady.cliff compound).1 (steady.cliff compound).2 (steady.life compound) within
    change := fun driven onField => change_succeeds steady small driven onField
    mean := fun _ counted => mean_succeeds counted
    points := fun position => by
      obtain ⟨low,high⟩ := finish position
      exact Odds.points_succeeds (steady.ceiling _) ⟨by omega,by omega⟩
    beatingStart := fun position => by
      obtain ⟨low,high⟩ := finish position
      exact Odds.beatingStart_succeeds (steady.ceiling _) (steady.usual _) ⟨by omega,by omega⟩ ⟨by omega,by omega⟩ }

theorem simulate_succeeds {tables : Tables Float} (steady : tables.Steady) {race : Race} {car : Car} {plan : Strategy}
    (track : Track Float) (small : race.fieldSize ≤ 30) (onField : car.start ≤ race.fieldSize)
    (short : ∀ stint ∈ plan.stints, stint.laps ≤ 100) : Succeeds (simulate race car plan track tables) := by
  refine simulate_returns (steady_passable steady small onField) ⟨car.onGrid,onField⟩ fun stint member n low high => ?_
  exact ⟨low,Int.le_trans high (short stint member)⟩

end Simulation

theorem Tables.standard_steady : (Tables.standard : Tables Float).Steady where
  cliff compound := by cases compound <;> decide
  life compound := by cases compound <;> exact returns_of_any (by decide +kernel)
  defense pace := by cases pace <;> decide +kernel
  ceiling pace := by cases pace <;> decide
  usual pace := by cases pace <;> decide
  opening pace risk position some small := by
    have run : ∀ n < 31, (gainedPlaces (n : Nat) (0.3 * (Tables.standard.pace pace : PaceData Float).overtakingAbility *
        (Tables.standard.risk risk : RiskData Float).overtakingAggressiveness)).toOption.any (fun _ => true) = true := by
      cases pace <;> cases risk <;> decide +kernel
    have shape : position = (position.toNat : Int) := by omega
    rw [shape]
    exact (returns_of_any (run position.toNat (by omega))).succeeds

end PitWall

import PitWall.Proofs.Simulation.Laps

namespace PitWall
open Arithmetic
variable {R : Type} [Arithmetic R]

-- Each function of a lap goes through where the numbers it asks for are to be had, and only as far as it asks.
namespace Lap
variable {tire : TireData R} {lap : Int} (laps : Succeeds (ofInt lap : Except Fault R))
include laps

theorem degradation_returns (weather management : R)
    (past : tire.cliffLap < lap → Succeeds (ofInt (min (lap - tire.cliffLap) cliffRamp) : Except Fault R))
    (ramp : Returns (ofInt cliffRamp) fun ten : R => ∀ x, Succeeds (quotient x ten)) :
    Succeeds (degradation tire lap weather management) := by
  unfold degradation
  dsimp only
  split
  · rename_i beyond
    refine Returns.bind (past beyond) fun _ _ _ => ?_
    refine Returns.bind ramp fun _ _ divides => ?_
    refine Returns.bind (divides _) fun _ _ _ => ?_
    exact Returns.bind laps fun _ _ _ => succeeds_ok _
  · exact Returns.bind laps fun _ _ _ => succeeds_ok _

theorem wear_returns (life : Returns (ofInt tire.cliffLap) fun cliff : R => ∀ x, Succeeds (quotient x (cliff * 1.5)))
    (past : tire.cliffLap < lap → Succeeds (ratio (lap - tire.cliffLap) tire.cliffLap : Except Fault R)) :
    Succeeds (wear tire lap) := by
  unfold wear
  refine Returns.bind life fun _ _ divides => ?_
  refine Returns.bind laps fun _ _ _ => ?_
  refine Returns.bind (divides _) fun _ _ _ => ?_
  split
  · rename_i beyond
    exact Returns.bind (past beyond) fun _ _ _ => succeeds_ok _
  · exact succeeds_ok _

end Lap

namespace Position
variable {position : Int} {pace : PaceData R} {risk : RiskData R}
  (defense : ∀ x, Succeeds (quotient x pace.defenseAbility))
include defense

-- A draw is divided only where it has been beaten.
theorem firstLap_returns (fieldSize : Int) (seeds : Succeeds (startSeed position : Except Fault R))
    (opening : ∀ seed, startSeed position = .ok seed →
      let gain := 0.3 * pace.overtakingAbility * risk.overtakingAggressiveness
      below seed gain = true → Succeeds (do floor ((← quotient seed gain) * (← ofInt (potentialGain position))))) :
    Succeeds (firstLap position pace risk fieldSize) := by
  unfold firstLap
  refine Returns.bind seeds fun seed drawn _ => ?_
  refine Returns.bind (defense _) fun _ _ _ => ?_
  split
  · rename_i gains
    have beaten := (Bool.and_eq_true_iff.mp gains).1
    obtain ⟨places,floored,_⟩ := opening seed drawn beaten
    obtain ⟨share,divided,floored⟩ := ok_of_bind floored
    obtain ⟨whole,converted,floored⟩ := ok_of_bind floored
    rw [divided]
    change Succeeds (ofInt _ >>= _)
    rw [converted]
    change Succeeds (floor (share * whole) >>= _)
    rw [floored]
    exact succeeds_ok _
  · split <;> exact succeeds_ok _

theorem laterLap_returns {lap : Int} (fieldSize : Int) (rate : R) (seeds : Succeeds (lapSeed lap position : Except Fault R)) :
    Succeeds (laterLap position lap rate pace risk fieldSize) := by
  have loss : Succeeds (lossChance position rate pace fieldSize) := Returns.bind (defense _) fun _ _ _ => succeeds_ok _
  unfold laterLap
  refine Returns.bind seeds fun _ _ _ => ?_
  refine Returns.bind loss fun _ _ _ => ?_
  split
  · exact succeeds_ok _
  · split <;> exact succeeds_ok _

end Position

namespace Odds
variable {pace : PaceData R}

theorem points_returns {predicted : Int} (behind : Succeeds (ofInt (predicted - pointsPositions) : Except Fault R))
    (ahead : Succeeds (ofInt (predicted - pace.realisticCeiling) : Except Fault R)) : Succeeds (points pace predicted) := by
  unfold points
  split
  · exact Returns.bind behind fun _ _ _ => succeeds_ok _
  · split
    · exact Returns.bind ahead fun _ _ _ => succeeds_ok _
    · exact Returns.bind behind fun _ _ _ => succeeds_ok _

theorem beatingStart_returns {start gained : Int} (behind : Succeeds (ofInt (start - pace.typicalFinish) : Except Fault R))
    (ahead : Succeeds (ofInt (pace.realisticCeiling - start) : Except Fault R))
    (places : Succeeds (ofInt gained : Except Fault R)) : Succeeds (beatingStart pace start gained) := by
  unfold beatingStart
  split
  · exact Returns.bind behind fun _ _ _ => succeeds_ok _
  · split
    · exact Returns.bind ahead fun _ _ _ => succeeds_ok _
    · split <;> exact Returns.bind places fun _ _ _ => succeeds_ok _

end Odds

namespace Simulation
open Position

-- Where a race asks its numbers for something that they may refuse. No step fails on a lap of a stint
-- and a place that are to be expected, and from such a place the next lap leads to another one.
structure Passable (setup : Setup R) (lap place : Int → Prop) : Prop where
  limit : ∀ compound, Succeeds (Advisory.overrunLimit (setup.tables.tire compound).cliffLap : Except Fault R)
  degradation : ∀ compound {n}, lap n →
    Succeeds (Lap.degradation (setup.tables.tire compound) n setup.weather setup.risk.tireManagement)
  wear : ∀ compound {n}, lap n → Succeeds (Lap.wear (setup.tables.tire compound) n)
  change : ∀ {position} (driven : Nat), place position →
    Returns (change position (driven + 1 : Nat) setup.rate setup.pace setup.risk setup.race.fieldSize) fun next =>
      place next.position
  mean : ∀ {times : List R}, times ≠ [] → lap times.length → Succeeds (mean times)
  points : ∀ position, Succeeds (Odds.points setup.pace (predict (envelope setup.pace setup.race.fieldSize) position))
  beatingStart : ∀ position, Succeeds (Odds.beatingStart setup.pace setup.car.start
    (setup.car.start - predict (envelope setup.pace setup.race.fieldSize) position))

def Spans (lap : Int → Prop) (stint : Stint) : Prop := ∀ n, 1 ≤ n → n ≤ stint.laps → lap n

theorem lapPlans_within {lap : Int → Prop} {stint : Stint} (following : Option Stint) (spans : Spans lap stint) :
    ∀ plan ∈ lapPlans stint following, lap plan.lap := by
  intro plan member
  obtain ⟨driven,inRange,rfl⟩ := List.mem_map.mp member
  have bound := List.mem_range.mp inRange
  exact spans _ (by dsimp only; omega) (by dsimp only; omega)

section
variable {setup : Setup R} {lap place : Int → Prop} (passable : Passable setup lap place)
include passable

theorem driveLap_succeeds {running : Running R} {plan : LapPlan} (onField : place running.position) (within : lap plan.lap) :
    Returns (driveLap setup running plan) fun result => place result.2.position := by
  unfold driveLap
  refine Returns.bind (passable.degradation _ within) fun _ _ _ => ?_
  refine Returns.bind (passable.change running.laps onField) fun next _ onField => ?_
  refine Returns.bind (passable.wear _ within) fun _ _ _ => ?_
  exact Returns.ok onField

theorem driveLaps_succeeds {running : Running R} {plans : List LapPlan} (onField : place running.position)
    (within : ∀ plan ∈ plans, lap plan.lap) :
    Returns (driveLaps setup running plans) fun result =>
      place result.2.position ∧ result.1.length = plans.length := by
  induction plans generalizing running with
  | nil => exact Returns.ok ⟨onField,rfl⟩
  | cons plan plans ih =>
    have first := driveLap_succeeds passable onField (within plan List.mem_cons_self)
    refine Returns.bind first fun next _ onField => ?_
    refine Returns.bind (ih onField fun other member => within other (List.mem_cons_of_mem _ member)) fun rest _ known => ?_
    exact Returns.ok ⟨known.1,congrArg (· + 1) known.2⟩

theorem driveStint_succeeds {running : Running R} {stint : Stint} (following : Option Stint)
    (onField : place running.position) (spans : Spans lap stint) :
    Returns (driveStint setup running stint following) fun result =>
      place result.2.position ∧ (result.1.laps ≠ [] → lap result.1.laps.length) := by
  have advisories : Succeeds (Advisory.ofStint stint setup.race setup.tables) :=
    Returns.bind (passable.limit _) fun _ _ _ => succeeds_ok _
  unfold driveStint
  refine Returns.bind advisories fun _ _ _ => ?_
  refine Returns.bind (driveLaps_succeeds passable onField (lapPlans_within following spans)) fun result _ known => ?_
  refine Returns.ok ⟨known.1,fun driven => ?_⟩
  have counted := known.2.trans (lapPlans_length stint following)
  have positive := List.length_pos_iff.mpr driven
  dsimp only at positive ⊢
  exact spans _ (by omega) (by omega)

theorem driveStints_succeeds {running : Running R} {stints : List Stint} (onField : place running.position)
    (spans : ∀ stint ∈ stints, Spans lap stint) :
    Returns (driveStints setup running stints) fun result =>
      place result.2.position ∧ ∀ run ∈ result.1, run.laps ≠ [] → lap run.laps.length := by
  induction stints generalizing running with
  | nil => exact Returns.ok ⟨onField,fun run member => by cases member⟩
  | cons stint stints ih =>
    have first := driveStint_succeeds passable stints.head? onField (spans stint List.mem_cons_self)
    refine Returns.bind first fun next _ known => ?_
    obtain ⟨onField,counted⟩ := known
    refine Returns.bind (ih onField fun other member => spans other (List.mem_cons_of_mem _ member)) fun rest _ known => ?_
    exact Returns.ok ⟨known.1,List.forall_mem_cons.mpr ⟨counted,known.2⟩⟩

theorem metricsOf_succeeds {run : StintRun R} (counted : run.laps ≠ [] → lap run.laps.length) : Succeeds (metricsOf run) := by
  unfold metricsOf
  dsimp only
  split
  · exact succeeds_ok _
  · rename_i driven
    have driven : run.laps ≠ [] := by simpa using driven
    have average : Succeeds (Arithmetic.mean (run.laps.map (·.record.time))) :=
      passable.mean (by simpa using driven) (by simpa using counted driven)
    exact Returns.bind average fun _ _ _ => succeeds_ok _

theorem advise_succeeds {review : Review R} (same : review.tables = setup.tables) (rules : List Rule) :
    Succeeds (advise rules review) := by
  have near (stint : Stint) : Succeeds (Rule.isNearCliff stint (review.tables.tire stint.compound).cliffLap R) := by
    unfold Rule.isNearCliff
    split
    · rw [same]
      exact Returns.bind (passable.limit _) fun _ _ _ => succeeds_ok _
    · exact succeeds_ok _
  have each (rule : Rule) : Succeeds (rule.raise review) := by
    cases rule with
    | stintLengths =>
      refine Returns.bind (Succeeds.mapM fun stint _ => ?_) fun _ _ _ => succeeds_ok _
      exact Returns.bind (near stint) fun _ _ _ => succeeds_ok _
    | _ => exact succeeds_ok _
  exact Returns.bind (Succeeds.mapM fun rule _ => each rule) fun _ _ _ => succeeds_ok _

theorem conclude_succeeds (plan : Strategy) {runs : List (StintRun R)} (last : Running R)
    (counted : ∀ run ∈ runs, run.laps ≠ [] → lap run.laps.length) : Succeeds (conclude setup plan runs last) := by
  unfold conclude
  refine Returns.bind (Succeeds.mapM fun run member => metricsOf_succeeds passable (counted run member)) fun _ _ _ => ?_
  refine Returns.bind (advise_succeeds passable rfl _) fun _ _ _ => ?_
  refine Returns.bind (passable.points _) fun _ _ _ => ?_
  exact Returns.bind (passable.beatingStart _) fun _ _ _ => succeeds_ok _

end

theorem simulate_returns {race : Race} {car : Car} {plan : Strategy} {track : Track R} {tables : Tables R}
    {lap place : Int → Prop} (passable : Passable ⟨race,car,track,tables⟩ lap place) (onField : place car.start)
    (spans : ∀ stint ∈ plan.stints, Spans lap stint) : Succeeds (simulate race car plan track tables) := by
  unfold simulate
  dsimp only
  refine Returns.bind (driveStints_succeeds passable onField spans) fun result _ known => ?_
  exact conclude_succeeds passable plan result.2 known.2

end Simulation
end PitWall

import Mathlib
import PitWall.Proofs.Checked
import PitWall.Simulation.Outcome

namespace PitWall.Simulation
open Arithmetic
variable {R : Type} [Arithmetic R] {setup : Setup R}

-- All that driving one lap does; nothing below opens `driveLap` again.
theorem driveLap_parts {running next : Running R} {plan : LapPlan} {lap : DrivenLap R}
    (driven : driveLap setup running plan = .ok (lap,next)) :
    ∃ change wear,
      Lap.degradation (setup.tables.tire plan.stint.compound) plan.lap setup.weather setup.risk.tireManagement
        = .ok lap.degradation ∧
      Position.change running.position (running.laps + 1 : Nat) setup.rate setup.pace setup.risk setup.race.fieldSize
        = .ok change ∧
      Lap.wear (setup.tables.tire plan.stint.compound) plan.lap = .ok wear ∧
      lap.record = ⟨running.laps + 1,plan.stint.number,plan.stint.compound,
        lapTime setup plan running.fuel lap.degradation (trafficOf setup.track change) change.position,wear,
        Lap.burn setup.circuit running.fuel,trafficOf setup.track change,change.position,
        (eventOf setup.car (running.laps + 1) change plan.onto).map (·.1),
        (eventOf setup.car (running.laps + 1) change plan.onto).map (·.2)⟩ ∧
      lap.stop = plan.onto.map (fun onto => ⟨running.laps + 1,onto,setup.pitLoss⟩) ∧
      next = ⟨running.laps + 1,change.position,Lap.burn setup.circuit running.fuel⟩ := by
  unfold driveLap at driven
  obtain ⟨degradation,worn,driven⟩ := ok_of_bind driven
  obtain ⟨change,moved,driven⟩ := ok_of_bind driven
  obtain ⟨wear,tread,driven⟩ := ok_of_bind driven
  cases driven
  exact ⟨change,wear,worn,moved,tread,rfl,rfl,rfl⟩

theorem driveLaps_cons {running last : Running R} {plan : LapPlan} {plans : List LapPlan} {laps : List (DrivenLap R)}
    (driven : driveLaps setup running (plan :: plans) = .ok (laps,last)) :
    ∃ lap next others, driveLap setup running plan = .ok (lap,next) ∧ driveLaps setup next plans = .ok (others,last) ∧
      laps = lap :: others := by
  obtain ⟨⟨lap,next⟩,head,driven⟩ := ok_of_bind driven
  obtain ⟨⟨others,_⟩,tail,driven⟩ := ok_of_bind driven
  cases driven
  exact ⟨lap,next,others,head,tail,rfl⟩

theorem driveLaps_append {running middle last : Running R} {first second : List LapPlan}
    {early late : List (DrivenLap R)} (opening : driveLaps setup running first = .ok (early,middle))
    (closing : driveLaps setup middle second = .ok (late,last)) :
    driveLaps setup running (first ++ second) = .ok (early ++ late,last) := by
  induction first generalizing running early with
  | nil => cases opening; exact closing
  | cons plan plans ih =>
    obtain ⟨lap,next,laps,head,tail,rfl⟩ := driveLaps_cons opening
    rw [List.cons_append,driveLaps,head]
    change driveLaps setup next (plans ++ second) >>= _ = _
    rw [ih tail]
    rfl

def racePlans : List Stint → List LapPlan
  | [] => []
  | stint :: stints => lapPlans stint stints.head? ++ racePlans stints

theorem driveStint_parts {running next : Running R} {stint : Stint} {following : Option Stint} {run : StintRun R}
    (driven : driveStint setup running stint following = .ok (run,next)) :
    driveLaps setup running (lapPlans stint following) = .ok (run.laps,next) ∧ run.stint = stint ∧
      run.start = running.position ∧ run.finish = next.position ∧
      run.pitLoss = if following.isSome then setup.pitLoss else 0.0 := by
  unfold driveStint at driven
  obtain ⟨advisories,_,driven⟩ := ok_of_bind driven
  obtain ⟨⟨laps,_⟩,drove,driven⟩ := ok_of_bind driven
  cases driven
  exact ⟨drove,rfl,rfl,rfl,rfl⟩

theorem driveStints_cons {running last : Running R} {stint : Stint} {stints : List Stint} {runs : List (StintRun R)}
    (driven : driveStints setup running (stint :: stints) = .ok (runs,last)) :
    ∃ run next others, driveStint setup running stint stints.head? = .ok (run,next) ∧
      driveStints setup next stints = .ok (others,last) ∧ runs = run :: others := by
  obtain ⟨⟨run,next⟩,head,driven⟩ := ok_of_bind driven
  obtain ⟨⟨others,_⟩,tail,driven⟩ := ok_of_bind driven
  cases driven
  exact ⟨run,next,others,head,tail,rfl⟩

-- What a race hands on at the end of a stint is what its last lap hands on.
theorem driveStints_flat {running last : Running R} {stints : List Stint} {runs : List (StintRun R)}
    (driven : driveStints setup running stints = .ok (runs,last)) :
    driveLaps setup running (racePlans stints) = .ok (runs.flatMap (·.laps),last) := by
  induction stints generalizing running runs with
  | nil => cases driven; rfl
  | cons stint stints ih =>
    obtain ⟨run,next,others,first,later,rfl⟩ := driveStints_cons driven
    exact driveLaps_append (driveStint_parts first).1 (ih later)

theorem lapPlans_length (stint : Stint) (following : Option Stint) :
    (lapPlans stint following).length = stint.laps.toNat := by
  simp [lapPlans]

def lapsBefore (stints : List Stint) (index : Nat) : Nat := ((stints.take index).map (·.laps.toNat)).sum

def plannedLap (stint : Stint) (following : Option Stint) (behind : Nat) : LapPlan :=
  ⟨stint,behind + 1,if behind + 1 = stint.laps.toNat then following.map (·.compound) else none⟩

theorem racePlans_length (stints : List Stint) : (racePlans stints).length = lapsBefore stints stints.length := by
  induction stints with
  | nil => rfl
  | cons stint stints ih =>
    rw [racePlans,List.length_append,lapPlans_length,ih]
    simp [lapsBefore]

theorem racePlans_at {stints : List Stint} {index : Nat} {stint : Stint} (chosen : stints[index]? = some stint)
    {behind : Nat} (within : behind < stint.laps.toNat) :
    (racePlans stints)[lapsBefore stints index + behind]? = some (plannedLap stint stints[index + 1]? behind) := by
  induction stints generalizing index with
  | nil => cases chosen
  | cons first stints ih =>
    have width := lapPlans_length first stints.head?
    rw [racePlans]
    cases index with
    | zero =>
      cases chosen
      have early : lapsBefore (stint :: stints) 0 + behind < (lapPlans stint stints.head?).length := by
        simp [lapsBefore,width,within]
      rw [List.getElem?_append_left early]
      simp [lapPlans,plannedLap,lapsBefore,within,List.head?_eq_getElem?]
    | succ index =>
      have beyond : lapsBefore (first :: stints) (index + 1) + behind
          = (lapPlans first stints.head?).length + (lapsBefore stints index + behind) := by
        simp [lapsBefore,width]
        omega
      rw [beyond,List.getElem?_append_right (by omega),Nat.add_sub_cancel_left,ih chosen]
      rfl

theorem simulate_drives {race : Race} {car : Car} {plan : Strategy} {track : Track R} {tables : Tables R}
    {outcome : Outcome R} (raced : simulate race car plan track tables = .ok outcome) :
    let setup : Setup R := ⟨race,car,track,tables⟩
    ∃ runs last, driveStints setup (onTheGrid setup) plan.stints = .ok (runs,last) ∧
      conclude setup plan runs last = .ok outcome := by
  unfold simulate at raced
  obtain ⟨⟨runs,last⟩,driven,raced⟩ := ok_of_bind raced
  exact ⟨runs,last,driven,raced⟩

structure Tallies (plan : Strategy) (runs : List (StintRun R)) (outcome : Outcome R) : Prop where
  laps : outcome.laps = (runs.flatMap (·.laps)).map (·.record)
  stints : runs.mapM metricsOf = .ok outcome.stints
  raceTime : outcome.raceTime = raceTime (runs.flatMap (·.laps))
  pitTimeLoss : outcome.pitTimeLoss = pitTime ((runs.flatMap (·.laps)).filterMap (·.stop))
  pitStops : outcome.pitStops = plan.pitStops

theorem conclude_tallies {plan : Strategy} {runs : List (StintRun R)} {last : Running R} {outcome : Outcome R}
    (concluded : conclude setup plan runs last = .ok outcome) : Tallies plan runs outcome := by
  unfold conclude at concluded
  obtain ⟨metrics,measured,concluded⟩ := ok_of_bind concluded
  obtain ⟨rules,_,concluded⟩ := ok_of_bind concluded
  obtain ⟨points,_,concluded⟩ := ok_of_bind concluded
  obtain ⟨beating,_,concluded⟩ := ok_of_bind concluded
  cases concluded
  exact ⟨rfl,measured,rfl,rfl,rfl⟩

end PitWall.Simulation

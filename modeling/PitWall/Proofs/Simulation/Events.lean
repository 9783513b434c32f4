import PitWall.Proofs.Simulation.Timetable

namespace PitWall.Simulation
open Arithmetic Position
variable {R : Type} [Arithmetic R] {setup : Setup R}

structure Told (car : Car) (track : Track R) (before : Int) (onto : Option Compound) (record : LapRecord R) : Prop where
  stop : ∀ compound, onto = some compound →
    record.event = some .pitStop ∧ record.detail = some s!"Pit stop for {Vocabulary.spelling compound} tires"
  gain : onto = none → (record.event = some .overtake ↔ record.position < before)
  loss : onto = none → (record.event = some .overtaken ↔ before < record.position)
  hold : onto = none → record.position = before → record.event = if record.lap = 1 then some .start else none
  gainText : record.event = some .overtake → record.detail = some s!"Passed car to move to P{record.position}"
  lossText : record.event = some .overtaken → record.detail = some s!"Lost position, now P{record.position}"
  startText : record.event = some .start → record.detail = some s!"Started P{car.start}"
  silence : record.event = none → record.detail = none
  traffic : record.traffic =
    (let passed : R := if before < record.position then 0.3 else 0.0
     if 8 ≤ record.position ∧ record.position ≤ 15 then passed + 0.1 * (1.0 - track.overtakingChance) else passed)

section
variable {before : Int} {change : Change} (flagged : change.Flagged before)
include flagged

theorem eventOf_moves (car : Car) (lap : Nat) : eventOf car lap change none =
    if change.position < before then some (.overtake,s!"Passed car to move to P{change.position}")
    else if before < change.position then some (.overtaken,s!"Lost position, now P{change.position}")
    else if lap = 1 then some (.start,s!"Started P{car.start}") else none := by
  unfold eventOf
  simp only [flagged.overtook,flagged.wasOvertaken,decide_eq_true_eq]

theorem trafficOf_moves (track : Track R) : trafficOf track change =
    (let passed : R := if before < change.position then 0.3 else 0.0
     if 8 ≤ change.position ∧ change.position ≤ 15 then passed + 0.1 * (1.0 - track.overtakingChance) else passed) := by
  have passed : (if change.overtook then 0.0 else if change.wasOvertaken then passedLoss else 0.0 : R)
      = if before < change.position then 0.3 else 0.0 := by
    rw [flagged.overtook,flagged.wasOvertaken]
    simp only [decide_eq_true_eq,passedLoss]
    split
    · rw [if_neg (by omega)]
    · rfl
  unfold trafficOf
  dsimp only
  rw [passed]
  simp only [isCongested,Bool.and_eq_true,decide_eq_true_eq,congestionLoss]

theorem told_of_change {car : Car} {track : Track R} {onto : Option Compound} {record : LapRecord R}
    (placed : record.position = change.position) (traffic : record.traffic = trafficOf track change)
    (event : record.event = (eventOf car record.lap change onto).map (·.1))
    (detail : record.detail = (eventOf car record.lap change onto).map (·.2)) : Told car track before onto record := by
  rw [trafficOf_moves flagged track,← placed] at traffic
  cases onto with
  | some compound =>
    have stopped : record.event = some .pitStop := event
    refine ⟨?_,nofun,nofun,nofun,?_,?_,?_,?_,traffic⟩
    · intro other same
      cases same
      exact ⟨stopped,detail⟩
    all_goals
      rw [stopped]
      exact nofun
  | none =>
    rw [eventOf_moves flagged,← placed] at event detail
    constructor
    case stop => exact nofun
    case traffic => exact traffic
    -- What is left compares the two places, in the order in which the event was chosen.
    all_goals grind

end

-- A lap looked up by itself moves the car from the place before it and tells what that move was.
theorem lapAlone_told {plan : LapPlan} {behind : Nat} {record : LapRecord R} (floors : FloorsUp R)
    (onField : setup.car.start ≤ setup.race.fieldSize) (alone : lapAlone setup plan behind = .ok record) :
    record.lap = behind + 1 ∧ placeAfter setup (behind + 1) = .ok record.position ∧
      ∃ before, placeAfter setup behind = .ok before ∧ Told setup.car setup.track before plan.onto record := by
  unfold lapAlone at alone
  obtain ⟨before,place,alone⟩ := ok_of_bind alone
  obtain ⟨change,moved,alone⟩ := ok_of_bind alone
  obtain ⟨degradation,_,alone⟩ := ok_of_bind alone
  obtain ⟨wear,_,alone⟩ := ok_of_bind alone
  cases alone
  -- Only the first lap can find the car where it should not be, and that lap starts on the grid.
  have grid : ((behind + 1 : Nat) : Int) = 1 → before ≤ setup.race.fieldSize := by
    intro first
    obtain rfl : behind = 0 := by omega
    cases place
    exact onField
  refine ⟨rfl,?_,before,place,told_of_change (change_flagged floors grid moved) rfl rfl rfl rfl⟩
  rw [placeAfter,place]
  change (Position.change _ _ _ _ _ _ >>= _) = _
  rw [moved]
  rfl

theorem racePlans_located {stints : List Stint} {lap : Nat} (driven : lap < (racePlans stints).length) :
    ∃ index stint behind, stints[index]? = some stint ∧ behind < stint.laps.toNat ∧
      lap = lapsBefore stints index + behind := by
  induction stints generalizing lap with
  | nil => cases driven
  | cons first stints ih =>
    rw [racePlans,List.length_append,lapPlans_length] at driven
    by_cases early : lap < first.laps.toNat
    · exact ⟨0,first,lap,rfl,early,by simp [lapsBefore]⟩
    · obtain ⟨index,stint,behind,chosen,within,located⟩ := @ih (lap - first.laps.toNat) (by omega)
      refine ⟨index + 1,stint,behind,chosen,within,?_⟩
      have counted : lapsBefore (first :: stints) (index + 1) = first.laps.toNat + lapsBefore stints index := by
        simp [lapsBefore]
      omega

-- Every lap belongs to one stint and tells of the move from the place before it, the grid slot for the first lap.
theorem simulate_told (floors : FloorsUp R) {race : Race} {car : Car} {plan : Strategy} {track : Track R}
    {tables : Tables R} {outcome : Outcome R} (onField : car.start ≤ race.fieldSize)
    (raced : simulate race car plan track tables = .ok outcome) :
    outcome.laps.length = lapsBefore plan.stints plan.stints.length ∧
      ∀ {lap : Nat} {record : LapRecord R}, outcome.laps[lap]? = some record →
        ∃ index stint behind before, plan.stints[index]? = some stint ∧ behind < stint.laps.toNat ∧
          lap = lapsBefore plan.stints index + behind ∧ record.lap = lap + 1 ∧
          (car.start :: outcome.laps.map (·.position))[lap]? = some before ∧
          Told car track before
            (if behind + 1 = stint.laps.toNat then plan.stints[index + 1]?.map (·.compound) else none) record := by
  obtain ⟨length,each⟩ := simulate_flat raced
  have told {lap : Nat} {record : LapRecord R} (there : outcome.laps[lap]? = some record) :
      ∃ index stint behind, plan.stints[index]? = some stint ∧ behind < stint.laps.toNat ∧
        lap = lapsBefore plan.stints index + behind ∧
        lapAlone ⟨race,car,track,tables⟩ (plannedLap stint plan.stints[index + 1]? behind) lap = .ok record := by
    obtain ⟨within,_⟩ := List.getElem?_eq_some_iff.mp there
    rw [length] at within
    obtain ⟨index,stint,behind,chosen,inside,rfl⟩ := racePlans_located within
    obtain ⟨other,same,alone⟩ := each (racePlans_at chosen inside)
    rw [there] at same
    cases same
    exact ⟨index,stint,behind,chosen,inside,rfl,alone⟩
  refine ⟨length.trans (racePlans_length plan.stints),?_⟩
  intro lap record there
  obtain ⟨index,stint,behind,chosen,within,located,alone⟩ := told there
  obtain ⟨numbered,_,before,place,tells⟩ := lapAlone_told floors onField alone
  refine ⟨index,stint,behind,before,chosen,within,located,numbered,?_,tells⟩
  cases lap with
  | zero => cases place; rfl
  | succ lap =>
    have shorter : lap < outcome.laps.length := by
      obtain ⟨within,_⟩ := List.getElem?_eq_some_iff.mp there
      omega
    obtain ⟨_,_,_,_,_,_,earlier⟩ := told (List.getElem?_eq_getElem shorter)
    obtain ⟨_,after,_⟩ := lapAlone_told floors onField earlier
    cases place.symm.trans after
    rw [List.getElem?_cons_succ,List.getElem?_map,List.getElem?_eq_getElem shorter]
    rfl

theorem sprint_told : ∃ outcome, simulate sprint fifth oneStop openTrack Tables.standard = .ok outcome ∧
    outcome.laps.length = 2 ∧ ∀ first ∈ outcome.laps[0]?, Told fifth openTrack 5 (some .hard) first := by
  have runs : (simulate sprint fifth oneStop openTrack Tables.standard).toOption.any (fun _ => true) = true := by
    decide +kernel
  obtain ⟨outcome,raced,_⟩ := returns_of_any runs
  obtain ⟨length,each⟩ := simulate_told floorsUp_double (by decide) raced
  refine ⟨outcome,raced,length,?_⟩
  intro first there
  obtain ⟨index,stint,behind,before,chosen,within,located,_,place,told⟩ := each there
  cases place
  match index with
  | 0 =>
    cases chosen
    obtain rfl : behind = 0 := by
      change behind < 1 at within
      omega
    exact told
  | index + 1 =>
    have passed : 1 ≤ lapsBefore oneStop.stints (index + 1) := by simp [lapsBefore,oneStop]
    omega

end PitWall.Simulation

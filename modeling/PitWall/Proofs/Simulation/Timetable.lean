import PitWall.Proofs.Simulation.Course

namespace PitWall.Simulation
open Arithmetic
variable {R : Type} [Arithmetic R] {setup : Setup R}

-- The fuel when so many laps are driven, and the place. Laps are counted over the whole race: no stint,
-- tire or lap time comes into either.
def fuelAfter (circuit : Circuit R) : Nat → R
  | 0 => circuit.startingFuelKg
  | laps + 1 => Lap.burn circuit (fuelAfter circuit laps)

def placeAfter (setup : Setup R) : Nat → Except Fault Int
  | 0 => .ok setup.car.start
  | laps + 1 => do
    let before ← placeAfter setup laps
    let change ← Position.change before (laps + 1 : Nat) setup.rate setup.pace setup.risk setup.race.fieldSize
    return change.position

def lapAlone (setup : Setup R) (plan : LapPlan) (behind : Nat) : Except Fault (LapRecord R) := do
  let circuit := setup.circuit
  let tire := setup.tables.tire plan.stint.compound
  let before ← placeAfter setup behind
  let change ← Position.change before (behind + 1 : Nat) setup.rate setup.pace setup.risk setup.race.fieldSize
  let degradation ← Lap.degradation tire plan.lap setup.weather setup.risk.tireManagement
  let wear ← Lap.wear tire plan.lap
  let clear := circuit.baseLapTime + setup.pace.lapTimeDelta + degradation
    + Lap.fuelEffect circuit (fuelAfter circuit behind) + Lap.freshPenalty tire plan.lap
  let towed := if 1 < change.position ∧ setup.track.aero = .dragReliant then clear - 0.2 else clear
  let traffic := trafficOf setup.track change
  let event := eventOf setup.car (behind + 1) change plan.onto
  return { lap := behind + 1
           stint := plan.stint.number
           compound := plan.stint.compound
           time := towed + traffic
           wear := wear
           fuel := fuelAfter circuit (behind + 1)
           traffic := traffic
           position := change.position
           event := event.map (·.1)
           detail := event.map (·.2) }

theorem lapAlone_parts {plan : LapPlan} {behind : Nat} {record : LapRecord R}
    (alone : lapAlone setup plan behind = .ok record) :
    ∃ degradation,
      Lap.degradation (setup.tables.tire plan.stint.compound) plan.lap setup.weather setup.risk.tireManagement
        = .ok degradation ∧
      Lap.wear (setup.tables.tire plan.stint.compound) plan.lap = .ok record.wear ∧
      record.lap = behind + 1 ∧ record.fuel = fuelAfter setup.circuit (behind + 1) ∧
      record.time = (let clear := setup.circuit.baseLapTime + setup.pace.lapTimeDelta + degradation
          + Lap.fuelEffect setup.circuit (fuelAfter setup.circuit behind)
          + Lap.freshPenalty (setup.tables.tire plan.stint.compound) plan.lap
        if 1 < record.position ∧ setup.track.aero = .dragReliant then clear - 0.2 else clear) + record.traffic := by
  unfold lapAlone at alone
  obtain ⟨before,_,alone⟩ := ok_of_bind alone
  obtain ⟨change,_,alone⟩ := ok_of_bind alone
  obtain ⟨degradation,slowed,alone⟩ := ok_of_bind alone
  obtain ⟨wear,tread,alone⟩ := ok_of_bind alone
  cases alone
  exact ⟨degradation,slowed,tread,rfl,rfl,rfl⟩

-- What a race carries from lap to lap is what the tables above say of the number of laps driven.
structure Running.OnSchedule (setup : Setup R) (running : Running R) : Prop where
  fuel : running.fuel = fuelAfter setup.circuit running.laps
  place : placeAfter setup running.laps = .ok running.position

theorem onTheGrid_onSchedule (setup : Setup R) : (onTheGrid setup).OnSchedule setup := ⟨rfl,rfl⟩

theorem lapTime_eq (plan : LapPlan) (fuel degradation traffic : R) (position : Int) :
    lapTime setup plan fuel degradation traffic position =
      (let clear := setup.circuit.baseLapTime + setup.pace.lapTimeDelta + degradation
          + Lap.fuelEffect setup.circuit fuel + Lap.freshPenalty (setup.tables.tire plan.stint.compound) plan.lap
       if 1 < position ∧ setup.track.aero = .dragReliant then clear - 0.2 else clear) + traffic := by
  simp only [lapTime,slipstreamGain,Bool.and_eq_true,decide_eq_true_eq]

theorem driveLap_alone {running next : Running R} {plan : LapPlan} {lap : DrivenLap R}
    (driven : driveLap setup running plan = .ok (lap,next)) (onSchedule : running.OnSchedule setup) :
    lapAlone setup plan running.laps = .ok lap.record ∧ next.laps = running.laps + 1 ∧ next.OnSchedule setup := by
  obtain ⟨change,wear,worn,moved,tread,record,_,rfl⟩ := driveLap_parts driven
  obtain ⟨fuel,place⟩ := onSchedule
  refine ⟨?_,rfl,?_,?_⟩
  · unfold lapAlone
    rw [place,record,lapTime_eq,fuel]
    change (Position.change _ _ _ _ _ _ >>= _) = _
    rw [moved]
    change (Lap.degradation _ _ _ _ >>= _) = _
    rw [worn]
    change (Lap.wear _ _ >>= _) = _
    rw [tread]
    rfl
  · change Lap.burn setup.circuit running.fuel = Lap.burn setup.circuit (fuelAfter setup.circuit running.laps)
    rw [fuel]
  · rw [placeAfter,place]
    change (Position.change _ _ _ _ _ _ >>= _) = _
    rw [moved]
    rfl

-- The induction goes over the laps as if there were no stints; the schedule is what it carries along.
theorem driveLaps_alone {running last : Running R} {plans : List LapPlan} {laps : List (DrivenLap R)}
    (driven : driveLaps setup running plans = .ok (laps,last)) (onSchedule : running.OnSchedule setup) :
    laps.length = plans.length ∧ ∀ {index : Nat} {plan : LapPlan}, plans[index]? = some plan →
      ∃ lap, laps[index]? = some lap ∧ lapAlone setup plan (running.laps + index) = .ok lap.record := by
  induction plans generalizing running laps with
  | nil =>
    cases driven
    refine ⟨rfl,?_⟩
    intro index plan chosen
    cases chosen
  | cons first plans ih =>
    obtain ⟨lap,next,others,head,tail,rfl⟩ := driveLaps_cons driven
    obtain ⟨alone,counted,onSchedule⟩ := driveLap_alone head onSchedule
    obtain ⟨length,rest⟩ := ih tail onSchedule
    refine ⟨congrArg (· + 1) length,?_⟩
    intro index plan chosen
    cases index with
    | zero => cases chosen; exact ⟨lap,rfl,alone⟩
    | succ index =>
      obtain ⟨found,there,alone⟩ := rest chosen
      refine ⟨found,there,?_⟩
      rwa [counted,Nat.add_assoc,Nat.add_comm 1 index] at alone

theorem simulate_flat {race : Race} {car : Car} {plan : Strategy} {track : Track R} {tables : Tables R}
    {outcome : Outcome R} (raced : simulate race car plan track tables = .ok outcome) :
    outcome.laps.length = (racePlans plan.stints).length ∧
      ∀ {index : Nat} {planned : LapPlan}, (racePlans plan.stints)[index]? = some planned →
        ∃ record, outcome.laps[index]? = some record ∧ lapAlone ⟨race,car,track,tables⟩ planned index = .ok record := by
  obtain ⟨runs,last,driven,concluded⟩ := simulate_drives raced
  obtain ⟨length,each⟩ := driveLaps_alone (driveStints_flat driven) (onTheGrid_onSchedule _)
  rw [(conclude_tallies concluded).laps,List.length_map]
  refine ⟨length,?_⟩
  intro index planned chosen
  obtain ⟨lap,there,alone⟩ := each chosen
  refine ⟨lap.record,?_,?_⟩
  · rw [List.getElem?_map,there]
    rfl
  · change lapAlone _ planned (0 + index) = _ at alone
    rwa [Nat.zero_add] at alone

structure SameButStops (race : Race) (car : Car) (left right : Tables R) : Prop where
  circuit : ∃ loss, right.circuit race.trackName = {left.circuit race.trackName with pitLaneTimeLoss := loss}
  risk : ∃ efficiency, right.risk car.risk = {left.risk car.risk with pitStopEfficiency := efficiency}
  pace : right.pace car.pace = left.pace car.pace
  tire : right.tire = left.tire
  weather : right.weather = left.weather
  overtaking : right.overtaking = left.overtaking

section
variable {race : Race} {car : Car} {track : Track R} {left right : Tables R}

theorem fuelAfter_butStops (same : SameButStops race car left right) (laps : Nat) :
    fuelAfter (right.circuit race.trackName) laps = fuelAfter (left.circuit race.trackName) laps := by
  obtain ⟨loss,circuit⟩ := same.circuit
  rw [circuit]
  induction laps with
  | zero => rfl
  | succ laps ih =>
    unfold fuelAfter
    rw [ih]
    rfl

-- A move reads nothing of a risk profile but how hard it overtakes.
theorem change_efficiency (position lap : Int) (rate : R) (pace : PaceData R) (risk : RiskData R) (fieldSize : Int)
    (efficiency : R) : Position.change position lap rate pace {risk with pitStopEfficiency := efficiency} fieldSize
      = Position.change position lap rate pace risk fieldSize := rfl

theorem change_butStops (same : SameButStops race car left right) (position lap : Int) :
    let before : Setup R := ⟨race,car,track,left⟩
    let after : Setup R := ⟨race,car,track,right⟩
    Position.change position lap after.rate after.pace after.risk race.fieldSize
      = Position.change position lap before.rate before.pace before.risk race.fieldSize := by
  intro before after
  obtain ⟨efficiency,risk⟩ := same.risk
  change Position.change position lap ((right.overtaking track.difficulty).getD 0.025) (right.pace car.pace)
    (right.risk car.risk) _ = _
  rw [risk,same.pace,same.overtaking,change_efficiency]
  rfl

theorem placeAfter_butStops (same : SameButStops race car left right) (laps : Nat) :
    placeAfter ⟨race,car,track,right⟩ laps = placeAfter ⟨race,car,track,left⟩ laps := by
  induction laps with
  | zero => rfl
  | succ laps ih =>
    unfold placeAfter
    rw [ih]
    simp only [change_butStops same]

theorem lapAlone_butStops (same : SameButStops race car left right) (plan : LapPlan) (behind : Nat) :
    lapAlone ⟨race,car,track,right⟩ plan behind = lapAlone ⟨race,car,track,left⟩ plan behind := by
  have fuel := fuelAfter_butStops same
  obtain ⟨loss,circuit⟩ := same.circuit
  obtain ⟨efficiency,risk⟩ := same.risk
  have burned (load : R) : Lap.fuelEffect (right.circuit race.trackName) load
      = Lap.fuelEffect (left.circuit race.trackName) load := by
    rw [circuit]
    rfl
  have base : (right.circuit race.trackName).baseLapTime = (left.circuit race.trackName).baseLapTime := by rw [circuit]
  have management : (right.risk car.risk).tireManagement = (left.risk car.risk).tireManagement := by rw [risk]
  have weather : right.weatherMultiplier race.weather = left.weatherMultiplier race.weather := by
    unfold Tables.weatherMultiplier
    rw [same.weather]
  unfold lapAlone
  simp only [placeAfter_butStops same,change_butStops same]
  simp only [Setup.circuit,Setup.pace,Setup.risk,Setup.weather,fuel,burned,base,management,weather,same.tire,same.pace]
end

-- The laps of a race are those that a look-up lap by lap gives: fuel, place and lap number run through
-- the race, while wear, warm-up and degradation start again with each stint. Stops leave no trace in them.
theorem simulate_laps_alone {race : Race} {car : Car} {plan : Strategy} {track : Track R} {tables : Tables R}
    {outcome : Outcome R} (raced : simulate race car plan track tables = .ok outcome) :
    outcome.laps.length = lapsBefore plan.stints plan.stints.length ∧
      (∀ {index : Nat} {stint : Stint} {behind : Nat}, plan.stints[index]? = some stint → behind < stint.laps.toNat →
        ∃ record, outcome.laps[lapsBefore plan.stints index + behind]? = some record ∧
          lapAlone ⟨race,car,track,tables⟩ (plannedLap stint plan.stints[index + 1]? behind)
            (lapsBefore plan.stints index + behind) = .ok record) ∧
      ∀ {other : Tables R} {again : Outcome R}, SameButStops race car tables other →
        simulate race car plan track other = .ok again → again.laps = outcome.laps := by
  obtain ⟨length,each⟩ := simulate_flat raced
  refine ⟨length.trans (racePlans_length plan.stints),?_,?_⟩
  · intro index stint behind chosen within
    exact each (racePlans_at chosen within)
  · intro other again same racedAgain
    obtain ⟨lengthAgain,eachAgain⟩ := simulate_flat racedAgain
    apply List.ext_getElem?
    intro index
    cases planned : (racePlans plan.stints)[index]? with
    | none =>
      have beyond := List.getElem?_eq_none_iff.mp planned
      rw [List.getElem?_eq_none (by omega),List.getElem?_eq_none (by omega)]
    | some lap =>
      obtain ⟨record,there,alone⟩ := each planned
      obtain ⟨recordAgain,thereAgain,aloneAgain⟩ := eachAgain planned
      rw [lapAlone_butStops same,alone] at aloneAgain
      cases aloneAgain
      rw [there,thereAgain]

def slowStops : Tables Float where
  __ := Tables.standard
  risk risk := {Tables.standard.risk risk with pitStopEfficiency := 2.0}

theorem slowStops_same : SameButStops sprint fifth Tables.standard slowStops :=
  ⟨⟨_,rfl⟩,⟨2.0,rfl⟩,rfl,rfl,rfl,rfl⟩

theorem sprint_laps_alone : ∃ outcome again,
    simulate sprint fifth oneStop openTrack Tables.standard = .ok outcome ∧
      simulate sprint fifth oneStop openTrack slowStops = .ok again ∧
      (∃ record, outcome.laps[1]? = some record ∧
        lapAlone ⟨sprint,fifth,openTrack,Tables.standard⟩ ⟨⟨2,.hard,1⟩,1,none⟩ 1 = .ok record) ∧
      again.laps = outcome.laps := by
  have runs : (simulate sprint fifth oneStop openTrack Tables.standard).toOption.any (fun _ => true) = true := by
    decide +kernel
  have runsAgain : (simulate sprint fifth oneStop openTrack slowStops).toOption.any (fun _ => true) = true := by
    decide +kernel
  obtain ⟨outcome,raced,_⟩ := returns_of_any runs
  obtain ⟨again,racedAgain,_⟩ := returns_of_any runsAgain
  obtain ⟨_,each,stops⟩ := simulate_laps_alone raced
  have second := @each 1 ⟨2,.hard,1⟩ 0 rfl (by decide)
  exact ⟨outcome,again,raced,racedAgain,second,stops slowStops_same racedAgain⟩

end PitWall.Simulation

import PitWall.Proofs.Arithmetic.Signs
import PitWall.Proofs.Simulation.Laps
import PitWall.Tables.Standard

namespace PitWall.Simulation
open Arithmetic Position
variable {R : Type} [Arithmetic R] {setup : Setup R}

-- The places of a race, lap after lap: how often a lap was driven decides how the car may move.
inductive Course (setup : Setup R) : Nat → Int → List (LapRecord R) → Int → Prop where
  | done : Course setup driven position [] position
  | lap {driven position record next records last} (numbered : record.lap = driven + 1)
      (moved : change position (driven + 1 : Nat) setup.rate setup.pace setup.risk setup.race.fieldSize = .ok next)
      (placed : record.position = next.position) (rest : Course setup (driven + 1) next.position records last) :
      Course setup driven position (record :: records) last

theorem Course.append {driven : Nat} {start middle last : Int} {first second : List (LapRecord R)}
    (left : Course setup driven start first middle)
    (right : Course setup (driven + first.length) middle second last) :
    Course setup driven start (first ++ second) last := by
  induction left with
  | done => exact right
  | lap numbered moved placed rest ih =>
    refine .lap numbered moved placed (ih ?_)
    rwa [List.length_cons,Nat.add_comm _ 1,← Nat.add_assoc] at right

theorem driveLap_course {running next : Running R} {plan : LapPlan} {lap : DrivenLap R}
    (driven : driveLap setup running plan = .ok (lap,next)) :
    next.laps = running.laps + 1 ∧ Course setup running.laps running.position [lap.record] next.position := by
  obtain ⟨change,wear,_,moved,_,record,_,rfl⟩ := driveLap_parts driven
  rw [record]
  exact ⟨rfl,.lap rfl moved rfl .done⟩

theorem driveLaps_course {running last : Running R} {plans : List LapPlan} {laps : List (DrivenLap R)}
    (driven : driveLaps setup running plans = .ok (laps,last)) :
    last.laps = running.laps + laps.length ∧
      Course setup running.laps running.position (laps.map (·.record)) last.position := by
  induction plans generalizing running laps with
  | nil => cases driven; exact ⟨rfl,.done⟩
  | cons plan plans ih =>
    obtain ⟨lap,next,others,first,later,rfl⟩ := driveLaps_cons driven
    obtain ⟨counted,opening⟩ := driveLap_course first
    obtain ⟨total,rest⟩ := ih later
    rw [counted] at total rest
    exact ⟨by rw [total,List.length_cons]; omega,opening.append rest⟩

theorem change_opening {position fieldSize : Int} {rate : R} {pace : PaceData R} {risk : RiskData R}
    {next : Change} (floors : FloorsUp R) (moved : change position 1 rate pace risk fieldSize = .ok next) :
    Opening (envelope pace fieldSize).ceiling fieldSize position next.position := by
  rw [change,if_pos rfl] at moved
  exact firstLap_opening floors moved

theorem change_onward {position lap fieldSize : Int} {rate : R} {pace : PaceData R} {risk : RiskData R}
    {next : Change} (later : lap ≠ 1) (moved : change position lap rate pace risk fieldSize = .ok next) :
    Onward (envelope pace fieldSize) fieldSize position next.position := by
  rw [change,if_neg later] at moved
  exact laterLap_onward moved

theorem one_le_fieldSize (race : Race) : 1 ≤ race.fieldSize := by
  have := race.rivals
  omega

namespace Course
variable {driven : Nat} {position last : Int} {records : List (LapRecord R)}

theorem laps_numbered (course : Course setup driven position records last) :
    records.map (·.lap) = List.range' (driven + 1) records.length := by
  induction course with
  | done => rfl
  | lap numbered moved placed rest ih => rw [List.map_cons,numbered,ih]; rfl

theorem last_eq (course : Course setup driven position records last) :
    last = (position :: records.map (·.position)).getLast (List.cons_ne_nil _ _) := by
  induction course with
  | done => rfl
  | lap numbered moved placed rest ih => rw [ih,List.map_cons,List.getLast_cons_cons,placed]

-- Behind the first lap: what one lap keeps of the field and the corridor, the whole race keeps.
theorem later_inCorridor {start : Int} (course : Course setup driven position records last) (opened : 1 ≤ driven)
    (onField : 1 ≤ position ∧ position ≤ setup.race.fieldSize)
    (within : Corridor (envelope setup.pace setup.race.fieldSize) start position) :
    let bounds := envelope setup.pace setup.race.fieldSize
    (position :: records.map (·.position)).IsChain (LaterMove bounds setup.race.fieldSize) ∧
      ∀ record ∈ records,
        (1 ≤ record.position ∧ record.position ≤ setup.race.fieldSize) ∧ Corridor bounds start record.position := by
  intro bounds
  have ceilingOnField : 1 ≤ bounds.ceiling :=
    (envelope_bounds setup.pace (one_le_fieldSize setup.race)).1
  induction course with
  | done => exact ⟨.singleton _,fun record member => absurd member List.not_mem_nil⟩
  | @lap driven position record next records last numbered moved placed rest ih =>
    have step : Onward bounds setup.race.fieldSize position next.position := change_onward (by omega) moved
    have move := step.move ceilingOnField onField
    have corridor := step.corridor within
    obtain ⟨chain,within⟩ := ih (by omega) move.onField corridor
    rw [← placed] at move chain corridor
    refine ⟨.cons_cons move chain,?_⟩
    intro other member
    rcases List.mem_cons.mp member with rfl | member
    · exact ⟨move.onField,corridor⟩
    · exact within other member

theorem all_inCorridor (course : Course setup 0 position records last) (floors : FloorsUp R)
    (onField : 1 ≤ position ∧ position ≤ setup.race.fieldSize) :
    let bounds := envelope setup.pace setup.race.fieldSize
    (∀ first ∈ records.head?, OpeningMove setup.race.fieldSize position first.position) ∧
      (records.map (·.position)).IsChain (LaterMove bounds setup.race.fieldSize) ∧
      ∀ record ∈ records,
        (1 ≤ record.position ∧ record.position ≤ setup.race.fieldSize) ∧ Corridor bounds position record.position := by
  intro bounds
  obtain ⟨ceilingOnField,ordered,floorOnField⟩ := envelope_bounds setup.pace (one_le_fieldSize setup.race)
  cases course with
  | done => exact ⟨by simp,.nil,by simp⟩
  | @lap _ _ record next records last numbered moved placed rest =>
    have step : Opening bounds.ceiling setup.race.fieldSize position next.position := change_opening floors moved
    have move := step.move ⟨ceilingOnField,Int.le_trans ordered floorOnField⟩ onField
    have corridor : Corridor bounds position next.position := step.corridor onField.2
    obtain ⟨chain,within⟩ := rest.later_inCorridor (by omega) move.onField corridor
    rw [← placed] at move chain corridor
    refine ⟨?_,chain,?_⟩
    · intro first head
      cases head
      exact move
    · intro other member
      rcases List.mem_cons.mp member with rfl | member
      · exact ⟨move.onField,corridor⟩
      · exact within other member

end Course

theorem predict_bounds {bounds : Envelope} (ordered : bounds.ceiling ≤ bounds.floor) (position : Int) :
    bounds.ceiling ≤ predict bounds position ∧ predict bounds position ≤ bounds.floor := by
  unfold predict
  omega

theorem predict_eq {bounds : Envelope} (ordered : bounds.ceiling ≤ bounds.floor) (position : Int) :
    predict bounds position = max bounds.ceiling (min bounds.floor position) := by
  unfold predict
  omega

theorem rangeOf_bounds {bounds : Envelope} {predicted : Int} (risk : RiskProfile)
    (within : bounds.ceiling ≤ predicted ∧ predicted ≤ bounds.floor) :
    bounds.ceiling ≤ (rangeOf bounds risk predicted).best ∧ (rangeOf bounds risk predicted).best ≤ predicted ∧
      predicted ≤ (rangeOf bounds risk predicted).worst ∧ (rangeOf bounds risk predicted).worst ≤ bounds.floor := by
  have spread : 0 ≤ variance risk := by cases risk <;> decide
  unfold rangeOf
  dsimp only
  omega

structure Forecast (setup : Setup R) (last : Int) (outcome : Outcome R) : Prop where
  predicted : outcome.predictedFinish = predict (envelope setup.pace setup.race.fieldSize) last
  range : outcome.range
    = rangeOf (envelope setup.pace setup.race.fieldSize) setup.car.risk outcome.predictedFinish
  gained : outcome.gained = setup.car.start - outcome.predictedFinish
  points : Odds.points setup.pace outcome.predictedFinish = .ok outcome.pointsChance
  beating : Odds.beatingStart setup.pace setup.car.start outcome.gained = .ok outcome.beatingStartChance

theorem conclude_forecast {plan : Strategy} {runs : List (StintRun R)} {last : Running R} {outcome : Outcome R}
    (concluded : conclude setup plan runs last = .ok outcome) : Forecast setup last.position outcome := by
  unfold conclude at concluded
  obtain ⟨metrics,_,concluded⟩ := ok_of_bind concluded
  obtain ⟨rules,_,concluded⟩ := ok_of_bind concluded
  obtain ⟨points,inPoints,concluded⟩ := ok_of_bind concluded
  obtain ⟨beating,beaten,concluded⟩ := ok_of_bind concluded
  cases concluded
  exact ⟨rfl,rfl,rfl,inPoints,beaten⟩

theorem simulate_forecast (setup : Setup R) {plan : Strategy} {outcome : Outcome R}
    (raced : simulate setup.race setup.car plan setup.track setup.tables = .ok outcome) :
    ∃ last, Course setup 0 setup.car.start outcome.laps last ∧ Forecast setup last outcome := by
  obtain ⟨runs,last,driven,concluded⟩ := simulate_drives raced
  have course := (driveLaps_course (driveStints_flat driven)).2
  rw [← (conclude_tallies concluded).laps] at course
  exact ⟨last.position,course,conclude_forecast concluded⟩

theorem simulate_course {race : Race} {car : Car} {plan : Strategy} {track : Track R} {tables : Tables R}
    {outcome : Outcome R} (raced : simulate race car plan track tables = .ok outcome) :
    let bounds := envelope (tables.pace car.pace) race.fieldSize
    ∃ last, Course ⟨race,car,track,tables⟩ 0 car.start outcome.laps last ∧
      outcome.predictedFinish = predict bounds last ∧
      outcome.range = rangeOf bounds car.risk outcome.predictedFinish := by
  intro bounds
  obtain ⟨last,course,forecast⟩ := simulate_forecast ⟨race,car,track,tables⟩ raced
  exact ⟨last,course,forecast.predicted,forecast.range⟩

-- Every race that starts within its field stays there, moves by small steps towards its envelope and
-- finishes inside it, whatever the tables, the plan and the comparisons of numbers say.
theorem simulate_positions (floors : FloorsUp R) {race : Race} {car : Car} {plan : Strategy} {track : Track R}
    {tables : Tables R} {outcome : Outcome R} (onField : car.start ≤ race.fieldSize)
    (raced : simulate race car plan track tables = .ok outcome) :
    let bounds := envelope (tables.pace car.pace) race.fieldSize
    outcome.laps.map (·.lap) = List.range' 1 outcome.laps.length ∧
      (∀ first ∈ outcome.laps.head?, OpeningMove race.fieldSize car.start first.position) ∧
      (outcome.laps.map (·.position)).IsChain (LaterMove bounds race.fieldSize) ∧
      (∀ record ∈ outcome.laps, (1 ≤ record.position ∧ record.position ≤ race.fieldSize) ∧
        min car.start bounds.ceiling ≤ record.position ∧
        record.position ≤ max (car.start + 1) bounds.floor) ∧
      outcome.predictedFinish = max bounds.ceiling (min bounds.floor
        ((car.start :: outcome.laps.map (·.position)).getLast (List.cons_ne_nil _ _))) ∧
      1 ≤ bounds.ceiling ∧ bounds.ceiling ≤ outcome.range.best ∧
      outcome.range.best ≤ outcome.predictedFinish ∧ outcome.predictedFinish ≤ outcome.range.worst ∧
      outcome.range.worst ≤ bounds.floor ∧ bounds.floor ≤ race.fieldSize := by
  intro bounds
  obtain ⟨last,course,predicted,range⟩ := simulate_course raced
  obtain ⟨ceilingOnField,ordered,floorOnField⟩ := envelope_bounds (tables.pace car.pace) (one_le_fieldSize race)
  have within := predict_bounds ordered last
  have spread := rangeOf_bounds car.risk within
  rw [← predicted,← range] at spread
  obtain ⟨opening,chain,within⟩ := course.all_inCorridor floors ⟨car.onGrid,onField⟩
  refine ⟨course.laps_numbered,opening,chain,?_,by rw [predicted,predict_eq ordered,← course.last_eq],ceilingOnField,spread.1,
    spread.2.1,spread.2.2.1,spread.2.2.2,floorOnField⟩
  intro record member
  obtain ⟨onField,corridor⟩ := within record member
  exact ⟨onField,corridor.best,corridor.worst⟩

def sprint : Race := ⟨"MONZA",2,.normal,20,by decide,by decide,by decide⟩
def fifth : Car := ⟨5,.midfield,.balanced,none,by decide⟩
def oneStop : Strategy := ⟨"one stop",[⟨1,.soft,1⟩,⟨2,.hard,1⟩],by decide⟩
def openTrack : Track Float := ⟨.balanced,.easy,0.5,[],none⟩

theorem sprint_positions : FloorsUp Float ∧ fifth.start ≤ sprint.fieldSize ∧
    ∃ outcome, simulate sprint fifth oneStop openTrack Tables.standard = .ok outcome ∧
      (∀ record ∈ outcome.laps, 5 ≤ record.position ∧ record.position ≤ 14) ∧
      5 ≤ outcome.range.best ∧ outcome.range.worst ≤ 14 := by
  cases raced : simulate sprint fifth oneStop openTrack Tables.standard with
  | error fault =>
    have runs : (simulate sprint fifth oneStop openTrack Tables.standard).toOption.isSome = true := by
      decide +kernel
    rw [raced] at runs
    cases runs
  | ok outcome =>
    obtain ⟨_,_,_,corridor,_,_,best,_,_,worst,_⟩ := simulate_positions floorsUp_double (by decide) raced
    exact ⟨floorsUp_double,by decide,outcome,rfl,fun record member => (corridor record member).2,best,worst⟩

end PitWall.Simulation

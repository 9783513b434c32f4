import PitWall.Proofs.Sheet.Verdict
import PitWall.Proofs.Simulation.Remarks
import PitWall.Proofs.Simulation.Steady
import PitWall.Proofs.Simulation.Timetable

namespace PitWall

def Advisory.isAlarm (advisory : Advisory) : Bool := advisory.area = .weather && advisory.severity = .critical

def alarms (advisories : List Advisory) : Nat := advisories.countP Advisory.isAlarm

theorem alarms_append (first second : List Advisory) : alarms (first ++ second) = alarms first + alarms second :=
  List.countP_append

variable {R : Type}

namespace Rule
open Advisory

theorem alarms_of_spared {advisories : List Advisory} (spared : Spared isAlarm advisories) : alarms advisories = 0 := by
  rw [alarms,List.countP_eq_length_filter,spared.filter,List.length_nil]

theorem isAlarm_rare : Rare isAlarm where
  elsewhere _ dry := by simp [isAlarm,note,dry]
  weather := rfl
  tires _ _ _ _ := rfl

variable [Arithmetic R]

theorem raiseStintLengths_calm {review : Review R} {advisories : List Advisory}
    (raised : raiseStintLengths review = .ok advisories) : Spared isAlarm advisories := by
  unfold raiseStintLengths at raised
  obtain ⟨parts,each,raised⟩ := ok_of_bind raised
  cases raised
  refine spared_flatten fun part member => ?_
  obtain ⟨stint,_,raised⟩ := (mem_mapM_iff each).mp member
  unfold raiseStintLength at raised
  obtain ⟨near,_,raised⟩ := ok_of_bind raised
  cases raised
  simp [shortStint,nearCliff,note,isAlarm]

theorem raise_calm {rule : Rule} {review : Review R} {advisories : List Advisory}
    (raised : rule.raise review = .ok advisories) : Spared isAlarm advisories := by
  by_cases lengths : rule = .stintLengths
  · subst lengths
    exact raiseStintLengths_calm raised
  · exact raise_spared isAlarm_rare raised lengths

end Rule

variable [Arithmetic R]

theorem advise_calm {rules : List Rule} {review : Review R} {advisories : List Advisory}
    (advised : advise rules review = .ok advisories) : Rule.Spared Advisory.isAlarm advisories := by
  unfold advise at advised
  obtain ⟨parts,each,advised⟩ := ok_of_bind advised
  cases advised
  refine Rule.spared_flatten fun part member => ?_
  obtain ⟨rule,_,raised⟩ := (mem_mapM_iff each).mp member
  exact Rule.raise_calm raised

def Stint.isDry (stint : Stint) : Bool := stint.compound ≠ .intermediate && stint.compound ≠ .wet

theorem Stint.isDry_eq (stint : Stint) : stint.isDry = !stint.compound.isWetWeather := by
  unfold isDry
  cases stint.compound <;> rfl

theorem Advisory.ofStint_alarms {stint : Stint} {race : Race} {tables : Tables R} {advisories : List Advisory}
    (advised : ofStint stint race tables = .ok advisories) :
    alarms advisories = if race.weather = .wet ∧ stint.isDry = true then 1 else 0 := by
  unfold ofStint at advised
  obtain ⟨limit,_,advised⟩ := ok_of_bind advised
  cases advised
  have calm : alarms (if Arithmetic.exceeds stint.laps limit then [overrun stint (tables.tire stint.compound).cliffLap] else []) = 0 := by
    split <;> rfl
  rw [alarms_append,calm,stint.isDry_eq]
  simp only [Bool.and_eq_true,decide_eq_true_eq]
  split <;> rfl

namespace Simulation
variable {setup : Setup R}

theorem driveStint_advised {running next : Running R} {stint : Stint} {following : Option Stint} {run : StintRun R}
    (driven : driveStint setup running stint following = .ok (run,next)) :
    Advisory.ofStint stint setup.race setup.tables = .ok run.advisories := by
  unfold driveStint at driven
  obtain ⟨advisories,advised,driven⟩ := ok_of_bind driven
  obtain ⟨⟨laps,_⟩,_,driven⟩ := ok_of_bind driven
  cases driven
  exact advised

theorem driveStints_alarms {running last : Running R} {stints : List Stint} {runs : List (StintRun R)}
    (driven : driveStints setup running stints = .ok (runs,last)) :
    alarms (runs.flatMap (·.advisories)) = if setup.race.weather = .wet then stints.countP Stint.isDry else 0 := by
  induction stints generalizing running runs with
  | nil => cases driven; split <;> rfl
  | cons stint stints ih =>
    obtain ⟨run,next,others,first,later,rfl⟩ := driveStints_cons driven
    rw [List.flatMap_cons,alarms_append,Advisory.ofStint_alarms (driveStint_advised first),ih later,List.countP_cons]
    by_cases wet : setup.race.weather = .wet
    · simp only [wet,true_and,if_true]
      omega
    · simp only [wet,false_and,if_false]

theorem conclude_advised {plan : Strategy} {runs : List (StintRun R)} {last : Running R} {outcome : Outcome R}
    (concluded : conclude setup plan runs last = .ok outcome) :
    ∃ finish rules, advise Vocabulary.all ⟨setup.race,setup.car,setup.track,plan,setup.tables,finish⟩ = .ok rules ∧
      outcome.advisories = runs.flatMap (·.advisories) ++ rules := by
  unfold conclude at concluded
  obtain ⟨metrics,_,concluded⟩ := ok_of_bind concluded
  obtain ⟨rules,advised,concluded⟩ := ok_of_bind concluded
  obtain ⟨points,_,concluded⟩ := ok_of_bind concluded
  obtain ⟨beating,_,concluded⟩ := ok_of_bind concluded
  cases concluded
  exact ⟨_,rules,advised,rfl⟩

-- A race raises one alarm for every stint on dry tires, if it is wet, and no other.
theorem simulate_alarms {race : Race} {car : Car} {plan : Strategy} {track : Track R} {tables : Tables R}
    {outcome : Outcome R} (raced : simulate race car plan track tables = .ok outcome) :
    alarms outcome.advisories = if race.weather = .wet then plan.stints.countP Stint.isDry else 0 := by
  obtain ⟨runs,last,driven,concluded⟩ := simulate_drives raced
  obtain ⟨_,rules,advised,remarks⟩ := conclude_advised concluded
  rw [remarks,alarms_append,driveStints_alarms driven,Rule.alarms_of_spared (advise_calm advised),Nat.add_zero]

theorem simulate_length {race : Race} {car : Car} {plan : Strategy} {track : Track R} {tables : Tables R}
    {outcome : Outcome R} (raced : simulate race car plan track tables = .ok outcome)
    (counted : ∀ stint ∈ plan.stints, 0 ≤ stint.laps) : (outcome.laps.length : Int) = plan.laps := by
  rw [(simulate_flat raced).1,Strategy.laps]
  generalize plan.stints = stints at counted
  induction stints with
  | nil => rfl
  | cons stint stints ih =>
    obtain ⟨here,beyond⟩ := List.forall_mem_cons.mp counted
    rw [racePlans,List.length_append,lapPlans_length,List.foldr_cons,← ih beyond]
    omega

end Simulation

theorem usesWetWeatherTires_iff (plan : Strategy) :
    plan.usesWetWeatherTires = false ↔ plan.stints.countP Stint.isDry = plan.stints.length := by
  unfold Strategy.usesWetWeatherTires
  simp only [List.any_eq_false,List.countP_eq_length,Stint.isDry_eq,Bool.not_eq_true',Bool.not_eq_true]

theorem cautions_of (race : Race) (plan : Strategy) : Sheet.cautions (some (.of race)) (some plan) =
    (if plan.laps ≠ race.laps then [.lapMismatch plan.laps race.laps] else [])
      ++ (if race.weather = .wet ∧ plan.stints.countP Stint.isDry = plan.stints.length then [.dryTiresInTheWet] else []) := by
  have length : ((race.laps.toNat : Nat) : Int) = race.laps := Int.toNat_of_nonneg (by have := race.someLap; omega)
  unfold Sheet.cautions Sheet.RaceFacts.of
  simp only [length,← usesWetWeatherTires_iff,Bool.and_eq_true,decide_eq_true_eq,Option.some.injEq,Bool.not_eq_true',ite_not]

theorem read_warnings_eq {text : String} {document : Document Float} (accepted : (Sheet.read text).document = some document) :
    (Sheet.read text).warnings =
      (if document.strategy.laps ≠ document.race.laps then [.lapMismatch document.strategy.laps document.race.laps] else [])
        ++ (if document.race.weather = .wet ∧ document.strategy.stints.countP Stint.isDry = document.strategy.stints.length
          then [.dryTiresInTheWet] else []) := by
  obtain ⟨entries,listed,makes⟩ := Sheet.read_sound accepted
  rw [(Sheet.read_complete listed makes).2.2,cautions_of]

-- What the reader warns of before the race is what the race comes to: an alarm in every one of its stints, and laps
-- that are not those it should have. It warns of nothing else.
theorem read_warnings_raced {text : String} {document : Document Float} {tables : Tables Float}
    {outcome : Simulation.Outcome Float} (accepted : (Sheet.read text).document = some document)
    (raced : simulate document.race document.car document.strategy document.track tables = .ok outcome) :
    let stints := document.strategy.stints
    let wet := document.race.weather = .wet
    let driven : Int := outcome.laps.length
    alarms outcome.advisories = (if wet then stints.countP Stint.isDry else 0) ∧
      (.dryTiresInTheWet ∈ (Sheet.read text).warnings ↔ wet ∧ alarms outcome.advisories = stints.length) ∧
      ((∃ planned laps, .lapMismatch planned laps ∈ (Sheet.read text).warnings) ↔ driven ≠ document.race.laps) ∧
      (Sheet.read text).warnings = (if driven ≠ document.race.laps then [.lapMismatch driven document.race.laps] else [])
        ++ (if wet ∧ alarms outcome.advisories = stints.length then [.dryTiresInTheWet] else []) := by
  intro stints wet driven
  have raised : alarms outcome.advisories = if wet then stints.countP Stint.isDry else 0 := Simulation.simulate_alarms raced
  have counted : driven = document.strategy.laps := Simulation.simulate_length raced fun stint member => by
    have := ((Sheet.read_inRange accepted).stints stint member).1
    omega
  have dry : wet ∧ stints.countP Stint.isDry = stints.length ↔ wet ∧ alarms outcome.advisories = stints.length :=
    and_congr_right fun wetRace => by rw [raised,if_pos wetRace]
  have warned := read_warnings_eq accepted
  rw [← counted] at warned
  simp only [wet,stints] at dry
  simp only [dry] at warned
  exact ⟨raised,by simp [warned,wet,stints],by simp [warned],warned⟩

-- Two dry stints in the rain, one lap short of the race.
def rainySheet : String :=
  let rows := ["RACE Monza LAPS=4 WEATHER=wet FIELD=20","CAR START=P5 PACE=midfield RISK=balanced","TRACK AERO=drag_reliant",
    "TRACK OVERTAKING=easy CHANCE=0.5","STRATEGY \"One stop\"","STINT 1 TIRE=SOFT LAPS=2","STINT 2 TIRE=HARD LAPS=1","END"]
  String.ofList (rows.flatMap fun row => row.toList ++ ['\n'])

theorem rainySheet_warnings_raced : ∃ document outcome, (Sheet.read rainySheet).document = some document ∧
    simulate document.race document.car document.strategy document.track Tables.standard = .ok outcome ∧
      alarms outcome.advisories = 2 ∧ .dryTiresInTheWet ∈ (Sheet.read rainySheet).warnings ∧
      (outcome.laps.length : Int) ≠ document.race.laps := by
  have facts : (Sheet.read rainySheet).document.map (fun document => (document.race.weather,document.strategy.stints)) =
      some (.wet,[⟨1,.soft,2⟩,⟨2,.hard,1⟩]) ∧
      (Sheet.read rainySheet).warnings = [.lapMismatch 3 4,.dryTiresInTheWet] := by
    unfold Sheet.read Sheet.Source.of rainySheet
    rw [String.toList_ofList]
    decide +kernel
  obtain ⟨read,warned⟩ := facts
  obtain ⟨document,found,parts⟩ := Option.map_eq_some_iff.mp read
  obtain ⟨wet,stints⟩ := Prod.mk.inj parts
  obtain ⟨small,onField,lengths⟩ := Sheet.read_bounds found
  obtain ⟨outcome,raced,_⟩ := Simulation.simulate_succeeds Tables.standard_steady document.track small onField
    fun stint member => (lengths stint member).2
  obtain ⟨raised,dry,mismatch,_⟩ := read_warnings_raced found raced
  rw [wet,stints] at raised
  exact ⟨document,outcome,found,raced,raised,by simp [warned],mismatch.mp ⟨3,4,by simp [warned]⟩⟩

end PitWall

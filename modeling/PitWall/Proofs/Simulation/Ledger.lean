import PitWall.Proofs.Arithmetic.Average
import PitWall.Proofs.Sheet.Verdict
import PitWall.Proofs.Simulation.Steady

namespace PitWall.Simulation
open Arithmetic
variable {R : Type} [Arithmetic R] {setup : Setup R}

def LapRecord.stops (record : LapRecord R) : Bool := record.event = some .pitStop
def stopCost (setup : Setup R) (record : LapRecord R) : R := if record.stops then setup.pitLoss else 0.0

structure StintAccount (setup : Setup R) (stint : Stint) (final : Bool) (entry : Int) (records : List (LapRecord R))
    (metrics : StintMetrics R) : Prop where
  length : records.length = stint.laps.toNat
  owned : ∀ record ∈ records, record.stint = stint.number ∧ record.compound = stint.compound
  stops : ∀ {index : Nat} {record : LapRecord R}, records[index]? = some record →
    (record.stops = true ↔ index + 1 = records.length ∧ final = false)
  named : metrics.number = stint.number ∧ metrics.compound = stint.compound ∧ metrics.laps = stint.laps
  average : if records = [] then metrics.averageTime = 0.0 else mean (records.map (·.time)) = .ok metrics.averageTime
  best : metrics.bestTime = (least (records.map (·.time))).getD 0.0
  worst : metrics.worstTime = (greatest (records.map (·.time))).getD 0.0
  degradation : ∃ losses, (List.range records.length).mapM (fun behind => Lap.degradation
      (setup.tables.tire stint.compound) (behind + 1 : Nat) setup.weather setup.risk.tireManagement) = .ok losses ∧
    metrics.degradationLoss = losses.foldl (· + ·) 0.0
  pitTimeLoss : metrics.pitTimeLoss = if final then 0.0 else setup.pitLoss
  start : metrics.start = entry
  finish : metrics.finish = (records.getLast?.map (·.position)).getD entry

theorem StintAccount.extremes {stint : Stint} {final : Bool} {entry : Int} {records : List (LapRecord R)}
    {metrics : StintMetrics R} (account : StintAccount setup stint final entry records metrics) (driven : records ≠ []) :
    Extreme below (records.map (·.time)) metrics.bestTime ∧
      Extreme (fun x y => below y x) (records.map (·.time)) metrics.worstTime := by
  have best := account.best
  have worst := account.worst
  obtain ⟨first,rest,rfl⟩ := List.exists_cons_of_ne_nil driven
  rw [best,worst]
  exact ⟨least_extreme rfl,greatest_extreme rfl⟩

-- A time that is no number would be the best and the worst at once.
theorem StintAccount.times_between {setup : Setup Float} {stint : Stint} {final : Bool} {entry : Int}
    {records : List (LapRecord Float)} {metrics : StintMetrics Float}
    (account : StintAccount setup stint final entry records metrics)
    (numbers : ∀ record ∈ records, isNumber record.time = true) :
    ∀ record ∈ records, below record.time metrics.bestTime = false ∧ below metrics.worstTime record.time = false := by
  intro record member
  obtain ⟨best,worst⟩ := account.extremes (List.ne_nil_of_mem member)
  have times : (records.map (·.time)).all isNumber = true := by simpa using numbers
  have lapped : record.time ∈ records.map (·.time) := List.mem_map_of_mem member
  exact ⟨best.unbeaten double_inLine times record.time lapped,
    worst.unbeaten double_inLine.reversed times record.time lapped⟩

theorem StintAccount.average_eq {setup : Setup Rat} {stint : Stint} {final : Bool} {entry : Int}
    {records : List (LapRecord Rat)} {metrics : StintMetrics Rat}
    (account : StintAccount setup stint final entry records metrics) (driven : records ≠ []) :
    metrics.averageTime = (records.map (·.time)).sum / records.length := by
  have average := account.average
  rw [if_neg driven,mean_eq (by simpa using driven),List.length_map] at average
  exact (Except.ok.inj average).symm

-- The records of a race cut up among its stints, each stint starting where the one before it ended.
inductive Ledger (setup : Setup R) : Int → List Stint → List (LapRecord R) → List (StintMetrics R) → Prop where
  | done : Ledger setup entry [] [] []
  | stint {stint : Stint} {stints : List Stint} {records others : List (LapRecord R)} {metrics : StintMetrics R}
      {more : List (StintMetrics R)} (account : StintAccount setup stint stints.isEmpty entry records metrics)
      (rest : Ledger setup metrics.finish stints others more) :
      Ledger setup entry (stint :: stints) (records ++ others) (metrics :: more)

structure Accounted (setup : Setup R) (plan : LapPlan) (lap : DrivenLap R) : Prop where
  owned : lap.record.stint = plan.stint.number ∧ lap.record.compound = plan.stint.compound
  degradation : Lap.degradation (setup.tables.tire plan.stint.compound) plan.lap setup.weather setup.risk.tireManagement
    = .ok lap.degradation
  stops : lap.record.stops = plan.onto.isSome
  loss : lap.stop.map (·.loss) = if lap.record.stops then some setup.pitLoss else none

theorem eventOf_stops (car : Car) (lap : Nat) (change : Position.Change) (onto : Option Compound) :
    decide ((eventOf car lap change onto).map (·.1) = some .pitStop) = onto.isSome := by
  cases onto with
  | some compound => rfl
  | none =>
    unfold eventOf
    dsimp only
    split
    · rfl
    · split
      · rfl
      · split <;> rfl

theorem driveLap_accounted {running next : Running R} {plan : LapPlan} {lap : DrivenLap R}
    (driven : driveLap setup running plan = .ok (lap,next)) : Accounted setup plan lap := by
  obtain ⟨change,wear,worn,_,_,record,stop,_⟩ := driveLap_parts driven
  have stops : lap.record.stops = plan.onto.isSome := by
    rw [record]
    exact eventOf_stops setup.car (running.laps + 1) change plan.onto
  refine ⟨?_,worn,stops,?_⟩
  · rw [record]
    exact ⟨rfl,rfl⟩
  · rw [stops,stop]
    cases plan.onto <;> rfl

theorem driveLaps_accounted {running last : Running R} {plans : List LapPlan} {laps : List (DrivenLap R)}
    (driven : driveLaps setup running plans = .ok (laps,last)) : List.Forall₂ (Accounted setup) plans laps := by
  induction plans generalizing running laps with
  | nil => cases driven; exact .nil
  | cons plan plans ih =>
    obtain ⟨lap,next,others,head,tail,rfl⟩ := driveLaps_cons driven
    exact .cons (driveLap_accounted head) (ih tail)

theorem driveStint_accounted {running next : Running R} {stint : Stint} {following : Option Stint} {run : StintRun R}
    (driven : driveStint setup running stint following = .ok (run,next)) :
    List.Forall₂ (fun behind => Accounted setup (plannedLap stint following behind)) (List.range stint.laps.toNat)
      run.laps :=
  List.forall₂_map_left_iff.mp (driveLaps_accounted (driveStint_parts driven).1)

theorem driveStint_lap {running next : Running R} {stint : Stint} {following : Option Stint} {run : StintRun R}
    (driven : driveStint setup running stint following = .ok (run,next)) {index : Nat} {lap : DrivenLap R}
    (there : run.laps[index]? = some lap) :
    index < stint.laps.toNat ∧ Accounted setup (plannedLap stint following index) lap := by
  have accounted := driveStint_accounted driven
  obtain ⟨within,rfl⟩ := List.getElem?_eq_some_iff.mp there
  have planned : index < (List.range stint.laps.toNat).length := by rwa [accounted.length_eq]
  have account := accounted.get planned within
  rw [List.get_eq_getElem,List.get_eq_getElem,List.getElem_range] at account
  rw [List.length_range] at planned
  exact ⟨planned,account⟩

theorem driveStint_length {running next : Running R} {stint : Stint} {following : Option Stint} {run : StintRun R}
    (driven : driveStint setup running stint following = .ok (run,next)) : run.laps.length = stint.laps.toNat := by
  rw [← (driveStint_accounted driven).length_eq,List.length_range]

theorem finish_of_course {driven : Nat} {position last : Int} {records : List (LapRecord R)}
    (course : Course setup driven position records last) : last = (records.getLast?.map (·.position)).getD position := by
  rw [course.last_eq,List.getLast_eq_getLastD,List.getLastD_eq_getLast?,List.getLast?_map]

theorem mapM_of_forall₂ {ε α β γ : Type} {f : α → Except ε γ} {g : β → γ} {rows : List α} {values : List β}
    (each : List.Forall₂ (fun row value => f row = .ok (g value)) rows values) : rows.mapM f = .ok (values.map g) := by
  induction each with
  | nil => rfl
  | cons head _ ih =>
    rw [List.mapM_cons,head]
    change (List.mapM f _ >>= _) = _
    rw [ih]
    rfl

theorem metricsOf_parts {run : StintRun R} {metrics : StintMetrics R} (measured : metricsOf run = .ok metrics) :
    let records := run.laps.map (·.record)
    (if records = [] then metrics.averageTime = 0.0 else mean (records.map (·.time)) = .ok metrics.averageTime) ∧
      metrics = ⟨run.stint.number,run.stint.compound,run.stint.laps,metrics.averageTime,
        (least (records.map (·.time))).getD 0.0,(greatest (records.map (·.time))).getD 0.0,
        (run.laps.map (·.degradation)).foldl (· + ·) 0.0,run.pitLoss,run.start,run.finish⟩ := by
  intro records
  have times : run.laps.map (·.record.time) = records.map (·.time) := by
    rw [List.map_map]
    rfl
  unfold metricsOf at measured
  dsimp only at measured
  rw [times] at measured
  by_cases empty : records = []
  · rw [if_pos (by simp [empty])] at measured
    cases measured
    exact ⟨by rw [if_pos empty],rfl⟩
  · rw [if_neg (by simp [empty])] at measured
    obtain ⟨average,averaged,measured⟩ := ok_of_bind measured
    cases measured
    exact ⟨by rw [if_neg empty]; exact averaged,rfl⟩

-- A stint without laps has an account too: it ends where it starts, and its times are zero.
theorem metricsOf_account {running next : Running R} {stint : Stint} {following : Option Stint} {run : StintRun R}
    {metrics : StintMetrics R} (driven : driveStint setup running stint following = .ok (run,next))
    (measured : metricsOf run = .ok metrics) :
    StintAccount setup stint following.isNone running.position (run.laps.map (·.record)) metrics ∧
      metrics.finish = next.position := by
  have accounted := driveStint_accounted driven
  have count := driveStint_length driven
  have losses : (List.range (run.laps.map (·.record)).length).mapM (fun behind => Lap.degradation
      (setup.tables.tire stint.compound) (behind + 1 : Nat) setup.weather setup.risk.tireManagement)
        = .ok (run.laps.map (·.degradation)) := by
    rw [List.length_map,count]
    exact mapM_of_forall₂ (accounted.imp fun behind lap account => account.degradation)
  obtain ⟨drove,sameStint,start,finish,pitLoss⟩ := driveStint_parts driven
  have ended := finish_of_course (driveLaps_course drove).2
  obtain ⟨average,parts⟩ := metricsOf_parts measured
  have named : metrics.number = stint.number ∧ metrics.compound = stint.compound ∧ metrics.laps = stint.laps := by
    rw [parts,sameStint]
    exact ⟨rfl,rfl,rfl⟩
  have finished : metrics.finish = next.position := by
    rw [parts]
    exact finish
  refine ⟨⟨?_,?_,?_,named,average,?_,?_,⟨_,losses,?_⟩,?_,?_,?_⟩,finished⟩
  · rw [List.length_map,count]
  · intro record member
    obtain ⟨lap,inside,rfl⟩ := List.mem_map.mp member
    obtain ⟨index,there⟩ := List.getElem?_of_mem inside
    exact (driveStint_lap driven there).2.owned
  · intro index record there
    rw [List.getElem?_map] at there
    obtain ⟨lap,driving,rfl⟩ := Option.map_eq_some_iff.mp there
    obtain ⟨within,account⟩ := driveStint_lap driven driving
    rw [account.stops,List.length_map,count]
    unfold plannedLap
    by_cases last : index + 1 = stint.laps.toNat
    · simp [last]
    · simp [last]
  · rw [parts]
  · rw [parts]
  · rw [parts]
  · rw [parts]
    change run.pitLoss = _
    rw [pitLoss]
    cases following <;> rfl
  · rw [parts]
    exact start
  · rw [finished,ended]

theorem driveStints_ledger {running last : Running R} {stints : List Stint} {runs : List (StintRun R)}
    {metrics : List (StintMetrics R)} (driven : driveStints setup running stints = .ok (runs,last))
    (measured : runs.mapM metricsOf = .ok metrics) :
    Ledger setup running.position stints ((runs.flatMap (·.laps)).map (·.record)) metrics := by
  induction stints generalizing running runs metrics with
  | nil =>
    cases driven
    cases measured
    exact .done
  | cons stint stints ih =>
    obtain ⟨run,next,others,first,later,rfl⟩ := driveStints_cons driven
    obtain ⟨head,tail,here,beyond,rfl⟩ := ok_of_mapM_cons measured
    obtain ⟨account,finish⟩ := metricsOf_account first here
    have rest := ih later beyond
    rw [← finish] at rest
    have final : stints.head?.isNone = stints.isEmpty := by cases stints <;> rfl
    rw [final] at account
    rw [List.flatMap_cons,List.map_append]
    exact .stint account rest

def Paid (setup : Setup R) (laps : List (DrivenLap R)) : Prop :=
  ∀ lap ∈ laps, lap.stop.map (·.loss) = if lap.record.stops then some setup.pitLoss else none

theorem driveLaps_paid {running last : Running R} {plans : List LapPlan} {laps : List (DrivenLap R)}
    (driven : driveLaps setup running plans = .ok (laps,last)) : Paid setup laps := by
  intro lap member
  obtain ⟨plan,_,account⟩ := Sheet.value_row (driveLaps_accounted driven) lap member
  exact account.loss

theorem timeWithStop_eq (lap : DrivenLap R) :
    timeWithStop lap = lap.record.time + (lap.stop.map (·.loss)).getD 0.0 := by
  unfold timeWithStop
  cases lap.stop <;> rfl

theorem raceTime_eq {laps : List (DrivenLap R)} (paid : Paid setup laps) :
    raceTime laps = ((laps.map (·.record)).map fun record => record.time + stopCost setup record).foldl (· + ·) 0.0 := by
  have same : laps.map timeWithStop = (laps.map (·.record)).map fun record => record.time + stopCost setup record := by
    rw [List.map_map]
    apply List.map_congr_left
    intro lap member
    rw [timeWithStop_eq,paid lap member,Function.comp_apply,stopCost]
    split <;> rfl
  unfold raceTime
  rw [same]

theorem pitTime_eq {laps : List (DrivenLap R)} (paid : Paid setup laps) :
    pitTime (laps.filterMap (·.stop))
      = (((laps.map (·.record)).filter (·.stops)).map fun _ => setup.pitLoss).foldl (· + ·) 0.0 := by
  have same : (laps.filterMap (·.stop)).map (·.loss)
      = ((laps.map (·.record)).filter (·.stops)).map fun _ => setup.pitLoss := by
    induction laps with
    | nil => rfl
    | cons lap laps ih =>
      have loss := paid lap List.mem_cons_self
      have rest := ih fun other member => paid other (List.mem_cons_of_mem _ member)
      rw [List.map_cons]
      cases stops : lap.record.stops with
      | false =>
        rw [stops] at loss
        rw [List.filterMap_cons_none (Option.map_eq_none_iff.mp loss),List.filter_cons_of_neg (by rw [stops]; decide),rest]
      | true =>
        rw [stops] at loss
        obtain ⟨stop,there,price⟩ := Option.map_eq_some_iff.mp loss
        rw [List.filterMap_cons_some there,List.filter_cons_of_pos stops,List.map_cons,List.map_cons,rest,price]
  unfold pitTime
  rw [same]

theorem StintAccount.count {stint : Stint} {final : Bool} {entry : Int} {records : List (LapRecord R)}
    {metrics : StintMetrics R} (account : StintAccount setup stint final entry records metrics)
    (driven : 1 ≤ stint.laps) : (records.filter (·.stops)).length = if final then 0 else 1 := by
  have length := account.length
  have stops := @account.stops
  rcases List.eq_nil_or_concat' records with rfl | ⟨early,last,rfl⟩
  · rw [List.length_nil] at length
    omega
  have unstopped : early.filter (·.stops) = [] := by
    apply List.filter_eq_nil_iff.mpr
    intro record member stopped
    obtain ⟨index,there⟩ := List.getElem?_of_mem member
    obtain ⟨within,_⟩ := List.getElem?_eq_some_iff.mp there
    have still : (early ++ [last])[index]? = some record := by rw [List.getElem?_append_left within,there]
    have ends := ((stops still).mp stopped).1
    rw [List.length_append,List.length_singleton] at ends
    omega
  have there : (early ++ [last])[early.length]? = some last := by simp
  have ends := stops there
  rw [List.filter_append,unstopped,List.nil_append]
  cases final <;> simp_all

-- A race stops once behind every stint but the last, if none of them is without laps.
theorem Ledger.count {entry : Int} {stints : List Stint} {records : List (LapRecord R)} {metrics : List (StintMetrics R)}
    (ledger : Ledger setup entry stints records metrics) (driven : ∀ stint ∈ stints, 1 ≤ stint.laps) :
    (records.filter (·.stops)).length = stints.length - 1 ∧ (metrics.map (·.laps)).sum = records.length := by
  induction ledger with
  | done => exact ⟨rfl,rfl⟩
  | @stint _ stint stints records others metrics more account rest ih =>
    obtain ⟨stops,laps⟩ := ih fun other member => driven other (List.mem_cons_of_mem _ member)
    have lap := driven stint List.mem_cons_self
    have count := account.count lap
    have length := account.length
    have planned := account.named.2.2
    rw [List.filter_append,List.length_append,count,stops,List.map_cons,List.sum_cons,List.length_append,laps]
    refine ⟨?_,by omega⟩
    cases stints with
    | nil => rfl
    | cons other stints =>
      change 1 + (stints.length + 1 - 1) = stints.length + 1 + 1 - 1
      omega

-- Laps and stops of a race add up, in whatever way it is split into stints, and a plan that has been read
-- stops behind every stint but its last.
theorem simulate_ledger {race : Race} {car : Car} {plan : Strategy} {track : Track Float} {tables : Tables Float}
    {outcome : Outcome Float} (raced : simulate race car plan track tables = .ok outcome) :
    let setup : Setup Float := ⟨race,car,track,tables⟩
    outcome.laps.map (·.lap) = List.range' 1 outcome.laps.length ∧
      Ledger setup car.start plan.stints outcome.laps outcome.stints ∧
      outcome.pitTimeLoss = ((outcome.laps.filter (·.stops)).map fun _ => setup.pitLoss).foldl (· + ·) 0.0 ∧
      outcome.raceTime = (outcome.laps.map fun record => record.time + stopCost setup record).foldl (· + ·) 0.0 ∧
      ∀ text, (Sheet.read text).document = some ⟨race,car,track,plan⟩ →
        (outcome.laps.filter (·.stops)).length = outcome.pitStops ∧ outcome.pitStops = plan.stints.length - 1 ∧
          (outcome.stints.map (·.laps)).sum = outcome.laps.length := by
  intro setup
  obtain ⟨runs,last,driven,concluded⟩ := simulate_drives raced
  obtain ⟨laps,stints,time,lost,stops⟩ := conclude_tallies concluded
  have flat := driveStints_flat driven
  have course := (driveLaps_course flat).2
  have ledger := driveStints_ledger driven stints
  have paid := driveLaps_paid flat
  rw [← laps] at course ledger
  refine ⟨course.laps_numbered,ledger,?_,?_,?_⟩
  · rw [lost,pitTime_eq paid,laps]
  · rw [time,raceTime_eq paid,laps]
  · intro text accepted
    obtain ⟨_,_,lengths⟩ := Sheet.read_bounds accepted
    obtain ⟨count,total⟩ := ledger.count fun stint member => (lengths stint member).1
    exact ⟨count.trans stops.symm,stops,total⟩

-- A sheet with two stints and a stop between them.
def twoStints : String :=
  let rows := ["RACE Monza LAPS=3 WEATHER=normal FIELD=20","CAR START=P5 PACE=midfield RISK=balanced","TRACK AERO=drag_reliant",
    "TRACK OVERTAKING=easy CHANCE=0.5","STRATEGY \"One stop\"","STINT 1 TIRE=SOFT LAPS=2","STINT 2 TIRE=HARD LAPS=1","END"]
  String.ofList (rows.flatMap fun row => row.toList ++ ['\n'])

theorem twoStints_ledger : ∃ document outcome, (Sheet.read twoStints).document = some document ∧
    simulate document.race document.car document.strategy document.track Tables.standard = .ok outcome ∧
      (outcome.laps.filter (·.stops)).length = 1 ∧ (outcome.stints.map (·.laps)).sum = outcome.laps.length := by
  have stints : (Sheet.read twoStints).document.map (·.strategy.stints) = some [⟨1,.soft,2⟩,⟨2,.hard,1⟩] := by
    unfold Sheet.read Sheet.Source.of twoStints
    rw [String.toList_ofList]
    decide +kernel
  obtain ⟨document,found,planned⟩ := Option.map_eq_some_iff.mp stints
  obtain ⟨small,onField,lengths⟩ := Sheet.read_bounds found
  obtain ⟨outcome,raced,_⟩ := simulate_succeeds Tables.standard_steady document.track small onField
    fun stint member => (lengths stint member).2
  obtain ⟨_,_,_,_,read⟩ := simulate_ledger raced
  obtain ⟨count,stops,total⟩ := read twoStints found
  rw [planned] at stops
  exact ⟨document,outcome,found,raced,count.trans stops,total⟩

end PitWall.Simulation

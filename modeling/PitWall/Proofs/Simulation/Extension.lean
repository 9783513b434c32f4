import PitWall.Proofs.Simulation.Ledger

namespace PitWall

def Strategy.followedBy (plan : Strategy) (stint : Stint) : Strategy := ⟨plan.label,plan.stints ++ [stint],by simp⟩

namespace Simulation
open Arithmetic
variable {R : Type} {setup : Setup R}

def LapRecord.pitted (onto : Compound) (record : LapRecord R) : LapRecord R :=
  {record with event := some .pitStop, detail := some s!"Pit stop for {Vocabulary.spelling onto} tires"}

section
variable {α β : Type} {change : α → α} {view : α → β}

theorem map_modifyLast {seen : β → β} (moved : ∀ x, view (change x) = seen (view x)) (items : List α) :
    (items.modifyLast change).map view = (items.map view).modifyLast seen := by
  rcases List.eq_nil_or_concat' items with rfl | ⟨early,last,rfl⟩
  · rfl
  · rw [List.modifyLast_concat,List.map_append,List.map_append,List.map_singleton,List.map_singleton,moved,
      List.modifyLast_concat]

theorem map_modifyLast_unseen (same : ∀ x, view (change x) = view x) (items : List α) :
    (items.modifyLast change).map view = items.map view := by
  rcases List.eq_nil_or_concat' items with rfl | ⟨early,last,rfl⟩
  · rfl
  · rw [List.modifyLast_concat,List.map_append,List.map_append,List.map_singleton,List.map_singleton,same]

end

variable [Arithmetic R]

def DrivenLap.pitted (setup : Setup R) (onto : Compound) (lap : DrivenLap R) : DrivenLap R :=
  ⟨lap.record.pitted onto,lap.degradation,some ⟨lap.record.lap,onto,setup.pitLoss⟩⟩

-- Without a lap there is nothing to end in the pit lane; the stop counts all the same.
def StintRun.pitted (setup : Setup R) (onto : Compound) (run : StintRun R) : StintRun R :=
  {run with laps := run.laps.modifyLast (·.pitted setup onto), pitLoss := setup.pitLoss}

-- A stop at its end changes what is told of a lap and nothing that the next lap starts from.
theorem driveLap_pitted {running next : Running R} {plan : LapPlan} {lap : DrivenLap R} (onto : Compound)
    (driven : driveLap setup running plan = .ok (lap,next)) :
    driveLap setup running {plan with onto := some onto} = .ok (lap.pitted setup onto,next) := by
  obtain ⟨change,wear,worn,moved,tread,record,_,rfl⟩ := driveLap_parts driven
  unfold driveLap DrivenLap.pitted
  dsimp only
  rw [worn]
  change (Position.change _ _ _ _ _ _ >>= _) = _
  rw [moved]
  change (Lap.wear _ _ >>= _) = _
  rw [tread,record]
  rfl

theorem driveLaps_append_parts {running last : Running R} {first second : List LapPlan} {laps : List (DrivenLap R)}
    (driven : driveLaps setup running (first ++ second) = .ok (laps,last)) :
    ∃ early middle late, driveLaps setup running first = .ok (early,middle) ∧
      driveLaps setup middle second = .ok (late,last) ∧ laps = early ++ late := by
  induction first generalizing running laps with
  | nil => exact ⟨[],running,laps,rfl,driven,rfl⟩
  | cons plan plans ih =>
    obtain ⟨lap,next,others,head,tail,rfl⟩ := driveLaps_cons driven
    obtain ⟨early,middle,late,opening,closing,rfl⟩ := ih tail
    refine ⟨lap :: early,middle,late,?_,closing,rfl⟩
    rw [driveLaps,head]
    change driveLaps setup next plans >>= _ = _
    rw [opening]
    rfl

theorem driveLaps_single {running last : Running R} {plan : LapPlan} {laps : List (DrivenLap R)} :
    driveLaps setup running [plan] = .ok (laps,last) ↔
      ∃ lap, driveLap setup running plan = .ok (lap,last) ∧ laps = [lap] := by
  constructor
  · intro driven
    obtain ⟨lap,next,others,head,tail,rfl⟩ := driveLaps_cons driven
    cases tail
    exact ⟨lap,head,rfl⟩
  · rintro ⟨lap,driven,rfl⟩
    rw [driveLaps,driven]
    rfl

theorem driveLaps_pitted {running last : Running R} {plans : List LapPlan} {laps : List (DrivenLap R)} (onto : Compound)
    (driven : driveLaps setup running plans = .ok (laps,last)) :
    driveLaps setup running (plans.modifyLast fun plan => {plan with onto := some onto})
      = .ok (laps.modifyLast (·.pitted setup onto),last) := by
  rcases List.eq_nil_or_concat' plans with rfl | ⟨early,plan,rfl⟩
  · cases driven
    rfl
  · obtain ⟨laps,middle,late,opening,closing,rfl⟩ := driveLaps_append_parts driven
    obtain ⟨lap,closed,rfl⟩ := driveLaps_single.mp closing
    rw [List.modifyLast_concat,List.modifyLast_concat]
    exact driveLaps_append opening (driveLaps_single.mpr ⟨_,driveLap_pitted onto closed,rfl⟩)

theorem lapPlans_some (stint following : Stint) : lapPlans stint (some following) =
    (lapPlans stint none).modifyLast fun plan => {plan with onto := some following.compound} := by
  unfold lapPlans
  dsimp only
  cases stint.laps.toNat with
  | zero => rfl
  | succ laps =>
    rw [List.range_succ,List.map_append,List.map_append,List.map_singleton,List.map_singleton,List.modifyLast_concat]
    have inner : ∀ lap ∈ List.range laps, ¬ lap + 1 = laps + 1 := by
      intro lap within
      have := List.mem_range.mp within
      omega
    congr 1
    · apply List.map_congr_left
      intro lap within
      rw [if_neg (inner lap within),if_neg (inner lap within)]
    · simp

theorem driveStint_pitted {running next : Running R} {stint following : Stint} {run again : StintRun R} {after : Running R}
    (driven : driveStint setup running stint none = .ok (run,next))
    (drivenOn : driveStint setup running stint (some following) = .ok (again,after)) :
    again = run.pitted setup following.compound ∧ after = next := by
  unfold driveStint at driven drivenOn
  obtain ⟨advisories,advised,driven⟩ := ok_of_bind driven
  obtain ⟨⟨laps,_⟩,drove,driven⟩ := ok_of_bind driven
  have droveOn := driveLaps_pitted following.compound drove
  rw [advised,lapPlans_some] at drivenOn
  change (driveLaps _ _ _ >>= _) = _ at drivenOn
  rw [droveOn] at drivenOn
  cases driven
  cases drivenOn
  exact ⟨rfl,rfl⟩

-- The induction goes along the plan: only where the shorter one ends do the two races differ.
theorem driveStints_followedBy {running last close : Running R} {stints : List Stint} (planned : stints ≠ []) {stint : Stint}
    {runs again : List (StintRun R)} (driven : driveStints setup running stints = .ok (runs,last))
    (drivenOn : driveStints setup running (stints ++ [stint]) = .ok (again,close)) :
    ∃ early final further, runs = early ++ [final] ∧ again = early ++ [final.pitted setup stint.compound,further] ∧
      final.laps.length = (stints.getLast planned).laps.toNat ∧ final.pitLoss = 0.0 ∧
      further.laps.length = stint.laps.toNat := by
  induction stints generalizing running runs again with
  | nil => exact absurd rfl planned
  | cons first stints ih =>
    obtain ⟨run,next,others,head,tail,rfl⟩ := driveStints_cons driven
    obtain ⟨runOn,nextOn,othersOn,headOn,tailOn,rfl⟩ := driveStints_cons drivenOn
    cases stints with
    | nil =>
      obtain ⟨further,_,_,closing,ended,rfl⟩ := driveStints_cons tailOn
      cases ended
      cases tail
      obtain ⟨rfl,rfl⟩ := driveStint_pitted head headOn
      exact ⟨[],run,further,rfl,rfl,driveStint_length head,(driveStint_parts head).2.2.2.2,driveStint_length closing⟩
    | cons second stints =>
      have same := head.symm.trans headOn
      cases same
      obtain ⟨early,final,further,rfl,rfl,rest⟩ := ih (List.cons_ne_nil _ _) tail tailOn
      exact ⟨run :: early,final,further,rfl,rfl,rest⟩

theorem metricsOf_pitted {run : StintRun R} {metrics : StintMetrics R} (onto : Compound)
    (measured : metricsOf run = .ok metrics) :
    metricsOf (run.pitted setup onto) = .ok {metrics with pitTimeLoss := setup.pitLoss} := by
  have times : (run.pitted setup onto).laps.map (·.record.time) = run.laps.map (·.record.time) := by
    apply map_modifyLast_unseen
    intro lap
    rfl
  have losses : (run.pitted setup onto).laps.map (·.degradation) = run.laps.map (·.degradation) := by
    apply map_modifyLast_unseen
    intro lap
    rfl
  unfold metricsOf at measured ⊢
  dsimp only at measured ⊢
  rw [times,losses]
  split at measured
  · rename_i empty
    rw [if_pos empty]
    cases measured
    rfl
  · rename_i driven
    rw [if_neg driven]
    obtain ⟨average,averaged,measured⟩ := ok_of_bind measured
    rw [averaged]
    cases measured
    rfl

theorem records_followedBy (setup : Setup R) (early : List (StintRun R)) (final further : StintRun R) (onto : Compound) :
    ((early ++ [final.pitted setup onto,further]).flatMap (·.laps)).map (·.record)
      = (early.flatMap (·.laps)).map (·.record) ++
        ((final.laps.map (·.record)).modifyLast (·.pitted onto) ++ further.laps.map (·.record)) := by
  have stopped : (final.pitted setup onto).laps.map (·.record) = (final.laps.map (·.record)).modifyLast (·.pitted onto) := by
    apply map_modifyLast
    intro lap
    rfl
  rw [← stopped]
  simp

theorem metrics_followedBy {early : List (StintRun R)} {final further : StintRun R} {onto : Compound}
    {metrics longer : List (StintMetrics R)} (measured : (early ++ [final]).mapM metricsOf = .ok metrics)
    (measuredOn : (early ++ [final.pitted setup onto,further]).mapM metricsOf = .ok longer) :
    ∃ before last extra, metrics = before ++ [last] ∧ last.pitTimeLoss = final.pitLoss ∧
      longer = before ++ [{last with pitTimeLoss := setup.pitLoss},extra] := by
  obtain ⟨before,own,opening,closing,rfl⟩ := ok_of_mapM_append measured
  obtain ⟨again,others,openingOn,closingOn,rfl⟩ := ok_of_mapM_append measuredOn
  cases opening.symm.trans openingOn
  obtain ⟨last,_,here,ended,rfl⟩ := ok_of_mapM_cons closing
  obtain ⟨paying,_,hereOn,beyond,rfl⟩ := ok_of_mapM_cons closingOn
  obtain ⟨extra,_,_,noneOn,rfl⟩ := ok_of_mapM_cons beyond
  rw [metricsOf_pitted onto here] at hereOn
  cases hereOn
  cases ended
  cases noneOn
  refine ⟨before,last,extra,rfl,?_,rfl⟩
  rw [(metricsOf_parts here).2]

-- A stint more rewrites nothing that was run before it: the lap in front of it now ends in the pit lane, the stint
-- in front of it now pays for the stop, and all else stands as it stood.
theorem simulate_followedBy {race : Race} {car : Car} {plan : Strategy} {stint : Stint} {track : Track R}
    {tables : Tables R} {outcome longer : Outcome R} (raced : simulate race car plan track tables = .ok outcome)
    (racedOn : simulate race car (plan.followedBy stint) track tables = .ok longer) :
    (∃ later, later.length = stint.laps.toNat ∧
      (1 ≤ plan.last.laps → ∃ before last, outcome.laps = before ++ [last] ∧
        longer.laps = before ++ last.pitted stint.compound :: later) ∧
      (plan.last.laps < 1 → longer.laps = outcome.laps ++ later)) ∧
    ∃ before last further, outcome.stints = before ++ [last] ∧ last.pitTimeLoss = 0.0 ∧
      longer.stints = before ++ [{last with pitTimeLoss := Setup.pitLoss ⟨race,car,track,tables⟩},further] := by
  obtain ⟨runs,last,driven,concluded⟩ := simulate_drives raced
  obtain ⟨again,close,drivenOn,concludedOn⟩ := simulate_drives racedOn
  obtain ⟨laps,stints,_,_,_⟩ := conclude_tallies concluded
  obtain ⟨lapsOn,stintsOn,_,_,_⟩ := conclude_tallies concludedOn
  obtain ⟨early,final,further,rfl,rfl,length,free,lengthOn⟩ := driveStints_followedBy plan.someStint driven drivenOn
  have metrics := metrics_followedBy stints stintsOn
  rw [free] at metrics
  have records : outcome.laps = (early.flatMap (·.laps)).map (·.record) ++ final.laps.map (·.record) := by
    rw [laps]
    simp
  rw [records_followedBy] at lapsOn
  have ran : (final.laps.map (·.record)).length = plan.last.laps.toNat := by
    rw [List.length_map,length]
    rfl
  refine ⟨⟨further.laps.map (·.record),by rw [List.length_map,lengthOn],?_,?_⟩,metrics⟩
  · intro driven
    rcases List.eq_nil_or_concat' (final.laps.map (·.record)) with undriven | ⟨others,last,split⟩
    · rw [undriven,List.length_nil] at ran
      omega
    · rw [split] at records lapsOn
      rw [List.modifyLast_concat] at lapsOn
      exact ⟨(early.flatMap (·.laps)).map (·.record) ++ others,last,by simp [records],by simp [lapsOn]⟩
  · intro undriven
    have empty : final.laps.map (·.record) = [] := List.length_eq_zero_iff.mp (by omega)
    rw [empty] at records lapsOn
    rw [lapsOn,records,List.append_nil]
    rfl

theorem oneStop_followedBy : ∃ outcome longer later, simulate sprint fifth oneStop openTrack Tables.standard = .ok outcome ∧
    simulate sprint fifth (oneStop.followedBy ⟨3,.medium,2⟩) openTrack Tables.standard = .ok longer ∧
    later.length = 2 ∧ ∃ before last, outcome.laps = before ++ [last] ∧
      longer.laps = before ++ last.pitted .medium :: later := by
  have runs : (simulate sprint fifth oneStop openTrack Tables.standard).toOption.any (fun _ => true) = true := by
    decide +kernel
  have runsOn : (simulate sprint fifth (oneStop.followedBy ⟨3,.medium,2⟩) openTrack Tables.standard).toOption.any
      (fun _ => true) = true := by decide +kernel
  obtain ⟨outcome,raced,_⟩ := returns_of_any runs
  obtain ⟨longer,racedOn,_⟩ := returns_of_any runsOn
  obtain ⟨⟨later,length,ends,_⟩,_⟩ := simulate_followedBy raced racedOn
  exact ⟨outcome,longer,later,raced,racedOn,length,ends (by decide)⟩

end Simulation
end PitWall

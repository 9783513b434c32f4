import PitWall.Proofs.Simulation.Course

namespace PitWall.Simulation
open Arithmetic
variable {R : Type} [Arithmetic R]

-- Two sets of tables that say the same wherever a race looks. They may keep it differently: a circuit without an
-- override is looked up among the default figures, and a weather or a difficulty without an entry has its fallback.
structure SameLookups (race : Race) (car : Car) (plan : Strategy) (track : Track R) (left right : Tables R) : Prop where
  circuit : left.circuit race.trackName = right.circuit race.trackName
  tire : ∀ stint ∈ plan.stints, left.tire stint.compound = right.tire stint.compound
  weather : left.weatherMultiplier race.weather = right.weatherMultiplier race.weather
  pace : left.pace car.pace = right.pace car.pace
  risk : left.risk car.risk = right.risk car.risk
  rate : left.overtakingRate track.difficulty = right.overtakingRate track.difficulty

namespace SameLookups
variable {race : Race} {car : Car} {plan : Strategy} {track : Track R} {left right : Tables R}
  (same : SameLookups race car plan track left right)
include same

theorem driveLap_eq (running : Running R) {planned : LapPlan} (own : left.tire planned.stint.compound = right.tire planned.stint.compound) :
    driveLap ⟨race,car,track,left⟩ running planned = driveLap ⟨race,car,track,right⟩ running planned := by
  unfold driveLap lapTime Setup.pitLoss
  simp only [Setup.circuit,Setup.pace,Setup.risk,Setup.weather,Setup.rate,same.circuit,same.pace,same.risk,same.weather,
    same.rate,own]

theorem driveLaps_eq (running : Running R) {plans : List LapPlan}
    (own : ∀ planned ∈ plans, left.tire planned.stint.compound = right.tire planned.stint.compound) :
    driveLaps ⟨race,car,track,left⟩ running plans = driveLaps ⟨race,car,track,right⟩ running plans := by
  induction plans generalizing running with
  | nil => rfl
  | cons planned plans ih =>
    obtain ⟨here,beyond⟩ := List.forall_mem_cons.mp own
    simp only [driveLaps,same.driveLap_eq running here,ih _ beyond]

theorem driveStint_eq (running : Running R) {stint : Stint} (own : left.tire stint.compound = right.tire stint.compound)
    (following : Option Stint) :
    driveStint ⟨race,car,track,left⟩ running stint following = driveStint ⟨race,car,track,right⟩ running stint following := by
  have advised : Advisory.ofStint stint race left = Advisory.ofStint stint race right := by
    unfold Advisory.ofStint
    rw [own]
  have planned : ∀ lap ∈ lapPlans stint following, left.tire lap.stint.compound = right.tire lap.stint.compound := by
    intro lap member
    obtain ⟨_,_,rfl⟩ := List.mem_map.mp member
    exact own
  unfold driveStint Setup.pitLoss
  simp only [Setup.circuit,Setup.risk,same.circuit,same.risk,advised,same.driveLaps_eq running planned]

theorem driveStints_eq (running : Running R) {stints : List Stint}
    (own : ∀ stint ∈ stints, left.tire stint.compound = right.tire stint.compound) :
    driveStints ⟨race,car,track,left⟩ running stints = driveStints ⟨race,car,track,right⟩ running stints := by
  induction stints generalizing running with
  | nil => rfl
  | cons stint stints ih =>
    obtain ⟨here,beyond⟩ := List.forall_mem_cons.mp own
    simp only [driveStints,same.driveStint_eq running here,ih _ beyond]

theorem raise_eq (rule : Rule) (finish : Int) :
    rule.raise ⟨race,car,track,plan,left,finish⟩ = rule.raise ⟨race,car,track,plan,right,finish⟩ := by
  have pace : Rule.paceOf ⟨race,car,track,plan,left,finish⟩ = Rule.paceOf ⟨race,car,track,plan,right,finish⟩ := same.pace
  cases rule with
  | startVsPace =>
    change Except.ok (Rule.raiseStartVsPace _) = Except.ok (Rule.raiseStartVsPace _)
    unfold Rule.raiseStartVsPace
    rw [pace]
  | targetPosition =>
    change Except.ok (Rule.raiseTargetPosition _) = Except.ok (Rule.raiseTargetPosition _)
    unfold Rule.raiseTargetPosition
    rw [pace]
  | stintLengths =>
    have each : ∀ stint ∈ plan.stints, Rule.raiseStintLength left stint = Rule.raiseStintLength right stint := by
      intro stint member
      unfold Rule.raiseStintLength
      rw [same.tire stint member]
    change Rule.raiseStintLengths _ = Rule.raiseStintLengths _
    unfold Rule.raiseStintLengths
    rw [mapM_congr each]
  | _ => rfl

theorem advise_eq (rules : List Rule) (finish : Int) :
    advise rules ⟨race,car,track,plan,left,finish⟩ = advise rules ⟨race,car,track,plan,right,finish⟩ := by
  unfold PitWall.advise gather
  rw [mapM_congr fun rule _ => same.raise_eq rule finish]

theorem conclude_eq (runs : List (StintRun R)) (last : Running R) :
    conclude ⟨race,car,track,left⟩ plan runs last = conclude ⟨race,car,track,right⟩ plan runs last := by
  unfold Simulation.conclude
  simp only [Setup.pace,same.pace,same.advise_eq]

end SameLookups

-- A race looks at the entries that it uses and at no others: tables that agree on those give the same race in all that
-- is told of it, or the same fault.
theorem simulate_sameLookups {race : Race} {car : Car} {plan : Strategy} {track : Track R} {left right : Tables R}
    (same : SameLookups race car plan track left right) :
    simulate race car plan track left = simulate race car plan track right := by
  have grid : onTheGrid ⟨race,car,track,left⟩ = onTheGrid ⟨race,car,track,right⟩ := by
    unfold onTheGrid Setup.circuit
    rw [same.circuit]
  unfold simulate
  simp only [grid,same.driveStints_eq _ same.tire,same.conclude_eq]

-- Nothing is known but what the sprint needs, and the rest is out of proportion.
def bareTables : Tables Float where
  defaultCircuit := Tables.standard.circuit "MONZA"
  overrides := []
  tire compound := match compound with
    | .soft | .hard => Tables.standard.tire compound
    | _ => ⟨0.0,9.0,1,0.0⟩
  weather _ := none
  pace pace := match pace with
    | .midfield => Tables.standard.pace .midfield
    | _ => ⟨60.0,0.0,0.0,30,30,30⟩
  risk risk := match risk with
    | .balanced => Tables.standard.risk .balanced
    | _ => ⟨0.0,9.0,9.0⟩
  overtaking difficulty := match difficulty with
    | .easy => some 0.04
    | _ => none

theorem bareTables_sprint : SameLookups sprint fifth oneStop openTrack Tables.standard bareTables ∧
    ∃ outcome, simulate sprint fifth oneStop openTrack Tables.standard = .ok outcome ∧
      simulate sprint fifth oneStop openTrack bareTables = .ok outcome := by
  have circuit : bareTables.circuit "MONZA" = bareTables.defaultCircuit := rfl
  have tire : ∀ stint ∈ oneStop.stints, (Tables.standard : Tables Float).tire stint.compound = bareTables.tire stint.compound := by
    intro stint member
    fin_cases member <;> rfl
  have weather : (Tables.standard : Tables Float).weatherMultiplier .normal = bareTables.weatherMultiplier .normal := by
    unfold Tables.weatherMultiplier
    rfl
  have rate : (Tables.standard : Tables Float).overtakingRate .easy = bareTables.overtakingRate .easy := by
    unfold Tables.overtakingRate
    rfl
  have same : SameLookups sprint fifth oneStop openTrack Tables.standard bareTables :=
    ⟨circuit.symm,tire,weather,rfl,rfl,rate⟩
  have runs : (simulate sprint fifth oneStop openTrack Tables.standard).toOption.any (fun _ => true) = true := by
    decide +kernel
  obtain ⟨outcome,raced,_⟩ := returns_of_any runs
  exact ⟨same,outcome,raced,(simulate_sameLookups same).symm.trans raced⟩

end PitWall.Simulation

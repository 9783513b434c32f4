import PitWall.Proofs.Simulation.Alarms

namespace PitWall
open Arithmetic

namespace Advisory

def namesCliff (message : String) : Bool := decide (" cliff".toList <:+: message.toList)

def isCliff (advisory : Advisory) : Bool := advisory.area = .tire && namesCliff advisory.message

@[simp] theorem isCliff_note (area : Area) (severity : Severity) (message detail : String) :
    (note area severity message detail).isCliff = (area = .tire && namesCliff message) := rfl

theorem namesCliff_iff {message : String} : namesCliff message = true ↔ " cliff".toList <:+: message.toList :=
  decide_eq_true_iff

theorem names_before {opening closing : String} (named : namesCliff opening = true) :
    namesCliff (opening ++ closing) = true := by
  rw [namesCliff_iff,String.toList_append]
  exact (namesCliff_iff.mp named).trans (List.prefix_append _ _).isInfix

theorem names_behind {opening closing : String} (named : namesCliff closing = true) :
    namesCliff (opening ++ closing) = true := by
  rw [namesCliff_iff,String.toList_append]
  exact (namesCliff_iff.mp named).trans (List.suffix_append _ _).isInfix

theorem overrun_isCliff (stint : Stint) (cliffLap : Int) : (overrun stint cliffLap).isCliff = true := by
  have named : namesCliff " tires past cliff" = true := by decide +kernel
  unfold overrun
  simp only [isCliff_note,decide_true,Bool.true_and]
  apply names_behind
  exact named

theorem nearCliff_isCliff (stint : Stint) (cliffLap : Int) : (Rule.nearCliff stint cliffLap).isCliff = true := by
  have named : namesCliff " tires near cliff (" = true := by decide +kernel
  unfold Rule.nearCliff
  simp only [isCliff_note,decide_true,Bool.true_and]
  -- Behind the words stand the laps, the cliff and what is between them.
  apply names_before
  apply names_before
  apply names_before
  apply names_before
  apply names_behind
  exact named

theorem isCliff_rare : Rule.Rare isCliff where
  elsewhere area _ := by simp [isCliff,note,area]
  weather := rfl
  tires := by
    intro message member severity detail
    have unnamed : ∀ words ∈ Rule.tireRemarks, namesCliff words = false := by decide +kernel
    exact unnamed message member

end Advisory

section
variable {R : Type} [Arithmetic R]

def Stint.cliffLap (tables : Tables R) (stint : Stint) : Int := (tables.tire stint.compound).cliffLap

def Stint.isPastCliff (tables : Tables R) (stint : Stint) : Bool := stint.cliffLap tables < stint.laps
def Stint.isOverrun (limit : Compound → R) (stint : Stint) : Bool := exceeds stint.laps (limit stint.compound)
def Stint.isNearCliff (tables : Tables R) (limit : Compound → R) (stint : Stint) : Bool :=
  stint.isPastCliff tables && within stint.laps (limit stint.compound)

structure Tables.CliffLimits (tables : Tables R) (limit : Compound → R) : Prop where
  product : ∀ compound, Advisory.overrunLimit (tables.tire compound).cliffLap = .ok (limit compound)
  notBelow : ∀ compound, within (tables.tire compound).cliffLap (limit compound) = true

variable {tables : Tables R} {limit : Compound → R} (limits : tables.CliffLimits limit)
include limits

theorem Advisory.ofStint_eq (stint : Stint) (race : Race) : ofStint stint race tables =
    .ok (Rule.onlyIf (stint.isOverrun limit) (overrun stint (stint.cliffLap tables))
      ++ Rule.onlyIf (race.weather = .wet && !stint.compound.isWetWeather) (dryInTheWet stint)) := by
  unfold ofStint
  dsimp only
  rw [limits.product]
  rfl

theorem Advisory.ofStint_cliffs (stint : Stint) (race : Race) {advisories : List Advisory}
    (advised : ofStint stint race tables = .ok advisories) :
    advisories.filter isCliff = Rule.onlyIf (stint.isOverrun limit) (overrun stint (stint.cliffLap tables)) := by
  rw [ofStint_eq limits] at advised
  cases advised
  simp [overrun_isCliff,dryInTheWet]

namespace Rule
open Advisory

theorem raiseStintLength_eq (stint : Stint) : raiseStintLength tables stint =
    .ok (onlyIf (stint.laps < 8 && 1 < stint.number) (shortStint stint)
      ++ onlyIf (stint.isNearCliff tables limit) (nearCliff stint (stint.cliffLap tables))) := by
  have near : isNearCliff stint (stint.cliffLap tables) R = .ok (stint.isNearCliff tables limit) := by
    unfold isNearCliff Stint.isNearCliff Stint.isPastCliff
    by_cases past : stint.cliffLap tables < stint.laps
    · rw [if_pos past,decide_eq_true past,Bool.true_and,Stint.cliffLap,limits.product]
      rfl
    · rw [if_neg past,decide_eq_false past,Bool.false_and]
  unfold raiseStintLength
  dsimp only
  rw [← Stint.cliffLap,near]
  rfl

theorem raiseStintLength_cliffs (stint : Stint) {advisories : List Advisory}
    (raised : raiseStintLength tables stint = .ok advisories) :
    advisories.filter isCliff = onlyIf (stint.isNearCliff tables limit) (nearCliff stint (stint.cliffLap tables)) := by
  rw [raiseStintLength_eq limits] at raised
  cases raised
  simp [nearCliff_isCliff,shortStint]

-- What is said of the cliffs after the race is what one rule says, once for each time that it is asked.
theorem advise_cliffs {rules : List Rule} {review : Review R} {advisories : List Advisory} (same : review.tables = tables)
    (advised : advise rules review = .ok advisories) : advisories.filter isCliff = rules.flatMap fun rule =>
      if rule = .stintLengths then (review.strategy.stints.filter (·.isNearCliff tables limit)).map
        fun stint => nearCliff stint (stint.cliffLap tables) else [] := by
  unfold advise at advised
  obtain ⟨parts,each,advised⟩ := ok_of_bind advised
  cases advised
  refine filter_flatten_of_mapM each fun rule part raised => ?_
  split
  · rename_i lengths
    subst lengths same
    obtain ⟨remarks,said,raised⟩ := ok_of_bind raised
    cases raised
    have each := filter_flatten_of_mapM said fun stint _ raised => raiseStintLength_cliffs limits stint raised
    exact each.trans (flatMap_onlyIf _ _ _)
  · rename_i other
    exact (raise_spared isCliff_rare raised other).filter

end Rule

namespace Simulation
open Advisory

theorem driveStints_cliffs {race : Race} {car : Car} {track : Track R} {running last : Running R} {stints : List Stint}
    {runs : List (StintRun R)} (driven : driveStints ⟨race,car,track,tables⟩ running stints = .ok (runs,last)) :
    (runs.flatMap (·.advisories)).filter isCliff =
      (stints.filter (·.isOverrun limit)).map fun stint => overrun stint (stint.cliffLap tables) := by
  rw [← Rule.flatMap_onlyIf]
  induction stints generalizing running runs with
  | nil => cases driven; rfl
  | cons stint stints ih =>
    obtain ⟨run,next,others,first,later,rfl⟩ := driveStints_cons driven
    rw [List.flatMap_cons,List.filter_append,ofStint_cliffs limits stint race (driveStint_advised first),ih later,
      List.flatMap_cons]

-- A race says of its cliffs what there is to say of each stint: of those beyond the limit first, then of those within.
theorem simulate_remarks {race : Race} {car : Car} {plan : Strategy} {track : Track R} {outcome : Outcome R}
    (raced : simulate race car plan track tables = .ok outcome) : outcome.advisories.filter isCliff =
      (plan.stints.filter (·.isOverrun limit)).map (fun stint => overrun stint (stint.cliffLap tables)) ++
      (plan.stints.filter (·.isNearCliff tables limit)).map fun stint => Rule.nearCliff stint (stint.cliffLap tables) := by
  obtain ⟨runs,last,driven,concluded⟩ := simulate_drives raced
  obtain ⟨finish,rules,advised,remarks⟩ := conclude_advised concluded
  rw [remarks,List.filter_append,driveStints_cliffs limits driven,Rule.advise_cliffs limits rfl advised]
  -- The rule on lengths is asked once.
  simp [Vocabulary.all]

end Simulation
end

section
variable {tables : Tables Float} {limit : Compound → Float} (limits : tables.CliffLimits limit)
include limits

theorem Stint.isOverrun_eq (stint : Stint) :
    stint.isOverrun limit = (stint.isPastCliff tables && !within stint.laps (limit stint.compound)) :=
  exceeds_eq (limits.notBelow stint.compound) stint.laps

theorem pastCliff_parts (stints : List Stint) : (stints.filter (·.isOverrun limit)).length
    + (stints.filter (·.isNearCliff tables limit)).length = stints.countP (·.isPastCliff tables) := by
  rw [← List.countP_eq_length_filter,← List.countP_eq_length_filter]
  induction stints with
  | nil => rfl
  | cons stint stints ih =>
    rw [List.countP_cons,List.countP_cons,List.countP_cons,← ih,stint.isOverrun_eq limits,Stint.isNearCliff]
    cases stint.isPastCliff tables <;> cases within stint.laps (limit stint.compound) <;> simp <;> omega

end

structure CliffRemarks (tables : Tables Float) (limit : Compound → Float) (stint : Stint)
    (before after : List Advisory) : Prop where
  overrun : before.filter Advisory.isCliff =
    if stint.isOverrun limit then [Advisory.overrun stint (stint.cliffLap tables)] else []
  near : after.filter Advisory.isCliff =
    if stint.isNearCliff tables limit then [Rule.nearCliff stint (stint.cliffLap tables)] else []
  count : (before ++ after).countP Advisory.isCliff = if stint.isPastCliff tables then 1 else 0

-- A stint past its cliff has one remark, when it is driven if it goes beyond the limit and after the race if it does
-- not. No other stint has one, and no race remarks on cliffs for any other cause.
theorem simulate_cliffs {tables : Tables Float} {limit : Compound → Float} (limits : tables.CliffLimits limit)
    (race : Race) (car : Car) (plan : Strategy) (track : Track Float) :
    (∀ stint : Stint, ∃ before after, Advisory.ofStint stint race tables = .ok before ∧
      Rule.raiseStintLength tables stint = .ok after ∧ CliffRemarks tables limit stint before after) ∧
    ∀ outcome, simulate race car plan track tables = .ok outcome →
      outcome.advisories.filter Advisory.isCliff =
        ((plan.stints.filter (·.isOverrun limit)).map fun stint => Advisory.overrun stint (stint.cliffLap tables)) ++
        ((plan.stints.filter (·.isNearCliff tables limit)).map fun stint =>
          Rule.nearCliff stint (stint.cliffLap tables)) ∧
      outcome.advisories.countP Advisory.isCliff = plan.stints.countP (·.isPastCliff tables) := by
  constructor
  · intro stint
    have early := Advisory.ofStint_eq limits stint race
    have late := Rule.raiseStintLength_eq limits stint
    have past := Advisory.ofStint_cliffs limits stint race early
    have near := Rule.raiseStintLength_cliffs limits stint late
    refine ⟨_,_,early,late,past,near,?_⟩
    rw [List.countP_append,List.countP_eq_length_filter,List.countP_eq_length_filter,past,near,stint.isOverrun_eq limits,
      Stint.isNearCliff]
    cases stint.isPastCliff tables <;> cases within stint.laps (limit stint.compound) <;> rfl
  · intro outcome raced
    have remarks := Simulation.simulate_remarks limits raced
    refine ⟨remarks,?_⟩
    rw [List.countP_eq_length_filter,remarks,List.length_append,List.length_map,List.length_map]
    exact pastCliff_parts limits plan.stints

-- Soft tires up to their cliff at fifteen laps, a lap past it, as far as it may be passed, and a lap too far.
def fourLengths : Strategy := ⟨"four lengths",[⟨1,.soft,15⟩,⟨2,.soft,16⟩,⟨3,.soft,19⟩,⟨4,.soft,20⟩],by decide⟩

open Simulation in
theorem fourLengths_cliffs : ∃ (limit : Compound → Float) (outcome : Outcome Float),
    Tables.standard.CliffLimits limit ∧
    simulate sprint fifth fourLengths openTrack Tables.standard = .ok outcome ∧
    outcome.advisories.countP Advisory.isCliff = 3 := by
  have each (compound : Compound) :
      Returns (Advisory.overrunLimit (Tables.standardTire compound : TireData Float).cliffLap) fun limit : Float =>
        within (Tables.standardTire compound : TireData Float).cliffLap limit = true := by
    cases compound <;> exact returns_of_any (by decide +kernel)
  choose limit product notBelow using each
  have limits : Tables.standard.CliffLimits limit := ⟨product,notBelow⟩
  have driven : Succeeds (simulate sprint fifth fourLengths openTrack Tables.standard) :=
    simulate_succeeds Tables.standard_steady openTrack (by decide) (by decide) (by decide)
  obtain ⟨outcome,raced,_⟩ := driven
  obtain ⟨_,said⟩ := (simulate_cliffs limits sprint fifth fourLengths openTrack).2 outcome raced
  have counted : fourLengths.stints.countP (·.isPastCliff (Tables.standard : Tables Float)) = 3 := by decide +kernel
  exact ⟨limit,outcome,limits,raced,said.trans counted⟩

end PitWall

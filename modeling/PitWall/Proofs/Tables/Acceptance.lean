import PitWall.Proofs.Tables.Admission

namespace PitWall.Tables
open Arithmetic

section
variable {description : List (Scalar Float × Value Float)}

theorem said_keyed (keyed : (Value.mapping description).Keyed) (topic : Topic) :
    ∀ value, said description topic = some value → value.Keyed := by
  intro value told
  obtain ⟨entry,found,rfl⟩ := Option.map_eq_some_iff.mp told
  exact (keyed_mapping_iff.mp keyed entry (List.mem_of_find?_eq_some found)).2

theorem topicOf_keyed (keyed : (Value.mapping description).Keyed) (topic : Topic) :
    ∀ entry ∈ topicOf description topic, entry.1.IsText ∧ entry.2.Keyed := by
  intro entry there
  unfold topicOf at there
  cases told : said description topic with
  | none => rw [told] at there; cases there
  | some value =>
    rw [told] at there
    have below := said_keyed keyed topic value told
    cases value with
    | mapping entries => exact keyed_mapping_iff.mp below entry there
    | _ => cases there

def Blamed (description : List (Scalar Float × Value Float)) (refusal : Refusal Float) : Prop :=
  refusal.Complains ∨ ∃ place value, Stated description place value ∧ Overflow place.measure value refusal

theorem Stated.foreseen {place : Place} {value : Value Float} (stated : Stated description place value) :
    Foreseen (Blamed description) place.measure value := fun _ beyond => .inr ⟨place,value,stated,beyond⟩

theorem tire_measure (member : Compound) (field : TireField) :
    (Place.tire member field).measure = (tireSchema (R := Float)).measure field := by cases field <;> rfl

theorem pace_measure (member : PaceClass) (field : PaceField) :
    (Place.pace member field).measure = (paceSchema (R := Float)).measure field := by cases field <;> rfl

-- What is asked for topic by topic is a shape of the whole, and of every value in it that it may stand in its place.
theorem topics_iff :
    ((∀ entry ∈ description, Spelled Topic entry.1) ∧
      ((∀ value, said description .defaultCircuit = some value → IsEntry CircuitField value) ∧
        AllAdmitted (circuitSchema (R := Float)).measure (topicOf description .defaultCircuit)) ∧
      (∀ value, said description .circuits = some value → IsSection value) ∧
      (∀ entry ∈ topicOf description .circuits, EntryAdmitted (overrideSchema (R := Float)).measure entry.2) ∧
      TopicAdmitted (fun entry => Spelled Compound entry.1 ∧ EntryAdmitted (tireSchema (R := Float)).measure entry.2)
        description .tires ∧
      TopicAdmitted (fun entry => Spelled PaceClass entry.1 ∧ EntryAdmitted (paceSchema (R := Float)).measure entry.2)
        description .paceClasses ∧
      TopicAdmitted (fun entry => Spelled RiskProfile entry.1 ∧ EntryAdmitted (riskSchema (R := Float)).measure entry.2)
        description .riskProfiles ∧
      TopicAdmitted (fun entry => Spelled Weather entry.1 ∧ Admits .positive entry.2) description .weather ∧
      TopicAdmitted (fun entry => Spelled Difficulty entry.1 ∧ Admits .positive entry.2) description .overtakeBaseRates) ↔
      WellShaped description ∧ ∀ place value, Stated description place value → Admits place.measure value := by
  constructor
  · rintro ⟨topics,⟨default,defaults⟩,circuits,circuitsEach,⟨tires,tiresEach⟩,⟨paces,pacesEach⟩,⟨risks,risksEach⟩,
      ⟨weather,weathersEach⟩,rates,ratesEach⟩
    refine ⟨⟨topics,default,?_,fun entry there => (circuitsEach entry there).1,
      fun entry there => ⟨(tiresEach entry there).1,(tiresEach entry there).2.1⟩,
      fun entry there => ⟨(pacesEach entry there).1,(pacesEach entry there).2.1⟩,
      fun entry there => ⟨(risksEach entry there).1,(risksEach entry there).2.1⟩,
      fun entry there => (weathersEach entry there).1,fun entry there => (ratesEach entry there).1⟩,?_⟩
    · intro topic other
      cases topic with
      | defaultCircuit => exact absurd rfl other
      | circuits => exact circuits
      | tires => exact tires
      | weather => exact weather
      | paceClasses => exact paces
      | riskProfiles => exact risks
      | overtakeBaseRates => exact rates
    · intro place value stated
      cases stated with
      | defaultCircuit there => exact defaults _ _ there
      | circuit named there => exact (circuitsEach _ named).2 _ _ there
      | tire named there =>
        rw [tire_measure]
        exact (tiresEach _ named).2.2 _ _ there
      | pace named there =>
        rw [pace_measure]
        exact (pacesEach _ named).2.2 _ _ there
      | risk named there => exact (risksEach _ named).2.2 _ _ there
      | weather there => exact (weathersEach _ there).2
      | overtaking there => exact (ratesEach _ there).2
  · rintro ⟨shape,admits⟩
    refine ⟨shape.topics,⟨shape.defaultCircuit,fun _ _ there => admits _ _ (.defaultCircuit there)⟩,
      shape.others .circuits nofun,?_,⟨shape.others .tires nofun,?_⟩,⟨shape.others .paceClasses nofun,?_⟩,
      ⟨shape.others .riskProfiles nofun,?_⟩,⟨shape.others .weather nofun,?_⟩,shape.others .overtakeBaseRates nofun,?_⟩
    · intro entry named
      exact ⟨shape.circuits entry named,fun _ _ there => admits _ _ (.circuit named there)⟩
    · rintro ⟨key,entry⟩ named
      obtain ⟨⟨member,rfl⟩,isEntry⟩ := shape.tires _ named
      refine ⟨⟨member,rfl⟩,isEntry,fun field value there => ?_⟩
      rw [← tire_measure member]
      exact admits _ _ (.tire named there)
    · rintro ⟨key,entry⟩ named
      obtain ⟨⟨member,rfl⟩,isEntry⟩ := shape.paces _ named
      refine ⟨⟨member,rfl⟩,isEntry,fun field value there => ?_⟩
      rw [← pace_measure member]
      exact admits _ _ (.pace named there)
    · rintro ⟨key,entry⟩ named
      obtain ⟨⟨member,rfl⟩,isEntry⟩ := shape.risks _ named
      exact ⟨⟨member,rfl⟩,isEntry,fun field value there => admits _ _ (.risk named there)⟩
    · rintro ⟨key,value⟩ there
      obtain ⟨member,rfl⟩ := shape.weathers _ there
      exact ⟨⟨member,rfl⟩,admits _ _ (.weather there)⟩
    · rintro ⟨key,value⟩ there
      obtain ⟨member,rfl⟩ := shape.rates _ there
      exact ⟨⟨member,rfl⟩,admits _ _ (.overtaking there)⟩

theorem overwritten_judged (keyed : (Value.mapping description).Keyed) (base : Tables Float) :
    Judged (base.overwritten description)
      (WellShaped description ∧ ∀ place value, Stated description place value → Admits place.measure value)
      (Blamed description) := by
  have complaints : ∀ refusal : Refusal Float, refusal.Complains → Blamed description refusal := fun _ => .inl
  have texts : ∀ entry ∈ description, entry.1.IsText := fun entry there => (keyed_mapping_iff.mp keyed entry there).1
  have keys := topicOf_keyed keyed
  have known := knownTopics_judged complaints texts
  have circuit := mergeDefaultCircuit_judged complaints (said_keyed keyed .defaultCircuit)
    (fun field value there => (Stated.defaultCircuit there).foreseen) base.defaultCircuit
  have listed := topicEntries_judged complaints .circuits description
  have circuits := circuits_judged complaints (fun entry named => (keys .circuits entry named).2)
    (fun entry named field value there => (Stated.circuit named there).foreseen) base.overrides
  have tires := mergeKeyed_judged complaints .tire tireSchema (keys .tires) (fun member entry named field value there => by
    rw [← tire_measure member]
    exact (Stated.tire named there).foreseen) base.tire
  have paces := mergeKeyed_judged complaints .pace paceSchema (keys .paceClasses) (fun member entry named field value there => by
    rw [← pace_measure member]
    exact (Stated.pace named there).foreseen) base.pace
  have risks := mergeKeyed_judged complaints .risk riskSchema (keys .riskProfiles)
    (fun member entry named field value there => (Stated.risk named there).foreseen) base.risk
  have weathers := mergeScalars_judged complaints .weather (fun entry there => (keys .weather entry there).1)
    (fun member value there => (Stated.weather there).foreseen) base.weather
  have rates := mergeScalars_judged complaints .overtaking (fun entry there => (keys .overtakeBaseRates entry there).1)
    (fun member value there => (Stated.overtaking there).foreseen) base.overtaking
  have rest (circuit : Circuit Float) := circuits.bind fun overrides _ => tires.bind fun tire _ => paces.bind fun pace _ =>
    risks.bind fun risk _ => weathers.bind fun weather _ => (rates.bind fun overtaking _ =>
      .ok (⟨circuit,overrides,tire,weather,pace,risk,overtaking⟩ : Tables Float)).congr (and_iff_left trivial)
  refine Judged.congr (known.bind fun _ _ => circuit.bind fun circuit _ => listed.bind fun entries found => ?_) topics_iff
  cases topicEntries_ok found
  exact rest circuit

end

section
variable {R : Type} [Arithmetic R] {base left right : Tables R} {description : List (Scalar R × Value R)}

-- The figures that stand after a merge are settled by those before it and the description.
theorem overwrites_unique (first : Overwrites base description left) (second : Overwrites base description right) (place : Place) :
    left.figureAt place = right.figureAt place := by
  have before := first place
  have after := second place
  cases told : given description place with
  | none =>
    rw [told] at before after
    exact Eq.trans before (Eq.symm after)
  | some value =>
    rw [told] at before after
    obtain ⟨figure,made,stands⟩ := before
    obtain ⟨other,same,standsToo⟩ := after
    rw [made] at same
    cases same
    rw [stands,standsToo]

theorem Sound.of_figures (same : ∀ place, left.figureAt place = right.figureAt place) (sound : Sound left) : Sound right := by
  have cliff (compound) : (left.tire compound).cliffLap = (right.tire compound).cliffLap :=
    Figure.whole.inj (Option.some.inj (same (.tire compound .cliffLap)))
  have ceiling (member) : (left.pace member).realisticCeiling = (right.pace member).realisticCeiling :=
    Figure.whole.inj (Option.some.inj (same (.pace member .realisticCeiling)))
  have floor (member) : (left.pace member).realisticFloor = (right.pace member).realisticFloor :=
    Figure.whole.inj (Option.some.inj (same (.pace member .realisticFloor)))
  have finish (member) : (left.pace member).typicalFinish = (right.pace member).typicalFinish :=
    Figure.whole.inj (Option.some.inj (same (.pace member .typicalFinish)))
  have defense (member) : (left.pace member).defenseAbility = (right.pace member).defenseAbility :=
    Figure.number.inj (Option.some.inj (same (.pace member .defenseAbility)))
  constructor
  · intro compound
    rw [← cliff]
    exact sound.cliff compound
  · intro member
    rw [← ceiling,← finish]
    exact sound.ceiling member
  · intro member
    rw [← finish,← floor]
    exact sound.finish member
  · intro member
    rw [← defense]
    exact sound.defense member

end

section
variable {R : Type} {expected : Refusal R → Prop}
  (complaints : ∀ refusal : Refusal R, refusal.Complains → expected refusal)
include complaints

theorem soundTire_judged (tire : Compound → TireData R) (compound : Compound) :
    Judged (soundTire tire compound) (1 ≤ (tire compound).cliffLap) expected := by
  have checked : Judged (soundTire tire compound) (¬ (tire compound).cliffLap < 1 ∧ True) expected :=
    Judged.guard (complaints _ trivial) fun _ => .ok ()
  rwa [and_true,Int.not_lt] at checked

variable [Arithmetic R]

theorem soundPace_judged (pace : PaceClass → PaceData R) (member : PaceClass) :
    Judged (soundPace pace member)
      ((pace member).realisticCeiling ≤ (pace member).typicalFinish ∧
        (pace member).typicalFinish ≤ (pace member).realisticFloor ∧ atMost (pace member).defenseAbility 0.0 = false)
      expected := by
  have checked : Judged (soundPace pace member)
      (¬ (!((pace member).realisticCeiling ≤ (pace member).typicalFinish &&
        (pace member).typicalFinish ≤ (pace member).realisticFloor)) = true ∧
        ¬ atMost (pace member).defenseAbility 0.0 = true ∧ True) expected :=
    Judged.guard (complaints _ trivial) fun _ => Judged.guard (complaints _ trivial) fun _ => .ok ()
  refine checked.congr ?_
  simp [and_assoc]

theorem built_judged (figures : Tables R) :
    Judged (do
      Vocabulary.all.forM (soundTire figures.tire)
      Vocabulary.all.forM (soundPace figures.pace)
      return build figures) (Sound figures) expected := by
  have tires : Judged (Vocabulary.all.forM (soundTire figures.tire)) _ expected :=
    Judged.forM (soundTire_judged complaints figures.tire)
  have paces : Judged (Vocabulary.all.forM (soundPace figures.pace)) _ expected :=
    Judged.forM (soundPace_judged complaints figures.pace)
  refine (tires.bind fun _ _ => paces.bind fun _ _ => .ok (build figures)).congr ?_
  rw [and_true]
  constructor
  · rintro ⟨tires,paces⟩
    have every (member : PaceClass) := paces member (Vocabulary.Lawful.complete member)
    exact ⟨fun compound => tires compound (Vocabulary.Lawful.complete compound),fun member => (every member).1,
      fun member => (every member).2.1,fun member => (every member).2.2⟩
  · intro sound
    exact ⟨fun compound _ => sound.cliff compound,
      fun member _ => ⟨sound.ceiling member,sound.finish member,sound.defense member⟩⟩

theorem merge_judged {good : Prop} {base : Tables R} {description : List (Scalar R × Value R)}
    (drawn : Judged (base.overwritten description) good expected) :
    Judged (base.merge description) (good ∧ ∃ tables, Overwrites base description tables ∧ Sound tables) expected := by
  refine drawn.bind fun figures done => (built_judged complaints figures).congr ?_
  have overwrites := overwritten_overwrites done
  constructor
  · intro sound
    exact ⟨figures,overwrites,sound⟩
  · rintro ⟨tables,others,sound⟩
    exact sound.of_figures (overwrites_unique others overwrites)

end

theorem merge_accepts_iff {description : List (Scalar Float × Value Float)} (keyed : (Value.mapping description).Keyed)
    (base : Tables Float) :
    (Succeeds (base.merge description) ↔
      (WellShaped description ∧ ∀ place value, Stated description place value → Admits place.measure value) ∧
        ∃ tables, Overwrites base description tables ∧ Sound tables) ∧
      ∀ refusal, base.merge description = .error refusal → refusal.Complains ∨
        ∃ place value, Stated description place value ∧ Overflow place.measure value refusal := by
  have judged := merge_judged (fun _ => .inl) (overwritten_judged keyed base)
  exact ⟨judged.succeeds,judged.fails⟩

-- No whole number is as large as this one.
def endless : List (Scalar Float × Value Float) :=
  [(.text "tires",.mapping [(.text "SOFT",.mapping [(.text "cliff_lap",.scalar (.number (1.0 / 0.0)))])])]

theorem endless_overflows : (Value.mapping (spelledTwice (R := Float))).Keyed ∧ (Value.mapping endless).Keyed ∧
    WellShaped (spelledTwice (R := Float)) ∧
    (∃ tables, Overwrites (standard (R := Float)) spelledTwice tables ∧ Sound tables) ∧
    ¬ Succeeds ((standard (R := Float)).merge endless) ∧
    ∃ place value, Stated endless place value ∧ Overflow place.measure value (.fault .flooredInfinity) := by
  have twiceKeyed : (Value.mapping (spelledTwice (R := Float))).Keyed := by
    simp [spelledTwice,keyed_mapping_iff,Scalar.IsText,Value.Keyed.scalar]
  have endlessKeyed : (Value.mapping endless).Keyed := by
    simp [endless,keyed_mapping_iff,Scalar.IsText,Value.Keyed.scalar]
  have refused : (standard (R := Float)).merge endless = .error (.fault .flooredInfinity) := by rfl
  have run : ((standard (R := Float)).merge spelledTwice).toOption.any (fun _ => true) = true := by decide +kernel
  obtain ⟨⟨shape,_⟩,sound⟩ := (merge_accepts_iff twiceKeyed standard).1.mp (returns_of_any run).succeeds
  refine ⟨twiceKeyed,endlessKeyed,shape,sound,?_,?_⟩
  · rintro ⟨tables,done,_⟩
    rw [refused] at done
    cases done
  · rcases (merge_accepts_iff endlessKeyed standard).2 _ refused with complains | overflows
    · cases complains
    · exact overflows

theorem standard_sound : Sound (standard (R := Float)) where
  cliff compound := by cases compound <;> decide
  ceiling member := by cases member <;> decide
  finish member := by cases member <;> decide
  defense member := by cases member <;> decide +kernel

section
variable {R : Type} [Arithmetic R] {base tables : Tables R} {description : List (Scalar R × Value R)}

theorem merge_sound (merged : base.merge description = .ok tables) : Sound tables := by
  obtain ⟨figures,_,built⟩ := ok_of_bind merged
  have judged : Judged _ (Sound figures) fun _ : Refusal R => True := built_judged (fun _ _ => trivial) figures
  have sound := judged.succeeds.mp ⟨_,built,trivial⟩
  obtain ⟨_,_,built⟩ := ok_of_bind built
  obtain ⟨_,_,built⟩ := ok_of_bind built
  cases built
  exact ⟨sound.cliff,sound.ceiling,sound.finish,sound.defense⟩

theorem Reached.sound (start : Sound (Tables.standard (R := R))) (reached : Reached tables) : Sound tables := by
  cases reached with
  | standard => exact start
  | merged _ merged => exact merge_sound merged

end

end PitWall.Tables

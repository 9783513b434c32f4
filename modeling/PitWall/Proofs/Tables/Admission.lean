import PitWall.Proofs.Tables.Refusals

namespace PitWall.Tables
open Arithmetic

def AllAdmitted {F : Type} [Vocabulary F] (measure : F → Measure) (entries : List (Scalar Float × Value Float)) : Prop :=
  ∀ field value, (.text (Vocabulary.spelling field),value) ∈ entries → Admits (measure field) value

def AllForeseen (expected : Refusal Float → Prop) {F : Type} [Vocabulary F] (measure : F → Measure)
    (entries : List (Scalar Float × Value Float)) : Prop :=
  ∀ field value, (.text (Vocabulary.spelling field),value) ∈ entries → Foreseen expected (measure field) value

def EntryAdmitted {F : Type} [Vocabulary F] (measure : F → Measure) (value : Value Float) : Prop :=
  IsEntry F value ∧ AllAdmitted measure value.entries

def TopicAdmitted (asked : Scalar Float × Value Float → Prop) (description : List (Scalar Float × Value Float))
    (topic : Topic) : Prop :=
  (∀ value, said description topic = some value → IsSection value) ∧ ∀ entry ∈ topicOf description topic, asked entry

section
variable {F : Type} [Vocabulary F]

theorem isEntry_iff {value : Value Float} :
    IsEntry F value ↔ (∃ entries, value = .mapping entries) ∧ ∀ entry ∈ value.entries, Spelled F entry.1 := by
  constructor
  · rintro ⟨entries,rfl,spelled⟩
    exact ⟨⟨entries,rfl⟩,spelled⟩
  · rintro ⟨⟨entries,rfl⟩,spelled⟩
    exact ⟨entries,rfl,spelled⟩

-- Entry by entry or field by field comes to the same where every entry is of a field.
theorem forall_fields_iff [Vocabulary.Lawful F] {entries : List (Scalar Float × Value Float)} {P : F → Value Float → Prop}
    (spelled : ∀ entry ∈ entries, Spelled F entry.1) :
    (∀ entry ∈ entries, ∃ field : F, entry.1 = .text (Vocabulary.spelling field) ∧ P field entry.2) ↔
      ∀ field value, (.text (Vocabulary.spelling field),value) ∈ entries → P field value := by
  constructor
  · intro each field value there
    obtain ⟨own,named,holds⟩ := each _ there
    rw [Vocabulary.spelling_inj.mp (Scalar.text.inj named)]
    exact holds
  · intro each entry there
    obtain ⟨field,named⟩ := spelled entry there
    refine ⟨field,named,each field entry.2 ?_⟩
    rw [← named]
    exact there

theorem entry_of_fields [Vocabulary.Lawful F] {entries : List (Scalar Float × Value Float)} {P : Value Float → Prop}
    (spelled : ∀ entry ∈ entries, Spelled F entry.1)
    (each : ∀ (field : F) value, (.text (Vocabulary.spelling field),value) ∈ entries → P value) :
    ∀ entry ∈ entries, P entry.2 := by
  intro entry there
  obtain ⟨_,_,holds⟩ := (forall_fields_iff (P := fun _ => P) spelled).mpr each entry there
  exact holds

end

-- The numbers that were measured are the values of the entries.
theorem checked_values {F E : Type} [Vocabulary F] [Vocabulary.Lawful F] {schema : Schema F E Float} {spot : Spot Float}
    {entries : List (Scalar Float × Value Float)} {numbers : List (Option (F × Number Float))}
    (spelled : ∀ entry ∈ entries, Spelled F entry.1) (checked : entries.mapM (checkField schema spot) = .ok numbers)
    (P : Value Float → Prop) :
    (∀ pair ∈ numbers.filterMap id, P pair.2.value) ↔ ∀ entry ∈ entries, P entry.2 := by
  constructor
  · intro each entry there
    obtain ⟨field,named⟩ := spelled entry there
    obtain ⟨found,done⟩ := ok_of_mapM checked entry there
    obtain ⟨number,rfl,measured⟩ := checkField_parts named done
    rw [value_of_measured measured]
    exact each (field,number) (List.mem_filterMap.mpr ⟨_,(mem_mapM_iff checked).mpr ⟨entry,there,done⟩,rfl⟩)
  · intro each pair among
    obtain ⟨found,among,rfl⟩ := List.mem_filterMap.mp among
    obtain ⟨entry,there,done⟩ := (mem_mapM_iff checked).mp among
    obtain ⟨field,named⟩ := spelled entry there
    obtain ⟨number,same,measured⟩ := checkField_parts named done
    cases same
    rw [← value_of_measured measured]
    exact each entry there

section
variable {expected : Refusal Float → Prop} (complaints : ∀ refusal : Refusal Float, refusal.Complains → expected refusal)
include complaints

theorem entriesOf_judged (spot : Spot Float) (value : Value Float) :
    Judged (entriesOf spot value) (∃ entries, value = .mapping entries) expected := by
  cases value with
  | mapping entries => exact (Judged.ok entries).congr (iff_of_true trivial ⟨entries,rfl⟩)
  | _ =>
    refine .error ?_ (complaints _ trivial)
    rintro ⟨_,same⟩
    cases same

theorem mergeEntry_judged {F E : Type} [Vocabulary F] [Vocabulary.Lawful F] {schema : Schema F E Float} {value : Value Float}
    (keyed : value.Keyed) (foreseen : AllForeseen expected schema.measure value.entries) (spot : Spot Float) (current : E) :
    Judged (mergeEntry schema spot current value) (EntryAdmitted schema.measure value) expected := by
  rw [EntryAdmitted,isEntry_iff,and_assoc]
  refine (entriesOf_judged complaints spot value).bind fun entries listed => ?_
  cases entries_of_ok listed
  have texts : ∀ entry ∈ entries, entry.1.IsText := fun entry there => (keyed_mapping_iff.mp keyed entry there).1
  refine (knownFields_judged complaints texts).bind fun _ known => ?_
  refine Judged.congr (Judged.foldlM (fun entry there current => ?_) current) (forall_fields_iff (known_of_ok known))
  obtain ⟨field,named⟩ := known_of_ok known entry there
  have valueForeseen : Foreseen expected (schema.measure field) entry.2 := by
    apply foreseen field
    rw [← named]
    exact there
  refine (writeField_judged complaints named valueForeseen current).congr ⟨fun admitted => ⟨field,named,admitted⟩,?_⟩
  rintro ⟨own,same,admitted⟩
  rw [named,Scalar.text.injEq,Vocabulary.spelling_inj] at same
  rw [same]
  exact admitted

theorem mergeCircuit_judged {entry : Scalar Float × Value Float} (keyed : entry.2.Keyed)
    (foreseen : AllForeseen expected (overrideSchema (R := Float)).measure entry.2.entries)
    (overrides : List (String × CircuitOverride Float)) :
    Judged (mergeCircuit overrides entry) (EntryAdmitted (overrideSchema (R := Float)).measure entry.2) expected := by
  obtain ⟨name,value⟩ := entry
  dsimp only at keyed foreseen ⊢
  rw [EntryAdmitted,isEntry_iff,and_assoc]
  refine (entriesOf_judged complaints (.circuit name) value).bind fun entries listed => ?_
  cases entries_of_ok listed
  have texts : ∀ entry ∈ entries, entry.1.IsText := fun entry there => (keyed_mapping_iff.mp keyed entry there).1
  refine (knownFields_judged complaints texts).bind fun _ known => ?_
  have spelled := known_of_ok known
  have eachForeseen := entry_of_fields (P := Foreseen expected .positive) spelled foreseen
  -- All numbers are weighed before the first one is converted, so an entry answers for its value twice.
  have checked : Judged (entries.mapM (checkField overrideSchema (.circuit name))) (∀ entry ∈ entries, Weighs .positive entry.2)
      expected := by
    refine Judged.mapM fun entry there => ?_
    obtain ⟨field,named⟩ := spelled entry there
    exact checkField_judged complaints named (eachForeseen entry there)
  have figured : ∀ numbers, entries.mapM (checkField overrideSchema (.circuit name)) = .ok numbers →
      Judged ((numbers.filterMap id).mapM fun (field,number) => do return (field,← figure (R := Float) .positive number))
        (∀ entry ∈ entries, ∃ result, converted .positive entry.2 = some result) expected := by
    intro numbers done
    have pairForeseen := (checked_values spelled done (Foreseen expected .positive)).mpr eachForeseen
    rw [← checked_values spelled done fun value => ∃ result, converted .positive value = some result]
    refine Judged.mapM fun pair among => ?_
    have turned := figure_judged complaints (pairForeseen pair among)
    exact (turned.bind fun result _ => .ok (pair.1,result)).congr (and_iff_left trivial)
  have meant : (∀ entry ∈ entries, Weighs .positive entry.2) ∧
      (∀ entry ∈ entries, ∃ result, converted .positive entry.2 = some result) ↔
        AllAdmitted (overrideSchema (R := Float)).measure entries := by
    constructor
    · rintro ⟨weigh,turn⟩ field value there
      exact admits_iff.mpr ⟨weigh _ there,turn _ there⟩
    · intro admitted
      have each := fun entry there => admits_iff.mp (entry_of_fields (P := Admits .positive) spelled admitted entry there)
      exact ⟨fun entry there => (each entry there).1,fun entry there => (each entry there).2⟩
  refine (checked.bind fun numbers done => ?_).congr meant
  exact ((figured numbers done).bind fun fields _ => .ok _).congr (and_iff_left trivial)

theorem keyed_judged {K : Type} [Vocabulary K] [Vocabulary.Lawful K] {key : Scalar Float} (text : key.IsText) (topic : Topic) :
    Judged (keyed (α := K) topic key) (Spelled K key) expected := by
  unfold keyed
  cases named : (Vocabulary.ofSpelling? key.shown : Option K) with
  | some member =>
    have shown := Vocabulary.ofSpelling?_eq_some_iff.mp named
    exact (Judged.ok member).congr (iff_of_true trivial ⟨member,(shown_spelled text member).mp shown.symm⟩)
  | none =>
    refine .error ?_ (complaints _ trivial)
    rintro ⟨member,rfl⟩
    change (Vocabulary.ofSpelling? (Vocabulary.spelling member) : Option K) = none at named
    rw [Vocabulary.ofSpelling?_eq_some_iff.mpr rfl] at named
    cases named

theorem topicEntries_judged (topic : Topic) (description : List (Scalar Float × Value Float)) :
    Judged (topicEntries topic description) (∀ value, said description topic = some value → IsSection value) expected := by
  rw [topicEntries_eq]
  cases said description topic with
  | none => exact (Judged.ok []).congr (iff_of_true trivial fun value there => nomatch there)
  | some value =>
    simp only [Option.some.injEq,forall_eq']
    by_cases void : value.isVoid = true
    · rw [if_pos void]
      exact (Judged.ok []).congr (iff_of_true trivial (.inl void))
    · rw [if_neg void]
      cases value with
      | mapping entries => exact (Judged.ok entries).congr (iff_of_true trivial (.inr ⟨entries,rfl⟩))
      | _ =>
        refine .error ?_ (complaints _ trivial)
        rintro (silent | ⟨_,same⟩)
        · exact void silent
        · cases same

section
variable {K : Type} [Vocabulary K] [Vocabulary.Lawful K] [DecidableEq K] {topic : Topic} (spot : K → Spot Float)
  {description : List (Scalar Float × Value Float)}

theorem mergeKeyed_judged {F E : Type} [Vocabulary F] [Vocabulary.Lawful F] (schema : Schema F E Float)
    (keys : ∀ entry ∈ topicOf description topic, entry.1.IsText ∧ entry.2.Keyed)
    (foreseen : ∀ (member : K) entry, (.text (Vocabulary.spelling member),entry) ∈ topicOf description topic →
      AllForeseen expected schema.measure entry.entries) (current : K → E) :
    Judged (mergeKeyed topic spot schema current description)
      (TopicAdmitted (fun entry => Spelled K entry.1 ∧ EntryAdmitted schema.measure entry.2) description topic) expected := by
  refine (topicEntries_judged complaints topic description).bind fun entries listed => ?_
  cases topicEntries_ok listed
  refine Judged.foldlM (fun (key,entry) there current => ?_) current
  obtain ⟨text,below⟩ := keys _ there
  refine (keyed_judged complaints text topic).bind fun member found => ?_
  cases (shown_spelled text member).mp (keyed_ok found)
  have merged := mergeEntry_judged complaints below (foreseen member entry there) (spot member) (current member)
  exact (merged.bind fun next _ => .ok (setAt current member next)).congr (and_iff_left trivial)

theorem mergeScalars_judged (texts : ∀ entry ∈ topicOf description topic, entry.1.IsText)
    (foreseen : ∀ (member : K) value, (.text (Vocabulary.spelling member),value) ∈ topicOf description topic →
      Foreseen expected .positive value) (current : K → Option Float) :
    Judged (mergeScalars topic spot current description)
      (TopicAdmitted (fun entry => Spelled K entry.1 ∧ Admits .positive entry.2) description topic) expected := by
  refine (topicEntries_judged complaints topic description).bind fun entries listed => ?_
  cases topicEntries_ok listed
  refine Judged.foldlM (fun (key,value) there current => ?_) current
  have text := texts _ there
  refine (keyed_judged complaints text topic).bind fun member found => ?_
  cases (shown_spelled text member).mp (keyed_ok found)
  have valueForeseen := foreseen member value there
  rw [admits_iff]
  refine (measured_judged complaints valueForeseen (spot member) none).bind fun number done => ?_
  rw [value_of_measured done] at valueForeseen ⊢
  have turned : Judged number.toReal (∃ result, converted .positive number.value = some result) expected :=
    Judged.of_map (figure_judged complaints valueForeseen)
  exact (turned.bind fun x _ => .ok (setAt current member (some x))).congr (and_iff_left trivial)

end

theorem mergeDefaultCircuit_judged {description : List (Scalar Float × Value Float)}
    (keyed : ∀ value, said description .defaultCircuit = some value → value.Keyed)
    (foreseen : AllForeseen expected (circuitSchema (R := Float)).measure (topicOf description .defaultCircuit))
    (current : Circuit Float) :
    Judged (mergeDefaultCircuit current description)
      ((∀ value, said description .defaultCircuit = some value → IsEntry CircuitField value) ∧
        AllAdmitted (circuitSchema (R := Float)).measure (topicOf description .defaultCircuit)) expected := by
  rw [mergeDefaultCircuit_eq]
  unfold topicOf at foreseen ⊢
  generalize said description .defaultCircuit = told at keyed foreseen ⊢
  cases told with
  | none =>
    exact (Judged.ok current).congr (iff_of_true trivial ⟨(fun _ there => nomatch there),fun _ _ there => nomatch there⟩)
  | some value =>
    simp only [Option.some.injEq,forall_eq']
    exact mergeEntry_judged complaints (keyed value rfl) foreseen .defaultCircuit current

theorem circuits_judged {circuits : List (Scalar Float × Value Float)} (keyed : ∀ entry ∈ circuits, entry.2.Keyed)
    (foreseen : ∀ entry ∈ circuits, AllForeseen expected (overrideSchema (R := Float)).measure entry.2.entries)
    (overrides : List (String × CircuitOverride Float)) :
    Judged (circuits.foldlM mergeCircuit overrides)
      (∀ entry ∈ circuits, EntryAdmitted (overrideSchema (R := Float)).measure entry.2) expected := by
  refine Judged.foldlM (fun entry there overrides => ?_) overrides
  exact mergeCircuit_judged complaints (keyed entry there) (foreseen entry there) overrides

end

end PitWall.Tables

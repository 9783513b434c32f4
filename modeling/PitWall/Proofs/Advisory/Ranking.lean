import PitWall.Advisory.Rules
import PitWall.Proofs.Simulation.Course

namespace PitWall

theorem Severity.rank_injective {left right : Severity} (level : left.rank = right.rank) : left = right := by
  cases left <;> cases right <;> simp_all [rank]

namespace Advisory

def ofSeverity (severity : Severity) (advisories : List Advisory) : List Advisory :=
  advisories.filter (·.severity = severity)

theorem ofSeverity_cons (severity : Severity) (advisory : Advisory) (rest : List Advisory) :
    ofSeverity severity (advisory :: rest) =
      if advisory.severity = severity then advisory :: ofSeverity severity rest else ofSeverity severity rest := by
  simp [ofSeverity,List.filter_cons]

def leads (left right : Advisory) : Bool := right.severity.rank ≤ left.severity.rank

theorem leads_iff {left right : Advisory} : leads left right = true ↔ right.severity.rank ≤ left.severity.rank :=
  decide_eq_true_iff

theorem leads_trans (left middle right : Advisory) (first : leads left middle = true)
    (second : leads middle right = true) : leads left right = true := by
  rw [leads_iff] at *
  exact Nat.le_trans second first

theorem leads_total (left right : Advisory) : (leads left right || leads right left) = true := by
  rw [Bool.or_eq_true,leads_iff,leads_iff]
  exact Nat.le_total _ _

theorem sort_perm (advisories : List Advisory) : (sort advisories).Perm advisories :=
  List.mergeSort_perm advisories leads

def Descending (advisories : List Advisory) : Prop :=
  advisories.Pairwise fun left right => right.severity.rank ≤ left.severity.rank

theorem sort_descending (advisories : List Advisory) : Descending (sort advisories) := by
  have led := List.pairwise_mergeSort leads_trans leads_total advisories
  exact led.imp leads_iff.mp

theorem sort_cons (advisory : Advisory) (rest : List Advisory) :
    ∃ graver others, sort (advisory :: rest) = graver ++ advisory :: others ∧ sort rest = graver ++ others ∧
      ∀ other ∈ graver, other.severity ≠ advisory.severity := by
  obtain ⟨graver,others,whole,without,apart⟩ := List.mergeSort_cons leads_trans leads_total advisory rest
  refine ⟨graver,others,whole,without,?_⟩
  intro other member same
  have behind := apart other member
  simp [leads,same] at behind

theorem ofSeverity_sort (severity : Severity) (advisories : List Advisory) :
    ofSeverity severity (sort advisories) = ofSeverity severity advisories := by
  induction advisories with
  | nil => simp [sort]
  | cons advisory rest ih =>
    obtain ⟨graver,others,whole,without,apart⟩ := sort_cons advisory rest
    rw [without] at ih
    rw [whole]
    unfold ofSeverity at *
    by_cases own : advisory.severity = severity
    · have absent : graver.filter (·.severity = severity) = [] := by
        apply List.filter_eq_nil_iff.mpr
        intro other member
        simpa [own] using apart other member
      simp [List.filter_append,absent,own] at ih ⊢
      exact ih
    · simpa [List.filter_append,own] using ih

theorem Descending.ofSeverity_nil {advisory : Advisory} {rest : List Advisory} (descending : Descending (advisory :: rest))
    (severity : Severity) (graver : advisory.severity.rank < severity.rank) : ofSeverity severity rest = [] := by
  apply List.filter_eq_nil_iff.mpr
  intro other member
  have behind := (List.pairwise_cons.mp descending).1 other member
  rw [decide_eq_true_eq]
  rintro rfl
  omega

theorem Descending.groups {advisories : List Advisory} (descending : Descending advisories) :
    advisories = ofSeverity .critical advisories ++ ofSeverity .high advisories ++ ofSeverity .medium advisories
      ++ ofSeverity .low advisories := by
  induction advisories with
  | nil => rfl
  | cons advisory rest ih =>
    have tail := ih (List.pairwise_cons.mp descending).2
    have absent := descending.ofSeverity_nil
    cases level : advisory.severity with
    | critical => simpa [ofSeverity_cons,level] using tail
    | high =>
      have critical := absent .critical (by simp [level,Severity.rank])
      simpa [ofSeverity_cons,level,critical] using tail
    | medium =>
      have critical := absent .critical (by simp [level,Severity.rank])
      have high := absent .high (by simp [level,Severity.rank])
      simpa [ofSeverity_cons,level,critical,high] using tail
    | low =>
      have critical := absent .critical (by simp [level,Severity.rank])
      have high := absent .high (by simp [level,Severity.rank])
      have medium := absent .medium (by simp [level,Severity.rank])
      simpa [ofSeverity_cons,level,critical,high,medium] using tail

theorem sort_groups (advisories : List Advisory) : sort advisories = ofSeverity .critical advisories
    ++ ofSeverity .high advisories ++ ofSeverity .medium advisories ++ ofSeverity .low advisories := by
  have groups := (sort_descending advisories).groups
  simpa only [ofSeverity_sort] using groups

theorem sort_sort (advisories : List Advisory) : sort (sort advisories) = sort advisories := by
  simp only [sort_groups (sort advisories),ofSeverity_sort,← sort_groups]

theorem sort_severities {first second : List Advisory} (permuted : second.Perm first) :
    (sort second).map (·.severity) = (sort first).map (·.severity) := by
  have descends (advisories : List Advisory) :
      ((sort advisories).map (·.severity)).Pairwise fun left right => right.rank ≤ left.rank :=
    List.pairwise_map.mpr (sort_descending advisories)
  have members := ((sort_perm second).trans permuted).trans (sort_perm first).symm
  apply List.Perm.eq_of_pairwise _ (descends second) (descends first) (members.map _)
  intro left right _ _ atMost atLeast
  exact Severity.rank_injective (Nat.le_antisymm atLeast atMost)

end Advisory

section
open Advisory
variable {A : Type} {raise : A → Except Fault (List Advisory)}

def raised (raise : A → Except Fault (List Advisory)) (rule : A) : List Advisory := (raise rule).toOption.getD []

theorem gather_cons (rule : A) (rest : List A) : gather raise (rule :: rest) = do
    let first ← raise rule
    let others ← gather raise rest
    return first ++ others := by
  unfold gather
  rw [List.mapM_cons]
  cases raise rule with
  | error fault => rfl
  | ok first =>
    cases rest.mapM raise with
    | error fault => rfl
    | ok parts => rfl

-- The rules are heard one after the other, and a failure of one is a failure of all.
theorem gather_eq_ok_iff {rules : List A} {advisories : List Advisory} : gather raise rules = .ok advisories ↔
    (∀ rule ∈ rules, raise rule = .ok (raised raise rule)) ∧ advisories = rules.flatMap (raised raise) := by
  induction rules generalizing advisories with
  | nil =>
    change Except.ok [] = Except.ok advisories ↔ _
    simp [eq_comm]
  | cons rule rest ih =>
    rw [gather_cons,List.forall_mem_cons,List.flatMap_cons]
    constructor
    · intro gathered
      obtain ⟨first,here,gathered⟩ := ok_of_bind gathered
      obtain ⟨others,beyond,gathered⟩ := ok_of_bind gathered
      cases gathered
      obtain ⟨each,rfl⟩ := ih.mp beyond
      have own : raised raise rule = first := by simp [raised,here,Except.toOption]
      rw [own]
      exact ⟨⟨here,each⟩,rfl⟩
    · rintro ⟨⟨here,each⟩,rfl⟩
      have beyond := ih.mpr ⟨each,rfl⟩
      rw [here,beyond]
      rfl

theorem error_of_gather {rules : List A} {fault : Fault} (failed : gather raise rules = .error fault) :
    ∃ rule ∈ rules, raise rule = .error fault := by
  induction rules with
  | nil => cases failed
  | cons rule rest ih =>
    rw [gather_cons] at failed
    cases here : raise rule with
    | error other =>
      rw [here] at failed
      cases failed
      exact ⟨rule,List.mem_cons_self,here⟩
    | ok first =>
      rw [here] at failed
      cases beyond : gather raise rest with
      | error other =>
        rw [beyond] at failed
        cases failed
        obtain ⟨later,member,fails⟩ := ih beyond
        exact ⟨later,List.mem_cons_of_mem _ member,fails⟩
      | ok others =>
        rw [beyond] at failed
        cases failed

structure Reordered (raise : A → Except Fault (List Advisory)) (rules others : List A)
    (advisories again : List Advisory) : Prop where
  members : again.Perm advisories
  severities : (sort again).map (·.severity) = (sort advisories).map (·.severity)
  -- Within a severity stands what each rule raised, in its own order.
  ranked : ∃ own : A → List Advisory, (∀ rule ∈ rules, raise rule = .ok (own rule)) ∧
    ∀ severity, ofSeverity severity (sort advisories) = rules.flatMap (fun rule => ofSeverity severity (own rule)) ∧
      ofSeverity severity (sort again) = others.flatMap fun rule => ofSeverity severity (own rule)

theorem ranked_flatMap (own : A → List Advisory) (rules : List A) (severity : Severity) :
    ofSeverity severity (sort (rules.flatMap own)) = rules.flatMap fun rule => ofSeverity severity (own rule) := by
  rw [ofSeverity_sort]
  exact List.filter_flatMap

theorem gather_reordered {rules others : List A} (reordered : others.Perm rules) {advisories : List Advisory}
    (gathered : gather raise rules = .ok advisories) :
    ∃ again, gather raise others = .ok again ∧ Reordered raise rules others advisories again := by
  obtain ⟨each,rfl⟩ := gather_eq_ok_iff.mp gathered
  have members := reordered.flatMap_right (raised raise)
  refine ⟨others.flatMap (raised raise),?_,members,sort_severities members,raised raise,each,?_⟩
  · apply gather_eq_ok_iff.mpr
    exact ⟨fun rule member => each rule (reordered.mem_iff.mp member),rfl⟩
  · intro severity
    exact ⟨ranked_flatMap _ _ _,ranked_flatMap _ _ _⟩

end

section
variable {R : Type} [Arithmetic R] {review : Review R}

-- Of the rules of a race only the one that measures stints can fail.
theorem Rule.stintLengths_of_error {rule : Rule} {fault : Fault} (failed : rule.raise review = .error fault) :
    rule = .stintLengths := by
  cases rule with
  | stintLengths => rfl
  | _ => cases failed

theorem advise_fails {rules others : List Rule} (reordered : others.Perm rules) {fault : Fault}
    (failed : advise rules review = .error fault) : advise others review = .error fault := by
  obtain ⟨rule,member,fails⟩ := error_of_gather failed
  cases heard : advise others review with
  | ok advisories =>
    have raises := (gather_eq_ok_iff.mp heard).1 rule (reordered.mem_iff.mpr member)
    rw [fails] at raises
    cases raises
  | error other =>
    obtain ⟨again,_,failsAgain⟩ := error_of_gather heard
    rw [Rule.stintLengths_of_error fails] at fails
    rw [Rule.stintLengths_of_error failsAgain,fails] at failsAgain
    exact failsAgain.symm ▸ rfl

end

open Advisory in
-- Sorting sets the severities apart and leaves the order within each of them. So whatever the order in which rules
-- are heard, they say the same, and as much of each severity.
theorem advisories_ranked :
    (∀ advisories, sort advisories = ofSeverity .critical advisories ++ ofSeverity .high advisories
        ++ ofSeverity .medium advisories ++ ofSeverity .low advisories ∧
      (sort advisories).Perm advisories ∧
      (∀ severity, ofSeverity severity (sort advisories) = ofSeverity severity advisories) ∧
      sort (sort advisories) = sort advisories) ∧
    (∀ {A : Type} (raise : A → Except Fault (List Advisory)) {rules others : List A}, others.Perm rules →
      ∀ advisories, gather raise rules = .ok advisories →
        ∃ again, gather raise others = .ok again ∧ Reordered raise rules others advisories again) ∧
    ∀ {R : Type} [Arithmetic R] (review : Review R) {rules others : List Rule}, others.Perm rules →
      (∀ fault, advise others review = .error fault ↔ advise rules review = .error fault) ∧
      ∀ advisories, advise rules review = .ok advisories →
        ∃ again, advise others review = .ok again ∧ Reordered (·.raise review) rules others advisories again := by
  refine ⟨?_,?_,?_⟩
  · intro advisories
    exact ⟨sort_groups advisories,sort_perm advisories,fun severity => ofSeverity_sort severity advisories,
      sort_sort advisories⟩
  · intro A raise rules others reordered advisories gathered
    exact gather_reordered reordered gathered
  · intro R _ review rules others reordered
    refine ⟨fun fault => ⟨advise_fails reordered.symm,advise_fails reordered⟩,?_⟩
    intro advisories advised
    exact gather_reordered reordered advised

-- Soft tires in the heat, and a driver who does not spare them.
def heat : Review Float where
  race := {Simulation.sprint with laps := 53, weather := .hot, someLap := by decide}
  car := ⟨12,.midfield,.aggressive,some 3,by decide⟩
  track := Simulation.openTrack
  strategy := ⟨"all soft",[⟨1,.soft,18⟩,⟨2,.soft,18⟩,⟨3,.soft,17⟩],by decide⟩
  tables := Tables.standard
  predictedFinish := 9

def startsWith (severity : Severity) (advisories : List Advisory) : Bool := advisories.head?.any (·.severity = severity)

theorem heat_ranked : ∃ advisories again, advise Vocabulary.all heat = .ok advisories ∧
    advise Vocabulary.all.reverse heat = .ok again ∧
    Reordered (fun rule : Rule => rule.raise heat) Vocabulary.all Vocabulary.all.reverse advisories again ∧
    startsWith .medium advisories = true ∧ startsWith .low again = true := by
  have runs : (advise Vocabulary.all heat).toOption.any (startsWith .medium) = true := by decide +kernel
  have runsBack : (advise Vocabulary.all.reverse heat).toOption.any (startsWith .low) = true := by decide +kernel
  obtain ⟨advisories,advised,front⟩ := returns_of_any runs
  obtain ⟨_,_,each⟩ := advisories_ranked
  obtain ⟨_,reordered⟩ := each heat (List.reverse_perm Vocabulary.all)
  obtain ⟨again,heard,same⟩ := reordered advisories advised
  rw [heard] at runsBack
  exact ⟨advisories,again,advised,heard,same,front,runsBack⟩

end PitWall

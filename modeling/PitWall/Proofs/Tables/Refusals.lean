import PitWall.Proofs.Tables.Admissible

namespace PitWall.Tables
open Arithmetic

theorem floor_fault {x : Float} {fault : Fault} (failed : (floor x : Except Fault Int) = .error fault) :
    fault = .flooredNaN ∨ fault = .flooredInfinity ∧ (Decimal.Double.of x).kind = .infinite := by
  change doubleFloor x = .error fault at failed
  unfold doubleFloor at failed
  dsimp only at failed
  split at failed
  · cases failed
    exact .inl rfl
  · rename_i infinite
    cases failed
    exact .inr ⟨rfl,infinite⟩
  · cases failed

theorem ofInt_fault {n : Int} {fault : Fault} (failed : (ofInt n : Except Fault Float) = .error fault) :
    fault = .integerTooLarge := by
  change doubleOfInt n = .error fault at failed
  unfold doubleOfInt at failed
  split at failed <;> cases failed
  rfl

theorem lift_eq_ok {R α : Type} {computed : Except Fault α} {value : α}
    (done : (lift computed : Checked R α) = .ok value) : computed = .ok value := by
  cases computed <;> cases done
  rfl

-- What is asked of a value before it is turned into a figure.
def Weighs (measure : Measure) : Value Float → Prop
  | .scalar (.int n) => measure = .signed ∨ 0 ≤ n
  | .scalar (.number x) => (measure = .signed ∨ below x 0.0 = false) ∧ (measure = .whole → ∃ n, equals n x = true)
  | _ => False

theorem admits_iff {measure : Measure} {value : Value Float} :
    Admits measure value ↔ Weighs measure value ∧ ∃ result, converted measure value = some result := by
  cases value with
  | scalar value =>
    cases value with
    | int n =>
      refine and_congr_right fun _ => ?_
      by_cases whole : measure = .whole
      · simp [converted,whole]
      · have real : converted measure (.scalar (.int n)) = (ofInt n : Except Fault Float).toOption.map .number := if_neg whole
        rw [real,or_iff_right whole,← ofInt_succeeds_iff]
        cases (ofInt n : Except Fault Float) with
        | ok x => exact iff_of_true (succeeds_ok x) ⟨.number x,rfl⟩
        | error fault =>
          refine iff_of_false ?_ ?_
          · rintro ⟨_,done,_⟩
            cases done
          · rintro ⟨_,made⟩
            cases made
    | number x =>
      refine (and_iff_left_of_imp fun weighs => ?_).symm
      by_cases whole : measure = .whole
      · obtain ⟨n,same⟩ := weighs.2 whole
        exact ⟨.whole n,by simp [converted,whole,floor_of_equals same,Except.toOption]⟩
      · exact ⟨.number x,by simp [converted,whole]⟩
    | _ => exact (and_iff_left_of_imp False.elim).symm
  | _ => exact (and_iff_left_of_imp False.elim).symm

section
variable {R : Type} [Arithmetic R] {left right : Scalar R} {names sorted : List (Scalar R)}

theorem precedes?_of_texts (leftText : left.IsText) (rightText : right.IsText) :
    ∃ ahead, left.precedes? right = some ahead := by
  cases left with
  | text name =>
    cases right with
    | text other => exact ⟨_,rfl⟩
    | codes points => exact ⟨_,rfl⟩
    | _ => cases rightText
  | codes points =>
    cases right with
    | text other => exact ⟨_,rfl⟩
    | codes others => exact ⟨_,rfl⟩
    | _ => cases rightText
  | _ => cases leftText

theorem insertName_texts (text : left.IsText) (texts : ∀ name ∈ sorted, name.IsText) :
    Returns (insertName left sorted) fun names => ∀ name ∈ names, name.IsText := by
  induction sorted with
  | nil => exact .ok (by simpa using text)
  | cons other rest ih =>
    rw [List.forall_mem_cons] at texts
    obtain ⟨ahead,order⟩ := precedes?_of_texts text texts.1
    unfold insertName
    rw [order]
    cases ahead with
    | true => exact .ok (by simpa using ⟨text,texts⟩)
    | false =>
      obtain ⟨names,done,later⟩ := ih texts.2
      refine ⟨other :: names,?_,List.forall_mem_cons.mpr ⟨texts.1,later⟩⟩
      dsimp only
      rw [done]
      rfl

theorem sortNames_succeeds (texts : ∀ name ∈ names, name.IsText) : Succeeds (sortNames names) := by
  suffices onto : ∀ sorted : List (Scalar R), (∀ name ∈ sorted, name.IsText) →
      Succeeds (names.foldlM (fun sorted name => insertName name sorted) sorted) by
    exact onto [] fun name there => nomatch there
  induction names with
  | nil => exact fun sorted _ => succeeds_ok sorted
  | cons name rest ih =>
    intro sorted sortedTexts
    rw [List.forall_mem_cons] at texts
    rw [List.foldlM_cons]
    exact (insertName_texts texts.1 sortedTexts).bind fun next _ nextTexts => ih texts.2 next nextTexts

end

-- A value may only bring about faults that are expected.
def Foreseen (expected : Refusal Float → Prop) (measure : Measure) (value : Value Float) : Prop :=
  ∀ refusal, Overflow measure value refusal → expected refusal

section
variable {expected : Refusal Float → Prop} (complaints : ∀ refusal : Refusal Float, refusal.Complains → expected refusal)
include complaints

theorem floor_judged {x : Float} (foreseen : Foreseen expected .whole (.scalar (.number x))) :
    Judged (lift (floor x)) (∃ n : Int, floor x = .ok n) expected := by
  cases floored : floor x with
  | ok n => exact (Judged.ok n).congr (iff_of_true trivial ⟨n,rfl⟩)
  | error fault =>
    apply Judged.error
    · rintro ⟨_,done⟩
      cases done
    · rcases floor_fault floored with rfl | ⟨rfl,infinite⟩
      · exact complaints _ rfl
      · exact foreseen _ (.infinite rfl infinite)

theorem exact_judged {x : Float} (foreseen : Foreseen expected .whole (.scalar (.number x))) (spot : Spot Float)
    (field : Option String) :
    Judged (do if equals (← lift (floor x)) x then return Number.real x else throw (.notWhole spot field (.real x)))
      (∃ n, equals n x = true) expected := by
  have floored := floor_judged complaints foreseen
  have meant : (∃ n : Int, floor x = .ok n) ∧ (∃ n, equals n x = true) ↔ ∃ n, equals n x = true :=
    and_iff_right_of_imp fun same => same.imp fun _ => floor_of_equals
  refine (floored.bind fun n done => ?_).congr meant
  have floorAt := lift_eq_ok done
  by_cases same : equals n x = true
  · rw [if_pos same]
    exact (Judged.ok _).congr (iff_of_true trivial ⟨n,same⟩)
  · rw [if_neg same]
    refine .error ?_ (complaints _ trivial)
    rintro ⟨m,other⟩
    rw [floor_of_equals other] at floorAt
    cases floorAt
    exact same other

theorem measured_judged {measure : Measure} {value : Value Float} (foreseen : Foreseen expected measure value)
    (spot : Spot Float) (field : Option String) :
    Judged (measured measure spot field value) (Weighs measure value) expected := by
  cases value with
  | scalar value =>
    cases value with
    | int n =>
      have low : ¬ (measure ≠ .signed && n < 0) = true ∧ True ↔ Weighs measure (.scalar (.int n)) := by
        cases measure <;> simp [Weighs]
      exact (Judged.guard (complaints (.negative spot field (.int n)) trivial) fun _ => .ok _).congr low
    | number x =>
      have low : ¬ (measure ≠ .signed && below x 0.0) = true ↔ measure = .signed ∨ below x 0.0 = false := by
        cases below x 0.0 <;> simp
      unfold measured Weighs
      dsimp only
      rw [← low]
      refine Judged.guard (complaints _ trivial) fun _ => ?_
      by_cases whole : measure = .whole
      · subst whole
        rw [if_pos rfl]
        exact (exact_judged complaints foreseen spot field).congr ⟨fun same _ => same,fun same => same rfl⟩
      · rw [if_neg whole]
        exact (Judged.ok _).congr (iff_of_true trivial fun same => absurd same whole)
    | _ => exact .error id (complaints _ trivial)
  | _ => exact .error id (complaints _ trivial)

theorem figure_judged {measure : Measure} {number : Number Float} (foreseen : Foreseen expected measure number.value) :
    Judged (figure measure number) (∃ result, converted measure number.value = some result) expected where
  succeeds := by
    constructor
    · rintro ⟨result,done,_⟩
      exact ⟨result,figure_eq_ok_iff.mp done⟩
    · rintro ⟨result,done⟩
      exact ⟨result,figure_eq_ok_iff.mpr done,trivial⟩
  fails refusal failed := by
    unfold figure at failed
    split at failed
    · rename_i whole
      cases number with
      | int n => cases failed
      | real x =>
        subst whole
        exact (floor_judged complaints foreseen).fails refusal (error_of_map failed)
    · rename_i real
      cases number with
      | int n =>
        have failed : (lift (ofInt n) : Checked Float Float) = .error refusal := error_of_map failed
        cases made : (ofInt n : Except Fault Float) with
        | ok x => rw [made] at failed; cases failed
        | error fault =>
          rw [made] at failed
          cases failed
          cases ofInt_fault made
          refine foreseen _ (.integer real ?_)
          by_contra fits
          obtain ⟨x,done,_⟩ := ofInt_succeeds_iff.mpr fits
          rw [made] at done
          cases done
      | real x => cases failed

theorem complain_judged {names : List (Scalar Float)} {refusal : List (Scalar Float) → Refusal Float}
    (texts : ∀ name ∈ names, name.IsText) (complains : ∀ sorted, (refusal sorted).Complains) :
    Judged (complain names refusal) (names = []) expected := by
  cases names with
  | nil => exact (Judged.ok ()).congr (iff_of_true trivial rfl)
  | cons name rest =>
    obtain ⟨sorted,done,_⟩ := sortNames_succeeds texts
    have failed : complain (name :: rest) refusal = .error (refusal sorted) := by
      change (do throw (refusal (← sortNames (name :: rest)))) = _
      rw [done]
      rfl
    rw [failed]
    exact .error (List.cons_ne_nil name rest) (complaints _ (complains sorted))

section
variable {entries : List (Scalar Float × Value Float)} {entry : Scalar Float × Value Float}

theorem unknown_judged {α : Type} [Vocabulary α] [Vocabulary.Lawful α] {refusal : List (Scalar Float) → Refusal Float}
    (texts : ∀ entry ∈ entries, entry.1.IsText) (complains : ∀ sorted, (refusal sorted).Complains) :
    Judged (complain ((entries.filter fun entry => (member? (α := α) entry.1).isNone).map (·.1)) refusal)
      (∀ entry ∈ entries, Spelled α entry.1) expected := by
  refine Judged.congr (complain_judged complaints ?_ complains) unknown_eq_nil_iff
  intro name among
  obtain ⟨entry,kept,rfl⟩ := List.mem_map.mp among
  exact texts entry (List.mem_of_mem_filter kept)

theorem knownTopics_judged (texts : ∀ entry ∈ entries, entry.1.IsText) :
    Judged (knownTopics entries) (∀ entry ∈ entries, Spelled Topic entry.1) expected :=
  unknown_judged complaints texts fun _ => trivial

variable {F E : Type} [Vocabulary F] [Vocabulary.Lawful F] {schema : Schema F E Float} {spot : Spot Float}

theorem knownFields_judged (texts : ∀ entry ∈ entries, entry.1.IsText) :
    Judged (knownFields (F := F) spot entries) (∀ entry ∈ entries, Spelled F entry.1) expected :=
  unknown_judged complaints texts fun _ => trivial

theorem checkField_judged {field : F} (named : entry.1 = .text (Vocabulary.spelling field))
    (foreseen : Foreseen expected (schema.measure field) entry.2) :
    Judged (checkField schema spot entry) (Weighs (schema.measure field) entry.2) expected := by
  unfold checkField
  rw [member?_eq_some_iff.mpr named]
  have measured := measured_judged complaints foreseen spot (some (Vocabulary.spelling field))
  exact (measured.bind fun number _ => .ok (some (field,number))).congr (and_iff_left trivial)

theorem writeField_judged {field : F} (named : entry.1 = .text (Vocabulary.spelling field))
    (foreseen : Foreseen expected (schema.measure field) entry.2) (current : E) :
    Judged (writeField schema spot current entry) (Admits (schema.measure field) entry.2) expected := by
  rw [admits_iff]
  refine (checkField_judged complaints named foreseen).bind fun checked done => ?_
  obtain ⟨number,rfl,measured⟩ := checkField_parts named done
  rw [value_of_measured measured] at foreseen ⊢
  have figured := figure_judged complaints foreseen
  exact (figured.bind fun result _ => .ok (schema.put field result current)).congr (and_iff_left trivial)

end

end

end PitWall.Tables

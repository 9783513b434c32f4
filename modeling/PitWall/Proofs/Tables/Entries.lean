import PitWall.Proofs.Checked
import PitWall.Proofs.Tables.Places

namespace PitWall.Tables
open Arithmetic
variable {R : Type}

theorem Scalar.isName_iff {key : Scalar R} {name : String} : key.isName name = true ↔ key = .text name := by
  cases key <;> simp [Scalar.isName]

theorem member?_eq_some_iff {α : Type} [Vocabulary α] [Vocabulary.Lawful α] {key : Scalar R} {member : α} :
    member? key = some member ↔ key = .text (Vocabulary.spelling member) := by
  cases key with
  | text name =>
    rw [member?,Vocabulary.ofSpelling?_eq_some_iff,Scalar.text.injEq]
    exact eq_comm
  | _ => simp [member?]

theorem unknown_eq_nil_iff {α : Type} [Vocabulary α] [Vocabulary.Lawful α] {entries : List (Scalar R × Value R)} :
    (entries.filter fun entry => (member? (α := α) entry.1).isNone).map (·.1) = [] ↔
      ∀ entry ∈ entries, Spelled α entry.1 := by
  rw [List.map_eq_nil_iff,List.filter_eq_nil_iff]
  refine forall₂_congr fun entry _ => ?_
  cases named : (member? entry.1 : Option α) with
  | some member => exact iff_of_true (by simp) ⟨member,member?_eq_some_iff.mp named⟩
  | none =>
    refine iff_of_false (by simp) ?_
    rintro ⟨member,spelled⟩
    rw [member?_eq_some_iff.mpr spelled] at named
    cases named

theorem topic_named (topic : Topic) (key : Scalar R) :
    key.isName (Vocabulary.spelling topic) = (member? key == some topic) := by
  rw [Bool.eq_iff_iff,Scalar.isName_iff,beq_iff_eq]
  exact member?_eq_some_iff.symm

theorem latest?_cons {α β : Type} (tells : α → Option β) (item : α) (rest : List α) :
    latest? tells (item :: rest) = (latest? tells rest).or (tells item) := by
  unfold latest?
  rw [List.reverse_cons,List.findSome?_append,List.findSome?_singleton]

theorem entries_of_ok {spot : Spot R} {value : Value R} {entries : List (Scalar R × Value R)}
    (listed : entriesOf spot value = .ok entries) : value = .mapping entries := by
  cases value <;> cases listed
  rfl

def Figure.Fits (measure : Measure) : Figure R → Prop
  | .whole _ => measure = .whole
  | .number _ => measure ≠ .whole

instance (measure : Measure) : (figure : Figure R) → Decidable (figure.Fits measure)
  | .whole _ => inferInstanceAs (Decidable (measure = .whole))
  | .number _ => inferInstanceAs (Decidable (measure ≠ .whole))

namespace Schema
variable {F E : Type} {schema : Schema F E R} {view : E → F → Option (Figure R)}

structure Reads [DecidableEq F] (schema : Schema F E R) (view : E → F → Option (Figure R)) : Prop where
  put : ∀ field figure entry other, view (schema.put field figure entry) other =
    if other = field ∧ figure.Fits (schema.measure field) then some figure else view entry other

section
variable [DecidableEq F] (reads : schema.Reads view) {field : F} {figure : Figure R} {entry : E}
include reads

theorem Reads.own (fits : figure.Fits (schema.measure field)) : view (schema.put field figure entry) field = some figure := by
  rw [reads.put,if_pos ⟨rfl,fits⟩]

theorem Reads.other {other : F} (apart : other ≠ field) : view (schema.put field figure entry) other = view entry other := by
  rw [reads.put,if_neg fun same => apart same.1]

end

-- An entry from its figures, one put after the other.
def written [Vocabulary F] (schema : Schema F E R) (figures : F → Option (Figure R)) (blank : E) : E :=
  Vocabulary.all.foldl (fun entry field => (figures field).elim entry (schema.put field · entry)) blank

theorem eq_of_figures [Vocabulary F] (schema : Schema F E R) (view : E → F → Option (Figure R)) (blank : E)
    (rebuilds : ∀ entry, schema.written (view entry) blank = entry) {left right : E}
    (same : ∀ field, view left field = view right field) : left = right := by
  rw [← rebuilds left,← rebuilds right,funext same]

end Schema

theorem circuit_reads : (circuitSchema (R := R)).Reads Circuit.figure := ⟨by rintro ⟨⟩ ⟨⟩ _ ⟨⟩ <;> rfl⟩
theorem override_reads : (overrideSchema (R := R)).Reads CircuitOverride.figure := ⟨by rintro ⟨⟩ ⟨⟩ _ ⟨⟩ <;> rfl⟩
theorem tire_reads : (tireSchema (R := R)).Reads TireData.figure := ⟨by rintro ⟨⟩ ⟨⟩ _ ⟨⟩ <;> rfl⟩
theorem pace_reads : (paceSchema (R := R)).Reads PaceData.figure := ⟨by rintro ⟨⟩ ⟨⟩ _ ⟨⟩ <;> rfl⟩
theorem risk_reads : (riskSchema (R := R)).Reads RiskData.figure := ⟨by rintro ⟨⟩ ⟨⟩ _ ⟨⟩ <;> rfl⟩

theorem onto_figure (override : CircuitOverride R) (circuit : Circuit R) (field : CircuitField) :
    (override.onto circuit).figure field = (override.figure field).or (circuit.figure field) := by
  obtain ⟨lap,pit,fuel,start,consumption⟩ := override
  cases field with
  | baseLapTime => cases lap <;> rfl
  | pitLaneTimeLoss => cases pit <;> rfl
  | fuelEffectPerKg => cases fuel <;> rfl
  | startingFuelKg => cases start <;> rfl
  | fuelConsumptionPerLap => cases consumption <;> rfl

theorem circuit_figure (tables : Tables R) (name : String) (field : CircuitField) :
    (tables.circuit name).figure field =
      (tables.figureAt (.circuit (circuitKey name) field)).or (tables.figureAt (.defaultCircuit field)) := by
  change _ = ((tables.overrides.lookup (circuitKey name)).bind (·.figure field)).or (tables.defaultCircuit.figure field)
  unfold Tables.circuit overrideFor
  cases tables.overrides.lookup (circuitKey name) with
  | none => rfl
  | some override => exact onto_figure override tables.defaultCircuit field

variable [Arithmetic R]

def Number.value : Number R → Value R
  | .int n => .scalar (.int n)
  | .real x => .scalar (.number x)

theorem value_of_measured {measure : Measure} {spot : Spot R} {field : Option String} {value : Value R}
    {number : Number R} (done : measured measure spot field value = .ok number) : value = number.value := by
  unfold measured at done
  split at done
  · split at done
    · cases done
    · cases done; rfl
  · split at done
    · cases done
    · split at done
      · obtain ⟨n,_,done⟩ := ok_of_bind done
        split at done
        · cases done; rfl
        · cases done
      · cases done; rfl
  · cases done

theorem figure_eq_ok_iff {measure : Measure} {number : Number R} {result : Figure R} :
    figure measure number = .ok result ↔ converted measure number.value = some result := by
  unfold figure
  by_cases whole : measure = .whole
  · rw [if_pos whole]
    cases number with
    | int n => simp [Number.toWhole,Number.value,converted,whole,Except.map]
    | real x =>
      simp only [Number.toWhole,Number.value,converted,if_pos whole]
      cases floor x <;> simp [lift,Except.map,Except.toOption]
  · rw [if_neg whole]
    cases number with
    | int n =>
      simp only [Number.toReal,Number.value,converted,if_neg whole]
      cases (ofInt n : Except Fault R) <;> simp [lift,Except.map,Except.toOption]
    | real x => simp [Number.toReal,Number.value,converted,whole,Except.map]

theorem converted_fits {measure : Measure} {value : Value R} {result : Figure R}
    (done : converted measure value = some result) : result.Fits measure := by
  unfold converted at done
  split at done
  · split at done
    · cases done; assumption
    · obtain ⟨x,_,rfl⟩ := Option.map_eq_some_iff.mp done; assumption
  · split at done
    · obtain ⟨n,_,rfl⟩ := Option.map_eq_some_iff.mp done; assumption
    · cases done; assumption
  · cases done

def Taken (measure : Measure) (value : Value R) (result : Figure R) : Prop :=
  ∃ spot field number, measured measure spot field value = .ok number ∧ figure measure number = .ok result

theorem Taken.converted {measure : Measure} {value : Value R} {result : Figure R} (taken : Taken measure value result) :
    converted measure value = some result := by
  obtain ⟨spot,field,number,measured,figured⟩ := taken
  rw [value_of_measured measured]
  exact figure_eq_ok_iff.mp figured

-- A figure behind a merge, as `Stands` has it, and besides that what was given for its place was measured.
def Written (measure : Measure) (given : Option (Value R)) (before after : Option (Figure R)) : Prop :=
  match given with
  | some value => ∃ figure, Taken measure value figure ∧ after = some figure
  | none => after = before

section
variable {measure : Measure} {earlier later : Option (Value R)} {before between after : Option (Figure R)}

theorem Written.stands (written : Written measure later before after) : Stands measure later before after := by
  cases later with
  | none => exact written
  | some value =>
    obtain ⟨figure,taken,stands⟩ := written
    exact ⟨figure,taken.converted,stands⟩

-- What holds of the figures from before and of those that are taken holds of all behind.
theorem Written.holds {P : Figure R → Prop} (written : Written measure later before after)
    (kept : ∀ figure, before = some figure → P figure)
    (new : ∀ value figure, later = some value → Taken measure value figure → P figure) :
    ∀ figure, after = some figure → P figure := by
  cases later with
  | none =>
    have same : after = before := written
    rw [same]
    exact kept
  | some value =>
    obtain ⟨own,taken,stands⟩ := written
    intro figure found
    rw [stands] at found
    cases found
    exact new value own rfl taken

theorem Written.trans (first : Written measure earlier before between) (second : Written measure later between after) :
    Written measure (later.or earlier) before after := by
  cases later with
  | some value => exact second
  | none =>
    have kept : after = between := second
    rw [kept]
    exact first

-- Items worked off one by one: if each writes what it tells, in the end the latest of them stands written.
theorem foldlM_writes {ε S A : Type} {step : S → A → Except ε S} (view : S → Option (Figure R))
    {tells : A → Option (Value R)} {items : List A}
    (each : ∀ item ∈ items, ∀ {current next : S}, step current item = .ok next →
      Written measure (tells item) (view current) (view next))
    {start finish : S} (folded : items.foldlM step start = .ok finish) :
    Written measure (latest? tells items) (view start) (view finish) := by
  induction items generalizing start with
  | nil => cases folded; rfl
  | cons item rest ih =>
    rw [List.foldlM_cons] at folded
    obtain ⟨next,stepped,folded⟩ := ok_of_bind folded
    rw [latest?_cons]
    have first := each item List.mem_cons_self stepped
    exact first.trans (ih (fun other among => each other (List.mem_cons_of_mem _ among)) folded)

end

theorem complain_eq_ok {names : List (Scalar R)} {refusal : List (Scalar R) → Refusal R}
    (done : complain names refusal = .ok ()) : names = [] := by
  unfold complain at done
  split at done
  · rename_i empty
    exact List.isEmpty_iff.mp empty
  · obtain ⟨_,_,done⟩ := ok_of_bind done
    cases done

section
variable {F E : Type} [Vocabulary F] {schema : Schema F E R} {view : E → F → Option (Figure R)} {spot : Spot R}
  {entries : List (Scalar R × Value R)} {entry : Scalar R × Value R} {current next : E}

def writeField (schema : Schema F E R) (spot : Spot R) (current : E) (entry : Scalar R × Value R) : Checked R E := do
  putField schema current (← checkField schema spot entry)

theorem writeField_eq {field : F} {number : Number R} {result : Figure R}
    (checked : checkField schema spot entry = .ok (some (field,number)))
    (figured : figure (schema.measure field) number = .ok result) :
    writeField schema spot current entry = .ok (schema.put field result current) := by
  rw [writeField,checked]
  change (do return schema.put field (← figure (schema.measure field) number) current) = _
  rw [figured]
  rfl

variable [Vocabulary.Lawful F]

theorem known_of_ok (known : knownFields (F := F) spot entries = .ok ()) : ∀ entry ∈ entries, Spelled F entry.1 :=
  unknown_eq_nil_iff.mp (complain_eq_ok known)

theorem checkField_parts {field : F} (named : entry.1 = .text (Vocabulary.spelling field))
    {checked : Option (F × Number R)} (done : checkField schema spot entry = .ok checked) :
    ∃ number, checked = some (field,number) ∧
      measured (schema.measure field) spot (some (Vocabulary.spelling field)) entry.2 = .ok number := by
  unfold checkField at done
  rw [member?_eq_some_iff.mpr named] at done
  obtain ⟨number,measured,done⟩ := ok_of_bind done
  cases done
  exact ⟨number,rfl,measured⟩

theorem writeField_writes [DecidableEq F] (reads : schema.Reads view) {own : F} (named : entry.1 = .text (Vocabulary.spelling own))
    (written : writeField schema spot current entry = .ok next) (field : F) :
    Written (schema.measure field) (if entry.1.isName (Vocabulary.spelling field) then some entry.2 else none)
      (view current field) (view next field) := by
  obtain ⟨checked,done,written⟩ := ok_of_bind written
  obtain ⟨number,rfl,measured⟩ := checkField_parts named done
  obtain ⟨result,figured,written⟩ := ok_of_bind written
  cases written
  by_cases same : field = own
  · subst same
    rw [if_pos (Scalar.isName_iff.mpr named)]
    have taken : Taken (schema.measure field) entry.2 result := ⟨_,_,number,measured,figured⟩
    exact ⟨result,taken,reads.own (converted_fits taken.converted)⟩
  · have other : ¬ entry.1.isName (Vocabulary.spelling field) = true := by
      rw [Scalar.isName_iff,named,Scalar.text.injEq,Vocabulary.spelling_inj]
      exact Ne.symm same
    rw [if_neg other]
    exact reads.other same

theorem fields_written [DecidableEq F] (reads : schema.Reads view)
    (known : ∀ entry ∈ entries, Spelled F entry.1)
    (written : entries.foldlM (writeField schema spot) current = .ok next) (field : F) :
    Written (schema.measure field) (fieldOf entries field) (view current field) (view next field) := by
  apply foldlM_writes (view · field) _ written
  intro entry among before after stepped
  obtain ⟨own,named⟩ := known entry among
  exact writeField_writes reads named stepped field

theorem mergeEntry_parts {value : Value R} (merged : mergeEntry schema spot current value = .ok next) :
    (∀ entry ∈ value.entries, Spelled F entry.1) ∧
      value.entries.foldlM (writeField schema spot) current = .ok next := by
  obtain ⟨entries,listed,rest⟩ := ok_of_bind merged
  obtain ⟨_,known,written⟩ := ok_of_bind rest
  cases entries_of_ok listed
  exact ⟨known_of_ok known,written⟩

theorem mergeEntry_writes [DecidableEq F] (reads : schema.Reads view) {value : Value R}
    (merged : mergeEntry schema spot current value = .ok next) (field : F) :
    Written (schema.measure field) (fieldOf value.entries field) (view current field) (view next field) := by
  obtain ⟨known,written⟩ := mergeEntry_parts merged
  exact fields_written reads known written field

end

end PitWall.Tables

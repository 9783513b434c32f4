import PitWall.Proofs.Tables.Topics
import PitWall.Proofs.Text.Case

namespace PitWall

theorem circuitKey_circuitKey (name : String) : circuitKey (circuitKey name) = circuitKey name := by
  unfold circuitKey
  have fixed : ∀ c ∈ (Text.upper name.toList).filter fun c => 'A' ≤ c && c ≤ 'Z', Text.upperOf c = [c] := by
    intro c kept
    exact (Text.upper_recased name.toList).letters_eq c (List.mem_of_mem_filter kept)
  rw [String.toList_ofList,Text.upper_fixed fixed,List.filter_filter]
  simp

namespace Tables
variable {R : Type}

section
variable {overrides : List (String × CircuitOverride R)} {key : String} {change : CircuitOverride R → CircuitOverride R}

theorem lookup_cons (name other : String) (override : CircuitOverride R) :
    ((name,override) :: overrides).lookup other = if other = name then some override else overrides.lookup other := by
  rw [List.lookup_cons]
  by_cases same : other = name
  · simp [same]
  · rw [if_neg same,beq_false_of_ne same]

theorem amend_lookup (other : String) : (amend key change overrides).lookup other =
    if other = key then some (change ((overrides.lookup key).getD .nothing)) else overrides.lookup other := by
  induction overrides with
  | nil => exact lookup_cons key other _
  | cons first rest ih =>
    obtain ⟨name,override⟩ := first
    unfold amend
    by_cases found : name = key
    · subst found
      by_cases same : other = name <;> simp [lookup_cons,same]
    · rw [if_neg found,lookup_cons,lookup_cons,lookup_cons,ih]
      by_cases same : other = key
      · subst same
        simp [Ne.symm found]
      · simp [same]

theorem amend_absent (absent : key ∉ overrides.map (·.1)) :
    amend key change overrides = overrides ++ [(key,change .nothing)] := by
  induction overrides with
  | nil => rfl
  | cons first rest ih =>
    rw [List.map_cons,List.mem_cons,not_or] at absent
    unfold amend
    rw [if_neg (Ne.symm absent.1),ih absent.2,List.cons_append]

theorem amend_present (present : key ∈ overrides.map (·.1)) :
    (amend key change overrides).map (·.1) = overrides.map (·.1) := by
  induction overrides with
  | nil => cases present
  | cons first rest ih =>
    unfold amend
    split
    · rfl
    · rename_i other
      rcases List.mem_cons.mp present with same | present
      · exact absurd same.symm other
      · rw [List.map_cons,List.map_cons,ih present]

theorem amend_grows : overrides.map (·.1) <+: (amend key change overrides).map (·.1) := by
  by_cases present : key ∈ overrides.map (·.1)
  · rw [amend_present present]
  · rw [amend_absent present,List.map_append]
    exact List.prefix_append _ _

theorem mem_amend (other : String) :
    other ∈ (amend key change overrides).map (·.1) ↔ other ∈ overrides.map (·.1) ∨ key = other := by
  by_cases present : key ∈ overrides.map (·.1)
  · rw [amend_present present]
    constructor
    · exact .inl
    · rintro (there | rfl)
      · exact there
      · exact present
  · rw [amend_absent present,List.map_append,List.mem_append]
    simp [eq_comm]

theorem Filed.amend (filed : Filed overrides) (settled : circuitKey key = key) : Filed (amend key change overrides) where
  keys other there := by
    rcases (mem_amend other).mp there with there | rfl
    · exact filed.keys other there
    · exact settled
  distinct := by
    by_cases present : key ∈ overrides.map (·.1)
    · rw [amend_present present]
      exact filed.distinct
    · rw [amend_absent present,List.map_append]
      exact List.Nodup.append filed.distinct (List.nodup_singleton key) (by simpa using present)

end

theorem rekeyed_filed {overrides : List (String × CircuitOverride R)} (filed : Filed overrides) :
    rekeyed overrides = overrides := by
  suffices onto : ∀ kept, Filed (kept ++ overrides) →
      overrides.foldl (fun kept entry => amend (circuitKey entry.1) (fun _ => entry.2) kept) kept = kept ++ overrides by
    exact onto [] filed
  clear filed
  induction overrides with
  | nil => intro kept _; exact (List.append_nil kept).symm
  | cons first rest ih =>
    intro kept filed
    have settled : circuitKey first.1 = first.1 := filed.keys first.1 (by simp)
    have absent : first.1 ∉ kept.map (·.1) := by
      intro there
      have distinct := filed.distinct
      rw [List.map_append,List.nodup_append] at distinct
      exact distinct.2.2 _ there _ (by simp) rfl
    have added : amend (circuitKey first.1) (fun _ => first.2) kept = kept ++ [first] := by
      rw [settled,amend_absent absent]
    rw [List.append_cons] at filed ⊢
    rw [List.foldl_cons,← ih _ filed,← added]

theorem build_filed {tables : Tables R} (filed : Filed tables.overrides) : build tables = tables := by
  unfold build
  rw [rekeyed_filed filed]

variable [Arithmetic R]

-- All fields measured before the first is written come out as fields measured and written in turn.
theorem foldlM_of_mapM {spot : Spot R} {entries : List (Scalar R × Value R)}
    {numbers : List (Option (CircuitField × Number R))} {fields : List (CircuitField × Figure R)}
    (checked : entries.mapM (checkField overrideSchema spot) = .ok numbers)
    (figured : (numbers.filterMap id).mapM (fun (field,number) => do
      return (field,← figure (R := R) .positive number)) = (.ok fields : Checked R _)) (override : CircuitOverride R) :
    entries.foldlM (writeField overrideSchema spot) override = .ok (putAll overrideSchema fields override) := by
  induction entries generalizing numbers fields override with
  | nil => cases checked; cases figured; rfl
  | cons entry rest ih =>
    obtain ⟨first,later,this,those,rfl⟩ := ok_of_mapM_cons checked
    rw [List.foldlM_cons]
    cases first with
    | none =>
      rw [writeField,this]
      exact ih those figured override
    | some found =>
      obtain ⟨field,number⟩ := found
      change ((field,number) :: later.filterMap id).mapM _ = _ at figured
      obtain ⟨pair,results,figures,rests,rfl⟩ := ok_of_mapM_cons figured
      obtain ⟨result,thisFigure,paired⟩ := ok_of_bind figures
      cases paired
      rw [writeField_eq this thisFigure]
      exact ih those rests _

theorem mergeCircuit_parts {overrides next : List (String × CircuitOverride R)} {entry : Scalar R × Value R}
    (merged : mergeCircuit overrides entry = .ok next) :
    ∃ change : CircuitOverride R → CircuitOverride R, next = amend (circuitKey entry.1.shown) change overrides ∧
      ∀ override field,
        Written .positive (fieldOf entry.2.entries field) (override.figure field) ((change override).figure field) := by
  obtain ⟨entries,listed,rest⟩ := ok_of_bind merged
  obtain ⟨_,known,rest⟩ := ok_of_bind rest
  obtain ⟨numbers,checked,rest⟩ := ok_of_bind rest
  obtain ⟨fields,figured,rest⟩ := ok_of_bind rest
  cases rest
  refine ⟨putAll overrideSchema fields,rfl,fun override field => ?_⟩
  rw [entries_of_ok listed]
  exact fields_written override_reads (known_of_ok known) (foldlM_of_mapM checked figured override) field

theorem mergeCircuit_known {overrides next : List (String × CircuitOverride R)} {entry : Scalar R × Value R}
    (merged : mergeCircuit overrides entry = .ok next) : ∀ field ∈ entry.2.entries, Spelled CircuitField field.1 := by
  obtain ⟨entries,listed,rest⟩ := ok_of_bind merged
  obtain ⟨_,known,_⟩ := ok_of_bind rest
  rw [entries_of_ok listed]
  exact known_of_ok known

section
variable {circuits : List (Scalar R × Value R)} {overrides next : List (String × CircuitOverride R)}

theorem circuits_written (merged : circuits.foldlM mergeCircuit overrides = .ok next) (key : String) (field : CircuitField) :
    Written .positive (namedField circuits (circuitKey · == key) field) ((overrides.lookup key).bind (·.figure field))
      ((next.lookup key).bind (·.figure field)) := by
  apply foldlM_writes (fun overrides => (overrides.lookup key).bind (·.figure field)) _ merged
  intro entry _ before after stepped
  obtain ⟨change,rfl,written⟩ := mergeCircuit_parts stepped
  rw [amend_lookup]
  by_cases same : key = circuitKey entry.1.shown
  · subst same
    have start : (before.lookup (circuitKey entry.1.shown)).bind (·.figure field) =
        ((before.lookup (circuitKey entry.1.shown)).getD .nothing).figure field := by
      cases before.lookup (circuitKey entry.1.shown) with
      | some override => rfl
      | none => cases field <;> rfl
    simp only [beq_self_eq_true,if_true,Option.bind_some,start]
    exact written _ field
  · simp only [beq_iff_eq,if_neg (Ne.symm same),if_neg same]
    rfl

-- New keys go behind the old ones, and only the keys of names come in.
theorem circuits_keys (filed : Filed overrides) (merged : circuits.foldlM mergeCircuit overrides = .ok next) :
    Filed next ∧ overrides.map (·.1) <+: next.map (·.1) ∧
      ∀ key, key ∈ next.map (·.1) ↔
        key ∈ overrides.map (·.1) ∨ ∃ entry ∈ circuits, circuitKey entry.1.shown = key := by
  induction circuits generalizing overrides with
  | nil =>
    cases merged
    exact ⟨filed,List.prefix_rfl,by simp⟩
  | cons entry rest ih =>
    rw [List.foldlM_cons] at merged
    obtain ⟨between,stepped,merged⟩ := ok_of_bind merged
    obtain ⟨change,rfl,_⟩ := mergeCircuit_parts stepped
    obtain ⟨filed,grown,keys⟩ := ih (filed.amend (circuitKey_circuitKey _)) merged
    refine ⟨filed,amend_grows.trans grown,fun key => ?_⟩
    rw [keys,mem_amend,List.exists_mem_cons_iff,or_assoc]

end

end Tables
end PitWall

import PitWall.Proofs.Tables.Entries

namespace PitWall.Tables
variable {R : Type} [Arithmetic R]

theorem topicEntries_eq (topic : Topic) (description : List (Scalar R × Value R)) :
    topicEntries topic description = match said description topic with
      | none => .ok []
      | some value => if value.isVoid then .ok [] else
        match value with
        | .mapping entries => .ok entries
        | _ => .error (.topicNotMapping topic) := by
  unfold topicEntries said
  simp only [topic_named]
  cases description.find? fun entry => member? entry.1 == some topic <;> rfl

theorem topicEntries_ok {topic : Topic} {description entries : List (Scalar R × Value R)}
    (found : topicEntries topic description = .ok entries) : entries = topicOf description topic := by
  rw [topicEntries_eq] at found
  unfold topicOf
  cases present : said description topic with
  | none =>
    rw [present] at found
    cases found
    rfl
  | some value =>
    rw [present] at found
    dsimp only at found
    split at found
    · rename_i void
      cases found
      cases value with
      | mapping entries => exact (List.isEmpty_iff.mp void).symm
      | _ => rfl
    · split at found
      · cases found
        rfl
      · cases found

theorem keyed_ok {K : Type} [Vocabulary K] [Vocabulary.Lawful K] {topic : Topic} {key : Scalar R} {member : K}
    (found : keyed topic key = .ok member) : key.shown = Vocabulary.spelling member := by
  unfold keyed at found
  split at found
  · rename_i other named
    cases found
    exact (Vocabulary.ofSpelling?_eq_some_iff.mp named).symm
  · cases found

section
variable {K : Type} [Vocabulary K] [Vocabulary.Lawful K] [DecidableEq K] {topic : Topic} {spot : K → Spot R}
  {description : List (Scalar R × Value R)}

theorem mergeKeyed_writes {F E : Type} [Vocabulary F] [Vocabulary.Lawful F] [DecidableEq F] {schema : Schema F E R}
    {view : E → F → Option (Figure R)} (reads : schema.Reads view) {current next : K → E}
    (merged : mergeKeyed topic spot schema current description = .ok next) (member : K) (field : F) :
    Written (schema.measure field) (namedField (topicOf description topic) (· == Vocabulary.spelling member) field)
      (view (current member) field) (view (next member) field) := by
  obtain ⟨entries,found,merged⟩ := ok_of_bind merged
  cases topicEntries_ok found
  apply foldlM_writes (fun current => view (current member) field) _ merged
  intro entry _ before after stepped
  obtain ⟨own,named,stepped⟩ := ok_of_bind stepped
  obtain ⟨written,merged,stepped⟩ := ok_of_bind stepped
  cases stepped
  have shown := keyed_ok named
  by_cases same : member = own
  · subst same
    simp only [shown,beq_self_eq_true,if_true,setAt]
    exact mergeEntry_writes reads merged field
  · have other : Vocabulary.spelling own ≠ Vocabulary.spelling member := by
      rw [Ne,Vocabulary.spelling_inj]
      exact Ne.symm same
    simp only [shown,beq_iff_eq,if_neg other,setAt,if_neg same]
    rfl

theorem mergeScalars_writes {current next : K → Option R}
    (merged : mergeScalars topic spot current description = .ok next) (member : K) :
    Written .positive (namedValue (topicOf description topic) (Vocabulary.spelling member))
      ((current member).map .number) ((next member).map .number) := by
  obtain ⟨entries,found,merged⟩ := ok_of_bind merged
  cases topicEntries_ok found
  apply foldlM_writes (fun current => (current member).map .number) _ merged
  intro entry _ before after stepped
  obtain ⟨own,named,stepped⟩ := ok_of_bind stepped
  obtain ⟨number,measured,stepped⟩ := ok_of_bind stepped
  obtain ⟨x,real,stepped⟩ := ok_of_bind stepped
  cases stepped
  have shown := keyed_ok named
  by_cases same : member = own
  · subst same
    have figured : figure .positive number = .ok (.number x) := by simp [figure,real,Except.map]
    simp only [shown,if_true,setAt]
    exact ⟨.number x,⟨_,_,number,measured,figured⟩,rfl⟩
  · have other : Vocabulary.spelling own ≠ Vocabulary.spelling member := by
      rw [Ne,Vocabulary.spelling_inj]
      exact Ne.symm same
    simp only [shown,if_neg other,setAt,if_neg same]
    rfl

end

theorem mergeDefaultCircuit_eq (current : Circuit R) (description : List (Scalar R × Value R)) :
    mergeDefaultCircuit current description = match said description .defaultCircuit with
      | none => .ok current
      | some value => mergeEntry circuitSchema .defaultCircuit current value := by
  unfold mergeDefaultCircuit said
  simp only [topic_named]
  cases description.find? fun entry => member? entry.1 == some Topic.defaultCircuit <;> rfl

theorem mergeDefaultCircuit_writes {current next : Circuit R} {description : List (Scalar R × Value R)}
    (merged : mergeDefaultCircuit current description = .ok next) (field : CircuitField) :
    Written .positive (fieldOf (topicOf description .defaultCircuit) field) (current.figure field) (next.figure field) := by
  rw [mergeDefaultCircuit_eq] at merged
  unfold topicOf
  cases present : said description .defaultCircuit with
  | none =>
    rw [present] at merged
    cases merged
    rfl
  | some value =>
    rw [present] at merged
    exact mergeEntry_writes circuit_reads merged field

end PitWall.Tables

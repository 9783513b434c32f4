namespace PitWall

theorem ok_bind {ε α β : Type} (value : α) (next : α → Except ε β) : Except.ok value >>= next = next value := rfl

theorem ok_of_bind {ε α β : Type} {first : Except ε α} {next : α → Except ε β} {result : β}
    (done : first >>= next = .ok result) : ∃ value, first = .ok value ∧ next value = .ok result := by
  cases first with
  | error fault => cases done
  | ok value => exact ⟨value,rfl,done⟩

theorem ok_of_mapM_cons {ε α β : Type} {compute : α → Except ε β} {row : α} {rows : List α} {values : List β}
    (done : (row :: rows).mapM compute = .ok values) :
    ∃ value others, compute row = .ok value ∧ rows.mapM compute = .ok others ∧ values = value :: others := by
  rw [List.mapM_cons] at done
  obtain ⟨value,computed,done⟩ := ok_of_bind done
  obtain ⟨others,rests,done⟩ := ok_of_bind done
  cases done
  exact ⟨value,others,computed,rests,rfl⟩

theorem mem_mapM_iff {ε α β : Type} {compute : α → Except ε β} {rows : List α} {values : List β}
    (done : rows.mapM compute = .ok values) {value : β} : value ∈ values ↔ ∃ row ∈ rows, compute row = .ok value := by
  induction rows generalizing values with
  | nil => cases done; simp
  | cons row rest ih =>
    obtain ⟨first,others,computed,rests,rfl⟩ := ok_of_mapM_cons done
    simp [ih rests,computed,eq_comm]

theorem ok_of_mapM {ε α β : Type} {compute : α → Except ε β} {rows : List α} {values : List β}
    (done : rows.mapM compute = .ok values) : ∀ row ∈ rows, ∃ value, compute row = .ok value := by
  induction rows generalizing values with
  | nil => intro row there; cases there
  | cons row rest ih =>
    obtain ⟨first,others,computed,rests,_⟩ := ok_of_mapM_cons done
    exact List.forall_mem_cons.mpr ⟨⟨first,computed⟩,ih rests⟩

theorem ok_of_mapM_append {ε α β : Type} {compute : α → Except ε β} {early late : List α} {values : List β}
    (done : (early ++ late).mapM compute = .ok values) :
    ∃ first second, early.mapM compute = .ok first ∧ late.mapM compute = .ok second ∧ values = first ++ second := by
  rw [List.mapM_append] at done
  obtain ⟨first,opening,done⟩ := ok_of_bind done
  obtain ⟨second,closing,done⟩ := ok_of_bind done
  cases done
  exact ⟨first,second,opening,closing,rfl⟩

-- What is kept of the results of all rows is what is kept of each.
theorem filter_flatten_of_mapM {ε α β : Type} {p : β → Bool} {compute : α → Except ε (List β)} {rows : List α}
    {parts : List (List β)} {kept : α → List β} (done : rows.mapM compute = .ok parts)
    (each : ∀ row part, compute row = .ok part → part.filter p = kept row) :
    parts.flatten.filter p = rows.flatMap kept := by
  induction rows generalizing parts with
  | nil => cases done; rfl
  | cons row rest ih =>
    obtain ⟨part,others,here,beyond,rfl⟩ := ok_of_mapM_cons done
    rw [List.flatten_cons,List.filter_append,each row part here,ih beyond,List.flatMap_cons]

theorem mapM_congr {ε α β : Type} {compute other : α → Except ε β} {rows : List α}
    (same : ∀ row ∈ rows, compute row = other row) : rows.mapM compute = rows.mapM other := by
  induction rows with
  | nil => rfl
  | cons row rest ih =>
    obtain ⟨here,beyond⟩ := List.forall_mem_cons.mp same
    rw [List.mapM_cons,List.mapM_cons,here,ih beyond]

theorem ok_of_foldlM {ε S A : Type} {step : S → A → Except ε S} {items : List A} {start finish : S}
    (folded : items.foldlM step start = .ok finish) : ∀ item ∈ items, ∃ before after, step before item = .ok after := by
  induction items generalizing start with
  | nil => intro item there; cases there
  | cons item rest ih =>
    rw [List.foldlM_cons] at folded
    obtain ⟨next,stepped,folded⟩ := ok_of_bind folded
    exact List.forall_mem_cons.mpr ⟨⟨start,next,stepped⟩,ih folded⟩

theorem ok_of_toOption {ε α : Type} {computed : Except ε α} {value : α} (returned : computed.toOption = some value) :
    computed = .ok value := by
  cases computed <;> cases returned
  rfl

theorem error_of_map {ε α β : Type} {computed : Except ε α} {f : α → β} {fault : ε}
    (failed : computed.map f = .error fault) : computed = .error fault := by
  cases computed with
  | error other => cases failed; rfl
  | ok value => cases failed

-- A computation that does not fail, with something known of its result.
def Returns {ε α : Type} (computed : Except ε α) (known : α → Prop) : Prop :=
  ∃ value, computed = .ok value ∧ known value

def Succeeds {ε α : Type} (computed : Except ε α) : Prop := Returns computed fun _ => True

section
variable {ε α β : Type} {known : α → Prop} {wanted : β → Prop}

theorem Returns.ok {value : α} (holds : known value) : Returns (.ok value : Except ε α) known := ⟨value,rfl,holds⟩

theorem succeeds_ok (value : α) : Succeeds (.ok value : Except ε α) := ⟨value,rfl,trivial⟩

theorem Returns.succeeds {computed : Except ε α} (returns : Returns computed known) : Succeeds computed := by
  obtain ⟨value,done,_⟩ := returns
  exact ⟨value,done,trivial⟩

theorem Returns.bind {first : Except ε α} {next : α → Except ε β} (returns : Returns first known)
    (rest : ∀ value, first = .ok value → known value → Returns (next value) wanted) :
    Returns (first >>= next) wanted := by
  obtain ⟨value,rfl,holds⟩ := returns
  exact rest value rfl holds

theorem succeeds_bind {first : Except ε α} {next : α → Except ε β} {value : α} (done : first = .ok value)
    (rest : Succeeds (next value)) : Succeeds (first >>= next) := by
  rw [done]
  exact rest

theorem Succeeds.mapM {rows : List α} {compute : α → Except ε β} (each : ∀ row ∈ rows, Succeeds (compute row)) :
    Succeeds (rows.mapM compute) := by
  induction rows with
  | nil => exact succeeds_ok []
  | cons row rows ih =>
    rw [List.mapM_cons]
    refine Returns.bind (each row List.mem_cons_self) fun value _ _ => ?_
    refine Returns.bind (ih fun other member => each other (List.mem_cons_of_mem _ member)) fun values _ _ => ?_
    exact succeeds_ok (value :: values)

theorem Succeeds.foldlM {step : β → α → Except ε β} {items : List α}
    (each : ∀ item ∈ items, ∀ state, Succeeds (step state item)) (state : β) : Succeeds (items.foldlM step state) := by
  induction items generalizing state with
  | nil => exact succeeds_ok state
  | cons item rest ih =>
    rw [List.foldlM_cons]
    obtain ⟨next,stepped,_⟩ := each item List.mem_cons_self state
    exact succeeds_bind stepped (ih (fun other among => each other (List.mem_cons_of_mem _ among)) next)

theorem returns_of_any {computed : Except ε α} {check : α → Bool} (run : computed.toOption.any check = true) :
    Returns computed fun value => check value = true := by
  cases computed with
  | error fault => cases run
  | ok value => exact ⟨value,rfl,run⟩

end

-- What a computation comes to: it succeeds just where all is good, and when it fails, the fault is one to expect.
structure Judged {ε α : Type} (computed : Except ε α) (good : Prop) (expected : ε → Prop) : Prop where
  succeeds : Succeeds computed ↔ good
  fails : ∀ fault, computed = .error fault → expected fault

namespace Judged
variable {ε α β : Type} {good other : Prop} {expected : ε → Prop}

theorem ok (value : α) : Judged (.ok value) True expected where
  succeeds := iff_of_true (succeeds_ok value) trivial
  fails fault failed := by cases failed

theorem error {fault : ε} (bad : ¬ good) (foreseen : expected fault) : Judged (.error fault : Except ε α) good expected where
  succeeds := by
    refine iff_of_false ?_ bad
    rintro ⟨_,done,_⟩
    cases done
  fails other failed := by
    cases failed
    exact foreseen

theorem congr {computed : Except ε α} (judged : Judged computed good expected) (same : good ↔ other) :
    Judged computed other expected := ⟨judged.succeeds.trans same,judged.fails⟩

theorem of_map {computed : Except ε α} {f : α → β} (judged : Judged (computed.map f) good expected) :
    Judged computed good expected := by
  cases computed with
  | error fault =>
    refine error (fun holds => ?_) (judged.fails fault rfl)
    obtain ⟨_,done,_⟩ := judged.succeeds.mpr holds
    cases done
  | ok value => exact (ok value).congr (iff_of_true trivial (judged.succeeds.mp (succeeds_ok (f value))))

theorem guard {c : Prop} [Decidable c] {fault : ε} {computed : Except ε α} (foreseen : expected fault)
    (rest : ¬ c → Judged computed good expected) : Judged (if c then .error fault else computed) (¬ c ∧ good) expected := by
  by_cases hit : c
  · rw [if_pos hit]
    exact error (fun both => both.1 hit) foreseen
  · rw [if_neg hit]
    exact (rest hit).congr (and_iff_right hit).symm

theorem bind {first : Except ε α} {next : α → Except ε β} (judged : Judged first good expected)
    (rest : ∀ value, first = .ok value → Judged (next value) other expected) :
    Judged (first >>= next) (good ∧ other) expected := by
  cases first with
  | error fault =>
    refine error (fun both => ?_) (judged.fails fault rfl)
    obtain ⟨_,done,_⟩ := judged.succeeds.mpr both.1
    cases done
  | ok value =>
    have holds : good := judged.succeeds.mp (succeeds_ok value)
    exact (rest value rfl).congr (and_iff_right holds).symm

variable {A S : Type} {goods : A → Prop} {items : List A}

theorem foldlM {step : S → A → Except ε S} (each : ∀ item ∈ items, ∀ state, Judged (step state item) (goods item) expected)
    (state : S) : Judged (items.foldlM step state) (∀ item ∈ items, goods item) expected := by
  induction items generalizing state with
  | nil => exact (ok state).congr (iff_of_true trivial fun item there => nomatch there)
  | cons item rest ih =>
    rw [List.foldlM_cons]
    have later := ih fun other there => each other (List.mem_cons_of_mem _ there)
    have both := (each item List.mem_cons_self state).bind fun next _ => later next
    exact both.congr List.forall_mem_cons.symm

theorem mapM {compute : A → Except ε β} (each : ∀ item ∈ items, Judged (compute item) (goods item) expected) :
    Judged (items.mapM compute) (∀ item ∈ items, goods item) expected := by
  induction items with
  | nil => exact (ok []).congr (iff_of_true trivial fun item there => nomatch there)
  | cons item rest ih =>
    rw [List.mapM_cons]
    have later := ih fun other there => each other (List.mem_cons_of_mem _ there)
    have both := (each item List.mem_cons_self).bind fun value _ => later.bind fun values _ => ok (value :: values)
    rw [and_true] at both
    exact both.congr List.forall_mem_cons.symm

theorem forM {check : A → Except ε Unit} (each : ∀ item, Judged (check item) (goods item) expected) :
    Judged (items.forM check) (∀ item ∈ items, goods item) expected := by
  induction items with
  | nil => exact (ok ()).congr (iff_of_true trivial fun item there => nomatch there)
  | cons item rest ih =>
    change Judged (check item >>= fun _ => rest.forM check) _ _
    exact ((each item).bind fun _ _ => ih).congr List.forall_mem_cons.symm

end Judged
end PitWall

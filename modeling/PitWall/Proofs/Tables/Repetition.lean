import PitWall.Proofs.Tables.Acceptance

namespace PitWall
open Tables
variable {R : Type}

namespace Tables

theorem override_rebuilt (override : CircuitOverride R) : overrideSchema.written override.figure .nothing = override := by
  obtain ⟨lap,pit,fuel,start,consumption⟩ := override
  cases lap <;> cases pit <;> cases fuel <;> cases start <;> cases consumption <;> rfl

theorem overrides_eq {left right : List (String × CircuitOverride R)} (keys : left.map (·.1) = right.map (·.1))
    (distinct : (left.map (·.1)).Nodup)
    (same : ∀ key field, (left.lookup key).bind (·.figure field) = (right.lookup key).bind (·.figure field)) : left = right := by
  induction left generalizing right with
  | nil => exact (List.map_eq_nil_iff.mp keys.symm).symm
  | cons first rest ih =>
    obtain ⟨⟨key,override⟩,others,rfl,rfl,others_keys⟩ := List.map_eq_cons_iff.mp keys.symm
    obtain ⟨key,own⟩ := first
    obtain ⟨absent,distinct⟩ := List.nodup_cons.mp distinct
    have head : own = override := by
      apply overrideSchema.eq_of_figures CircuitOverride.figure .nothing override_rebuilt
      intro field
      have here := same key field
      rwa [lookup_cons,lookup_cons,if_pos rfl,if_pos rfl] at here
    have tail : rest = others := by
      refine ih others_keys.symm distinct fun other field => ?_
      by_cases here : other = key
      · subst here
        have unlisted (entries : List (String × CircuitOverride R)) (unused : other ∉ entries.map (·.1)) :
            entries.lookup other = none := by
          apply List.lookup_eq_none_iff.mpr
          intro entry there
          simpa using fun equal : other = entry.1 => unused (equal ▸ List.mem_map_of_mem there)
        rw [unlisted rest absent,unlisted others (others_keys ▸ absent)]
      · have beyond := same other field
        rwa [lookup_cons,lookup_cons,if_neg here,if_neg here] at beyond
    rw [head,tail]

theorem eq_of_figures {left right : Tables R} (overrides : left.overrides = right.overrides)
    (same : ∀ place, left.figureAt place = right.figureAt place) : left = right := by
  have numbers : Function.Injective (Option.map (Figure.number (R := R))) :=
    Option.map_injective fun _ _ => Figure.number.inj
  have circuit : left.defaultCircuit = right.defaultCircuit :=
    circuitSchema.eq_of_figures Circuit.figure left.defaultCircuit (fun _ => rfl) fun field => same (.defaultCircuit field)
  have tire : left.tire = right.tire := funext fun member =>
    tireSchema.eq_of_figures TireData.figure (left.tire member) (fun _ => rfl) fun field => same (.tire member field)
  have pace : left.pace = right.pace := funext fun member =>
    paceSchema.eq_of_figures PaceData.figure (left.pace member) (fun _ => rfl) fun field => same (.pace member field)
  have risk : left.risk = right.risk := funext fun member =>
    riskSchema.eq_of_figures RiskData.figure (left.risk member) (fun _ => rfl) fun field => same (.risk member field)
  have weather : left.weather = right.weather := funext fun member => numbers (same (.weather member))
  have overtaking : left.overtaking = right.overtaking := funext fun member => numbers (same (.overtaking member))
  cases left; cases right
  simp only at overrides circuit tire pace risk weather overtaking
  rw [overrides,circuit,tire,pace,risk,weather,overtaking]

variable [Arithmetic R]

-- Whether a description goes through does not depend on the figures that it is written over: where it did once,
-- each of its steps does so on any other figures.
section
variable {F E : Type} [Vocabulary F] {schema : Schema F E R} {spot : Spot R}

theorem writeField_anew {current next : E} {entry : Scalar R × Value R}
    (written : writeField schema spot current entry = .ok next) (other : E) : Succeeds (writeField schema spot other entry) := by
  obtain ⟨checked,done,put⟩ := ok_of_bind written
  refine succeeds_bind done ?_
  cases checked with
  | none => exact succeeds_ok other
  | some found =>
    obtain ⟨result,figured,_⟩ := ok_of_bind put
    exact succeeds_bind figured (succeeds_ok _)

theorem mergeEntry_anew {current next : E} {value : Value R} (merged : mergeEntry schema spot current value = .ok next)
    (other : E) : Succeeds (mergeEntry schema spot other value) := by
  obtain ⟨entries,listed,rest⟩ := ok_of_bind merged
  obtain ⟨_,known,written⟩ := ok_of_bind rest
  refine succeeds_bind listed (succeeds_bind known (Succeeds.foldlM (fun entry there state => ?_) other))
  obtain ⟨before,after,stepped⟩ := ok_of_foldlM written entry there
  exact writeField_anew stepped state

theorem mergeCircuit_anew {overrides next : List (String × CircuitOverride R)} {entry : Scalar R × Value R}
    (merged : mergeCircuit overrides entry = .ok next) (others : List (String × CircuitOverride R)) :
    Succeeds (mergeCircuit others entry) := by
  obtain ⟨entries,listed,rest⟩ := ok_of_bind merged
  obtain ⟨_,known,rest⟩ := ok_of_bind rest
  obtain ⟨numbers,checked,rest⟩ := ok_of_bind rest
  obtain ⟨fields,figured,_⟩ := ok_of_bind rest
  exact succeeds_bind listed (succeeds_bind known (succeeds_bind checked (succeeds_bind figured (succeeds_ok _))))

theorem mergeDefaultCircuit_anew {current next : Circuit R} {description : List (Scalar R × Value R)}
    (merged : mergeDefaultCircuit current description = .ok next) (other : Circuit R) :
    Succeeds (mergeDefaultCircuit other description) := by
  rw [mergeDefaultCircuit_eq] at merged ⊢
  generalize said description .defaultCircuit = told at merged ⊢
  cases told with
  | none => exact succeeds_ok other
  | some value => exact mergeEntry_anew merged other

variable {K : Type} [Vocabulary K] [DecidableEq K] {topic : Topic} {spots : K → Spot R}
  {description : List (Scalar R × Value R)}

theorem mergeKeyed_anew {current next : K → E} (merged : mergeKeyed topic spots schema current description = .ok next)
    (other : K → E) : Succeeds (mergeKeyed topic spots schema other description) := by
  obtain ⟨entries,listed,merged⟩ := ok_of_bind merged
  refine succeeds_bind listed (Succeeds.foldlM (fun entry there state => ?_) other)
  obtain ⟨before,after,stepped⟩ := ok_of_foldlM merged entry there
  obtain ⟨member,named,stepped⟩ := ok_of_bind stepped
  obtain ⟨written,stepped,_⟩ := ok_of_bind stepped
  obtain ⟨again,done,_⟩ := mergeEntry_anew stepped (state member)
  exact succeeds_bind named (succeeds_bind done (succeeds_ok _))

theorem mergeScalars_anew {current next : K → Option R} (merged : mergeScalars topic spots current description = .ok next)
    (other : K → Option R) : Succeeds (mergeScalars topic spots other description) := by
  obtain ⟨entries,listed,merged⟩ := ok_of_bind merged
  refine succeeds_bind listed (Succeeds.foldlM (fun entry there state => ?_) other)
  obtain ⟨before,after,stepped⟩ := ok_of_foldlM merged entry there
  obtain ⟨member,named,stepped⟩ := ok_of_bind stepped
  obtain ⟨number,measured,stepped⟩ := ok_of_bind stepped
  obtain ⟨x,real,_⟩ := ok_of_bind stepped
  exact succeeds_bind named (succeeds_bind measured (succeeds_bind real (succeeds_ok _)))

end

section
variable {base tables figures : Tables R} {description : List (Scalar R × Value R)}

theorem overwritten_anew (drawn : base.overwritten description = .ok figures) (other : Tables R) :
    Succeeds (other.overwritten description) := by
  obtain ⟨_,known,rest⟩ := ok_of_bind drawn
  obtain ⟨_,circuit,rest⟩ := ok_of_bind rest
  obtain ⟨entries,listed,rest⟩ := ok_of_bind rest
  obtain ⟨_,overrides,rest⟩ := ok_of_bind rest
  obtain ⟨_,tire,rest⟩ := ok_of_bind rest
  obtain ⟨_,pace,rest⟩ := ok_of_bind rest
  obtain ⟨_,risk,rest⟩ := ok_of_bind rest
  obtain ⟨_,weather,rest⟩ := ok_of_bind rest
  obtain ⟨_,overtaking,_⟩ := ok_of_bind rest
  obtain ⟨_,circuit,_⟩ := mergeDefaultCircuit_anew circuit other.defaultCircuit
  have circuits : Succeeds (entries.foldlM mergeCircuit other.overrides) := by
    refine Succeeds.foldlM (fun entry there state => ?_) _
    obtain ⟨before,after,stepped⟩ := ok_of_foldlM overrides entry there
    exact mergeCircuit_anew stepped state
  obtain ⟨_,overrides,_⟩ := circuits
  obtain ⟨_,tire,_⟩ := mergeKeyed_anew tire other.tire
  obtain ⟨_,pace,_⟩ := mergeKeyed_anew pace other.pace
  obtain ⟨_,risk,_⟩ := mergeKeyed_anew risk other.risk
  obtain ⟨_,weather,_⟩ := mergeScalars_anew weather other.weather
  obtain ⟨_,overtaking,_⟩ := mergeScalars_anew overtaking other.overtaking
  exact succeeds_bind known (succeeds_bind circuit (succeeds_bind listed (succeeds_bind overrides (succeeds_bind tire
    (succeeds_bind pace (succeeds_bind risk (succeeds_bind weather (succeeds_bind overtaking (succeeds_ok _)))))))))

theorem merge_of_sound (drawn : base.overwritten description = .ok figures) (sound : Sound figures) :
    base.merge description = .ok (build figures) := by
  have judged : Judged _ (Sound figures) fun _ : Refusal R => True := built_judged (fun _ _ => trivial) figures
  obtain ⟨tables,built,_⟩ := judged.succeeds.mpr sound
  have merged : base.merge description = .ok tables := by
    rw [merge,drawn]
    exact built
  obtain ⟨_,_,built⟩ := ok_of_bind built
  obtain ⟨_,_,built⟩ := ok_of_bind built
  cases built
  exact merged

theorem overwrites_itself (overwrites : Overwrites base description tables) : Overwrites tables description tables := by
  intro place
  have stands := overwrites place
  cases told : given description place with
  | none => rfl
  | some value =>
    rw [told] at stands
    exact stands

-- Every name of a description is listed once it has been merged, so the order of the overrides is settled.
theorem circuits_settled {circuits : List (Scalar R × Value R)} {overrides next again : List (String × CircuitOverride R)}
    (filed : Filed overrides) (merged : circuits.foldlM mergeCircuit overrides = .ok next)
    (repeated : circuits.foldlM mergeCircuit next = .ok again) : again.map (·.1) = next.map (·.1) := by
  obtain ⟨filedNext,_,keys⟩ := circuits_keys filed merged
  obtain ⟨filedAgain,grown,keysAgain⟩ := circuits_keys filedNext repeated
  have inside : again.map (·.1) ⊆ next.map (·.1) := by
    intro key there
    rcases (keysAgain key).mp there with known | named
    · exact known
    · exact (keys key).mpr (.inr named)
  exact (grown.eq_of_length_le (List.subperm_of_subset filedAgain.distinct inside).length_le).symm

theorem merge_again (reached : Reached base) (merged : base.merge description = .ok tables) :
    tables.merge description = .ok tables := by
  obtain ⟨figures,drawn,rfl⟩ := merge_parts merged
  have filed := (circuits_keys reached.filed (overwritten_parts drawn).overrides).1
  rw [build_filed filed] at merged ⊢
  obtain ⟨again,repeated,_⟩ := overwritten_anew drawn figures
  have same := overwrites_unique (overwrites_itself (overwritten_overwrites drawn)) (overwritten_overwrites repeated)
  have keys := circuits_settled reached.filed (overwritten_parts drawn).overrides (overwritten_parts repeated).overrides
  have overrides : figures.overrides = again.overrides :=
    overrides_eq keys.symm filed.distinct fun key field => same (.circuit key field)
  cases eq_of_figures overrides same
  rw [merge_of_sound repeated (merge_sound merged),build_filed filed]

end

-- One circuit under two names that do not agree, and a new one.
theorem spelledTwice_again : Reached (standard (R := Float)) ∧ ∃ tables,
    (standard (R := Float)).merge spelledTwice = .ok tables ∧ tables.merge spelledTwice = .ok tables ∧
      "HOCKENHEIM" ∈ tables.overrides.map (·.1) ∧ (tables.tire .soft).cliffLap = 12 := by
  have run : ((standard (R := Float)).merge spelledTwice).toOption.any (fun tables =>
      decide ("HOCKENHEIM" ∈ tables.overrides.map (·.1) ∧ (tables.tire .soft).cliffLap = 12)) = true := by decide +kernel
  obtain ⟨tables,merged,figures⟩ := returns_of_any run
  exact ⟨.standard,tables,merged,merge_again .standard merged,of_decide_eq_true figures⟩

end Tables
end PitWall

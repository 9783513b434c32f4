import PitWall.Advisory.Rules
import PitWall.Proofs.Checked

namespace PitWall.Rule
open Advisory

def Spared (kind : Advisory → Bool) (advisories : List Advisory) : Prop :=
  ∀ advisory ∈ advisories, kind advisory = false

section
variable {kind : Advisory → Bool}

@[simp] theorem spared_nil : Spared kind [] := nofun

@[simp] theorem spared_cons {advisory : Advisory} {rest : List Advisory} :
    Spared kind (advisory :: rest) ↔ kind advisory = false ∧ Spared kind rest := List.forall_mem_cons

@[simp] theorem spared_append {first second : List Advisory} :
    Spared kind (first ++ second) ↔ Spared kind first ∧ Spared kind second := List.forall_mem_append

@[simp] theorem spared_onlyIf {found : Bool} {advisory : Advisory} :
    Spared kind (onlyIf found advisory) ↔ (found = true → kind advisory = false) := by
  unfold onlyIf
  split <;> simp_all

@[simp] theorem onlyIf_false (advisory : Advisory) : onlyIf false advisory = [] := rfl

@[simp] theorem filter_onlyIf (found : Bool) (advisory : Advisory) :
    (onlyIf found advisory).filter kind = onlyIf (found && kind advisory) advisory := by
  cases found <;> cases told : kind advisory <;> simp [onlyIf,told]

theorem flatMap_onlyIf {A : Type} (found : A → Bool) (remark : A → Advisory) (rows : List A) :
    rows.flatMap (fun row => onlyIf (found row) (remark row)) = (rows.filter found).map remark := by
  induction rows with
  | nil => rfl
  | cons row rest ih =>
    rw [List.flatMap_cons,ih]
    cases told : found row <;> simp [onlyIf,told]

theorem Spared.filter {advisories : List Advisory} (spared : Spared kind advisories) : advisories.filter kind = [] := by
  refine List.filter_eq_nil_iff.mpr fun advisory member => ?_
  rw [spared advisory member]
  exact Bool.false_ne_true

theorem spared_flatten {parts : List (List Advisory)} (each : ∀ part ∈ parts, Spared kind part) :
    Spared kind parts.flatten := by
  intro advisory member
  obtain ⟨part,there,within⟩ := List.mem_flatten.mp member
  exact each part there advisory within

end

-- What the rules say of tires without a look at how long a stint is against its cliff.
def tireRemarks : List String :=
  ["Aggressive driving will shorten soft tire life significantly","Soft tires in hot conditions will degrade rapidly",
    "Hard tires may struggle to warm up in cool conditions","Long final stint on soft tires"]

-- A kind that none of the rules' standing remarks is of.
structure Rare (kind : Advisory → Bool) : Prop where
  elsewhere : ∀ {area severity message detail}, area ≠ .tire → area ≠ .weather →
    kind (note area severity message detail) = false
  weather : ∀ {message detail}, kind (note .weather .medium message detail) = false
  tires : ∀ message ∈ tireRemarks, ∀ severity detail, kind (note .tire severity message detail) = false

section
variable {kind : Advisory → Bool} (rare : Rare kind) {R : Type} (review : Review R)
include rare

theorem raiseAggressiveRisk_spared : Spared kind (raiseAggressiveRisk review) := by
  obtain ⟨worn,_⟩ := List.forall_mem_cons.mp rare.tires
  unfold raiseAggressiveRisk
  split <;> simp [rare.elsewhere,worn]

theorem raiseTargetPosition_spared : Spared kind (raiseTargetPosition review) := by
  unfold raiseTargetPosition
  split <;> simp [rare.elsewhere]

theorem raiseWeather_spared : Spared kind (raiseWeather review) := by
  obtain ⟨_,hot,cool,_⟩ := by simpa only [tireRemarks,List.forall_mem_cons] using rare.tires
  unfold raiseWeather
  split <;> simp [rare.weather,hot,cool]

theorem raiseLastStint_spared : Spared kind (raiseLastStint review) := by
  obtain ⟨_,_,_,long,_⟩ := by simpa only [tireRemarks,List.forall_mem_cons] using rare.tires
  simp [raiseLastStint,long]

theorem raiseCriticalTurns_spared : Spared kind (raiseCriticalTurns review) := by
  unfold raiseCriticalTurns
  refine spared_flatten fun part member => ?_
  obtain ⟨turn,_,rfl⟩ := List.mem_map.mp member
  simp [raiseTurn,rare.elsewhere]

-- The rules on lengths apart, what a rule says is said in words of its own or of something else than tires.
theorem raise_spared [Arithmetic R] {review : Review R} {rule : Rule} {advisories : List Advisory}
    (raised : rule.raise review = .ok advisories) (other : rule ≠ .stintLengths) : Spared kind advisories := by
  cases rule
  case stintLengths => exact absurd rfl other
  all_goals cases raised
  case aggressiveRisk => exact raiseAggressiveRisk_spared rare review
  case targetPosition => exact raiseTargetPosition_spared rare review
  case weather => exact raiseWeather_spared rare review
  case criticalTurns => exact raiseCriticalTurns_spared rare review
  case conservativeRisk => simp [raiseConservativeRisk,rare.elsewhere]
  case startVsPace => simp [raiseStartVsPace,rare.elsewhere]
  case firstStint => simp [raiseFirstStint,rare.elsewhere]
  case lastStint => exact raiseLastStint_spared rare review
  case strategyShape => simp [raiseStrategyShape,rare.elsewhere]
  case backmarkerAggression => simp [raiseBackmarkerAggression,rare.elsewhere]
  case undercut => simp [raiseUndercut,rare.elsewhere]
  case midfieldTraffic => simp [raiseMidfieldTraffic,rare.elsewhere]

end
end PitWall.Rule

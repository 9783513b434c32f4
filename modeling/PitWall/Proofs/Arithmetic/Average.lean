import Mathlib.Data.Prod.Lex
import PitWall.Arithmetic.Average
import PitWall.Proofs.Arithmetic.Rationals
import PitWall.Proofs.Arithmetic.Signs

namespace PitWall.Arithmetic

section
variable {R : Type} [Arithmetic R]

theorem pick_cases (better : R → R → Bool) (kept value : R) :
    pick better kept value = kept ∨ pick better kept value = value := by
  unfold pick
  split
  · exact .inl rfl
  · split
    · exact .inr rfl
    · exact .inl rfl

theorem isNumber_pick (better : R → R → Bool) (kept value : R) :
    isNumber (pick better kept value) = (isNumber kept && isNumber value) := by
  unfold pick
  cases first : isNumber kept with
  | false => simp [first]
  | true =>
    cases second : isNumber value with
    | false => simp [second]
    | true => cases better value kept <;> simp [first,second]

theorem foldl_pick_mem (better : R → R → Bool) (kept : R) (values : List R) :
    values.foldl (pick better) kept ∈ kept :: values := by
  induction values generalizing kept with
  | nil => exact List.mem_singleton_self _
  | cons value rest ih =>
    rcases List.mem_cons.mp (ih (pick better kept value)) with picked | later
    · rw [List.foldl_cons,picked]
      rcases pick_cases better kept value with same | same
      · rw [same]
        exact List.mem_cons_self
      · rw [same]
        exact List.mem_cons_of_mem _ List.mem_cons_self
    · exact List.mem_cons_of_mem _ (List.mem_cons_of_mem _ later)

theorem isNumber_foldl_pick (better : R → R → Bool) (kept : R) (values : List R) :
    isNumber (values.foldl (pick better) kept) = (kept :: values).all isNumber := by
  induction values generalizing kept with
  | nil => simp
  | cons value rest ih => simp [ih,isNumber_pick,Bool.and_assoc]

-- Numbers stand in one line. Nothing is asked of a value that is no number.
structure InLine (better : R → R → Bool) : Prop where
  asymmetric : ∀ {x y}, isNumber x = true → isNumber y = true → better x y = true → better y x = false
  chain : ∀ {x y z}, isNumber x = true → isNumber y = true → isNumber z = true →
    better y x = false → better z y = false → better z x = false

theorem InLine.reversed {better : R → R → Bool} (inLine : InLine better) : InLine fun x y => better y x where
  asymmetric first second beyond := inLine.asymmetric second first beyond
  chain first second third lower upper := inLine.chain third second first upper lower

theorem InLine.irreflexive {better : R → R → Bool} (inLine : InLine better) {x : R} (number : isNumber x = true) :
    better x x = false := by
  cases own : better x x with
  | false => rfl
  | true => rw [← inLine.asymmetric number number own,own]

theorem InLine.foldl_pick {better : R → R → Bool} (inLine : InLine better) (kept : R) (values : List R)
    (numbers : ∀ value ∈ kept :: values, isNumber value = true) :
    ∀ value ∈ kept :: values, better value (values.foldl (pick better) kept) = false := by
  induction values generalizing kept with
  | nil =>
    intro value member
    rw [List.mem_singleton.mp member]
    exact inLine.irreflexive (numbers kept List.mem_cons_self)
  | cons next rest ih =>
    have first := numbers kept List.mem_cons_self
    have second := numbers next (List.mem_cons_of_mem _ List.mem_cons_self)
    have picked : isNumber (pick better kept next) = true := by rw [isNumber_pick,first,second]; rfl
    have later : ∀ value ∈ pick better kept next :: rest, isNumber value = true := by
      intro value member
      rcases List.mem_cons.mp member with rfl | member
      · exact picked
      · exact numbers value (List.mem_cons_of_mem _ (List.mem_cons_of_mem _ member))
    have unbeaten := ih (pick better kept next) later
    have final : isNumber (rest.foldl (pick better) (pick better kept next)) = true :=
      later _ (foldl_pick_mem better _ rest)
    -- Neither of the two that are compared first is beyond the one that is picked.
    have pair : better kept (pick better kept next) = false ∧ better next (pick better kept next) = false := by
      unfold pick
      rw [first,second]
      cases wins : better next kept with
      | false => exact ⟨inLine.irreflexive first,wins⟩
      | true => exact ⟨inLine.asymmetric second first wins,inLine.irreflexive second⟩
    have low := unbeaten _ List.mem_cons_self
    intro value member
    rcases List.mem_cons.mp member with rfl | member
    · exact inLine.chain final picked first low pair.1
    · rcases List.mem_cons.mp member with rfl | member
      · exact inLine.chain final picked second low pair.2
      · exact unbeaten value (List.mem_cons_of_mem _ member)

-- What is left of a list when of two values the better one stays, or the one that is no number.
structure Extreme (better : R → R → Bool) (values : List R) (x : R) : Prop where
  member : x ∈ values
  number : isNumber x = values.all isNumber
  unbeaten : InLine better → values.all isNumber = true → ∀ value ∈ values, better value x = false

theorem foldl_pick_extreme (better : R → R → Bool) (kept : R) (values : List R) :
    Extreme better (kept :: values) (values.foldl (pick better) kept) :=
  ⟨foldl_pick_mem better kept values,isNumber_foldl_pick better kept values,
    fun inLine numbers => inLine.foldl_pick kept values (List.all_eq_true.mp numbers)⟩

theorem least_extreme {values : List R} {x : R} (found : least values = some x) : Extreme below values x := by
  cases values with
  | nil => cases found
  | cons value rest => cases found; exact foldl_pick_extreme below value rest

theorem greatest_extreme {values : List R} {x : R} (found : greatest values = some x) :
    Extreme (fun x y => below y x) values x := by
  cases values with
  | nil => cases found
  | cons value rest => cases found; exact foldl_pick_extreme _ value rest

theorem sum_short {values : List R} (few : values.length < 8) : sum values = values.foldl (· + ·) 0.0 := by
  have lanes : laneSum values = values.foldl (· + ·) 0.0 := by
    rcases values with _ | ⟨_,_ | ⟨_,_ | ⟨_,_ | ⟨_,_ | ⟨_,_ | ⟨_,_ | ⟨_,_ | ⟨_,_⟩⟩⟩⟩⟩⟩⟩⟩
    all_goals first | rfl | (simp only [List.length_cons] at few; omega)
  unfold sum
  cases values with
  | nil => exact lanes
  | cons value rest =>
    have short : (value :: rest).length ≤ laneBlock := by unfold laneBlock; omega
    rw [List.length_cons,sumWithin,if_pos short,lanes]

end

section Rationals

theorem rational_inLine : InLine (below : Rat → Rat → Bool) where
  asymmetric {x y} _ _ less := by
    have less : x < y := of_decide_eq_true less
    exact decide_eq_false less.le.not_gt
  chain {x y z} _ _ _ lower upper := by
    have lower : ¬ y < x := of_decide_eq_false lower
    have upper : ¬ z < y := of_decide_eq_false upper
    exact decide_eq_false ((not_lt.mp lower).trans (not_lt.mp upper)).not_gt

-- Over exact numbers the lanes and the halves come to the same sum.
theorem foldl_add (start : Rat) (values : List Rat) : values.foldl (· + ·) start = start + values.sum := by
  induction values generalizing start with
  | nil => simp
  | cons value rest ih => rw [List.foldl_cons,ih,List.sum_cons,add_assoc]

theorem zipWith_add_sum {lanes more : List Rat} (even : lanes.length = more.length) :
    (List.zipWith (· + ·) lanes more).sum = lanes.sum + more.sum := by
  induction lanes generalizing more with
  | nil => simp [List.length_eq_zero_iff.mp even.symm]
  | cons lane lanes ih =>
    obtain ⟨next,rest,rfl⟩ := List.exists_cons_of_length_eq_add_one even.symm
    rw [List.zipWith_cons_cons,List.sum_cons,List.sum_cons,List.sum_cons,ih (Nat.succ.inj even)]
    ring

theorem addLanes_sum (lanes values : List Rat) (eight : lanes.length = 8) :
    (addLanes lanes values).1.sum + (addLanes lanes values).2.sum = lanes.sum + values.sum := by
  induction lanes, values using addLanes.induct with
  | case1 lanes a b c d e f g h rest ih =>
    rw [addLanes,ih (by simp [eight]),zipWith_add_sum eight]
    simp only [List.sum_cons,List.sum_nil]
    ring
  | case2 lanes rest short => rw [addLanes]; exact short

theorem laneSum_eq (values : List Rat) : laneSum values = values.sum := by
  unfold laneSum
  split
  · rename_i a b c d e f g h rest
    have total := addLanes_sum [a,b,c,d,e,f,g,h] rest rfl
    rw [show a :: b :: c :: d :: e :: f :: g :: h :: rest = [a,b,c,d,e,f,g,h] ++ rest from rfl,List.sum_append,← total]
    split
    · rename_i same
      rw [same,foldl_add]
      simp only [List.sum_cons,List.sum_nil]
      ring
    · rename_i same
      rw [same,foldl_add,List.sum_append]
      norm_num
  · rw [foldl_add]
    norm_num

theorem sum_eq (values : List Rat) : sum values = values.sum := by
  have within (depth : Nat) (values : List Rat) : sumWithin depth values = values.sum := by
    induction depth generalizing values with
    | zero => exact laneSum_eq values
    | succ depth ih =>
      rw [sumWithin]
      split
      · exact laneSum_eq values
      · dsimp only
        rw [ih,ih,List.sum_take_add_sum_drop]
  exact within _ values

theorem mean_eq {values : List Rat} (taken : values ≠ []) : mean values = .ok (values.sum / values.length) := by
  have counted : ((values.length : Int) : Rat) ≠ 0 := by simpa using taken
  change quotient (sum values) ((values.length : Int) : Rat) = _
  rw [quotient_eq _ counted,sum_eq,Int.cast_natCast]

end Rationals

section Doubles
open Float.Model Float.Model.UnpackedFloat

-- Where a double stands among all that are numbers: by its sign, and with the same sign by its exponent and significand.
def standing? : UnpackedFloat → Option (ℤ ×ₗ ℤ ×ₗ ℤ)
  | .notANumber => none
  | .infinity .negative => some (toLex (-2,toLex (0,0)))
  | .finite .negative m e _ => some (toLex (-1,toLex (-e,-m)))
  | .zero _ => some (toLex (0,toLex (0,0)))
  | .finite .positive m e _ => some (toLex (1,toLex (e,m)))
  | .infinity .positive => some (toLex (2,toLex (0,0)))

theorem lt_iff_standing {x y : UnpackedFloat} {left right : ℤ ×ₗ ℤ ×ₗ ℤ} (first : standing? x = some left)
    (second : standing? y = some right) : x.lt y = true ↔ left < right := by
  have ascending (e f : Int) (m n : Nat) : (compare e f).then (compare m n) = .lt ↔ e < f ∨ e = f ∧ m < n := by
    rw [Ordering.then_eq_lt,compare_lt_iff_lt,compare_eq_iff_eq,compare_lt_iff_lt]
  have descending (e f : Int) (m n : Nat) : (compare e f).then (compare m n) = .gt ↔ f < e ∨ e = f ∧ n < m := by
    rw [Ordering.then_eq_gt,compare_gt_iff_gt,compare_eq_iff_eq,compare_gt_iff_gt]
  have signs : compare Sign.negative Sign.positive = .lt := rfl
  rcases x with (_ | _) | _ | _ | ⟨_ | _,m,e,_⟩ <;> rcases y with (_ | _) | _ | _ | ⟨_ | _,n,f,_⟩ <;>
    cases first <;> cases second <;>
    simp [UnpackedFloat.lt,UnpackedFloat.compare,Prod.Lex.lt_iff,ascending,descending,signs]

theorem standing_of_number {x : Float} (number : isNumber x = true) : ∃ standing, standing? x.toModel.unpack = some standing := by
  have order : x ≤ x := of_decide_eq_true number
  have modelled : x.toModel ≤ x.toModel := of_decide_eq_true order
  have compared : x.toModel.unpack.le x.toModel.unpack = true := modelled
  generalize x.toModel.unpack = unpacked at compared
  rcases unpacked with (_ | _) | _ | _ | ⟨_ | _,m,e,_⟩ <;> first | cases compared; done | exact ⟨_,rfl⟩

theorem below_iff_standing {x y : Float} {left right : ℤ ×ₗ ℤ ×ₗ ℤ} (first : standing? x.toModel.unpack = some left)
    (second : standing? y.toModel.unpack = some right) : below x y = true ↔ left < right := by
  rw [← lt_iff_standing first second]
  change decide (decide (x.toModel.unpack.lt y.toModel.unpack = true) = true) = true ↔ _
  rw [decide_eq_true_iff,decide_eq_true_iff]

theorem double_inLine : InLine (below : Float → Float → Bool) where
  asymmetric {x y} first second less := by
    obtain ⟨left,first⟩ := standing_of_number first
    obtain ⟨right,second⟩ := standing_of_number second
    have less : left < right := (below_iff_standing first second).mp less
    exact Bool.eq_false_iff.mpr fun more => less.not_gt ((below_iff_standing second first).mp more)
  chain {x y z} first second third lower upper := by
    obtain ⟨bottom,first⟩ := standing_of_number first
    obtain ⟨middle,second⟩ := standing_of_number second
    obtain ⟨top,third⟩ := standing_of_number third
    have lower : ¬ middle < bottom := (below_iff_standing second first).not.mp (Bool.eq_false_iff.mp lower)
    have upper : ¬ top < middle := (below_iff_standing third second).not.mp (Bool.eq_false_iff.mp upper)
    have ordered : bottom ≤ top := (not_lt.mp lower).trans (not_lt.mp upper)
    exact Bool.eq_false_iff.mpr fun less => ordered.not_gt ((below_iff_standing third first).mp less)

end Doubles
end PitWall.Arithmetic

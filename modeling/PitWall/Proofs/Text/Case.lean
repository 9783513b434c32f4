import PitWall.Proofs.Text.Ascii
import PitWall.Proofs.Text.Lines
import PitWall.Text.Case

namespace PitWall.Text
open CaseData

def CaseData.Run.scalars (run : Run) : List Nat :=
  (List.range ((run.last - run.first) / run.stride + 1)).map fun (step : Nat) => run.first + run.stride * step

def CaseData.Run.images (run : Run) : List Nat :=
  run.scalars.map fun (scalar : Nat) => (scalar + run.shift).toNat

theorem CaseData.Run.mem_scalars {run : Run} {scalar : Nat} (covered : run.covers scalar = true) :
    scalar ∈ run.scalars := by
  simp only [Run.covers,Bool.and_eq_true,decide_eq_true_eq,beq_iff_eq] at covered
  obtain ⟨⟨low,high⟩,whole⟩ := covered
  refine List.mem_map.mpr ⟨(scalar - run.first) / run.stride,?_,?_⟩
  · rw [List.mem_range]
    have := Nat.div_le_div_right (c := run.stride) (Nat.sub_le_sub_right high run.first)
    omega
  · have := Nat.mul_div_cancel' (Nat.dvd_of_mod_eq_zero whole)
    omega

-- A set of scalars as one number: the kernel looks a bit up at once.
def bitsOf (scalars : List Nat) : Nat := scalars.foldr (fun scalar bits => bits ||| 1 <<< scalar) 0

theorem testBit_bitsOf {scalars : List Nat} {scalar : Nat} (member : scalar ∈ scalars) :
    (bitsOf scalars).testBit scalar = true := by
  induction scalars with
  | nil => cases member
  | cons first rest ih =>
    rw [bitsOf,List.foldr_cons,Nat.testBit_or,Bool.or_eq_true]
    rcases List.mem_cons.mp member with rfl | later
    · exact .inr (by simp [Nat.testBit_shiftLeft])
    · exact .inl (ih later)

def rangeScalars (range : Nat × Nat) : List Nat := (List.range (range.2 + 1 - range.1)).map (range.1 + ·)

theorem mem_rangeScalars {range : Nat × Nat} {scalar : Nat} (low : range.1 ≤ scalar) (high : scalar ≤ range.2) :
    scalar ∈ rangeScalars range :=
  List.mem_map.mpr ⟨scalar - range.1,by rw [List.mem_range]; omega,by omega⟩

namespace Casing

def domain (casing : Casing) : List Nat :=
  (List.range 128).filter (fun n => casing.ascii (Char.ofNat n) ≠ Char.ofNat n)
    ++ casing.longer.map (·.1) ++ casing.runs.flatMap (·.scalars)

def images (casing : Casing) : List Nat := casing.longer.flatMap (·.2) ++ casing.runs.flatMap (·.images)

-- A scalar that a text in this case could not hold, or that would be taken for white space or for a
-- separator of tags.
def unsettled (casing : Casing) : List Nat :=
  casing.domain ++ blankRanges.flatMap rangeScalars ++ [','.toNat]

def settles (casing : Casing) : Bool :=
  let bits := bitsOf casing.unsettled
  casing.images.all (fun n => !bits.testBit (Char.ofNat n).toNat) && casing.longer.all (!·.2.isEmpty)

-- A character that its own case leaves alone, and that neither trimming nor cutting would remove.
structure Settled (casing : Casing) (c : Char) : Prop where
  fixed : casing.letters c = [c]
  dark : isBlank c = false
  whole : c ≠ ','

structure Form (casing : Casing) (c : Char) (form : List Char) : Prop where
  nonempty : form ≠ []
  kept : form = [c] ∧ casing.letters c = [c] ∨ ∀ d ∈ form, casing.Settled d

theorem letters_fixed {casing : Casing} {c : Char} (outside : c.toNat ∉ casing.domain) :
    casing.letters c = [c] := by
  simp only [domain,List.mem_append,not_or] at outside
  obtain ⟨⟨ascii,longer⟩,runs⟩ := outside
  unfold letters
  split
  · rename_i low
    have same : casing.ascii (Char.ofNat c.toNat) = Char.ofNat c.toNat := by
      by_cases same : casing.ascii (Char.ofNat c.toNat) = Char.ofNat c.toNat
      · exact same
      · exact absurd (List.mem_filter.mpr ⟨List.mem_range.mpr low,by simpa using same⟩) ascii
    rw [Char.ofNat_toNat] at same
    rw [same]
  · have noLonger : casing.longer.find? (·.1 == c.toNat) = none := by
      rw [List.find?_eq_none]
      intro entry member equal
      exact longer (List.mem_map.mpr ⟨entry,member,by simpa using equal⟩)
    have noRun : casing.runs.find? (·.covers c.toNat) = none := by
      rw [List.find?_eq_none]
      intro run member covered
      exact runs (List.mem_flatMap.mpr ⟨run,member,run.mem_scalars (by simpa using covered)⟩)
    simp [noLonger,moved,noRun]

theorem settled_of_outside {casing : Casing} {c : Char} (outside : c.toNat ∉ casing.unsettled) :
    casing.Settled c := by
  simp only [unsettled,List.mem_append,not_or] at outside
  obtain ⟨⟨domain,blanks⟩,comma⟩ := outside
  refine ⟨letters_fixed domain,?_,?_⟩
  · cases blank : isBlank c with
    | false => rfl
    | true =>
      simp only [isBlank,inRanges,List.any_eq_true,Bool.and_eq_true,decide_eq_true_eq] at blank
      obtain ⟨range,member,low,high⟩ := blank
      exact absurd (List.mem_flatMap.mpr ⟨range,member,mem_rangeScalars low high⟩) blanks
  · rintro rfl
    exact comma (List.mem_singleton.mpr rfl)

theorem settled_of_image {casing : Casing} (settles : casing.settles = true) {n : Nat}
    (image : n ∈ casing.images) : casing.Settled (Char.ofNat n) := by
  have apart := List.all_eq_true.mp (Bool.and_eq_true_iff.mp settles).1 n image
  refine settled_of_outside fun member => ?_
  rw [testBit_bitsOf member] at apart
  cases apart

theorem moved_cases (runs : List Run) (c : Char) :
    moved runs c = [c] ∨
      ∃ run ∈ runs, run.covers c.toNat = true ∧ moved runs c = [Char.ofNat (c.toNat + run.shift).toNat] := by
  unfold moved
  split
  · rename_i run found
    have covered : run.covers c.toNat = true := List.find?_some (p := fun run : Run => run.covers c.toNat) found
    exact .inr ⟨run,List.mem_of_find?_eq_some found,covered,rfl⟩
  · exact .inl rfl

theorem form_beyond {casing : Casing} (settles : casing.settles = true) {c : Char} (beyond : ¬ c.toNat < 128) :
    casing.Form c (casing.letters c) := by
  unfold letters
  rw [if_neg beyond]
  split
  · rename_i first letters found
    have member := List.mem_of_find?_eq_some found
    have nonempty := List.all_eq_true.mp (Bool.and_eq_true_iff.mp settles).2 _ member
    refine ⟨by simpa using nonempty,.inr ?_⟩
    intro d inside
    obtain ⟨n,among,rfl⟩ := List.mem_map.mp inside
    exact settled_of_image settles
      (List.mem_append_left _ (List.mem_flatMap.mpr ⟨(first,letters),member,among⟩))
  · rename_i noLonger
    rcases moved_cases casing.runs c with same | ⟨run,member,covered,same⟩
    · have fixed : casing.letters c = [c] := by
        unfold letters
        rw [if_neg beyond,noLonger]
        exact same
      exact ⟨by simp [same],.inl ⟨same,fixed⟩⟩
    · rw [same]
      refine ⟨by simp,.inr ?_⟩
      intro d inside
      rw [List.mem_singleton.mp inside]
      refine settled_of_image settles (List.mem_append_right _ (List.mem_flatMap.mpr ⟨run,member,?_⟩))
      exact List.mem_map.mpr ⟨c.toNat,run.mem_scalars covered,rfl⟩

def asciiSettles (casing : Casing) (c : Char) : Prop :=
  casing.ascii c = c ∨
    ((casing.ascii c).toNat < 128 ∧ casing.ascii (casing.ascii c) = casing.ascii c ∧
      isBlank (casing.ascii c) = false ∧ casing.ascii c ≠ ',')

theorem form_letters {casing : Casing} (settles : casing.settles = true)
    (ascii : ∀ c : Char, c.toNat < 128 → casing.asciiSettles c) (c : Char) :
    casing.Form c (casing.letters c) := by
  by_cases low : c.toNat < 128
  · have letters_low {d : Char} (low : d.toNat < 128) : casing.letters d = [casing.ascii d] := by
      unfold letters; rw [if_pos low]
    rw [letters_low low]
    rcases ascii c low with same | ⟨still,twice,dark,whole⟩
    · exact ⟨by simp,.inl ⟨by rw [same],by rw [letters_low low,same]⟩⟩
    · refine ⟨by simp,.inr ?_⟩
      intro d inside
      rw [List.mem_singleton.mp inside]
      exact ⟨by rw [letters_low still,twice],dark,whole⟩
  · exact form_beyond settles low

inductive Recased (casing : Casing) : List Char → List Char → Prop where
  | nil : Recased casing [] []
  | cons (form : casing.Form c shown) (rest : Recased casing s t) : Recased casing (c :: s) (shown ++ t)

namespace Recased
variable {casing : Casing} {s t : List Char}

theorem letters_eq (recased : casing.Recased s t) : ∀ d ∈ t, casing.letters d = [d] := by
  induction recased with
  | nil => intro d inside; cases inside
  | cons form rest ih =>
    intro d inside
    rcases List.mem_append.mp inside with here | later
    · rcases form.kept with ⟨rfl,same⟩ | settled
      · rwa [List.mem_singleton.mp here]
      · exact (settled d here).fixed
    · exact ih d later

theorem mem_of_blank_or_comma (recased : casing.Recased s t) : ∀ d ∈ t, isBlank d = true ∨ d = ',' → d ∈ s := by
  induction recased with
  | nil => intro d inside; cases inside
  | cons form rest ih =>
    intro d inside taken
    rcases List.mem_append.mp inside with here | later
    · rcases form.kept with ⟨rfl,_⟩ | settled
      · rw [List.mem_singleton.mp here]; exact List.mem_cons_self
      · obtain ⟨_,dark,whole⟩ := settled d here
        rcases taken with blank | comma
        · rw [dark] at blank; cases blank
        · exact absurd comma whole
    · exact List.mem_cons_of_mem _ (ih d later taken)

theorem nil_iff (recased : casing.Recased s t) : t = [] ↔ s = [] := by
  cases recased with
  | nil => simp
  | cons form rest => simp [form.nonempty]

theorem head_not_blank (recased : casing.Recased s t) (first : ∀ c ∈ s.head?, isBlank c = false) :
    ∀ d ∈ t.head?, isBlank d = false := by
  cases recased with
  | nil => exact first
  | @cons c shown s t form rest =>
    obtain ⟨d,others,same⟩ := List.exists_cons_of_ne_nil form.nonempty
    have start : (shown ++ t).head? = some d := by simp [same]
    intro e head
    rw [start] at head
    cases head
    rcases form.kept with ⟨one,_⟩ | settled
    · rw [one] at same
      cases same
      exact first c rfl
    · exact (settled d (by simp [same])).dark

theorem last_not_blank (recased : casing.Recased s t) (last : ∀ c ∈ s.getLast?, isBlank c = false) :
    ∀ d ∈ t.getLast?, isBlank d = false := by
  induction recased with
  | nil => exact last
  | @cons c shown s t form rest ih =>
    intro d final
    by_cases ended : s = []
    · rw [rest.nil_iff.mpr ended,List.append_nil] at final
      rcases form.kept with ⟨one,_⟩ | settled
      · rw [one] at final
        cases final
        exact last c (by simp [ended])
      · exact (settled d (List.mem_of_getLast? final)).dark
    · have more : t ≠ [] := fun empty => ended (rest.nil_iff.mp empty)
      refine ih (fun e final => last e ?_) d ?_
      · rw [List.getLast?_cons_of_ne_nil ended]; exact final
      · cases ending : t.getLast? with
        | none => exact absurd (List.getLast?_eq_none_iff.mp ending) more
        | some e => rw [List.getLast?_append,ending] at final; exact final

theorem trimmed (recased : casing.Recased s t) (trimmed : Trimmed s) : Trimmed t :=
  ⟨recased.head_not_blank trimmed.first,recased.last_not_blank trimmed.last⟩

end Recased
end Casing

theorem capitals_settle : capitals.settles = true := by decide +kernel
theorem smallLetters_settle : smallLetters.settles = true := by decide +kernel

theorem capitals_form (c : Char) : capitals.Form c (upperOf c) := by
  refine Casing.form_letters capitals_settle (fun c low => ?_) c
  exact ascii_all (P := capitals.asciiSettles) (by unfold Casing.asciiSettles; decide) c low

theorem smallLetters_form (c : Char) : smallLetters.Form c (lowerOf c) := by
  refine Casing.form_letters smallLetters_settle (fun c low => ?_) c
  exact ascii_all (P := smallLetters.asciiSettles) (by unfold Casing.asciiSettles; decide) c low

theorem upper_recased (s : List Char) : capitals.Recased s (upper s) := by
  induction s with
  | nil => exact .nil
  | cons c s ih => exact .cons (capitals_form c) ih

theorem upper_fixed {s : List Char} (fixed : ∀ c ∈ s, upperOf c = [c]) : upper s = s := by
  induction s with
  | nil => rfl
  | cons c s ih =>
    have rest := ih fun d inside => fixed d (List.mem_cons_of_mem _ inside)
    unfold upper at rest ⊢
    rw [List.flatMap_cons,fixed c List.mem_cons_self,rest]
    rfl

theorem upper_upper (s : List Char) : upper (upper s) = upper s := upper_fixed (upper_recased s).letters_eq

theorem sigma_settled (form : Char) (small : form = 'ς' ∨ form = 'σ') : smallLetters.Settled form := by
  rcases small with rfl | rfl
  · exact ⟨by decide +kernel,by decide,by decide⟩
  · exact ⟨by decide +kernel,by decide,by decide⟩

theorem lowerFrom_recased (before s : List Char) : smallLetters.Recased s (lowerFrom before s) := by
  induction s generalizing before with
  | nil => exact .nil
  | cons c s ih =>
    unfold lowerFrom
    split
    · refine .cons ⟨by simp,.inr ?_⟩ (ih _)
      intro d inside
      rw [List.mem_singleton.mp inside]
      refine sigma_settled _ ?_
      split
      · exact .inl rfl
      · exact .inr rfl
    · exact .cons (smallLetters_form c) (ih _)

theorem lower_recased (s : List Char) : smallLetters.Recased s (lower s) := lowerFrom_recased [] s

theorem capitalSigma_unfixed : lowerOf capitalSigma ≠ [capitalSigma] := by decide +kernel

theorem lowerFrom_fixed {s : List Char} (before : List Char) (fixed : ∀ c ∈ s, lowerOf c = [c]) :
    lowerFrom before s = s := by
  induction s generalizing before with
  | nil => rfl
  | cons c s ih =>
    have own := fixed c List.mem_cons_self
    have small : c ≠ capitalSigma := by
      rintro rfl
      exact capitalSigma_unfixed own
    rw [lowerFrom,if_neg small,own,ih _ fun d inside => fixed d (List.mem_cons_of_mem _ inside)]
    rfl

theorem lower_lower (s : List Char) : lower (lower s) = lower s :=
  lowerFrom_fixed [] (lower_recased s).letters_eq

end PitWall.Text

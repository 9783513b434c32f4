import PitWall.Proofs.Text.Lines
import PitWall.Text.Case

namespace PitWall.Text

-- What does not tell a capital of ASCII from its small letter does not see a text put into small letters.
theorem toLower_unseen {α : Type} {f : Char → α}
    (capitals : ∀ n < 26, f (Char.ofNat (n + 65)).toLower = f (Char.ofNat (n + 65))) (c : Char) : f c.toLower = f c := by
  by_cases capital : 65 ≤ c.toNat ∧ c.toNat ≤ 90
  · have one := capitals (c.toNat - 65) (by omega)
    rwa [Nat.sub_add_cancel capital.1,Char.ofNat_toNat] at one
  · have same : c.toLower = c := by
      unfold Char.toLower
      split
      · rename_i between
        exact absurd ⟨UInt32.le_iff_toNat_le.mp between.1,UInt32.le_iff_toNat_le.mp between.2⟩ capital
      · rfl
    rw [same]

theorem isBlank_toLower (c : Char) : isBlank c.toLower = isBlank c := toLower_unseen (by decide) c
theorem isCased_toLower (c : Char) : isCased c.toLower = isCased c := toLower_unseen (by decide +kernel) c
theorem isPassedOver_toLower (c : Char) : isPassedOver c.toLower = isPassedOver c := toLower_unseen (by decide +kernel) c
theorem upperOf_toLower (c : Char) : upperOf c.toLower = upperOf c := toLower_unseen (by decide) c
theorem lowerOf_toLower (c : Char) : lowerOf c.toLower = lowerOf c := toLower_unseen (by decide) c

def Unpaired (separator : Char) : Prop := ∀ c : Char, c.toLower = separator ↔ c = separator

theorem unpaired_of_capitals {separator : Char}
    (capitals : ∀ n < 26, decide ((Char.ofNat (n + 65)).toLower = separator) = decide (Char.ofNat (n + 65) = separator)) :
    Unpaired separator := fun c =>
  decide_eq_decide.mp (toLower_unseen (f := fun c => decide (c = separator)) capitals c)

theorem lineFeed_unpaired : Unpaired '\n' := unpaired_of_capitals (by decide)
theorem comma_unpaired : Unpaired ',' := unpaired_of_capitals (by decide)
theorem capitalSigma_unpaired : Unpaired capitalSigma := unpaired_of_capitals (by decide)

theorem upper_lowerAscii (s : List Char) : upper (lowerAscii s) = upper s := by
  simp only [upper,lowerAscii,List.flatMap_map,upperOf_toLower]

theorem meetsCased_lowerAscii (s : List Char) : meetsCased (lowerAscii s) = meetsCased s := by
  have passed : isPassedOver ∘ Char.toLower = isPassedOver := funext isPassedOver_toLower
  rw [meetsCased,lowerAscii,List.dropWhile_map,passed,List.head?_map,Option.any_map]
  simp only [isCased_toLower]
  rfl

-- Of the neighbours of a capital sigma it only counts whether they are cased, not what case they are in.
theorem lowerFrom_lowerAscii (before s : List Char) :
    lowerFrom (lowerAscii before) (lowerAscii s) = lowerFrom before s := by
  induction s generalizing before with
  | nil => rfl
  | cons c s ih =>
    have rest : lowerFrom (c.toLower :: lowerAscii before) (lowerAscii s) = lowerFrom (c :: before) s := ih (c :: before)
    have whole : lowerAscii (c :: s) = c.toLower :: lowerAscii s := rfl
    rw [whole,lowerFrom,lowerFrom,rest,lowerOf_toLower,meetsCased_lowerAscii before,meetsCased_lowerAscii s]
    simp only [capitalSigma_unpaired c]

theorem lower_lowerAscii (s : List Char) : lower (lowerAscii s) = lower s := lowerFrom_lowerAscii [] s

-- Trimming and cutting go by characters that have no case.
theorem trim_lowerAscii (s : List Char) : trim (lowerAscii s) = lowerAscii (trim s) := by
  have blank : isBlank ∘ Char.toLower = isBlank := funext isBlank_toLower
  simp only [trim,trimEnd,trimStart,lowerAscii,List.dropWhile_map,← List.map_reverse,blank]

theorem cut_lowerAscii {separator : Char} (unpaired : Unpaired separator) (s : List Char) :
    cut separator (lowerAscii s) = (cut separator s).map lowerAscii := by
  induction s with
  | nil => rfl
  | cons c s ih =>
    have whole : lowerAscii (c :: s) = c.toLower :: lowerAscii s := rfl
    by_cases separates : c = separator
    · rw [whole,cut,if_pos ((unpaired c).mpr separates),cut,if_pos separates,ih]
      rfl
    · obtain ⟨piece,pieces,rest,same⟩ := cut_cons_other separates s
      rw [whole,cut,if_neg fun folded => separates ((unpaired c).mp folded),ih,rest,same]
      rfl

end PitWall.Text

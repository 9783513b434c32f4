import Mathlib
import PitWall.Proofs.Sheet.Pattern
import PitWall.Sheet.Sections
import PitWall.Sheet.Writer

namespace PitWall

class Vocabulary.Lawful (α : Type) [Vocabulary α] : Prop where
  complete : ∀ member : α, member ∈ Vocabulary.all
  apart : ∀ left right : α, Vocabulary.spelling left = Vocabulary.spelling right → left = right
  word : ∀ member : α, Sheet.Field.word.Holds (Sheet.spelled member)

theorem Vocabulary.ofSpelling?_eq_some_iff {α : Type} [Vocabulary α] [lawful : Lawful α] {word : String}
    {member : α} : ofSpelling? word = some member ↔ spelling member = word := by
  unfold ofSpelling?
  constructor
  · intro found
    simpa using List.find?_some found
  · rintro rfl
    cases found : all.find? fun other : α => spelling other == spelling member with
    | none =>
      have missed := List.find?_eq_none.mp found member (lawful.complete member)
      simp at missed
    | some other =>
      have same : spelling other = spelling member := by simpa using List.find?_some found
      rw [lawful.apart other member same]

theorem Vocabulary.Lawful.of_list {α : Type} [Vocabulary α] (complete : ∀ member : α, member ∈ Vocabulary.all)
    (distinct : (Vocabulary.all.map (Vocabulary.spelling (α := α))).Nodup)
    (words : ∀ member ∈ Vocabulary.all (α := α), Sheet.spelled member ≠ [] ∧
      (Sheet.spelled member).all Sheet.isWordChar = true) : Lawful α where
  complete := complete
  apart left right := List.inj_on_of_nodup_map distinct (complete left) (complete right)
  word member := ⟨(words member (complete member)).1,List.all_eq_true.mp (words member (complete member)).2⟩

theorem Vocabulary.spelling_inj {α : Type} [Vocabulary α] [lawful : Lawful α] {left right : α} :
    spelling left = spelling right ↔ left = right :=
  ⟨lawful.apart left right,congrArg spelling⟩

instance : Vocabulary.Lawful Weather := .of_list (by rintro ⟨⟩ <;> decide) (by decide) (by decide)
instance : Vocabulary.Lawful PaceClass := .of_list (by rintro ⟨⟩ <;> decide) (by decide) (by decide)
instance : Vocabulary.Lawful RiskProfile := .of_list (by rintro ⟨⟩ <;> decide) (by decide) (by decide)
instance : Vocabulary.Lawful Difficulty := .of_list (by rintro ⟨⟩ <;> decide) (by decide) (by decide)
instance : Vocabulary.Lawful AeroDemand := .of_list (by rintro ⟨⟩ <;> decide) (by decide) (by decide)
instance : Vocabulary.Lawful Compound := .of_list (by rintro ⟨⟩ <;> decide) (by decide) (by decide)
instance : Vocabulary.Lawful Sheet.Section := .of_list (by rintro ⟨⟩ <;> decide) (by decide) (by decide)

namespace Sheet
open Text

-- A word of a sheet names a member by its spelling in either ASCII case.
def Names {α : Type} [Vocabulary α] (word : List Char) (member : α) : Prop := SameLetters (spelled member) word

theorem names_spelled {α : Type} [Vocabulary α] (member : α) : Names (spelled member) member := rfl

def SpelledIn (α : Type) [Vocabulary α] (fold : List Char → List Char) : Prop :=
  ∀ member : α, fold (spelled member) = spelled member

theorem wordIn_eq_ok_iff {α : Type} [Vocabulary α] [Vocabulary.Lawful α] {term : Term} {word folded : List Char}
    {member : α} : wordIn term word folded = .ok member ↔ folded = spelled member := by
  unfold wordIn spelled
  cases found : Vocabulary.ofSpelling? (α := α) (String.ofList folded) with
  | none =>
    simp only [reduceCtorEq,false_iff]
    rintro rfl
    rw [String.ofList_toList,Vocabulary.ofSpelling?_eq_some_iff.mpr rfl] at found
    cases found
  | some other =>
    have same := Vocabulary.ofSpelling?_eq_some_iff.mp found
    simp only [Except.ok.injEq]
    constructor
    · rintro rfl
      rw [same,String.toList_ofList]
    · rintro rfl
      rw [String.ofList_toList] at same
      exact Vocabulary.Lawful.apart other member same

theorem lowerAscii_upperAscii (s : List Char) : lowerAscii (upperAscii s) = lowerAscii s := by
  simp [lowerAscii,upperAscii]

theorem upperAscii_lowerAscii (s : List Char) : upperAscii (lowerAscii s) = upperAscii s := by
  simp [lowerAscii,upperAscii]

theorem term_eq_ok_iff {α : Type} [Vocabulary α] [Vocabulary.Lawful α] (small : SpelledIn α lowerAscii)
    {place : Term} {word : List Char} {member : α} : term place word = .ok member ↔ Names word member := by
  unfold term Names SameLetters
  rw [wordIn_eq_ok_iff]
  have fold : (spelled member).map Char.toLower = spelled member := small member
  rw [fold]
  exact eq_comm

theorem compound_names_iff {word : List Char} {member : Compound} :
    upperAscii word = spelled member ↔ Names word member := by
  have fold : upperAscii (spelled member) = spelled member := by cases member <;> rfl
  unfold Names SameLetters
  constructor
  · intro same
    change lowerAscii (spelled member) = lowerAscii word
    rw [← same,lowerAscii_upperAscii]
  · intro same
    change lowerAscii (spelled member) = lowerAscii word at same
    rw [← upperAscii_lowerAscii,← same,upperAscii_lowerAscii,fold]

theorem compoundTerm_eq_ok_iff {word : List Char} {member : Compound} :
    compoundTerm word = .ok member ↔ Names word member := by
  unfold compoundTerm
  rw [wordIn_eq_ok_iff,compound_names_iff]

theorem weather_small : SpelledIn Weather lowerAscii := by intro member; cases member <;> rfl
theorem paceClass_small : SpelledIn PaceClass lowerAscii := by intro member; cases member <;> rfl
theorem riskProfile_small : SpelledIn RiskProfile lowerAscii := by intro member; cases member <;> rfl
theorem difficulty_small : SpelledIn Difficulty lowerAscii := by intro member; cases member <;> rfl
theorem aeroDemand_small : SpelledIn AeroDemand lowerAscii := by intro member; cases member <;> rfl

end Sheet
end PitWall

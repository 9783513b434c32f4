import PitWall.Proofs.Sheet.Verdict
import PitWall.Proofs.Text.Letters

namespace PitWall

-- Parts of a document that may be written in other words; all that a race depends on is the same.
section
variable (text : List Char → List Char → Prop)

structure Turn.Alike (left right : Turn) : Prop where
  number : left.number = right.number
  name : text left.name.toList right.name.toList
  tags : left.tags = right.tags
  note : text left.note.toList right.note.toList

structure PreviousWinner.Alike (left right : PreviousWinner) : Prop where
  year : left.year = right.year
  label : text left.label.toList right.label.toList
  stints : left.stints = right.stints

structure Strategy.Alike (left right : Strategy) : Prop where
  label : text left.label.toList right.label.toList
  stints : left.stints = right.stints

structure Document.Alike {R : Type} (left right : Document R) : Prop where
  race : left.race = right.race
  car : left.car = right.car
  aero : left.track.aero = right.track.aero
  difficulty : left.track.difficulty = right.track.difficulty
  chance : left.track.overtakingChance = right.track.overtakingChance
  turns : List.Forall₂ (Turn.Alike text) left.track.turns right.track.turns
  winner : Option.Rel (PreviousWinner.Alike text) left.track.winner right.track.winner
  strategy : Strategy.Alike text left.strategy right.strategy

end

theorem eq_of_rel {α : Type} {left right : Option α} (same : Option.Rel Eq left right) : left = right := by
  cases same with
  | none => rfl
  | some same => rw [same]

theorem rel_self {α : Type} (found : Option α) : Option.Rel Eq found found := by
  cases found with
  | none => exact .none
  | some value => exact .some rfl

theorem rel_imp {α : Type} {R S : α → α → Prop} {left right : Option α} (found : Option.Rel R left right)
    (each : ∀ one other, R one other → S one other) : Option.Rel S left right := by
  cases found with
  | none => exact .none
  | some alike => exact .some (each _ _ alike)

theorem isSome_of_rel {α : Type} {R : α → α → Prop} {left right : Option α} (found : Option.Rel R left right) :
    left.isSome = right.isSome := by
  cases found <;> rfl

theorem rel_bind {α β : Type} {R : α → α → Prop} {S : β → β → Prop} {left right : Option α} {f g : α → Option β}
    (found : Option.Rel R left right) (each : ∀ one other, R one other → Option.Rel S (f one) (g other)) :
    Option.Rel S (left.bind f) (right.bind g) := by
  cases found with
  | none => exact .none
  | some alike => exact each _ _ alike

namespace Sheet
open Text

inductive Problem.Alike (text : List Char → List Char → Prop) : Problem → Problem → Prop where
  | same (problem : Problem) : Alike text problem problem
  | malformed (alike : text s t) : Alike text (.malformed kind s) (.malformed kind t)
  | unknownTerm (alike : text s t) : Alike text (.unknownTerm named s) (.unknownTerm named t)
  | winnerCompound (alike : text s t) : Alike text (.winnerCompound s) (.winnerCompound t)

theorem Problem.Alike.place {text : List Char → List Char → Prop} {left right : Problem}
    (alike : Problem.Alike text left right) : left.place = right.place := by
  cases alike <;> rfl

namespace SameLetters
variable {s t : List Char}

theorem upper_eq (same : SameLetters s t) : upper s = upper t := by
  rw [← upper_lowerAscii s,← upper_lowerAscii t]
  exact congrArg upper same

theorem lowerAscii_eq (same : SameLetters s t) : lowerAscii s = lowerAscii t := same

theorem upperAscii_eq (same : SameLetters s t) : upperAscii s = upperAscii t := by
  rw [← upperAscii_lowerAscii s,← upperAscii_lowerAscii t]
  exact congrArg upperAscii same

theorem riskTags_eq (same : SameLetters s t) : riskTags s = riskTags t := by
  have folded (run : List Char) : riskTags (lowerAscii run) = riskTags run := by
    unfold riskTags
    rw [cut_lowerAscii comma_unpaired,List.map_map]
    simp only [Function.comp_def,trim_lowerAscii,lower_lowerAscii]
  rw [← folded s,← folded t]
  exact congrArg riskTags same

theorem isEmpty_eq (same : SameLetters s t) : s.isEmpty = t.isEmpty := by
  simpa using congrArg List.isEmpty same

theorem refl (s : List Char) : SameLetters s s := rfl

theorem append {others more : List Char} (first : SameLetters s t) (second : SameLetters others more) :
    SameLetters (s ++ others) (t ++ more) := by
  unfold SameLetters at first second ⊢
  rw [List.map_append,List.map_append,first,second]

theorem split {other : List Char} (same : SameLetters (s ++ t) other) :
    ∃ front rest, other = front ++ rest ∧ SameLetters s front ∧ SameLetters t rest := by
  obtain ⟨front,rest,whole,first,second⟩ := List.map_eq_append_iff.mp (same.symm.trans List.map_append)
  exact ⟨front,rest,whole,first.symm,second.symm⟩

-- A condition that does not tell the two letters of a pair apart holds of both texts or of neither.
theorem all {p : Char → Bool} (unseen : ∀ c, p c.toLower = p c) (same : SameLetters s t)
    (inside : ∀ c ∈ s, p c = true) : ∀ c ∈ t, p c = true := by
  intro c member
  have folded : c.toLower ∈ s.map Char.toLower := by
    rw [same]
    exact List.mem_map_of_mem member
  obtain ⟨d,among,equal⟩ := List.mem_map.mp folded
  rw [← unseen c,← equal,unseen d]
  exact inside d among

end SameLetters

theorem isGap_toLower (c : Char) : isGap c.toLower = isGap c := toLower_unseen (by decide) c

theorem Field.admits_toLower (kind : Field) (c : Char) : kind.admits c.toLower = kind.admits c := by
  cases kind <;> exact toLower_unseen (by decide) c

theorem Field.accepts_lowerAscii (kind : Field) (run : List Char) : kind.accepts (lowerAscii run) = kind.accepts run := by
  cases kind with
  | numeral =>
    have digits : isDigit ∘ Char.toLower = isDigit := funext (Field.admits_toLower .count)
    have points : (lowerAscii run).count '.' = run.count '.' := by
      have point : (· == '.') ∘ Char.toLower = (· == '.') := funext (toLower_unseen (f := (· == '.')) (by decide))
      rw [List.count,lowerAscii,List.countP_map,point]
    rw [Field.accepts,Field.accepts,points,lowerAscii,List.any_map,digits]
  | _ => simp [Field.accepts,lowerAscii]

theorem Field.Holds.recased {kind : Field} {run other : List Char} (holds : kind.Holds run)
    (same : SameLetters run other) : kind.Holds other := by
  obtain ⟨admitted,accepted⟩ := Field.holds_iff.mp holds
  refine Field.holds_iff.mpr ⟨same.all kind.admits_toLower admitted,?_⟩
  rw [← kind.accepts_lowerAscii other,← same.lowerAscii_eq,kind.accepts_lowerAscii run]
  exact accepted

def Field.Alike (text : List Char → List Char → Prop) : Field → List Char → List Char → Prop
  | .count, left, right => left = right
  | .numeral, left, right => left = right
  | _, left, right => text left right

inductive CapturedAlike (text : List Char → List Char → Prop) :
    List Field → List (List Char) → List (List Char) → Prop where
  | nil : CapturedAlike text [] [] []
  | cons (own : kind.Alike text left right) (rest : CapturedAlike text kinds captures others) :
      CapturedAlike text (kind :: kinds) (left :: captures) (right :: others)

theorem numeral_folds {c : Char} (admitted : Field.numeral.admits c = true) : c.toLower = c := by
  by_cases ascii : c.toNat < 128
  · exact ascii_all (P := fun c => Field.numeral.admits c = true → c.toLower = c) (by decide) c ascii admitted
  · exact toLower_beyond (Nat.le_of_not_lt ascii)

theorem SameLetters.eq_of_numerals {s t : List Char} (same : SameLetters s t)
    (left : ∀ c ∈ s, Field.numeral.admits c = true) (right : ∀ c ∈ t, Field.numeral.admits c = true) : s = t := by
  have fixed {text : List Char} (numeral : ∀ c ∈ text, Field.numeral.admits c = true) : text.map Char.toLower = text :=
    (List.map_congr_left fun c inside => numeral_folds (numeral c inside)).trans (List.map_id text)
  rw [← fixed left,← fixed right]
  exact same

theorem Field.Holds.alike {kind : Field} {run other : List Char} (holds : kind.Holds run)
    (same : SameLetters run other) : kind.Alike SameLetters run other := by
  have left := (Field.holds_iff.mp holds).1
  have right := (Field.holds_iff.mp (holds.recased same)).1
  cases kind with
  | numeral => exact same.eq_of_numerals left right
  | count =>
    have digit {text : List Char} (digits : ∀ c ∈ text, Field.count.admits c = true) :
        ∀ c ∈ text, Field.numeral.admits c = true := fun c inside => Bool.or_eq_true_iff.mpr (.inl (digits c inside))
    exact same.eq_of_numerals (digit left) (digit right)
  | _ => exact same

theorem Pattern.Fits.alike {text : List Char → List Char → Prop} (same : ∀ s, text s s) {pattern : Pattern}
    {line : List Char} {captures : List (List Char)} (fits : pattern.Fits line captures) :
    CapturedAlike text pattern.fields captures captures := by
  induction fits with
  | done => exact .nil
  | literal _ _ ih => exact ih
  | gap _ _ _ ih => exact ih
  | @field kind run _ _ _ _ _ ih => exact .cons (by cases kind <;> first | rfl | exact same run) ih

-- A line in other letters fits the same pattern: literals are met in either case, and no field tells the
-- two letters of a pair apart.
theorem Pattern.Fits.recased {pattern : Pattern} {line other : List Char} {captures : List (List Char)}
    (fits : pattern.Fits line captures) (same : SameLetters line other) :
    ∃ others, pattern.Fits other others ∧ CapturedAlike SameLetters pattern.fields captures others := by
  induction fits generalizing other with
  | done =>
    have unwritten : other = [] := by simpa [SameLetters] using same.symm
    subst unwritten
    exact ⟨[],.done,.nil⟩
  | literal literal _ ih =>
    obtain ⟨shown,rest,rfl,first,second⟩ := same.split
    obtain ⟨others,fits,alike⟩ := ih second
    exact ⟨others,.literal (literal.trans first) fits,alike⟩
  | gap taken blank _ ih =>
    obtain ⟨gap,rest,rfl,first,second⟩ := same.split
    obtain ⟨others,fits,alike⟩ := ih second
    have more : gap ≠ [] := by
      rintro rfl
      exact taken (List.map_eq_nil_iff.mp first)
    exact ⟨others,.gap more (first.all isGap_toLower blank) fits,alike⟩
  | field holds _ ih =>
    obtain ⟨run,rest,rfl,first,second⟩ := same.split
    obtain ⟨others,fits,alike⟩ := ih second
    exact ⟨run :: others,.field (holds.recased first) fits,.cons (holds.alike first) alike⟩

-- In what two sheets that are read alike may differ: where their lines stand, and how these are written. A
-- line that fits a pattern goes on to do so.
structure Likeness where
  number : Nat → Nat → Prop
  text : List Char → List Char → Prop
  next : number m n → number (m + 1) (n + 1)
  symm : text s t → text t s
  letters : text s t → SameLetters s t
  fits : Pattern.Fits pattern s captures → text s t →
    ∃ others, pattern.Fits t others ∧ CapturedAlike text pattern.fields captures others

namespace Likeness

def moved : Likeness where
  number _ _ := True
  text := Eq
  next _ := trivial
  symm := Eq.symm
  letters same := congrArg _ same
  fits fits same := ⟨_,same ▸ fits,fits.alike fun _ => rfl⟩

def recased : Likeness where
  number := Eq
  text := SameLetters
  next := congrArg _
  symm := Eq.symm
  letters same := same
  fits := Pattern.Fits.recased

variable (likeness : Likeness) {s t : List Char}

theorem read? (alike : likeness.text s t) (kind : LineKind) :
    kind.read? s = none ∧ kind.read? t = none ∨ ∃ fields ∈ kind.patterns.map (·.fields), ∃ captures others,
      kind.read? s = some captures ∧ kind.read? t = some others ∧ CapturedAlike likeness.text fields captures others := by
  cases left : kind.read? s with
  | none =>
    refine .inl ⟨rfl,Option.eq_none_iff_forall_ne_some.mpr fun others right => ?_⟩
    obtain ⟨pattern,member,fits⟩ := LineKind.read?_eq_some_iff.mp right
    obtain ⟨captures,fits,_⟩ := likeness.fits fits (likeness.symm alike)
    rw [LineKind.read?_eq_some_iff.mpr ⟨pattern,member,fits⟩] at left
    cases left
  | some captures =>
    obtain ⟨pattern,member,fits⟩ := LineKind.read?_eq_some_iff.mp left
    obtain ⟨others,fits,captured⟩ := likeness.fits fits alike
    exact .inr ⟨_,List.mem_map_of_mem member,captures,others,rfl,LineKind.read?_eq_some_iff.mpr ⟨pattern,member,fits⟩,
      captured⟩

theorem read_one (alike : likeness.text s t) (kind : LineKind) (fields : List Field)
    (only : kind.patterns.map (·.fields) = [fields]) :
    kind.read? s = none ∧ kind.read? t = none ∨ ∃ captures others,
      kind.read? s = some captures ∧ kind.read? t = some others ∧ CapturedAlike likeness.text fields captures others := by
  refine (likeness.read? alike kind).imp_right ?_
  rintro ⟨shape,member,found⟩
  rw [only,List.mem_singleton] at member
  rwa [member] at found

end Likeness

end Sheet
end PitWall

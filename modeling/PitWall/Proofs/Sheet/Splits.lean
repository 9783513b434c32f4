import Mathlib.Data.List.Forall2
import Mathlib.Data.List.Pairwise
import PitWall.Proofs.Sheet.LineKind

namespace PitWall.Sheet

def Piece.Holds : Piece → List Char → Prop
  | .literal text, part => SameLetters text part
  | .gap, part => part ≠ [] ∧ ∀ c ∈ part, isGap c = true
  | .field kind, part => kind.Holds part

def Piece.accepts : Piece → List Char → Bool
  | .literal text, part => text.map Char.toLower == part.map Char.toLower
  | .gap, part => !part.isEmpty && part.all isGap
  | .field kind, part => part.all kind.admits && kind.accepts part

theorem Piece.accepts_iff {piece : Piece} {part : List Char} : piece.accepts part = true ↔ piece.Holds part := by
  cases piece with
  | literal text => exact beq_iff_eq
  | gap => simp [Piece.accepts,Piece.Holds]
  | field kind =>
    simp only [Piece.accepts,Bool.and_eq_true,List.all_eq_true]
    exact Field.holds_iff.symm

def Piece.longest : Piece → List Char → List Char
  | .literal text, line => line.take text.length
  | .gap, line => line.takeWhile isGap
  | .field kind, line => line.takeWhile kind.admits

theorem Piece.Holds.longest {piece : Piece} {part rest : List Char} (holds : piece.Holds part)
    (boundary : ∀ c ∈ rest.head?, ¬ piece.Extends c) : piece.longest (part ++ rest) = part := by
  cases piece with
  | literal text =>
    have length : text.length = part.length := by simpa using congrArg List.length holds
    rw [Piece.longest,length,List.take_left]
  | gap => exact takeWhile_run holds.2 fun c first => Bool.eq_false_iff.mpr (boundary c first)
  | field kind =>
    exact takeWhile_run (Field.holds_iff.mp holds).1 fun c first => Bool.eq_false_iff.mpr (boundary c first)

namespace Pattern

def captures : Pattern → List (List Char) → List (List Char)
  | .field _ :: pattern, part :: parts => part :: captures pattern parts
  | _ :: pattern, _ :: parts => captures pattern parts
  | _, _ => []

theorem fits_of_parts {pattern : Pattern} {parts : List (List Char)} (holds : List.Forall₂ Piece.Holds pattern parts) :
    pattern.Fits parts.flatten (pattern.captures parts) := by
  induction holds with
  | nil => exact .done
  | @cons piece part pattern parts first rest ih =>
    cases piece with
    | literal text => exact .literal first ih
    | gap => exact .gap first.1 first.2 ih
    | field kind => exact .field first ih

theorem Fits.parts {pattern : Pattern} {line : List Char} {captured : List (List Char)}
    (fits : pattern.Fits line captured) :
    ∃ parts, List.Forall₂ Piece.Holds pattern parts ∧ parts.flatten = line ∧ pattern.captures parts = captured := by
  induction fits with
  | done => exact ⟨[],.nil,rfl,rfl⟩
  | @literal text shown _ _ _ same rest ih =>
    obtain ⟨parts,holds,rfl,rfl⟩ := ih
    exact ⟨shown :: parts,.cons same holds,rfl,rfl⟩
  | @gap blanks _ _ _ taken blank rest ih =>
    obtain ⟨parts,holds,rfl,rfl⟩ := ih
    exact ⟨blanks :: parts,.cons ⟨taken,blank⟩ holds,rfl,rfl⟩
  | @field kind run _ _ _ capture rest ih =>
    obtain ⟨parts,holds,rfl,rfl⟩ := ih
    exact ⟨run :: parts,.cons capture holds,rfl,rfl⟩

-- Every part is the longest there could be, since its piece does not go on into the next one.
theorem parts_longest {piece : Piece} {pattern : Pattern} {part : List Char} {parts : List (List Char)}
    (definite : Pattern.Definite (piece :: pattern)) (first : piece.Holds part)
    (rest : List.Forall₂ Piece.Holds pattern parts) : piece.longest (part ++ parts.flatten) = part := by
  have stops : Pattern.Stops (piece :: pattern) [] := fun _ _ c first => by cases first
  have boundary := (fits_of_parts rest).boundary definite stops
  rw [List.append_nil] at boundary
  exact first.longest boundary

theorem parts_unique {pattern : Pattern} (definite : pattern.Definite) {parts others : List (List Char)}
    (left : List.Forall₂ Piece.Holds pattern parts) (right : List.Forall₂ Piece.Holds pattern others)
    (same : parts.flatten = others.flatten) : parts = others := by
  induction left generalizing others with
  | nil => cases right; rfl
  | @cons piece part pattern parts first rest ih =>
    cases right with
    | @cons _ other _ others firstToo restToo =>
      rw [List.flatten_cons,List.flatten_cons] at same
      have equal : part = other := by
        rw [← parts_longest definite first rest,same,parts_longest definite firstToo restToo]
      subst equal
      rw [ih definite.tail restToo (List.append_cancel_left same)]

end Pattern

namespace LineKind
variable {kind : LineKind} {line : List Char}

@[ext]
structure Split (kind : LineKind) (line : List Char) where
  pattern : Pattern
  parts : List (List Char)
  listed : pattern ∈ kind.patterns
  holds : List.Forall₂ Piece.Holds pattern parts
  whole : parts.flatten = line

def Split.captures (split : kind.Split line) : List (List Char) := split.pattern.captures split.parts

theorem Split.fits (split : kind.Split line) : split.pattern.Fits line split.captures := by
  have fits := Pattern.fits_of_parts split.holds
  rwa [split.whole] at fits

theorem fits_iff_split {captured : List (List Char)} :
    kind.Fits line captured ↔ ∃ split : kind.Split line, split.captures = captured := by
  constructor
  · rintro ⟨pattern,listed,fits⟩
    obtain ⟨parts,holds,whole,captured⟩ := fits.parts
    exact ⟨⟨pattern,parts,listed,holds,whole⟩,captured⟩
  · rintro ⟨split,rfl⟩
    exact ⟨split.pattern,split.listed,split.fits⟩

theorem Split.read? (split : kind.Split line) : split.pattern.read? line = some split.captures :=
  Pattern.read?_complete (kind.patterns_definite _ split.listed) split.fits

instance : Std.Symm Pattern.Exclusive where
  symm left right exclusive line captured found := by
    cases other : left.read? line with
    | none => rfl
    | some others =>
      rw [exclusive line others other] at found
      cases found

theorem split_unique (one other : kind.Split line) : one = other := by
  have pattern : one.pattern = other.pattern := by
    by_contra apart
    have unread := kind.patterns_exclusive.forall one.listed other.listed apart line _ one.read?
    rw [other.read?] at unread
    cases unread
  have holds := other.holds
  rw [← pattern] at holds
  refine Split.ext pattern ?_
  exact Pattern.parts_unique (kind.patterns_definite _ one.listed) one.holds holds (one.whole.trans other.whole.symm)

end LineKind

-- The trials of a reader that goes back where the rest of a line does not fit, in their order: which pattern of a kind,
-- and how many characters for the first of the pieces that are left. None is left out.
structure Trials where
  patterns : LineKind → List Pattern
  lengths : Pattern → List Char → List Nat
  everyPattern : ∀ kind pattern, pattern ∈ patterns kind ↔ pattern ∈ LineKind.patterns kind
  everyLength : ∀ pattern line, ∀ n ≤ line.length, n ∈ lengths pattern line

-- As many characters as there are, and what may be left out is taken in; or the reverse.
def Trials.greedy : Trials where
  patterns kind := (LineKind.patterns kind).reverse
  lengths _ line := (List.range (line.length + 1)).reverse
  everyPattern _ _ := List.mem_reverse
  everyLength _ _ n short := by simpa using Nat.lt_succ_of_le short

def Trials.reluctant : Trials where
  patterns := LineKind.patterns
  lengths _ line := List.range (line.length + 1)
  everyPattern _ _ := Iff.rfl
  everyLength _ _ n short := by simpa using Nat.lt_succ_of_le short

variable (trials : Trials)

def Pattern.search : Pattern → List Char → Option (List (List Char))
  | [], [] => some []
  | [], _ :: _ => none
  | piece :: pattern, line => (trials.lengths (piece :: pattern) line).findSome? fun n =>
    if piece.accepts (line.take n) then (search pattern (line.drop n)).map (line.take n :: ·) else none

def LineKind.search (kind : LineKind) (line : List Char) : Option (List (List Char)) :=
  (trials.patterns kind).findSome? fun pattern => (pattern.search trials line).map pattern.captures

theorem Pattern.search_sound {pattern : Pattern} {line : List Char} {parts : List (List Char)}
    (found : pattern.search trials line = some parts) :
    List.Forall₂ Piece.Holds pattern parts ∧ parts.flatten = line := by
  induction pattern generalizing line parts with
  | nil =>
    cases line with
    | nil => cases found; exact ⟨.nil,rfl⟩
    | cons c line => cases found
  | cons piece pattern ih =>
    obtain ⟨n,_,taken⟩ := List.exists_of_findSome?_eq_some found
    split at taken
    · rename_i accepted
      obtain ⟨others,behind,rfl⟩ := Option.map_eq_some_iff.mp taken
      obtain ⟨holds,whole⟩ := ih behind
      refine ⟨.cons (Piece.accepts_iff.mp accepted) holds,?_⟩
      rw [List.flatten_cons,whole,List.take_append_drop]
    · cases taken

theorem Pattern.search_complete {pattern : Pattern} {parts : List (List Char)}
    (holds : List.Forall₂ Piece.Holds pattern parts) : (pattern.search trials parts.flatten).isSome = true := by
  induction holds with
  | nil => rfl
  | @cons piece part pattern parts first rest ih =>
    have short : part.length ≤ (part ++ parts.flatten).length := by simp
    refine List.findSome?_isSome_iff.mpr ⟨part.length,trials.everyLength _ _ _ short,?_⟩
    rw [List.flatten_cons,List.take_left,List.drop_left,if_pos (Piece.accepts_iff.mpr first),Option.isSome_map]
    exact ih

namespace LineKind
variable {kind : LineKind} {line : List Char}

theorem search_eq_some_iff {captured : List (List Char)} :
    kind.search trials line = some captured ↔ ∃ split : kind.Split line, split.captures = captured := by
  have sound {captured : List (List Char)} (found : kind.search trials line = some captured) :
      ∃ split : kind.Split line, split.captures = captured := by
    obtain ⟨pattern,listed,taken⟩ := List.exists_of_findSome?_eq_some found
    obtain ⟨parts,searched,same⟩ := Option.map_eq_some_iff.mp taken
    obtain ⟨holds,whole⟩ := Pattern.search_sound trials searched
    exact ⟨⟨pattern,parts,(trials.everyPattern kind pattern).mp listed,holds,whole⟩,same⟩
  refine ⟨sound,?_⟩
  rintro ⟨split,rfl⟩
  have complete := Pattern.search_complete trials split.holds
  rw [split.whole] at complete
  have returns : (kind.search trials line).isSome = true := by
    refine List.findSome?_isSome_iff.mpr ⟨split.pattern,(trials.everyPattern kind _).mpr split.listed,?_⟩
    rwa [Option.isSome_map]
  obtain ⟨captured,found⟩ := Option.isSome_iff_exists.mp returns
  obtain ⟨other,same⟩ := sound found
  rw [found,← same,split_unique other split]

-- A line is taken apart in one way or not at all. That is the way in which it is read, and in whatever order a reader
-- tries its ways and takes them back, it comes to the same captures.
theorem unambiguous (kind : LineKind) (line : List Char) :
    (∀ one other : kind.Split line, one = other) ∧
    (∀ captured, kind.read? line = some captured ↔ ∃ split : kind.Split line, split.captures = captured) ∧
    ∀ trials, kind.search trials line = kind.read? line := by
  have reads (captured : List (List Char)) :
      kind.read? line = some captured ↔ ∃ split : kind.Split line, split.captures = captured :=
    read?_eq_some_iff.trans fits_iff_split
  refine ⟨split_unique,reads,fun trials => Option.ext fun captured => ?_⟩
  exact (search_eq_some_iff trials).trans (reads captured).symm

-- A name with a capture of its own in it, and tags with quotes and a keyword.
def crowdedTurn : List Char := "turn\t7 Name=\"LAPS=3 RISK=x\" RISK=A\"B,NOTE=\"c\"  note=\" RISK=é\"".toList

theorem crowdedTurn_unambiguous :
    let captures := ["7".toList,"LAPS=3 RISK=x".toList,"A\"B,NOTE=\"c\"".toList," RISK=é".toList]
    LineKind.turn.search .greedy crowdedTurn = some captures ∧
      LineKind.turn.search .reluctant crowdedTurn = some captures ∧
      (∃ split : LineKind.turn.Split crowdedTurn, split.captures = captures) ∧
      ∀ one other : LineKind.turn.Split crowdedTurn, one = other := by
  intro captures
  obtain ⟨unique,reads,alike⟩ := unambiguous .turn crowdedTurn
  have read : LineKind.turn.read? crowdedTurn = some captures := by decide
  exact ⟨(alike .greedy).trans read,(alike .reluctant).trans read,(reads _).mp read,unique⟩

end LineKind
end PitWall.Sheet

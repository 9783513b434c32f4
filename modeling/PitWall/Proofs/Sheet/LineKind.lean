import Mathlib.Tactic.FinCases
import PitWall.Proofs.Sheet.Pattern
import PitWall.Proofs.Text.Ascii

namespace PitWall.Sheet
open Text

theorem isGap_ascii {c : Char} (gap : isGap c = true) : c.toNat < 128 := by
  have bounds : c = ' ' ∨ ('\t' ≤ c ∧ c ≤ '\r') := by simpa [isGap] using gap
  rcases bounds with rfl | ⟨_,high⟩
  · decide
  · have high : c.toNat ≤ 13 := UInt32.le_iff_toNat_le.mp high
    omega

theorem isGap_cases {c : Char} (gap : isGap c = true) : c ∈ [' ','\t','\n','\x0b','\x0c','\r'] := by
  exact ascii_all (P := fun c => isGap c = true → c ∈ [' ','\t','\n','\x0b','\x0c','\r']) (by decide) c
    (isGap_ascii gap) gap

theorem gap_not_admitted {c : Char} {kind : Field} (unquoted : kind ≠ .quotation) (gap : isGap c = true) :
    kind.admits c = false := by
  have member := isGap_cases gap
  cases kind with
  | quotation => exact absurd rfl unquoted
  | _ => fin_cases member <;> rfl

theorem gap_folds {c : Char} (gap : isGap c = true) : c.toLower = c := by
  have member := isGap_cases gap
  fin_cases member <;> rfl

theorem gap_blank {c : Char} (gap : isGap c = true) : isBlank c = true := by
  have member := isGap_cases gap
  fin_cases member <;> rfl

theorem quotationMark_folds {c : Char} (same : quotationMark.toLower = c.toLower) : c = quotationMark := by
  by_cases ascii : c.toNat < 128
  · exact ascii_all (P := fun c => quotationMark.toLower = c.toLower → c = quotationMark) (by decide) c
      ascii same
  · rw [toLower_beyond (c := c) (by omega)] at same
    exact same.symm

-- A reason to be seen from the two pieces alone why the first does not go on into the second.
def Piece.apart : Piece → Piece → Bool
  | .literal _, _ => true
  | .gap, .literal (l :: _) => !isGap l.toLower
  | .gap, .field kind => kind ≠ .quotation
  | .field kind, .gap => kind ≠ .quotation
  | .field kind, .literal (l :: _) => kind = .quotation && l = quotationMark
  | _, _ => false

theorem Piece.apart_sound {piece next : Piece} (apart : piece.apart next = true) (c : Char)
    (extend : piece.Extends c) : ¬ next.Begins c := by
  intro begin
  cases piece with
  | literal text => exact extend
  | gap =>
    cases next with
    | gap => cases apart
    | field kind =>
      have outside := gap_not_admitted (of_decide_eq_true apart) extend
      exact absurd begin (by simp [Piece.Begins,outside])
    | literal text =>
      cases text with
      | nil => cases apart
      | cons l text =>
        have folded : l.toLower = c := begin.trans (gap_folds extend)
        simp [Piece.apart,folded,show isGap c = true from extend] at apart
  | field kind =>
    cases next with
    | field _ => cases apart
    | gap =>
      have outside := gap_not_admitted (of_decide_eq_true apart) begin
      exact absurd extend (by simp [Piece.Extends,outside])
    | literal text =>
      cases text with
      | nil => cases apart
      | cons l text =>
        simp only [Piece.apart,Bool.and_eq_true,decide_eq_true_eq] at apart
        obtain ⟨rfl,rfl⟩ := apart
        simp [Piece.Extends,Field.admits,quotationMark_folds begin] at extend

def Pattern.apart : Pattern → Bool
  | piece :: next :: pattern => piece.apart next && Pattern.apart (next :: pattern)
  | _ => true

theorem Pattern.definite_of_apart {pattern : Pattern} (apart : pattern.apart = true) : pattern.Definite := by
  induction pattern with
  | nil => trivial
  | cons piece pattern ih =>
    cases pattern with
    | nil => trivial
    | cons next pattern =>
      obtain ⟨first,rest⟩ := Bool.and_eq_true_iff.mp apart
      exact ⟨Piece.apart_sound first,ih rest⟩

theorem LineKind.patterns_definite (kind : LineKind) : ∀ pattern ∈ kind.patterns, pattern.Definite := by
  have apart : ∀ pattern ∈ kind.patterns, pattern.apart = true := by cases kind <;> decide
  exact fun pattern member => Pattern.definite_of_apart (apart pattern member)

def Pattern.Exclusive (left right : Pattern) : Prop :=
  ∀ line captures, left.read? line = some captures → right.read? line = none

theorem Pattern.exclusive_longer (first : Pattern) (rest : Pattern) :
    Pattern.Exclusive first (first ++ .gap :: rest) := by
  intro line captures found
  rw [Pattern.read?_eq_split?] at found
  rw [Pattern.read?_append]
  obtain ⟨⟨taken,left⟩,split,found⟩ := Option.bind_eq_some_iff.mp found
  have ended : left = [] := by
    by_cases ended : left = []
    · exact ended
    · simp [ended] at found
  simp [split,ended,Pattern.read?]

theorem Pattern.exclusive_ending (first : Pattern) {left right : Pattern}
    (endings : Pattern.Exclusive left right) : Pattern.Exclusive (first ++ left) (first ++ right) := by
  intro line captures found
  rw [Pattern.read?_append] at found ⊢
  obtain ⟨⟨taken,rest⟩,split,found⟩ := Option.bind_eq_some_iff.mp found
  obtain ⟨captures,found,_⟩ := Option.map_eq_some_iff.mp found
  simp [split,endings rest captures found]

theorem Pattern.exclusive_behind_gap {left right : Pattern} (endings : Pattern.Exclusive left right) :
    Pattern.Exclusive (.gap :: left) (.gap :: right) :=
  Pattern.exclusive_ending [.gap] endings

theorem literal_begins {text line rest : List Char} (after : afterLiteral? text line = some rest) :
    text.map Char.toLower <+: line.map Char.toLower := by
  obtain ⟨shown,rfl,same⟩ := afterLiteral?_sound after
  rw [List.map_append,← same]
  exact List.prefix_append _ _

theorem Pattern.exclusive_literals {left right : List Char} {behindLeft behindRight : Pattern}
    (apart : ¬ left.map Char.toLower <+: right.map Char.toLower ∧
      ¬ right.map Char.toLower <+: left.map Char.toLower) :
    Pattern.Exclusive (.literal left :: behindLeft) (.literal right :: behindRight) := by
  intro line captures found
  obtain ⟨_,after,_⟩ := Option.bind_eq_some_iff.mp found
  cases other : afterLiteral? right line with
  | none => simp [Pattern.read?,other]
  | some rest =>
    rcases List.prefix_or_prefix_of_prefix (literal_begins after) (literal_begins other) with one | one
    · exact absurd one apart.1
    · exact absurd one apart.2

theorem Pattern.findSome?_exclusive {patterns : List Pattern} {line : List Char}
    {captures : List (List Char)} (exclusive : patterns.Pairwise Pattern.Exclusive) :
    patterns.findSome? (·.read? line) = some captures ↔
      ∃ pattern ∈ patterns, pattern.read? line = some captures := by
  induction patterns with
  | nil => simp
  | cons pattern patterns ih =>
    obtain ⟨first,rest⟩ := List.pairwise_cons.mp exclusive
    cases found : pattern.read? line with
    | none => simp [found,ih rest]
    | some others =>
      simp only [List.findSome?_cons,found]
      constructor
      · intro same
        exact ⟨pattern,List.mem_cons_self,found.trans same⟩
      · rintro ⟨other,member,read⟩
        rcases List.mem_cons.mp member with rfl | member
        · exact found.symm.trans read
        · rw [first other member line others found] at read
          cases read

namespace LineKind

-- A car's target is absent, or denied, or a place, and no line says two of these.
theorem patterns_exclusive (kind : LineKind) : kind.patterns.Pairwise Pattern.Exclusive := by
  cases kind with
  | car =>
    have targets : Pattern.Exclusive targetPattern noTargetPattern :=
      Pattern.exclusive_ending carPattern
        (Pattern.exclusive_behind_gap (Pattern.exclusive_literals (by decide)))
    simp only [patterns,List.pairwise_cons,List.mem_cons,List.not_mem_nil,or_false,forall_eq_or_imp,
      forall_eq,false_implies,implies_true,List.Pairwise.nil,and_true]
    exact ⟨⟨Pattern.exclusive_longer carPattern _,Pattern.exclusive_longer carPattern _⟩,targets⟩
  | _ => simp [patterns]

def Fits (kind : LineKind) (line : List Char) (captures : List (List Char)) : Prop :=
  ∃ pattern ∈ kind.patterns, pattern.Fits line captures

theorem read?_eq_some_iff {kind : LineKind} {line : List Char} {captures : List (List Char)} :
    kind.read? line = some captures ↔ kind.Fits line captures := by
  rw [LineKind.read?,Pattern.findSome?_exclusive kind.patterns_exclusive]
  constructor
  · rintro ⟨pattern,member,read⟩
    exact ⟨pattern,member,Pattern.read?_sound read⟩
  · rintro ⟨pattern,member,fits⟩
    exact ⟨pattern,member,Pattern.read?_complete (kind.patterns_definite pattern member) fits⟩

end LineKind
end PitWall.Sheet

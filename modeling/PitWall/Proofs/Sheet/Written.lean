import Mathlib.Data.List.Forall2
import PitWall.Proofs.Sheet.LineKind
import PitWall.Proofs.Text.Lines

namespace PitWall.Sheet
open Text

def Piece.opens : Piece → Bool
  | .literal (l :: _) => !isBlank l
  | _ => false

def Piece.ends : Piece → Bool
  | .literal text => text.getLast?.any (!isBlank ·)
  | .field .word | .field .count | .field .numeral => true
  | _ => false

def Piece.oneLine : Piece → Bool
  | .literal text => !text.contains '\n'
  | _ => true

theorem isWordChar_ascii {c : Char} (word : isWordChar c = true) : c.toNat < 128 := by
  simp only [isWordChar,isDigit,Bool.or_eq_true,Bool.and_eq_true,decide_eq_true_eq] at word
  rcases word with ((⟨_,high⟩ | ⟨_,high⟩) | ⟨_,high⟩) | rfl
  · have high : c.toNat ≤ 57 := UInt32.le_iff_toNat_le.mp high
    omega
  · have high : c.toNat ≤ 90 := UInt32.le_iff_toNat_le.mp high
    omega
  · have high : c.toNat ≤ 122 := UInt32.le_iff_toNat_le.mp high
    omega
  · decide

theorem word_dark {c : Char} (word : isWordChar c = true) : isBlank c = false :=
  ascii_all (P := fun c => isWordChar c = true → isBlank c = false) (by decide) c (isWordChar_ascii word) word

theorem digit_dark {c : Char} (digit : isDigit c = true) : isBlank c = false :=
  word_dark (by simp [isWordChar,digit])

theorem capture_dark {kind : Field} {run : List Char} (ends : Piece.ends (.field kind) = true)
    (holds : kind.Holds run) : ∀ c ∈ run, isBlank c = false := by
  intro c inside
  cases kind with
  | word => exact word_dark (holds.2 c inside)
  | count => exact digit_dark (holds.2.2 c inside)
  | numeral =>
    have admitted := (Field.holds_iff.mp holds).1 c inside
    simp only [Field.admits,Bool.or_eq_true,decide_eq_true_eq] at admitted
    rcases admitted with digit | rfl
    · exact digit_dark digit
    · decide
  | token => cases ends
  | quotation => cases ends

namespace Pattern

def fields : Pattern → List Field
  | [] => []
  | .field kind :: pattern => kind :: fields pattern
  | .literal _ :: pattern => fields pattern
  | .gap :: pattern => fields pattern

-- A line is written with one capture to a field, each of its kind, and has no others.
theorem fits_write {pattern : Pattern} {captures : List (List Char)}
    (holds : List.Forall₂ Field.Holds pattern.fields captures) : pattern.Fits (pattern.write captures) captures := by
  induction pattern generalizing captures with
  | nil => cases holds; exact .done
  | cons piece pattern ih =>
    cases piece with
    | literal text => exact .literal rfl (ih holds)
    | gap =>
      refine .gap (List.cons_ne_nil ' ' []) (fun c inside => ?_) (ih holds)
      rw [List.mem_singleton.mp inside]
      rfl
    | field kind =>
      cases holds with
      | cons first rest => exact .field first (ih rest)

theorem write_append (first second : Pattern) {captures : List (List Char)} (more : List (List Char))
    (each : captures.length = first.fields.length) :
    (first ++ second).write (captures ++ more) = first.write captures ++ second.write more := by
  induction first generalizing captures with
  | nil =>
    have uncaptured : captures = [] := List.length_eq_zero_iff.mp each
    rw [uncaptured]
    rfl
  | cons piece first ih =>
    cases piece with
    | literal text => simp only [List.cons_append,write,ih each,List.append_assoc]
    | gap => simp only [List.cons_append,write,ih each]
    | field kind =>
      cases captures with
      | nil => cases each
      | cons capture captures =>
        have rest := ih (Nat.succ_injective each)
        simp only [List.cons_append,write,rest,List.append_assoc]

theorem mem_write {pattern : Pattern} {captures : List (List Char)} {c : Char} (inside : c ∈ pattern.write captures) :
    c = ' ' ∨ (∃ text, .literal text ∈ pattern ∧ c ∈ text) ∨ ∃ capture ∈ captures, c ∈ capture := by
  induction pattern generalizing captures with
  | nil => cases inside
  | cons piece pattern ih =>
    have later {others : List (List Char)} (inside : c ∈ write pattern others) (among : ∀ capture ∈ others, capture ∈ captures) :
        c = ' ' ∨ (∃ text, .literal text ∈ piece :: pattern ∧ c ∈ text) ∨ ∃ capture ∈ captures, c ∈ capture := by
      rcases ih inside with space | ⟨text,member,here⟩ | ⟨capture,member,here⟩
      · exact .inl space
      · exact .inr (.inl ⟨text,List.mem_cons_of_mem _ member,here⟩)
      · exact .inr (.inr ⟨capture,among capture member,here⟩)
    cases piece with
    | literal text =>
      rcases List.mem_append.mp inside with here | rest
      · exact .inr (.inl ⟨text,List.mem_cons_self,here⟩)
      · exact later rest fun _ => id
    | gap =>
      rcases List.mem_cons.mp inside with space | rest
      · exact .inl space
      · exact later rest fun _ => id
    | field kind =>
      cases captures with
      | nil => exact later inside fun _ => id
      | cons capture captures =>
        rcases List.mem_append.mp inside with here | rest
        · exact .inr (.inr ⟨capture,List.mem_cons_self,here⟩)
        · exact later rest fun _ => List.mem_cons_of_mem _

theorem write_gap {pattern : Pattern} (captures : List (List Char)) (gap : .gap ∈ pattern) :
    ' ' ∈ pattern.write captures := by
  induction pattern generalizing captures with
  | nil => cases gap
  | cons piece pattern ih =>
    cases piece with
    | gap => exact List.mem_cons_self
    | literal text => exact List.mem_append_right _ (ih captures (by simpa using gap))
    | field kind =>
      cases captures with
      | nil => exact ih [] (by simpa using gap)
      | cons capture captures => exact List.mem_append_right _ (ih captures (by simpa using gap))

theorem Fits.holds {pattern : Pattern} {line : List Char} {captures : List (List Char)}
    (fits : pattern.Fits line captures) : List.Forall₂ Field.Holds pattern.fields captures := by
  induction fits with
  | done => exact .nil
  | literal same rest ih => exact ih
  | gap taken blank rest ih => exact ih
  | field holds rest ih => exact .cons holds ih

theorem Fits.mem_line {pattern : Pattern} {line : List Char} {captures : List (List Char)}
    (fits : pattern.Fits line captures) : ∀ capture ∈ captures, ∀ c ∈ capture, c ∈ line := by
  induction fits with
  | done => intro capture member; cases member
  | literal same rest ih =>
    intro capture member c inside
    exact List.mem_append_right _ (ih capture member c inside)
  | gap taken blank rest ih =>
    intro capture member c inside
    exact List.mem_append_right _ (ih capture member c inside)
  | field holds rest ih =>
    intro capture member c inside
    rcases List.mem_cons.mp member with rfl | member
    · exact List.mem_append_left _ inside
    · exact List.mem_append_right _ (ih capture member c inside)

theorem Fits.has_gap {pattern : Pattern} {line : List Char} {captures : List (List Char)}
    (fits : pattern.Fits line captures) (gap : .gap ∈ pattern) : ∃ c ∈ line, isGap c = true := by
  induction fits with
  | done => cases gap
  | literal same rest ih =>
    obtain ⟨c,inside,blank⟩ := ih (by simpa using gap)
    exact ⟨c,List.mem_append_right _ inside,blank⟩
  | @gap blanks _ _ _ taken blank rest ih =>
    obtain ⟨c,inside⟩ := List.exists_mem_of_ne_nil _ taken
    exact ⟨c,List.mem_append_left _ inside,blank c inside⟩
  | field holds rest ih =>
    obtain ⟨c,inside,blank⟩ := ih (by simpa using gap)
    exact ⟨c,List.mem_append_right _ inside,blank⟩

def Closes (kind : Field) (run : List Char) : Prop := Piece.ends (.field kind) = true → kind.Holds run

theorem getLast?_behind (left : List Char) {right : List Char} {c : Char} (last : right.getLast? = some c) :
    (left ++ right).getLast? = some c := by
  rw [List.getLast?_append,last]
  rfl

theorem write_last {pattern : Pattern} {captures : List (List Char)}
    (ends : pattern.getLast?.any Piece.ends = true) (closes : List.Forall₂ Closes pattern.fields captures) :
    ∃ c, (pattern.write captures).getLast? = some c ∧ isBlank c = false := by
  induction pattern generalizing captures with
  | nil => cases ends
  | cons piece pattern ih =>
    cases pattern with
    | nil =>
      cases piece with
      | gap => cases ends
      | literal text =>
        have dark : text.getLast?.any (!isBlank ·) = true := ends
        cases last : text.getLast? with
        | none => rw [last] at dark; cases dark
        | some c =>
          rw [last] at dark
          exact ⟨c,by simpa [write] using last,by simpa using dark⟩
      | field kind =>
        cases closes with
        | cons first rest =>
          cases rest
          have holds := first ends
          have ending := List.getLast?_eq_some_getLast holds.ne_nil
          refine ⟨_,by simpa [write] using ending,?_⟩
          exact capture_dark ends holds _ (List.getLast_mem holds.ne_nil)
    | cons next pattern =>
      have ends : (next :: pattern).getLast?.any Piece.ends = true := by
        rwa [List.getLast?_cons_cons] at ends
      cases piece with
      | literal text =>
        obtain ⟨c,last,dark⟩ := ih ends closes
        exact ⟨c,getLast?_behind _ last,dark⟩
      | gap =>
        obtain ⟨c,last,dark⟩ := ih ends closes
        exact ⟨c,getLast?_behind [' '] last,dark⟩
      | field kind =>
        cases closes with
        | cons first rest =>
          obtain ⟨c,last,dark⟩ := ih ends rest
          exact ⟨c,getLast?_behind _ last,dark⟩

-- Nothing is trimmed off a written line that opens with a word and ends with one, or with a quote.
theorem trimmed_write {pattern : Pattern} {captures : List (List Char)}
    (opens : pattern.head?.any Piece.opens = true) (ends : pattern.getLast?.any Piece.ends = true)
    (closes : List.Forall₂ Closes pattern.fields captures) : Trimmed (pattern.write captures) := by
  constructor
  · intro c first
    cases pattern with
    | nil => cases opens
    | cons piece pattern =>
      cases piece with
      | gap => cases opens
      | field kind => cases opens
      | literal text =>
        cases text with
        | nil => cases opens
        | cons l text =>
          cases first
          simpa [Piece.opens] using opens
  · obtain ⟨d,last,dark⟩ := write_last ends closes
    intro c final
    rw [last] at final
    cases final
    exact dark

end Pattern

-- A line that a reader finds again as it was written: it does not fall apart, and is neither trimmed nor dropped.
structure Legible (line : List Char) : Prop where
  nonempty : line ≠ []
  trimmed : Trimmed line
  whole : '\n' ∉ line

theorem Field.Holds.whole {kind : Field} {run : List Char} (holds : kind.Holds run) (unquoted : kind ≠ .quotation) :
    '\n' ∉ run := by
  intro inside
  have admitted := (Field.holds_iff.mp holds).1 _ inside
  rw [gap_not_admitted unquoted (by decide)] at admitted
  cases admitted

namespace LineKind

theorem legible_write {kind : LineKind} {pattern : Pattern} (member : pattern ∈ kind.patterns)
    {captures : List (List Char)} (closes : List.Forall₂ Pattern.Closes pattern.fields captures)
    (whole : ∀ capture ∈ captures, '\n' ∉ capture) : Legible (pattern.write captures) := by
  have shape : ∀ pattern ∈ kind.patterns, pattern.head?.any Piece.opens = true ∧
      pattern.getLast?.any Piece.ends = true := by cases kind <;> decide
  have oneLine : ∀ pattern ∈ kind.patterns, ∀ piece ∈ pattern, piece.oneLine = true := by cases kind <;> decide
  obtain ⟨opens,ends⟩ := shape pattern member
  refine ⟨?_,Pattern.trimmed_write opens ends closes,?_⟩
  · intro empty
    obtain ⟨c,last,_⟩ := Pattern.write_last ends closes
    rw [empty] at last
    cases last
  · intro inside
    rcases Pattern.mem_write inside with space | ⟨text,among,here⟩ | ⟨capture,among,here⟩
    · revert space; decide
    · have clean := oneLine pattern member _ among
      simp [Piece.oneLine,here] at clean
    · exact whole capture among here

end LineKind

structure Field.Written (kind : Field) (run : List Char) : Prop where
  holds : kind.Holds run
  whole : '\n' ∉ run

theorem Field.Holds.written {kind : Field} {run : List Char} (holds : kind.Holds run) (unquoted : kind ≠ .quotation) :
    kind.Written run := ⟨holds,holds.whole unquoted⟩

theorem whole_of_written {kinds : List Field} {captures : List (List Char)}
    (each : List.Forall₂ Field.Written kinds captures) : ∀ capture ∈ captures, '\n' ∉ capture := by
  induction each with
  | nil => intro capture member; cases member
  | cons first rest ih =>
    intro capture member
    rcases List.mem_cons.mp member with rfl | member
    · exact first.whole
    · exact ih capture member

namespace LineKind

theorem write_again (kind : LineKind) {pattern : Pattern} (member : pattern ∈ kind.patterns)
    {captures : List (List Char)} (each : List.Forall₂ Field.Written pattern.fields captures) :
    Legible (pattern.write captures) ∧ kind.Fits (pattern.write captures) captures := by
  have holds : List.Forall₂ Field.Holds pattern.fields captures := each.imp fun _ _ written => written.holds
  have closes : List.Forall₂ Pattern.Closes pattern.fields captures := 
    holds.imp fun _ _ holds => fun (_ : Piece.ends _ = true) => holds
  exact ⟨legible_write member closes (whole_of_written each),pattern,member,Pattern.fits_write holds⟩

theorem Fits.holds {kind : LineKind} {pattern : Pattern} {line : List Char} {captures : List (List Char)}
    (fits : kind.Fits line captures) (only : kind.patterns = [pattern]) :
    List.Forall₂ Field.Holds pattern.fields captures := by
  obtain ⟨other,member,fits⟩ := fits
  rw [only,List.mem_singleton] at member
  subst member
  exact fits.holds

theorem Fits.whole {kind : LineKind} {line : List Char} {captures : List (List Char)} (fits : kind.Fits line captures)
    (whole : '\n' ∉ line) : ∀ capture ∈ captures, '\n' ∉ capture := by
  obtain ⟨pattern,_,fits⟩ := fits
  exact fun capture member inside => whole (fits.mem_line capture member _ inside)

end LineKind
end PitWall.Sheet

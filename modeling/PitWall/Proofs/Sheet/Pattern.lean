import PitWall.Sheet.LineKind

namespace PitWall.Sheet

def SameLetters (text shown : List Char) : Prop := text.map Char.toLower = shown.map Char.toLower

-- What a capture may be, said without the order in which a reader takes its characters.
def Field.Holds : Field → List Char → Prop
  | .token, run => run ≠ [] ∧ ∀ c ∈ run, isGap c = false
  | .word, run => run ≠ [] ∧ ∀ c ∈ run, isWordChar c = true
  | .count, run => run ≠ [] ∧ run.length ≤ 6 ∧ ∀ c ∈ run, isDigit c = true
  | .numeral, run => ∃ whole fraction : List Char,
      (∀ c ∈ whole ++ fraction, isDigit c = true) ∧ whole ++ fraction ≠ [] ∧
        (run = whole ∧ fraction = [] ∨ run = whole ++ '.' :: fraction)
  | .quotation, run => run ≠ [] ∧ ∀ c ∈ run, c ≠ quotationMark

-- The ways to split a line into the pieces of a pattern. Nothing is said about which of them a
-- reader finds, so a line could have several.
inductive Pattern.Fits : Pattern → List Char → List (List Char) → Prop where
  | done : Fits [] [] []
  | literal (same : SameLetters text shown) (rest : Fits pattern line captures) :
      Fits (.literal text :: pattern) (shown ++ line) captures
  | gap (taken : blanks ≠ []) (blank : ∀ c ∈ blanks, isGap c = true)
      (rest : Fits pattern line captures) : Fits (.gap :: pattern) (blanks ++ line) captures
  | field (holds : Field.Holds kind run) (rest : Fits pattern line captures) :
      Fits (.field kind :: pattern) (run ++ line) (run :: captures)

theorem takeWhile_run {α : Type} {p : α → Bool} {run rest : List α} (inside : ∀ c ∈ run, p c = true)
    (outside : ∀ c ∈ rest.head?, p c = false) : (run ++ rest).takeWhile p = run := by
  cases rest with
  | nil => rw [List.takeWhile_append_of_pos inside]; simp
  | cons c rest => simp [List.takeWhile_append_of_pos inside,outside c rfl]

theorem dropWhile_run {α : Type} {p : α → Bool} {run rest : List α} (inside : ∀ c ∈ run, p c = true)
    (outside : ∀ c ∈ rest.head?, p c = false) : (run ++ rest).dropWhile p = rest := by
  cases rest with
  | nil => rw [List.dropWhile_append_of_pos inside]; rfl
  | cons c rest => simp [List.dropWhile_append_of_pos inside,outside c rfl]

theorem of_mem_takeWhile {p : Char → Bool} {line : List Char} {c : Char}
    (member : c ∈ line.takeWhile p) : p c = true :=
  List.all_eq_true.mp List.all_takeWhile c member

theorem afterLiteral?_sound {text line rest : List Char} (after : afterLiteral? text line = some rest) :
    ∃ shown, line = shown ++ rest ∧ SameLetters text shown := by
  induction text generalizing line with
  | nil => cases after; exact ⟨[],rfl,rfl⟩
  | cons l text ih =>
    cases line with
    | nil => cases after
    | cons c line =>
      simp only [afterLiteral?] at after
      split at after
      · rename_i same
        obtain ⟨shown,rfl,letters⟩ := ih after
        exact ⟨c :: shown,rfl,by simpa [SameLetters,same] using letters⟩
      · cases after

theorem afterLiteral?_complete {text shown rest : List Char} (same : SameLetters text shown) :
    afterLiteral? text (shown ++ rest) = some rest := by
  induction text generalizing shown with
  | nil =>
    have nothing : shown = [] := by simpa [SameLetters] using same.symm
    simp [nothing,afterLiteral?]
  | cons l text ih =>
    cases shown with
    | nil => simp [SameLetters] at same
    | cons c shown =>
      simp only [SameLetters,List.map_cons,List.cons.injEq] at same
      simp [afterLiteral?,same.1,ih same.2]

theorem holds_numeral {run : List Char} (digits : ∀ c ∈ run, Field.numeral.admits c = true)
    (accepted : Field.numeral.accepts run = true) : Field.numeral.Holds run := by
  simp only [Field.accepts,Bool.and_eq_true,decide_eq_true_eq] at accepted
  obtain ⟨someDigit,points⟩ := accepted
  have digitOf (c : Char) (member : c ∈ run) (other : c ≠ '.') : isDigit c = true := by
    have admitted := digits c member
    simp only [Field.admits,Bool.or_eq_true,decide_eq_true_eq] at admitted
    exact admitted.resolve_right other
  obtain ⟨digit,digitMember,isDigit⟩ := List.any_eq_true.mp someDigit
  by_cases pointed : '.' ∈ run
  · obtain ⟨whole,fraction,rfl⟩ := List.append_of_mem pointed
    have noWhole : '.' ∉ whole := by
      intro member
      have := List.count_pos_iff.mpr member
      simp at points; omega
    have noFraction : '.' ∉ fraction := by
      intro member
      have := List.count_pos_iff.mpr member
      simp at points; omega
    refine ⟨whole,fraction,?_,?_,.inr rfl⟩
    · intro c member
      rcases List.mem_append.mp member with member | member
      · exact digitOf c (by simp [member]) (fun equal => noWhole (equal ▸ member))
      · exact digitOf c (by simp [member]) (fun equal => noFraction (equal ▸ member))
    · intro empty
      obtain ⟨rfl,rfl⟩ := List.append_eq_nil_iff.mp empty
      simp only [List.nil_append,List.mem_singleton] at digitMember
      subst digit; revert isDigit; decide
  · refine ⟨run,[],?_,?_,.inl ⟨rfl,rfl⟩⟩
    · intro c member
      exact digitOf c (by simpa using member) (fun equal => pointed (by simpa [equal] using member))
    · intro empty
      rw [List.append_nil] at empty
      subst empty; cases digitMember

theorem isDigit_point : isDigit '.' = false := by decide

theorem numeral_admitted {run : List Char} (holds : Field.numeral.Holds run) :
    (∀ c ∈ run, Field.numeral.admits c = true) ∧ Field.numeral.accepts run = true := by
  obtain ⟨whole,fraction,digits,nonempty,shape⟩ := holds
  have noPoint : ∀ piece : List Char, (∀ c ∈ piece, isDigit c = true) → piece.count '.' = 0 := by
    intro piece inside
    refine List.count_eq_zero.mpr fun member => ?_
    have := inside '.' member
    rw [isDigit_point] at this; cases this
  have wholeDigits : ∀ c ∈ whole, isDigit c = true := fun c member => digits c (by simp [member])
  have fractionDigits : ∀ c ∈ fraction, isDigit c = true := fun c member => digits c (by simp [member])
  obtain ⟨digit,member⟩ := List.exists_mem_of_ne_nil _ nonempty
  rcases shape with ⟨rfl,rfl⟩ | rfl
  · refine ⟨fun c inside => by simp [Field.admits,wholeDigits c inside],?_⟩
    simp only [Field.accepts,noPoint _ wholeDigits,Bool.and_eq_true,List.any_eq_true]
    exact ⟨⟨digit,by simpa using member,digits digit member⟩,by simp⟩
  · constructor
    · intro c inside
      simp only [List.mem_append,List.mem_cons] at inside
      rcases inside with inside | rfl | inside
      · simp [Field.admits,wholeDigits c inside]
      · simp [Field.admits]
      · simp [Field.admits,fractionDigits c inside]
    · simp only [Field.accepts,List.count_append,List.count_cons,noPoint _ wholeDigits,
        noPoint _ fractionDigits,Bool.and_eq_true,List.any_eq_true]
      refine ⟨⟨digit,?_,digits digit member⟩,by simp⟩
      rcases List.mem_append.mp member with member | member <;> simp [member]

theorem Field.holds_iff {kind : Field} {run : List Char} :
    kind.Holds run ↔ (∀ c ∈ run, kind.admits c = true) ∧ kind.accepts run = true := by
  cases kind with
  | numeral => exact ⟨numeral_admitted,fun ⟨admitted,accepted⟩ => holds_numeral admitted accepted⟩
  | count => simp [Field.Holds,Field.admits,Field.accepts,and_comm,and_assoc]
  | token => simp [Field.Holds,Field.admits,Field.accepts,and_comm]
  | word => simp [Field.Holds,Field.admits,Field.accepts,and_comm]
  | quotation => simp [Field.Holds,Field.admits,Field.accepts,and_comm]

theorem Field.Holds.ne_nil {kind : Field} {run : List Char} (holds : kind.Holds run) : run ≠ [] := by
  cases kind with
  | numeral =>
    obtain ⟨whole,fraction,_,nonempty,⟨rfl,rfl⟩ | rfl⟩ := holds
    · simpa using nonempty
    · simp
  | _ => exact holds.1

def Piece.Extends : Piece → Char → Prop
  | .literal _, _ => False
  | .gap, c => isGap c = true
  | .field kind, c => kind.admits c = true

def Piece.Begins : Piece → Char → Prop
  | .literal [], _ => True
  | .literal (l :: _), c => l.toLower = c.toLower
  | .gap, c => isGap c = true
  | .field kind, c => kind.admits c = true

def Pattern.Definite : Pattern → Prop
  | [] => True
  | [_] => True
  | piece :: next :: pattern =>
    (∀ c, piece.Extends c → ¬ next.Begins c) ∧ Pattern.Definite (next :: pattern)

theorem Pattern.Definite.tail {piece : Piece} {pattern : Pattern}
    (definite : Pattern.Definite (piece :: pattern)) : pattern.Definite := by
  cases pattern with
  | nil => trivial
  | cons next pattern => exact definite.2

theorem Pattern.Fits.begins {piece : Piece} {pattern : Pattern} {line : List Char}
    {captures : List (List Char)} (fits : Pattern.Fits (piece :: pattern) line captures) (rest : List Char) :
    ∀ c ∈ (line ++ rest).head?, piece.Begins c := by
  intro c first
  cases fits with
  | @literal text shown _ _ _ same behind =>
    cases text with
    | nil => trivial
    | cons l text =>
      cases shown with
      | nil => simp [SameLetters] at same
      | cons d shown =>
        simp only [SameLetters,List.map_cons,List.cons.injEq] at same
        cases first
        exact same.1
  | @gap blanks _ _ _ taken blank behind =>
    cases blanks with
    | nil => exact absurd rfl taken
    | cons d blanks => cases first; exact blank _ List.mem_cons_self
  | @field kind run _ _ _ holds behind =>
    cases run with
    | nil => exact absurd rfl holds.ne_nil
    | cons d run => cases first; exact (Field.holds_iff.mp holds).1 _ List.mem_cons_self

def Pattern.Stops (pattern : Pattern) (rest : List Char) : Prop :=
  ∀ last ∈ pattern.getLast?, ∀ c ∈ rest.head?, ¬ last.Extends c

theorem Pattern.Stops.tail {piece : Piece} {pattern : Pattern} {rest : List Char}
    (stops : Pattern.Stops (piece :: pattern) rest) : pattern.Stops rest := by
  intro last final
  cases pattern with
  | nil => cases final
  | cons next pattern => exact stops last (by rwa [List.getLast?_cons_cons])

-- Behind a piece of a definite pattern the line goes on with a character that is not the piece's.
theorem Pattern.Fits.boundary {piece : Piece} {pattern : Pattern} {line rest : List Char}
    {captures : List (List Char)} (fits : pattern.Fits line captures)
    (definite : Pattern.Definite (piece :: pattern)) (stops : Pattern.Stops (piece :: pattern) rest) :
    ∀ c ∈ (line ++ rest).head?, ¬ piece.Extends c := by
  intro c first
  cases pattern with
  | nil => cases fits; exact stops piece rfl c first
  | cons next pattern => exact fun extends_ => definite.1 c extends_ (fits.begins rest c first)

theorem Pattern.read?_sound {pattern : Pattern} {line : List Char} {captures : List (List Char)}
    (found : pattern.read? line = some captures) : pattern.Fits line captures := by
  induction pattern generalizing line captures with
  | nil =>
    cases line with
    | nil => cases found; exact .done
    | cons c line => cases found
  | cons piece pattern ih =>
    cases piece with
    | literal text =>
      obtain ⟨rest,after,read⟩ := Option.bind_eq_some_iff.mp found
      obtain ⟨shown,rfl,same⟩ := afterLiteral?_sound after
      exact .literal same (ih read)
    | gap =>
      simp only [Pattern.read?] at found
      split at found
      · cases found
      · rename_i taken
        rw [← List.takeWhile_append_dropWhile (p := isGap) (l := line)]
        exact .gap (by simpa using taken) (fun c => of_mem_takeWhile) (ih found)
    | field kind =>
      simp only [Pattern.read?] at found
      split at found
      · rename_i accepted
        obtain ⟨rest,read,rfl⟩ := Option.map_eq_some_iff.mp found
        have admitted : ∀ c ∈ line.takeWhile kind.admits, kind.admits c = true := fun c => of_mem_takeWhile
        have fits := Pattern.Fits.field (Field.holds_iff.mpr ⟨admitted,accepted⟩) (ih read)
        rwa [List.takeWhile_append_dropWhile] at fits
      · cases found

-- What a reader has taken, and what it has left, behind the first pieces of a pattern.
def Pattern.split? : Pattern → List Char → Option (List (List Char) × List Char)
  | [], line => some ([],line)
  | .literal text :: pattern, line => (afterLiteral? text line).bind (split? pattern)
  | .gap :: pattern, line =>
    if (line.takeWhile isGap).isEmpty then none else split? pattern (line.dropWhile isGap)
  | .field kind :: pattern, line =>
    let run := line.takeWhile kind.admits
    if kind.accepts run then
      (split? pattern (line.dropWhile kind.admits)).map fun (captures,rest) => (run :: captures,rest)
    else none

theorem Pattern.read?_append (first second : Pattern) (line : List Char) :
    Pattern.read? (first ++ second) line =
      (first.split? line).bind fun (captures,rest) => (second.read? rest).map (captures ++ ·) := by
  induction first generalizing line with
  | nil => simp [Pattern.split?]
  | cons piece first ih =>
    cases piece with
    | literal text =>
      simp only [List.cons_append,Pattern.read?,Pattern.split?,Option.bind_assoc]
      congr 1; funext rest; exact ih rest
    | gap =>
      simp only [List.cons_append,Pattern.read?,Pattern.split?]
      split
      · rfl
      · exact ih _
    | field kind =>
      simp only [List.cons_append,Pattern.read?,Pattern.split?]
      split
      · rw [ih]
        cases Pattern.split? first (line.dropWhile kind.admits) with
        | none => rfl
        | some rest => simp [Option.map_map,Function.comp_def]
      · rfl

theorem Pattern.read?_eq_split? (pattern : Pattern) (line : List Char) :
    pattern.read? line = (pattern.split? line).bind fun (captures,rest) =>
      if rest = [] then some captures else none := by
  have whole := Pattern.read?_append pattern [] line
  rw [List.append_nil] at whole
  rw [whole]
  cases pattern.split? line with
  | none => rfl
  | some found =>
    obtain ⟨captures,rest⟩ := found
    cases rest <;> simp [Pattern.read?]

theorem Pattern.split?_complete {pattern : Pattern} {line rest : List Char} {captures : List (List Char)}
    (definite : pattern.Definite) (stops : pattern.Stops rest) (fits : pattern.Fits line captures) :
    pattern.split? (line ++ rest) = some (captures,rest) := by
  induction fits with
  | done => rfl
  | literal same behind ih =>
    rw [List.append_assoc,Pattern.split?,afterLiteral?_complete same]
    exact ih definite.tail stops.tail
  | @gap blanks pattern line captures taken blank behind ih =>
    have outside : ∀ c ∈ (line ++ rest).head?, isGap c = false := fun c first =>
      Bool.eq_false_iff.mpr (behind.boundary definite stops c first)
    rw [List.append_assoc,Pattern.split?,takeWhile_run blank outside,dropWhile_run blank outside]
    simp [taken,ih definite.tail stops.tail]
  | @field kind run pattern line captures holds behind ih =>
    have outside : ∀ c ∈ (line ++ rest).head?, kind.admits c = false := fun c first =>
      Bool.eq_false_iff.mpr (behind.boundary definite stops c first)
    obtain ⟨inside,accepted⟩ := Field.holds_iff.mp holds
    rw [List.append_assoc,Pattern.split?,takeWhile_run inside outside,dropWhile_run inside outside]
    simp [accepted,ih definite.tail stops.tail]

theorem Pattern.read?_complete {pattern : Pattern} {line : List Char} {captures : List (List Char)}
    (definite : pattern.Definite) (fits : pattern.Fits line captures) :
    pattern.read? line = some captures := by
  have stops : pattern.Stops [] := fun _ _ c first => by cases first
  have split := Pattern.split?_complete definite stops fits
  rw [List.append_nil] at split
  rw [Pattern.read?_eq_split?,split]
  rfl

-- Longest runs find every split there is; in particular there is at most one.
theorem Pattern.read?_eq_some_iff {pattern : Pattern} {line : List Char} {captures : List (List Char)}
    (definite : pattern.Definite) : pattern.read? line = some captures ↔ pattern.Fits line captures :=
  ⟨Pattern.read?_sound,Pattern.read?_complete definite⟩

end PitWall.Sheet

import PitWall.Text.Blank

namespace PitWall.Text

theorem cut_ne_nil (separator : Char) (s : List Char) : cut separator s ≠ [] := by
  cases s with
  | nil => simp [cut]
  | cons c s =>
    simp only [cut]
    split
    · simp
    · split <;> simp

theorem cut_cons_other {separator c : Char} (other : c ≠ separator) (s : List Char) :
    ∃ piece pieces, cut separator s = piece :: pieces ∧ cut separator (c :: s) = (c :: piece) :: pieces := by
  obtain ⟨piece,pieces,same⟩ := List.exists_cons_of_ne_nil (cut_ne_nil separator s)
  exact ⟨piece,pieces,same,by simp [cut,other,same]⟩

theorem mem_cut {separator : Char} {s piece : List Char} (member : piece ∈ cut separator s) :
    ∀ c ∈ piece, c ∈ s ∧ c ≠ separator := by
  induction s generalizing piece with
  | nil =>
    simp only [cut,List.mem_singleton] at member
    subst member
    intro c inside
    cases inside
  | cons d s ih =>
    intro c inside
    by_cases separates : d = separator
    · rw [cut,if_pos separates] at member
      rcases List.mem_cons.mp member with rfl | later
      · cases inside
      · obtain ⟨inText,apart⟩ := ih later c inside
        exact ⟨List.mem_cons_of_mem _ inText,apart⟩
    · obtain ⟨first,others,cutRest,cutAll⟩ := cut_cons_other separates s
      rw [cutAll] at member
      rcases List.mem_cons.mp member with rfl | later
      · rcases List.mem_cons.mp inside with rfl | inside
        · exact ⟨List.mem_cons_self,separates⟩
        · obtain ⟨inText,apart⟩ := ih (cutRest ▸ List.mem_cons_self) c inside
          exact ⟨List.mem_cons_of_mem _ inText,apart⟩
      · obtain ⟨inText,apart⟩ := ih (cutRest ▸ List.mem_cons_of_mem _ later) c inside
        exact ⟨List.mem_cons_of_mem _ inText,apart⟩

theorem cut_whole {separator : Char} {piece : List Char} (clean : separator ∉ piece) :
    cut separator piece = [piece] := by
  induction piece with
  | nil => rfl
  | cons c piece ih =>
    simp only [List.mem_cons,not_or] at clean
    simp [cut,Ne.symm clean.1,ih clean.2]

theorem cut_append {separator : Char} {piece : List Char} (clean : separator ∉ piece) (rest : List Char) :
    cut separator (piece ++ separator :: rest) = piece :: cut separator rest := by
  induction piece with
  | nil => simp [cut]
  | cons c piece ih =>
    simp only [List.mem_cons,not_or] at clean
    simp [cut,Ne.symm clean.1,ih clean.2]

theorem cut_joinWith {separator : Char} {pieces : List (List Char)} (nonempty : pieces ≠ [])
    (clean : ∀ piece ∈ pieces, separator ∉ piece) : cut separator (joinWith [separator] pieces) = pieces := by
  induction pieces with
  | nil => exact absurd rfl nonempty
  | cons piece pieces ih =>
    cases pieces with
    | nil => exact cut_whole (clean piece (by simp))
    | cons next pieces =>
      have rest := ih (by simp) fun other member => clean other (List.mem_cons_of_mem _ member)
      rw [joinWith,List.append_assoc,List.singleton_append,cut_append (clean piece (by simp)),rest]

-- Lines that each end with their separator leave an empty piece behind the last one.
theorem cut_lines {separator : Char} {lines : List (List Char)} (clean : ∀ line ∈ lines, separator ∉ line) :
    cut separator (lines.flatMap (· ++ [separator])) = lines ++ [[]] := by
  induction lines with
  | nil => rfl
  | cons line lines ih =>
    have rest := ih fun other member => clean other (List.mem_cons_of_mem _ member)
    rw [List.flatMap_cons,List.append_assoc,List.singleton_append,cut_append (clean line (by simp)),rest]
    rfl

theorem joinWith_eq_nil_iff {separator : Char} {pieces : List (List Char)} (nonempty : pieces ≠ []) :
    joinWith [separator] pieces = [] ↔ pieces = [[]] := by
  cases pieces with
  | nil => exact absurd rfl nonempty
  | cons piece pieces =>
    cases pieces with
    | nil => simp [joinWith]
    | cons next pieces => simp [joinWith]

theorem mem_joinWith {separator c : Char} {pieces : List (List Char)}
    (member : c ∈ joinWith [separator] pieces) : c = separator ∨ ∃ piece ∈ pieces, c ∈ piece := by
  induction pieces with
  | nil => cases member
  | cons piece pieces ih =>
    cases pieces with
    | nil => exact .inr ⟨piece,by simp,member⟩
    | cons next pieces =>
      simp only [joinWith,List.append_assoc,List.mem_append,List.mem_singleton] at member
      rcases member with here | separates | later
      · exact .inr ⟨piece,by simp,here⟩
      · exact .inl separates
      · rcases ih later with separates | ⟨other,among,inside⟩
        · exact .inl separates
        · exact .inr ⟨other,List.mem_cons_of_mem _ among,inside⟩

structure Trimmed (s : List Char) : Prop where
  first : ∀ c ∈ s.head?, isBlank c = false
  last : ∀ c ∈ s.getLast?, isBlank c = false

theorem dropWhile_eq_self {p : Char → Bool} {s : List Char} (first : ∀ c ∈ s.head?, p c = false) :
    s.dropWhile p = s := by
  cases s with
  | nil => rfl
  | cons c s => simp [first c rfl]

theorem head?_dropWhile {α : Type} {p : α → Bool} (s : List α) : ∀ c ∈ (s.dropWhile p).head?, p c = false := by
  intro c first
  have stopped := List.head?_dropWhile_not p s
  rw [Option.mem_def.mp first] at stopped
  simpa using stopped

theorem trim_eq_self {s : List Char} (trimmed : Trimmed s) : trim s = s := by
  have last : ∀ c ∈ s.reverse.head?, isBlank c = false := by
    rw [List.head?_reverse]; exact trimmed.last
  rw [trim,trimStart,dropWhile_eq_self trimmed.first,trimEnd,dropWhile_eq_self last,List.reverse_reverse]

theorem trimmed_trim (s : List Char) : Trimmed (trim s) := by
  have last : ∀ c ∈ (trim s).getLast?, isBlank c = false := by
    rw [trim,trimEnd,List.getLast?_reverse]
    exact head?_dropWhile _
  refine ⟨?_,last⟩
  intro c first
  -- Nothing was cut off in front of what is left, so it begins as the text cut in front does.
  obtain ⟨gone,shape⟩ := List.dropWhile_suffix (p := isBlank) (l := (trimStart s).reverse)
  have shape : trim s ++ gone.reverse = trimStart s := by
    rw [trim,trimEnd,← List.reverse_append,shape,List.reverse_reverse]
  have start : c ∈ (trimStart s).head? := by
    rw [← shape]
    cases kept : trim s with
    | nil => rw [kept] at first; cases first
    | cons d rest => rw [kept] at first; exact first
  exact head?_dropWhile s c start

theorem trim_blanks {blanks : List Char} (blank : ∀ c ∈ blanks, isBlank c = true) (s : List Char) :
    trim (blanks ++ s) = trim s := by
  rw [trim,trim,trimStart,trimStart,List.dropWhile_append_of_pos blank]

theorem mem_trim {s : List Char} {c : Char} (member : c ∈ trim s) : c ∈ s := by
  rw [trim,trimEnd,List.mem_reverse] at member
  have inStart := (List.dropWhile_suffix _).subset member
  rw [List.mem_reverse] at inStart
  exact (List.dropWhile_suffix _).subset inStart

end PitWall.Text

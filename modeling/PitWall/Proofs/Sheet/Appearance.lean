import PitWall.Proofs.Sheet.Likeness
import PitWall.Proofs.Sheet.Numbering

namespace PitWall.Sheet
open Text

structure CarFacts.Alike (likeness : Likeness) (left right : CarFacts) : Prop where
  line : likeness.number left.line right.line
  start : left.start = right.start
  car : left.car = right.car

namespace Likeness
variable (likeness : Likeness)

def Problems (left right : List Problem) : Prop := List.Forall₂ (Problem.Alike likeness.text) left right

-- What is read from a line, and what is complained of there.
def Answers {α : Type} (R : α → α → Prop) (left right : α × List Problem) : Prop :=
  R left.1 right.1 ∧ likeness.Problems left.2 right.2

inductive Checks {α : Type} (R : α → α → Prop) : Except Problem α → Except Problem α → Prop where
  | ok (alike : R left right) : Checks R (.ok left) (.ok right)
  | error (alike : Problem.Alike likeness.text left right) : Checks R (.error left) (.error right)

variable {likeness}

theorem Problems.refl (problems : List Problem) : likeness.Problems problems problems :=
  List.forall₂_same.mpr fun problem _ => .same problem

theorem Problems.append {left right others more : List Problem} (first : likeness.Problems left right)
    (second : likeness.Problems others more) : likeness.Problems (left ++ others) (right ++ more) :=
  List.rel_append first second

theorem Checks.problems {α : Type} {R : α → α → Prop} {left right : Except Problem α}
    (checks : likeness.Checks R left right) : likeness.Problems (problemOf left) (problemOf right) := by
  cases checks with
  | ok => exact .nil
  | error alike => exact .cons alike .nil

theorem Checks.value {α : Type} {R : α → α → Prop} {left right : Except Problem α}
    (checks : likeness.Checks R left right) : Option.Rel R left.toOption right.toOption := by
  cases checks with
  | ok alike => exact .some alike
  | error => exact .none

theorem Checks.ok_or_error {α : Type} {left right : Except Problem α} (checks : likeness.Checks Eq left right) :
    (∃ value, left = .ok value ∧ right = .ok value) ∨
      ∃ problem other, left = .error problem ∧ right = .error other := by
  cases checks with
  | @ok value _ same => exact .inl ⟨value,rfl,by rw [same]⟩
  | @error problem other => exact .inr ⟨problem,other,rfl,rfl⟩

end Likeness

section
variable {likeness : Likeness} {s t : List Char}

theorem wordIn_alike {α : Type} [Vocabulary α] (place : Term) (folded : List Char) (alike : likeness.text s t) :
    likeness.Checks Eq (wordIn (α := α) place s folded) (wordIn place t folded) := by
  unfold wordIn
  split
  · exact .ok rfl
  · exact .error (.unknownTerm alike)

theorem term_alike {α : Type} [Vocabulary α] (place : Term) (alike : likeness.text s t) :
    likeness.Checks Eq (term (α := α) place s) (term place t) := by
  unfold term
  rw [(likeness.letters alike).lowerAscii_eq]
  exact wordIn_alike place _ alike

theorem compoundTerm_alike (alike : likeness.text s t) : likeness.Checks Eq (compoundTerm s) (compoundTerm t) := by
  unfold compoundTerm
  rw [(likeness.letters alike).upperAscii_eq]
  exact wordIn_alike .compound _ alike

-- The readers of a line.
theorem readRaceLine_alike (alike : likeness.text s t) :
    likeness.Answers Eq (readRaceLine s) (readRaceLine t) := by
  unfold readRaceLine
  rcases likeness.read_one alike .race [.token,.count,.word,.count] rfl with
    ⟨left,right⟩ | ⟨captures,others,left,right,captured⟩
  · rw [left,right]
    exact ⟨rfl,.cons (.malformed alike) .nil⟩
  · rw [left,right]
    obtain _ | ⟨name,_ | ⟨rfl,_ | ⟨word,_ | ⟨rfl,_ | _⟩⟩⟩⟩ := captured
    have weather := term_alike (α := Weather) .weather word
    refine ⟨?_,(weather.problems.append (.refl _)).append (.refl _)⟩
    dsimp only
    rcases weather.ok_or_error with ⟨weather,one,other⟩ | ⟨_,_,one,other⟩
    · rw [one,other,(likeness.letters name).upper_eq]
    · rw [one,other]
      rfl

theorem carFrom_alike {m n : Nat} {pace paceWord risk riskWord : List Char} (start : List Char)
    (target : Option (List Char)) (numbers : likeness.number m n) (paces : likeness.text pace paceWord)
    (risks : likeness.text risk riskWord) : likeness.Answers (Option.Rel (CarFacts.Alike likeness))
      (carFrom m start pace risk target) (carFrom n start paceWord riskWord target) := by
  have pace := term_alike (α := PaceClass) .paceClass paces
  have risk := term_alike (α := RiskProfile) .riskProfile risks
  refine ⟨.some ⟨numbers,rfl,?_⟩,(pace.problems.append risk.problems).append (.refl _)⟩
  rcases pace.ok_or_error with ⟨pace,one,other⟩ | ⟨_,_,one,other⟩ <;>
    rcases risk.ok_or_error with ⟨risk,own,another⟩ | ⟨_,_,own,another⟩ <;> simp only [one,other,own,another]

theorem readCarLine_alike {m n : Nat} (numbers : likeness.number m n) (alike : likeness.text s t) :
    likeness.Answers (Option.Rel (CarFacts.Alike likeness)) (readCarLine m s) (readCarLine n t) := by
  unfold readCarLine
  rcases likeness.read? alike .car with ⟨left,right⟩ | ⟨fields,member,captures,others,left,right,captured⟩
  · rw [left,right]
    exact ⟨.none,.cons (.malformed alike) .nil⟩
  · have shape : fields = [.count,.word,.word] ∨ fields = [.count,.word,.word,.count] := by
      have shapes : fields ∈ [[.count,.word,.word],[.count,.word,.word,.count],[.count,.word,.word]] := member
      simp only [List.mem_cons,List.not_mem_nil,or_false] at shapes
      tauto
    rw [left,right]
    rcases shape with rfl | rfl
    · obtain _ | ⟨rfl,_ | ⟨pace,_ | ⟨risk,_ | _⟩⟩⟩ := captured
      exact carFrom_alike _ none numbers pace risk
    · obtain _ | ⟨rfl,_ | ⟨pace,_ | ⟨risk,_ | ⟨rfl,_ | _⟩⟩⟩⟩ := captured
      exact carFrom_alike _ (some _) numbers pace risk

theorem readAeroLine_alike (alike : likeness.text s t) : likeness.Answers Eq (readAeroLine s) (readAeroLine t) := by
  unfold readAeroLine
  rcases likeness.read_one alike .aero [.word] rfl with
    ⟨left,right⟩ | ⟨captures,others,left,right,captured⟩
  · rw [left,right]
    exact ⟨rfl,.cons (.malformed alike) .nil⟩
  · rw [left,right]
    obtain _ | ⟨word,_ | _⟩ := captured
    have aero := term_alike (α := AeroDemand) .aero word
    exact ⟨eq_of_rel aero.value,aero.problems⟩

theorem readOvertakingLine_alike (alike : likeness.text s t) :
    likeness.Answers Eq (readOvertakingLine s) (readOvertakingLine t) := by
  unfold readOvertakingLine
  rcases likeness.read_one alike .overtaking [.word,.numeral] rfl with
    ⟨left,right⟩ | ⟨captures,others,left,right,captured⟩
  · rw [left,right]
    exact ⟨rfl,.cons (.malformed alike) .nil⟩
  · rw [left,right]
    obtain _ | ⟨word,_ | ⟨rfl,_ | _⟩⟩ := captured
    have difficulty := term_alike (α := Difficulty) .difficulty word
    exact ⟨congrArg (·,_) (eq_of_rel difficulty.value),difficulty.problems.append (.refl _)⟩

theorem readStintLine_alike (alike : likeness.text s t) :
    (readStintLine s).isStint = (readStintLine t).isStint ∧ (readStintLine s).stint = (readStintLine t).stint ∧
      likeness.Problems (readStintLine s).problems (readStintLine t).problems := by
  unfold readStintLine
  rcases likeness.read_one alike .stint [.count,.word,.count] rfl with
    ⟨left,right⟩ | ⟨captures,others,left,right,captured⟩
  · rw [left,right]
    exact ⟨rfl,rfl,.cons (.malformed alike) .nil⟩
  · rw [left,right]
    obtain _ | ⟨rfl,_ | ⟨word,_ | ⟨rfl,_ | _⟩⟩⟩ := captured
    have compound := compoundTerm_alike word
    refine ⟨rfl,?_,compound.problems.append (.refl _)⟩
    rcases compound.ok_or_error with ⟨compound,one,other⟩ | ⟨_,_,one,other⟩ <;> simp only [one,other]

theorem readTurnLine_alike (alike : likeness.text s t) :
    likeness.Checks (Turn.Alike likeness.text) (readTurnLine s) (readTurnLine t) := by
  unfold readTurnLine
  rcases likeness.read_one alike .turn [.count,.quotation,.token,.quotation] rfl with
    ⟨left,right⟩ | ⟨captures,others,left,right,captured⟩
  · rw [left,right]
    exact .error (.malformed alike)
  · rw [left,right]
    obtain _ | ⟨rfl,_ | ⟨name,_ | ⟨tags,_ | ⟨note,_ | _⟩⟩⟩⟩ := captured
    refine .ok ⟨rfl,?_,(likeness.letters tags).riskTags_eq,?_⟩ <;> simp only [String.toList_ofList]
    · exact name
    · exact note

theorem readWinnerStintLine_alike (alike : likeness.text s t) :
    likeness.Checks Eq (readWinnerStintLine s) (readWinnerStintLine t) := by
  unfold readWinnerStintLine
  rcases likeness.read_one alike .winnerStint [.word,.count] rfl with
    ⟨left,right⟩ | ⟨captures,others,left,right,captured⟩
  · rw [left,right]
    exact .error (.malformed alike)
  · rw [left,right]
    obtain _ | ⟨word,_ | ⟨rfl,_ | _⟩⟩ := captured
    dsimp only
    rw [(likeness.letters word).upperAscii_eq]
    split
    · exact .ok rfl
    · exact .error (.winnerCompound word)

end

section
variable (likeness : Likeness)

structure Line.Alike (left right : Line) : Prop where
  number : likeness.number left.number right.number
  text : likeness.text left.text right.text

structure Diagnostic.Alike (left right : Diagnostic) : Prop where
  line : likeness.number left.line right.line
  problem : Problem.Alike likeness.text left.problem right.problem

structure Block.Alike (left right : Block) : Prop where
  body : List.Forall₂ (Line.Alike likeness) left.body right.body
  rest : List.Forall₂ (Line.Alike likeness) left.rest right.rest
  cursor : likeness.number left.cursor right.cursor

structure Passage.Alike {α : Type} (R : α → α → Prop) (left right : Passage α) : Prop where
  found : R left.found right.found
  diagnostics : List.Forall₂ (Diagnostic.Alike likeness) left.diagnostics right.diagnostics
  cursor : likeness.number left.cursor right.cursor
  rest : List.Forall₂ (Line.Alike likeness) left.rest right.rest

end

section
variable {likeness : Likeness} {m n : Nat} {left right : List Line}

theorem Line.Alike.says_eq {line other : Line} (alike : Line.Alike likeness line other) (keyword : String) :
    line.says keyword = other.says keyword := by
  unfold Line.says
  rw [(likeness.letters alike.text).upper_eq]

theorem onLine_alike {line other : Line} {problems others : List Problem} (alike : Line.Alike likeness line other)
    (each : likeness.Problems problems others) :
    List.Forall₂ (Diagnostic.Alike likeness) (onLine line problems) (onLine other others) := by
  unfold onLine
  rw [List.forall₂_map_left_iff,List.forall₂_map_right_iff]
  exact each.imp fun _ _ problem => ⟨alike.number,problem⟩

theorem single_alike (numbers : likeness.number m n) {problem other : Problem}
    (alike : Problem.Alike likeness.text problem other) :
    List.Forall₂ (Diagnostic.Alike likeness) [⟨m,problem⟩] [⟨n,other⟩] := .cons ⟨numbers,alike⟩ .nil

theorem block_alike (stops : likeness.number m n) (lines : List.Forall₂ (Line.Alike likeness) left right) :
    Block.Alike likeness (Block.of m left) (Block.of n right) := by
  induction lines with
  | nil => exact ⟨.nil,.nil,stops⟩
  | @cons line other left right alike rest ih =>
    rw [block_cons,block_cons,Line.closes,Line.closes,alike.says_eq]
    split
    · exact ⟨.nil,rest,likeness.next alike.number⟩
    · exact ⟨.cons alike ih.body,ih.rest,ih.cursor⟩

-- The rows of a block, each put to a reader of its own.
theorem rows_alike {ρ α : Type} (reader : List Char → ρ) (value : ρ → Option α) (problems : ρ → List Problem)
    {R : α → α → Prop} (values : ∀ s t, likeness.text s t → Option.Rel R (value (reader s)) (value (reader t)))
    (each : ∀ s t, likeness.text s t → likeness.Problems (problems (reader s)) (problems (reader t)))
    (lines : List.Forall₂ (Line.Alike likeness) left right) :
    List.Forall₂ R ((left.map fun line => (line,reader line.text)).filterMap (value ·.2))
        ((right.map fun line => (line,reader line.text)).filterMap (value ·.2)) ∧
      List.Forall₂ (Diagnostic.Alike likeness)
        ((left.map fun line => (line,reader line.text)).flatMap fun entry => onLine entry.1 (problems entry.2))
        ((right.map fun line => (line,reader line.text)).flatMap fun entry => onLine entry.1 (problems entry.2)) := by
  induction lines with
  | nil => exact ⟨.nil,.nil⟩
  | @cons line other left right alike rest ih =>
    have here := onLine_alike alike (each _ _ alike.text)
    refine ⟨?_,List.rel_append here ih.2⟩
    simp only [List.map_cons,List.filterMap_cons]
    have first := values _ _ alike.text
    revert first
    generalize value (reader line.text) = found,value (reader other.text) = another
    intro first
    cases first with
    | none => exact ih.1
    | some first => exact .cons first ih.1

theorem any_alike {p : List Char → Bool} (each : ∀ s t, likeness.text s t → p s = p t)
    (lines : List.Forall₂ (Line.Alike likeness) left right) : left.any (p ·.text) = right.any (p ·.text) := by
  induction lines with
  | nil => rfl
  | cons alike _ ih => rw [List.any_cons,List.any_cons,each _ _ alike.text,ih]

theorem requiredLine_alike {α : Type} {R : α → α → Prop} (required : Required) {read : Line → α × List Problem}
    (each : ∀ line other, Line.Alike likeness line other → likeness.Answers R (read line) (read other)) (absent : α)
    (same : R absent absent) (stops : likeness.number m n) (lines : List.Forall₂ (Line.Alike likeness) left right) :
    Passage.Alike likeness R (requiredLine required read absent m left) (requiredLine required read absent n right) := by
  cases lines with
  | nil => exact ⟨same,single_alike stops (.same _),stops,.nil⟩
  | cons alike rest =>
    obtain ⟨found,problems⟩ := each _ _ alike
    exact ⟨found,onLine_alike alike problems,likeness.next alike.number,rest⟩

theorem raceSection_alike (stops : likeness.number m n) (lines : List.Forall₂ (Line.Alike likeness) left right) :
    Passage.Alike likeness Eq (raceSection m left) (raceSection n right) :=
  requiredLine_alike .race (fun _ _ alike => readRaceLine_alike alike.text) none rfl stops lines

theorem carSection_alike (stops : likeness.number m n) (lines : List.Forall₂ (Line.Alike likeness) left right) :
    Passage.Alike likeness (Option.Rel (CarFacts.Alike likeness)) (carSection m left) (carSection n right) :=
  requiredLine_alike .car (fun _ _ alike => readCarLine_alike alike.number alike.text) none .none stops lines

theorem trackSection_alike (stops : likeness.number m n) (lines : List.Forall₂ (Line.Alike likeness) left right) :
    Passage.Alike likeness Eq (trackSection m left) (trackSection n right) := by
  have aero := requiredLine_alike .aero (fun _ _ alike => readAeroLine_alike alike.text) none rfl stops lines
  have overtaking := requiredLine_alike .overtaking (fun _ _ alike => readOvertakingLine_alike alike.text)
    (none,none) rfl stops aero.rest
  unfold trackSection
  cases lines with
  | nil => exact ⟨rfl,aero.diagnostics,aero.cursor,aero.rest⟩
  | cons alike rest =>
    refine ⟨?_,List.rel_append aero.diagnostics overtaking.diagnostics,overtaking.cursor,overtaking.rest⟩
    dsimp only
    rw [aero.found,overtaking.found]
    rfl

theorem plan_alike {label other : List Char} (stints : List Stint) (alike : likeness.text label other) :
    Option.Rel (Strategy.Alike likeness.text)
      (Attempt.when (!stints.isEmpty) (Strategy.of (String.ofList label) stints)).value?
      (Attempt.when (!stints.isEmpty) (Strategy.of (String.ofList other) stints)).value? := by
  cases stints with
  | nil => exact .none
  | cons stint stints =>
    refine .some ⟨?_,rfl⟩
    simpa only [String.toList_ofList] using alike

theorem strategySection_alike (stops : likeness.number m n) (lines : List.Forall₂ (Line.Alike likeness) left right) :
    Passage.Alike likeness (fun plan other => Option.Rel (Strategy.Alike likeness.text) plan.value? other.value?)
      (strategySection m left) (strategySection n right) := by
  cases lines with
  | nil => exact ⟨.none,single_alike stops (.same _),stops,.nil⟩
  | @cons line other left right alike rest =>
    rw [strategySection,strategySection]
    rcases likeness.read_one alike.text .strategy [.quotation] rfl with
      ⟨one,another⟩ | ⟨captures,others,one,another,captured⟩
    · rw [one,another]
      exact ⟨.none,single_alike alike.number (.malformed alike.text),likeness.next alike.number,rest⟩
    · rw [one,another]
      obtain _ | ⟨label,_ | _⟩ := captured
      have block := block_alike stops rest
      obtain ⟨stints,problems⟩ := rows_alike readStintLine (·.stint) (·.problems) (R := Eq)
        (fun s t alike => by rw [(readStintLine_alike alike).2.1]; exact rel_self _)
        (fun s t alike => (readStintLine_alike alike).2.2) block.body
      have any := any_alike (p := fun text => (readStintLine text).isStint) (fun s t alike => (readStintLine_alike alike).1)
        block.body
      rw [List.forall₂_eq_eq_eq] at stints
      refine ⟨?_,List.rel_append problems ?_,block.cursor,block.rest⟩
      · dsimp only
        rw [stints]
        exact plan_alike _ label
      · simp only [List.any_map,Function.comp_def]
        rw [any]
        split
        · exact .nil
        · exact single_alike block.cursor (.same _)

theorem turnsSection_alike (stops : likeness.number m n) (lines : List.Forall₂ (Line.Alike likeness) left right) :
    Passage.Alike likeness (List.Forall₂ (Turn.Alike likeness.text)) (turnsSection m left) (turnsSection n right) := by
  cases lines with
  | nil => exact ⟨.nil,.nil,stops,.nil⟩
  | cons alike rest =>
    rw [turnsSection,turnsSection,alike.says_eq]
    split
    · have block := block_alike stops rest
      obtain ⟨turns,problems⟩ := rows_alike readTurnLine (·.toOption) problemOf (fun s t alike => (readTurnLine_alike alike).value)
        (fun s t alike => (readTurnLine_alike alike).problems) block.body
      exact ⟨turns,problems,block.cursor,block.rest⟩
    · exact ⟨.nil,.nil,alike.number,.cons alike rest⟩

theorem winnerStints_alike (stops : likeness.number m n) (lines : List.Forall₂ (Line.Alike likeness) left right) :
    Passage.Alike likeness Eq (winnerStints m left) (winnerStints n right) := by
  cases lines with
  | nil => exact ⟨rfl,.nil,stops,.nil⟩
  | cons alike rest =>
    rw [winnerStints,winnerStints,alike.says_eq]
    split
    · have block := block_alike stops rest
      obtain ⟨stints,problems⟩ := rows_alike readWinnerStintLine (·.toOption) problemOf
        (fun s t alike => (readWinnerStintLine_alike alike).value)
        (fun s t alike => (readWinnerStintLine_alike alike).problems) block.body
      rw [List.forall₂_eq_eq_eq] at stints
      exact ⟨stints,problems,block.cursor,block.rest⟩
    · have block := block_alike stops (.cons alike rest)
      exact ⟨rfl,.nil,block.cursor,block.rest⟩

theorem winnerBody_alike (stops : likeness.number m n) (lines : List.Forall₂ (Line.Alike likeness) left right) :
    Passage.Alike likeness (Option.Rel (PreviousWinner.Alike likeness.text)) (winnerBody m left) (winnerBody n right) := by
  cases lines with
  | nil => exact ⟨.none,single_alike stops (.same _),stops,.nil⟩
  | cons alike rest =>
    rw [winnerBody,winnerBody]
    rcases likeness.read_one alike.text .winnerYear [.count,.quotation] rfl with
      ⟨one,another⟩ | ⟨captures,others,one,another,captured⟩
    · have block := block_alike stops (.cons alike rest)
      rw [one,another]
      exact ⟨.none,single_alike alike.number (.malformed alike.text),block.cursor,block.rest⟩
    · rw [one,another]
      obtain _ | ⟨rfl,_ | ⟨label,_ | _⟩⟩ := captured
      have stints := winnerStints_alike stops rest
      refine ⟨.some ⟨rfl,?_,stints.found⟩,stints.diagnostics,stints.cursor,stints.rest⟩
      simp only [String.toList_ofList]
      exact label

theorem winnerSection_alike (stops : likeness.number m n) (lines : List.Forall₂ (Line.Alike likeness) left right) :
    Passage.Alike likeness (Option.Rel (PreviousWinner.Alike likeness.text)) (winnerSection m left)
      (winnerSection n right) := by
  cases lines with
  | nil => exact ⟨.none,.nil,stops,.nil⟩
  | cons alike rest =>
    rw [winnerSection,winnerSection,alike.says_eq]
    split
    · exact winnerBody_alike stops rest
    · exact ⟨.none,.nil,alike.number,.cons alike rest⟩

end

end PitWall.Sheet

import PitWall.Proofs.Sheet.Numbering

namespace PitWall.Sheet
open Text

-- A diagnostic as it is told. What a block reports is specified in these words, and not by the causes that the
-- reader tells apart.
structure Report where
  line : Nat
  place : Option String
  message : String
deriving DecidableEq

def Diagnostic.report (diagnostic : Diagnostic) : Report := ⟨diagnostic.line,diagnostic.place,diagnostic.message⟩

def quoting (complaint : String) (text : List Char) : String := complaint ++ ": \"" ++ String.ofList text ++ "\""

def unknownCompound (word : List Char) : String :=
  quoting "Invalid tire compound" word ++ ". Must be one of: SOFT, MEDIUM, HARD, INTERMEDIATE, WET"

def stintLength (laps : Nat) : String := s!"Invalid stint laps: {laps}. Must be between 1 and 100"

inductive StintFaults : List Char → List String → Prop where
  | malformed (unread : ∀ captures, ¬ LineKind.stint.Fits text captures) :
      StintFaults text [quoting "Invalid STINT line" text]
  | compound (fits : LineKind.stint.Fits text [number,word,laps]) (unknown : ∀ compound : Compound, ¬ Names word compound)
      (length : 1 ≤ countValue laps ∧ countValue laps ≤ 100) : StintFaults text [unknownCompound word]
  | laps {compound : Compound} (fits : LineKind.stint.Fits text [number,word,laps]) (named : Names word compound)
      (length : ¬ (1 ≤ countValue laps ∧ countValue laps ≤ 100)) : StintFaults text [stintLength (countValue laps)]
  | both (fits : LineKind.stint.Fits text [number,word,laps]) (unknown : ∀ compound : Compound, ¬ Names word compound)
      (length : ¬ (1 ≤ countValue laps ∧ countValue laps ≤ 100)) :
      StintFaults text [unknownCompound word,stintLength (countValue laps)]

inductive TurnFaults : List Char → List String → Prop where
  | malformed (unread : ∀ captures, ¬ LineKind.turn.Fits text captures) :
      TurnFaults text [quoting "Invalid TURN line" text]

inductive WinnerStintFaults : List Char → List String → Prop where
  | malformed (unread : ∀ captures, ¬ LineKind.winnerStint.Fits text captures) :
      WinnerStintFaults text [quoting "Invalid PREVIOUS_WINNER stint line" text]
  | compound (fits : LineKind.winnerStint.Fits text [word,laps]) (unknown : ∀ compound : Compound, ¬ Names word compound) :
      WinnerStintFaults text [quoting "Invalid tire compound in PREVIOUS_WINNER" word]

inductive Sifted {α : Type} (place : String) (Kept : List Char → α → Prop) (Faults : List Char → List String → Prop) :
    List Line → List Report → List α → Prop where
  | nil : Sifted place Kept Faults [] [] []
  | kept (reads : Kept line.text value) (others : Sifted place Kept Faults rest reports values) :
      Sifted place Kept Faults (line :: rest) reports (value :: values)
  | reported (faults : Faults line.text messages) (others : Sifted place Kept Faults rest reports values) :
      Sifted place Kept Faults (line :: rest) (messages.map (⟨line.number,some place,·⟩) ++ reports) values

inductive Body (stop : Nat) : List Line → List Line → Nat → List Line → Prop where
  | unclosed : Body stop [] [] stop []
  | closed (closing : Says line.text "END") : Body stop (line :: rest) [] (line.number + 1) rest
  | row (inside : ¬ Says line.text "END") (others : Body stop below rows next rest) :
      Body stop (line :: below) (line :: rows) next rest

inductive StrategyPart (stop : Nat) : List Line → List Report → List Stint → List Line → Prop where
  | missing : StrategyPart stop [] [⟨stop,some "STRATEGY","Missing STRATEGY block"⟩] [] []
  | unread (other : ∀ captures, ¬ LineKind.strategy.Fits line.text captures) :
      StrategyPart stop (line :: rest)
        [⟨line.number,some "STRATEGY",quoting "Invalid STRATEGY start line" line.text⟩] [] rest
  | block (header : StrategyLine line.text label) (body : Body stop below rows next rest)
      (each : Sifted "STRATEGY" StintLineOf StintFaults rows reports stints)
      (counted : ∃ row ∈ rows, ∃ captures, LineKind.stint.Fits row.text captures) :
      StrategyPart stop (line :: below) reports stints rest
  | empty (header : StrategyLine line.text label) (body : Body stop below rows next rest)
      (each : Sifted "STRATEGY" StintLineOf StintFaults rows reports stints)
      (uncounted : ∀ row ∈ rows, ∀ captures, ¬ LineKind.stint.Fits row.text captures) :
      StrategyPart stop (line :: below)
        (reports ++ [⟨next,some "STRATEGY","STRATEGY block must contain at least one STINT"⟩]) stints rest

inductive TurnsPart (stop : Nat) : List Line → List Report → List Turn → List Line → Prop where
  | absent (other : ∀ line ∈ below.head?, ¬ Says line.text "CRITICAL_TURNS") : TurnsPart stop below [] [] below
  | block (header : Says line.text "CRITICAL_TURNS") (body : Body stop below rows next rest)
      (each : Sifted "CRITICAL_TURNS" TurnLine TurnFaults rows reports turns) :
      TurnsPart stop (line :: below) reports turns rest

inductive WinnerList (stop : Nat) : List Line → List Report → List WinnerStint → Prop where
  | absent (other : ∀ line ∈ below.head?, ¬ Says line.text "STINTS:") : WinnerList stop below [] []
  | block (heading : Says line.text "STINTS:") (body : Body stop below rows next rest)
      (each : Sifted "PREVIOUS_WINNER" WinnerStintLine WinnerStintFaults rows reports stints) :
      WinnerList stop (line :: below) reports stints

-- Behind a year that cannot be read, nothing of the block is looked at.
inductive WinnerPart (stop : Nat) : List Line → List Report → Option PreviousWinner → Prop where
  | absent (other : ∀ line ∈ below.head?, ¬ Says line.text "PREVIOUS_WINNER") : WinnerPart stop below [] none
  | empty (header : Says line.text "PREVIOUS_WINNER") :
      WinnerPart stop [line] [⟨stop,some "PREVIOUS_WINNER","PREVIOUS_WINNER block is empty"⟩] none
  | unread (header : Says line.text "PREVIOUS_WINNER") (other : ∀ captures, ¬ LineKind.winnerYear.Fits year.text captures) :
      WinnerPart stop (line :: year :: below)
        [⟨year.number,some "PREVIOUS_WINNER",quoting "Invalid PREVIOUS_WINNER year line" year.text⟩] none
  | dated (header : Says line.text "PREVIOUS_WINNER") (dates : YearLine year.text number label)
      (list : WinnerList stop below reports stints) :
      WinnerPart stop (line :: year :: below) reports (some ⟨number,label,stints⟩)

theorem LineKind.read?_eq_none_iff {kind : LineKind} {line : List Char} :
    kind.read? line = none ↔ ∀ captures, ¬ kind.Fits line captures := by
  rw [Option.eq_none_iff_forall_ne_some]
  exact forall_congr' fun captures => not_congr read?_eq_some_iff

theorem compoundTerm_unknown {word : List Char} (unknown : ∀ compound : Compound, ¬ Names word compound) :
    compoundTerm word = .error (.unknownTerm .compound word) := by
  cases read : compoundTerm word with
  | ok compound => exact absurd (compoundTerm_eq_ok_iff.mp read) (unknown compound)
  | error problem =>
    unfold compoundTerm wordIn at read
    split at read
    · cases read
    · exact read.symm

def Problem.told (problem : Problem) : Option String × String :=
  (problem.place.map Vocabulary.spelling,problem.message)

def Tells (place : String) (problems : List Problem) (messages : List String) : Prop :=
  problems.map Problem.told = messages.map (some place,·)

theorem Tells.reports {place : String} {problems : List Problem} {messages : List String}
    (tells : Tells place problems messages) (line : Line) :
    (onLine line problems).map Diagnostic.report = messages.map (⟨line.number,some place,·⟩) := by
  have numbered := congrArg (List.map fun told => Report.mk line.number told.1 told.2) tells
  rw [List.map_map,List.map_map] at numbered
  rw [onLine,List.map_map]
  exact numbered

theorem quoting_eq (complaint : String) (text : List Char) :
    quoting complaint text = complaint ++ ": " ++ Problem.inQuotationMarks text := by
  apply String.toList_inj.mp
  simp [quoting,Problem.inQuotationMarks,quotationMark]

theorem told_malformed (kind : LineKind) (text : List Char) :
    (Problem.malformed kind text).told = (some (Vocabulary.spelling kind.place),quoting ("Invalid " ++ kind.title) text) := by
  rw [quoting_eq]
  rfl

theorem told_unknownCompound (word : List Char) :
    (Problem.unknownTerm .compound word).told = (some "STRATEGY",unknownCompound word) := by
  have choices : ". Must be one of: " ++ Term.choices .compound = ". Must be one of: SOFT, MEDIUM, HARD, INTERMEDIATE, WET" := rfl
  rw [unknownCompound,quoting_eq,← choices]
  rfl

theorem told_winnerCompound (word : List Char) : (Problem.winnerCompound word).told =
    (some "PREVIOUS_WINNER",quoting "Invalid tire compound in PREVIOUS_WINNER" word) := by
  rw [quoting_eq]
  rfl

theorem readStintLine_faults {text : List Char} {messages : List String} (faults : StintFaults text messages) :
    (readStintLine text).stint = none ∧ Tells "STRATEGY" (readStintLine text).problems messages := by
  unfold readStintLine
  cases faults with
  | malformed unread =>
    rw [LineKind.read?_eq_none_iff.mpr unread]
    exact ⟨rfl,congrArg (List.cons · []) (told_malformed .stint text)⟩
  | compound fits unknown length =>
    rw [LineKind.read?_eq_some_iff.mpr fits]
    simp [compoundTerm_unknown unknown,isRaceLength_iff.mpr length,problemOf,demand,Tells,told_unknownCompound]
  | laps fits named length =>
    have off := Bool.eq_false_iff.mpr fun fine => length (isRaceLength_iff.mp fine)
    rw [LineKind.read?_eq_some_iff.mpr fits]
    simp [compoundTerm_eq_ok_iff.mpr named,off,problemOf,demand,Tells]
    rfl
  | both fits unknown length =>
    have off := Bool.eq_false_iff.mpr fun fine => length (isRaceLength_iff.mp fine)
    rw [LineKind.read?_eq_some_iff.mpr fits]
    simp [compoundTerm_unknown unknown,off,problemOf,demand,Tells,told_unknownCompound]
    rfl

theorem LineKind.Fits.count {kind : LineKind} {pattern : Pattern} {line : List Char} {captures : List (List Char)}
    (fits : kind.Fits line captures) (only : kind.patterns = [pattern]) : captures.length = pattern.fields.length :=
  (fits.holds only).length_eq.symm

theorem stint_judged (text : List Char) : (∃ stint, StintLineOf text stint) ∨ ∃ messages, StintFaults text messages := by
  by_cases unread : ∀ captures, ¬ LineKind.stint.Fits text captures
  · exact .inr ⟨_,.malformed unread⟩
  · obtain ⟨captures,fits⟩ := not_forall_not.mp unread
    obtain ⟨number,word,laps,rfl⟩ := List.length_eq_three.mp (fits.count rfl)
    by_cases length : 1 ≤ countValue laps ∧ countValue laps ≤ 100
    · by_cases unknown : ∀ compound : Compound, ¬ Names word compound
      · exact .inr ⟨_,.compound fits unknown length⟩
      · obtain ⟨compound,named⟩ := not_forall_not.mp unknown
        exact .inl ⟨⟨countValue number,compound,countValue laps⟩,number,word,laps,fits,named,rfl,rfl,length⟩
    · by_cases unknown : ∀ compound : Compound, ¬ Names word compound
      · exact .inr ⟨_,.both fits unknown length⟩
      · obtain ⟨compound,named⟩ := not_forall_not.mp unknown
        exact .inr ⟨_,.laps fits named length⟩

theorem turn_judged (text : List Char) : (∃ turn, TurnLine text turn) ∨ ∃ messages, TurnFaults text messages := by
  by_cases unread : ∀ captures, ¬ LineKind.turn.Fits text captures
  · exact .inr ⟨_,.malformed unread⟩
  · obtain ⟨captures,fits⟩ := not_forall_not.mp unread
    obtain ⟨number,name,tags,note,rfl⟩ := List.length_eq_four.mp (fits.count rfl)
    exact .inl ⟨_,number,name,tags,note,fits,rfl⟩

theorem winnerStint_judged (text : List Char) :
    (∃ stint, WinnerStintLine text stint) ∨ ∃ messages, WinnerStintFaults text messages := by
  by_cases unread : ∀ captures, ¬ LineKind.winnerStint.Fits text captures
  · exact .inr ⟨_,.malformed unread⟩
  · obtain ⟨captures,fits⟩ := not_forall_not.mp unread
    obtain ⟨word,laps,rfl⟩ := List.length_eq_two.mp (fits.count rfl)
    by_cases unknown : ∀ compound : Compound, ¬ Names word compound
    · exact .inr ⟨_,.compound fits unknown⟩
    · obtain ⟨compound,named⟩ := not_forall_not.mp unknown
      exact .inl ⟨⟨compound,countValue laps⟩,word,laps,fits,named,rfl⟩

theorem readTurnLine_faults {text : List Char} {messages : List String} (faults : TurnFaults text messages) :
    (readTurnLine text).toOption = none ∧ Tells "CRITICAL_TURNS" (problemOf (readTurnLine text)) messages := by
  cases faults with
  | malformed unread =>
    unfold readTurnLine
    rw [LineKind.read?_eq_none_iff.mpr unread]
    exact ⟨rfl,congrArg (List.cons · []) (told_malformed .turn text)⟩

theorem readWinnerStintLine_faults {text : List Char} {messages : List String} (faults : WinnerStintFaults text messages) :
    (readWinnerStintLine text).toOption = none ∧
      Tells "PREVIOUS_WINNER" (problemOf (readWinnerStintLine text)) messages := by
  unfold readWinnerStintLine
  cases faults with
  | malformed unread =>
    rw [LineKind.read?_eq_none_iff.mpr unread]
    exact ⟨rfl,congrArg (List.cons · []) (told_malformed .winnerStint text)⟩
  | @compound word laps fits unknown =>
    rw [LineKind.read?_eq_some_iff.mpr fits]
    have missing : Vocabulary.ofSpelling? (α := Compound) (String.ofList (upperAscii word)) = none := by
      refine Option.eq_none_iff_forall_ne_some.mpr fun compound found => unknown compound ?_
      have same := congrArg String.toList (Vocabulary.ofSpelling?_eq_some_iff.mp found)
      rw [String.toList_ofList] at same
      exact compound_names_iff.mp same.symm
    dsimp only
    rw [missing]
    exact ⟨rfl,congrArg (List.cons · []) (told_winnerCompound word)⟩

theorem reports_malformed (line : Line) (kind : LineKind) :
    [(Diagnostic.mk line.number (.malformed kind line.text)).report] =
      [⟨line.number,some (Vocabulary.spelling kind.place),quoting ("Invalid " ++ kind.title) line.text⟩] := by
  have told := told_malformed kind line.text
  exact congrArg (fun told => [Report.mk line.number told.1 told.2]) told

@[simp] theorem onLine_nil (line : Line) : onLine line [] = [] := rfl

-- What a reader of rows makes of them is what there is to keep and to report.
theorem sifted_iff {α ρ : Type} {place : String} {Kept : List Char → α → Prop} {Faults : List Char → List String → Prop}
    (reader : List Char → ρ) (value : ρ → Option α) (problems : ρ → List Problem)
    (keeps : ∀ {text found}, Kept text found → value (reader text) = some found ∧ problems (reader text) = [])
    (blames : ∀ {text messages}, Faults text messages →
      value (reader text) = none ∧ Tells place (problems (reader text)) messages)
    (judged : ∀ text, (∃ found, Kept text found) ∨ ∃ messages, Faults text messages)
    {rows : List Line} {reports : List Report} {values : List α} :
    Sifted place Kept Faults rows reports values ↔
      ((rows.map fun line => (line,reader line.text)).flatMap fun entry => onLine entry.1 (problems entry.2)).map
        Diagnostic.report = reports ∧
      (rows.map fun line => (line,reader line.text)).filterMap (fun entry => value entry.2) = values := by
  constructor
  · intro sifted
    induction sifted with
    | nil => exact ⟨rfl,rfl⟩
    | kept reads _ ih =>
      obtain ⟨found,clean⟩ := keeps reads
      simp [found,clean,ih.1,ih.2]
    | reported faults _ ih =>
      obtain ⟨rejected,tells⟩ := blames faults
      simp [rejected,tells.reports,ih.1,ih.2]
  · rintro ⟨rfl,rfl⟩
    induction rows with
    | nil => exact .nil
    | cons line rest ih =>
      rw [List.map_cons,List.flatMap_cons,List.filterMap_cons,List.map_append]
      rcases judged line.text with ⟨_,reads⟩ | ⟨_,faults⟩
      · obtain ⟨found,clean⟩ := keeps reads
        simp only [found,clean]
        exact .kept reads ih
      · obtain ⟨rejected,tells⟩ := blames faults
        simp only [rejected,tells.reports line]
        exact .reported faults ih

theorem body_iff {stop : Nat} {below rows rest : List Line} {next : Nat} :
    Body stop below rows next rest ↔ Block.of stop below = ⟨rows,rest,next⟩ := by
  constructor
  · intro body
    induction body with
    | unclosed => rfl
    | closed closing => rw [block_cons,if_pos (Line.closes_iff.mpr closing)]
    | row inside _ ih => rw [block_cons,if_neg fun closes => inside (Line.closes_iff.mp closes),ih]
  · intro block
    induction below generalizing rows with
    | nil => cases block; exact .unclosed
    | cons line below ih =>
      rw [block_cons] at block
      split at block
      · rename_i closes
        cases block
        exact .closed (Line.closes_iff.mp closes)
      · rename_i other
        cases block
        exact .row (fun closing => other (Line.closes_iff.mpr closing)) (ih rfl)

theorem exists_body (stop : Nat) (below : List Line) : ∃ rows next rest, Body stop below rows next rest :=
  ⟨_,_,_,body_iff.mpr rfl⟩

def keptStints (found : Attempt Strategy) : List Stint := (found.value?.map (·.stints)).getD []

theorem keptStints_when (label : String) (stints : List Stint) :
    keptStints (.when (!stints.isEmpty) (Strategy.of label stints)) = stints := by
  cases stints <;> rfl

def Passage.reports {α : Type} (passage : Passage α) : List Report := passage.diagnostics.map Diagnostic.report

section
variable {stop : Nat}

theorem stints_sifted {rows : List Line} {reports : List Report} {stints : List Stint} :
    Sifted "STRATEGY" StintLineOf StintFaults rows reports stints ↔
      ((rows.map fun line => (line,readStintLine line.text)).flatMap fun entry => onLine entry.1 entry.2.problems).map
        Diagnostic.report = reports ∧
      (rows.map fun line => (line,readStintLine line.text)).filterMap (fun entry => entry.2.stint) = stints := by
  refine sifted_iff readStintLine (·.stint) (·.problems) (fun reads => ?_) readStintLine_faults stint_judged
  rw [readStintLine_complete reads]
  exact ⟨rfl,rfl⟩

theorem exists_stints (rows : List Line) : ∃ reports stints, Sifted "STRATEGY" StintLineOf StintFaults rows reports stints :=
  ⟨_,_,stints_sifted.mpr ⟨rfl,rfl⟩⟩

theorem turns_sifted {rows : List Line} {reports : List Report} {turns : List Turn} :
    Sifted "CRITICAL_TURNS" TurnLine TurnFaults rows reports turns ↔
      ((rows.map fun line => (line,readTurnLine line.text)).flatMap fun entry => onLine entry.1 (problemOf entry.2)).map
        Diagnostic.report = reports ∧
      (rows.map fun line => (line,readTurnLine line.text)).filterMap (fun entry => entry.2.toOption) = turns := by
  refine sifted_iff readTurnLine Except.toOption problemOf (fun reads => ?_) readTurnLine_faults turn_judged
  rw [readTurnLine_eq_ok_iff.mpr reads]
  exact ⟨rfl,rfl⟩

theorem winnerStints_sifted {rows : List Line} {reports : List Report} {stints : List WinnerStint} :
    Sifted "PREVIOUS_WINNER" WinnerStintLine WinnerStintFaults rows reports stints ↔
      ((rows.map fun line => (line,readWinnerStintLine line.text)).flatMap
        fun entry => onLine entry.1 (problemOf entry.2)).map Diagnostic.report = reports ∧
      (rows.map fun line => (line,readWinnerStintLine line.text)).filterMap (fun entry => entry.2.toOption) = stints := by
  refine sifted_iff readWinnerStintLine Except.toOption problemOf (fun reads => ?_) readWinnerStintLine_faults
    winnerStint_judged
  rw [readWinnerStintLine_eq_ok_iff.mpr reads]
  exact ⟨rfl,rfl⟩

theorem isStint_iff {text : List Char} :
    (readStintLine text).isStint = true ↔ ∃ captures, LineKind.stint.Fits text captures := by
  constructor
  · intro counted
    unfold readStintLine at counted
    split at counted
    · rename_i found
      exact ⟨_,LineKind.read?_eq_some_iff.mp found⟩
    · cases counted
  · rintro ⟨captures,fits⟩
    obtain ⟨number,word,laps,rfl⟩ := List.length_eq_three.mp (fits.count rfl)
    unfold readStintLine
    rw [LineKind.read?_eq_some_iff.mpr fits]

theorem someStint_iff {rows : List Line} :
    (rows.map fun line => (line,readStintLine line.text)).any (·.2.isStint) = true ↔
    ∃ row ∈ rows, ∃ captures, LineKind.stint.Fits row.text captures := by
  simp [List.any_map,isStint_iff]

theorem strategySection_block {line : Line} {below rows rest : List Line} {label : List Char} {next : Nat}
    {reports : List Report} {stints : List Stint} (header : StrategyLine line.text label)
    (body : Body stop below rows next rest) (each : Sifted "STRATEGY" StintLineOf StintFaults rows reports stints) :
    (strategySection stop (line :: below)).reports =
        reports ++ (if (rows.map fun line => (line,readStintLine line.text)).any (·.2.isStint) then []
          else [⟨next,some "STRATEGY","STRATEGY block must contain at least one STINT"⟩]) ∧
      keptStints (strategySection stop (line :: below)).found = stints ∧
      (strategySection stop (line :: below)).rest = rest := by
  obtain ⟨told,kept⟩ := stints_sifted.mp each
  rw [strategySection,LineKind.read?_eq_some_iff.mpr header]
  refine ⟨?_,?_,?_⟩
  · simp only [Passage.reports,body_iff.mp body,List.map_append,told,apply_ite (List.map Diagnostic.report)]
    rfl
  · simp only [body_iff.mp body,kept]
    exact keptStints_when _ _
  · simp only [body_iff.mp body]

theorem strategyPart_iff {below rest : List Line} {reports : List Report} {stints : List Stint} :
    StrategyPart stop below reports stints rest ↔ (strategySection stop below).reports = reports ∧
      keptStints (strategySection stop below).found = stints ∧ (strategySection stop below).rest = rest := by
  constructor
  · intro part
    cases part with
    | missing => exact ⟨rfl,rfl,rfl⟩
    | @unread line _ other =>
      rw [strategySection,LineKind.read?_eq_none_iff.mpr other]
      exact ⟨reports_malformed line .strategy,rfl,rfl⟩
    | block header body each counted =>
      obtain ⟨told,kept,left⟩ := strategySection_block header body each
      rw [if_pos (someStint_iff.mpr counted),List.append_nil] at told
      exact ⟨told,kept,left⟩
    | empty header body each uncounted =>
      obtain ⟨told,kept,left⟩ := strategySection_block header body each
      rw [if_neg (mt someStint_iff.mp (by simpa using uncounted))] at told
      exact ⟨told,kept,left⟩
  · rintro ⟨rfl,rfl,rfl⟩
    cases below with
    | nil => exact .missing
    | cons line below =>
      by_cases unread : ∀ captures, ¬ LineKind.strategy.Fits line.text captures
      · rw [strategySection,LineKind.read?_eq_none_iff.mpr unread]
        change StrategyPart stop (line :: below) [Diagnostic.report _] [] below
        rw [reports_malformed]
        exact .unread unread
      · obtain ⟨captures,fits⟩ := not_forall_not.mp unread
        obtain ⟨label,rfl⟩ := List.length_eq_one_iff.mp (fits.count rfl)
        obtain ⟨rows,next,rest,body⟩ := exists_body stop below
        obtain ⟨reports,stints,each⟩ := exists_stints rows
        obtain ⟨told,kept,left⟩ := strategySection_block fits body each
        rw [told,kept,left]
        by_cases counted : ∃ row ∈ rows, ∃ captures, LineKind.stint.Fits row.text captures
        · rw [if_pos (someStint_iff.mpr counted),List.append_nil]
          exact .block fits body each counted
        · rw [if_neg (mt someStint_iff.mp counted)]
          exact .empty fits body each (by simpa using counted)

theorem turnsPart_iff {below rest : List Line} {reports : List Report} {turns : List Turn} :
    TurnsPart stop below reports turns rest ↔ (turnsSection stop below).reports = reports ∧
      (turnsSection stop below).found = turns ∧ (turnsSection stop below).rest = rest := by
  constructor
  · intro part
    cases part with
    | absent other =>
      cases below with
      | nil => exact ⟨rfl,rfl,rfl⟩
      | cons line below =>
        rw [turnsSection,if_neg fun same => other line rfl (Line.says_iff.mp same)]
        exact ⟨rfl,rfl,rfl⟩
    | block header body each =>
      obtain ⟨told,kept⟩ := turns_sifted.mp each
      rw [turnsSection,if_pos (Line.says_iff.mpr header)]
      simp only [body_iff.mp body,Passage.reports,told,kept,and_self]
  · rintro ⟨rfl,rfl,rfl⟩
    cases below with
    | nil => exact .absent fun line head => by cases head
    | cons line below =>
      by_cases header : line.says "CRITICAL_TURNS" = true
      · rw [turnsSection,if_pos header]
        exact .block (Line.says_iff.mp header) (body_iff.mpr rfl) (turns_sifted.mpr ⟨rfl,rfl⟩)
      · rw [turnsSection,if_neg header]
        exact .absent (head_not_keyword header below)

theorem winnerList_iff {below : List Line} {reports : List Report} {stints : List WinnerStint} :
    WinnerList stop below reports stints ↔ (winnerStints stop below).reports = reports ∧
      (winnerStints stop below).found = stints := by
  constructor
  · intro list
    cases list with
    | absent other =>
      cases below with
      | nil => exact ⟨rfl,rfl⟩
      | cons line below =>
        rw [winnerStints,if_neg fun same => other line rfl (Line.says_iff.mp same)]
        exact ⟨rfl,rfl⟩
    | block heading body each =>
      obtain ⟨told,kept⟩ := winnerStints_sifted.mp each
      rw [winnerStints,if_pos (Line.says_iff.mpr heading)]
      simp only [body_iff.mp body,Passage.reports,told,kept,and_self]
  · rintro ⟨rfl,rfl⟩
    cases below with
    | nil => exact .absent fun line head => by cases head
    | cons line below =>
      by_cases heading : line.says "STINTS:" = true
      · rw [winnerStints,if_pos heading]
        exact .block (Line.says_iff.mp heading) (body_iff.mpr rfl) (winnerStints_sifted.mpr ⟨rfl,rfl⟩)
      · rw [winnerStints,if_neg heading]
        exact .absent (head_not_keyword heading below)

theorem winnerPart_iff {below : List Line} {reports : List Report} {winner : Option PreviousWinner} :
    WinnerPart stop below reports winner ↔ (winnerSection stop below).reports = reports ∧
      (winnerSection stop below).found = winner := by
  constructor
  · intro part
    cases part with
    | absent other =>
      cases below with
      | nil => exact ⟨rfl,rfl⟩
      | cons line below =>
        rw [winnerSection,if_neg fun same => other line rfl (Line.says_iff.mp same)]
        exact ⟨rfl,rfl⟩
    | empty header =>
      rw [winnerSection,if_pos (Line.says_iff.mpr header)]
      exact ⟨rfl,rfl⟩
    | @unread line year _ header other =>
      rw [winnerSection,if_pos (Line.says_iff.mpr header),winnerBody,LineKind.read?_eq_none_iff.mpr other]
      exact ⟨reports_malformed year .winnerYear,rfl⟩
    | dated header dates list =>
      obtain ⟨digits,words,fits,rfl,rfl⟩ := dates
      obtain ⟨told,kept⟩ := winnerList_iff.mp list
      rw [winnerSection,if_pos (Line.says_iff.mpr header),winnerBody,LineKind.read?_eq_some_iff.mpr fits]
      refine ⟨told,?_⟩
      simp only [kept]
  · rintro ⟨rfl,rfl⟩
    cases below with
    | nil => exact .absent fun line head => by cases head
    | cons line below =>
      by_cases header : line.says "PREVIOUS_WINNER" = true
      · rw [winnerSection,if_pos header]
        replace header := Line.says_iff.mp header
        cases below with
        | nil => exact .empty header
        | cons year below =>
          by_cases unread : ∀ captures, ¬ LineKind.winnerYear.Fits year.text captures
          · rw [winnerBody,LineKind.read?_eq_none_iff.mpr unread]
            change WinnerPart stop (line :: year :: below) [Diagnostic.report _] none
            rw [reports_malformed]
            exact .unread header unread
          · obtain ⟨captures,fits⟩ := not_forall_not.mp unread
            obtain ⟨digits,words,rfl⟩ := List.length_eq_two.mp (fits.count rfl)
            rw [winnerBody,LineKind.read?_eq_some_iff.mpr fits]
            exact .dated header ⟨digits,words,fits,rfl,rfl⟩ (winnerList_iff.mpr ⟨rfl,rfl⟩)
      · rw [winnerSection,if_neg header]
        exact .absent (head_not_keyword header below)

end

def Reading.complaints (reading : Reading) (place : Section) : List Diagnostic :=
  reading.diagnostics.filter (·.problem.place = some place)

def Reading.reports (reading : Reading) (place : String) : List Report :=
  (reading.diagnostics.map Diagnostic.report).filter (·.place = some place)

theorem Reading.reports_eq (reading : Reading) (place : Section) :
    reading.reports (Vocabulary.spelling place) = (reading.complaints place).map Diagnostic.report := by
  have placed (diagnostic : Diagnostic) :
      diagnostic.report.place = some (Vocabulary.spelling place) ↔ diagnostic.problem.place = some place := by
    change diagnostic.problem.place.map Vocabulary.spelling = (some place).map Vocabulary.spelling ↔ _
    exact (Option.map_injective Vocabulary.Lawful.apart).eq_iff
  unfold Reading.reports Reading.complaints
  rw [List.filter_map]
  simp only [Function.comp_def,placed]

namespace Source

theorem track_rest (source : Source) : source.track.rest = source.lines.drop 4 := by
  rw [track,car,race]
  rcases source.lines with _ | ⟨_,_ | ⟨_,_ | ⟨_,_ | ⟨_,below⟩⟩⟩⟩ <;> rfl

theorem complaints_filter (source : Source) (place other : Section) :
    (source.complaints other).filter (·.problem.place = some place) =
      if other = place then source.complaints other else [] := by
  have placed : ∀ diagnostic ∈ source.complaints other, diagnostic.problem.place = some other := by
    intro diagnostic member
    exact source.complaints_place other _ (List.mem_map_of_mem member)
  split
  · rename_i same
    subst same
    exact List.filter_eq_self.mpr fun diagnostic member => decide_eq_true (placed diagnostic member)
  · rename_i apart
    refine List.filter_eq_nil_iff.mpr fun diagnostic member => ?_
    simpa [placed diagnostic member] using apart

-- The grid slot is a matter of the car's section, although it is reported behind all others.
theorem read_complaints (source : Source) {place : Section} (other : place ≠ .car) :
    source.read.complaints place = source.complaints place := by
  have slot : (slotProblem source.race.found source.car.found).filter (·.problem.place = some place) = [] := by
    rcases slotProblem_cases source.race.found source.car.found with nothing | ⟨facts,cars,_,beyond⟩
    · rw [nothing]
      rfl
    · rw [beyond]
      simpa [Problem.place] using Ne.symm other
  have whole : source.read.diagnostics = source.allComplaints ++ slotProblem source.race.found source.car.found :=
    source.read_diagnostics
  rw [Reading.complaints,whole,List.filter_append,slot,List.append_nil,allComplaints]
  simp only [List.filter_append,complaints_filter]
  cases place <;> simp

theorem read_reports (source : Source) (place : Section) (other : place ≠ .car) :
    source.read.reports (Vocabulary.spelling place) = (source.complaints place).map Diagnostic.report := by
  rw [Reading.reports_eq,source.read_complaints other]

end Source

-- Of the rows of a block every good one is kept and every bad one is reported, once and in order; what is reported
-- of a section, with its line, its name and its words, and what is kept of it, is what is said here and nothing else.
theorem read_blocks (text : String) (planReports turnReports winnerReports : List Report) (stints : List Stint)
    (turns : List Turn) (winner : Option PreviousWinner) :
    let source := Source.of text
    (∃ behind rest, StrategyPart source.stop (source.lines.drop 4) planReports stints behind ∧
      TurnsPart source.stop behind turnReports turns rest ∧ WinnerPart source.stop rest winnerReports winner) ↔
    ((read text).reports "STRATEGY" = planReports ∧ keptStints source.strategy.found = stints) ∧
      ((read text).reports "CRITICAL_TURNS" = turnReports ∧ source.turns.found = turns) ∧
      ((read text).reports "PREVIOUS_WINNER" = winnerReports ∧ source.winner.found = winner) := by
  intro source
  have plan : (read text).reports "STRATEGY" = source.strategy.reports := source.read_reports .strategy (by decide)
  have turn : (read text).reports "CRITICAL_TURNS" = source.turns.reports :=
    source.read_reports .criticalTurns (by decide)
  have last : (read text).reports "PREVIOUS_WINNER" = source.winner.reports :=
    source.read_reports .previousWinner (by decide)
  rw [plan,turn,last,← source.track_rest]
  simp only [strategyPart_iff,turnsPart_iff,winnerPart_iff]
  constructor
  · rintro ⟨behind,rest,⟨planSame,stintsSame,rfl⟩,⟨turnSame,turnsSame,rfl⟩,lastSame,winnerSame⟩
    exact ⟨⟨planSame,stintsSame⟩,⟨turnSame,turnsSame⟩,lastSame,winnerSame⟩
  · rintro ⟨⟨planSame,stintsSame⟩,⟨turnSame,turnsSame⟩,lastSame,winnerSame⟩
    exact ⟨_,_,⟨planSame,stintsSame,rfl⟩,⟨turnSame,turnsSame,rfl⟩,lastSame,winnerSame⟩

end PitWall.Sheet

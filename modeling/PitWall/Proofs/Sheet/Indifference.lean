import PitWall.Proofs.Sheet.Appearance
import PitWall.Proofs.Sheet.RoundTrip

namespace PitWall

theorem Turn.Alike.eq {left right : Turn} (alike : Turn.Alike Eq left right) : left = right := by
  obtain ⟨number,name,tags,note⟩ := alike
  cases left; cases right
  simp only [Turn.mk.injEq]
  exact ⟨number,String.toList_inj.mp name,tags,String.toList_inj.mp note⟩

theorem PreviousWinner.Alike.eq {left right : PreviousWinner} (alike : PreviousWinner.Alike Eq left right) :
    left = right := by
  obtain ⟨year,label,stints⟩ := alike
  cases left; cases right
  simp only [PreviousWinner.mk.injEq]
  exact ⟨year,String.toList_inj.mp label,stints⟩

theorem Strategy.Alike.eq {left right : Strategy} (alike : Strategy.Alike Eq left right) : left = right := by
  obtain ⟨label,stints⟩ := alike
  cases left; cases right
  simp only [Strategy.mk.injEq]
  exact ⟨String.toList_inj.mp label,stints⟩

theorem Document.Alike.eq {R : Type} {left right : Document R} (alike : Document.Alike Eq left right) : left = right := by
  obtain ⟨race,car,aero,difficulty,chance,turns,winner,plan⟩ := alike
  have turns : left.track.turns = right.track.turns := by
    rw [← List.forall₂_eq_eq_eq]
    exact turns.imp fun _ _ turn => turn.eq
  have winner : left.track.winner = right.track.winner := eq_of_rel (rel_imp winner fun _ _ winner => winner.eq)
  obtain ⟨_,_,⟨_,_,_,_,_⟩,_⟩ := left
  obtain ⟨_,_,⟨_,_,_,_,_⟩,_⟩ := right
  dsimp only at race car aero difficulty chance turns winner plan
  rw [race,car,aero,difficulty,chance,turns,winner,plan.eq]

namespace Sheet
open Text

theorem Problem.Alike.eq {left right : Problem} (alike : Problem.Alike Eq left right) : left = right := by
  cases alike with
  | same => rfl
  | malformed same => rw [same]
  | unknownTerm same => rw [same]
  | winnerCompound same => rw [same]

theorem inQuotationMarks_recased {s t : List Char} (same : SameLetters s t) :
    SameLetters (Problem.inQuotationMarks s).toList (Problem.inQuotationMarks t).toList := by
  have quoted := ((SameLetters.refl [quotationMark]).append same).append (.refl [quotationMark])
  unfold Problem.inQuotationMarks
  rw [String.toList_ofList,String.toList_ofList]
  exact quoted

theorem append_recased {first second others more : String} (front : SameLetters first.toList second.toList)
    (back : SameLetters others.toList more.toList) : SameLetters (first ++ others).toList (second ++ more).toList := by
  rw [String.toList_append,String.toList_append]
  exact front.append back

theorem Problem.Alike.message {left right : Problem} (alike : Problem.Alike SameLetters left right) :
    SameLetters left.message.toList right.message.toList := by
  cases alike with
  | same => exact SameLetters.refl _
  | malformed same => exact append_recased (.refl _) (inQuotationMarks_recased same)
  | unknownTerm same => exact append_recased (append_recased (.refl _) (inQuotationMarks_recased same)) (.refl _)
  | winnerCompound same => exact append_recased (.refl _) (inQuotationMarks_recased same)

structure Source.Alike (likeness : Likeness) (left right : Source) : Prop where
  lines : List.Forall₂ (Line.Alike likeness) left.lines right.lines
  stop : likeness.number left.stop right.stop

namespace Source.Alike
variable {likeness : Likeness} {left right : Source}

theorem race (alike : Source.Alike likeness left right) : Passage.Alike likeness Eq left.race right.race :=
  raceSection_alike alike.stop alike.lines

theorem car (alike : Source.Alike likeness left right) :
    Passage.Alike likeness (Option.Rel (CarFacts.Alike likeness)) left.car right.car :=
  carSection_alike alike.stop alike.race.rest

theorem track (alike : Source.Alike likeness left right) : Passage.Alike likeness Eq left.track right.track :=
  trackSection_alike alike.stop alike.car.rest

theorem strategy (alike : Source.Alike likeness left right) :
    Passage.Alike likeness (fun plan other => Option.Rel (Strategy.Alike likeness.text) plan.value? other.value?)
      left.strategy right.strategy :=
  strategySection_alike alike.stop alike.track.rest

theorem turns (alike : Source.Alike likeness left right) :
    Passage.Alike likeness (List.Forall₂ (Turn.Alike likeness.text)) left.turns right.turns :=
  turnsSection_alike alike.stop alike.strategy.rest

theorem winner (alike : Source.Alike likeness left right) :
    Passage.Alike likeness (Option.Rel (PreviousWinner.Alike likeness.text)) left.winner right.winner :=
  winnerSection_alike alike.stop alike.turns.rest

theorem slot (alike : Source.Alike likeness left right) : List.Forall₂ (Diagnostic.Alike likeness)
    (slotProblem left.race.found left.car.found) (slotProblem right.race.found right.car.found) := by
  have car := alike.car.found
  rw [alike.race.found]
  generalize left.car.found = found,right.car.found = other at car
  unfold slotProblem
  cases car with
  | none => cases right.race.found <;> exact .nil
  | some same =>
    cases right.race.found with
    | none => exact .nil
    | some race =>
      dsimp only
      rw [same.start]
      split
      · exact single_alike same.line (.same _)
      · exact .nil

theorem diagnostics (alike : Source.Alike likeness left right) :
    List.Forall₂ (Diagnostic.Alike likeness) left.diagnostics right.diagnostics := by
  have race := alike.race.diagnostics
  have car := alike.car.diagnostics
  have track := alike.track.diagnostics
  have strategy := alike.strategy.diagnostics
  have turns := alike.turns.diagnostics
  have winner := alike.winner.diagnostics
  exact List.rel_append (List.rel_append (List.rel_append (List.rel_append (List.rel_append (List.rel_append race car) track)
    strategy) turns) winner) alike.slot

theorem document? (alike : Source.Alike likeness left right) :
    Option.Rel (Document.Alike likeness.text) left.document? right.document? := by
  unfold Source.document? assemble
  rw [alike.race.found,alike.track.found]
  simp only [Option.bind_eq_bind]
  refine rel_bind (rel_self right.race.found) ?_
  rintro facts _ rfl
  refine rel_bind (rel_self facts.race.value?) ?_
  rintro race _ rfl
  refine rel_bind alike.car.found fun facts other same => ?_
  rw [same.car]
  refine rel_bind (rel_self other.car.value?) ?_
  rintro car _ rfl
  refine rel_bind (rel_self right.track.found.aero) ?_
  rintro aero _ rfl
  refine rel_bind (rel_self right.track.found.difficulty) ?_
  rintro difficulty _ rfl
  refine rel_bind (rel_self right.track.found.chance) ?_
  rintro chance _ rfl
  refine rel_bind alike.strategy.found fun plan other same => ?_
  exact .some ⟨rfl,rfl,rfl,rfl,rfl,alike.turns.found,alike.winner.found,same⟩

-- The warnings look at the stints of a plan, not at its label.
theorem cautions (alike : Source.Alike likeness left right) :
    cautions left.race.found left.strategy.found.value? = cautions right.race.found right.strategy.found.value? := by
  have plan := alike.strategy.found
  rw [alike.race.found]
  generalize left.strategy.found.value? = found,right.strategy.found.value? = other at plan
  unfold Sheet.cautions
  cases plan with
  | none => cases right.race.found <;> rfl
  | @some plan other same =>
    have laps : plan.laps = other.laps := by rw [Strategy.laps,Strategy.laps,same.stints]
    have tires : plan.usesWetWeatherTires = other.usesWetWeatherTires := by
      rw [Strategy.usesWetWeatherTires,Strategy.usesWetWeatherTires,same.stints]
    cases right.race.found with
    | none => rfl
    | some race =>
      dsimp only
      rw [laps,tires]

-- Both are accepted or neither, with documents that are alike; the complaints are alike one by one, and the
-- warnings are the same.
theorem read (alike : Source.Alike likeness left right) :
    Option.Rel (Document.Alike likeness.text) left.read.document right.read.document ∧
      List.Forall₂ (Diagnostic.Alike likeness) left.read.diagnostics right.read.diagnostics ∧
      left.read.warnings = right.read.warnings := by
  have complaints := alike.diagnostics
  refine ⟨?_,?_,?_⟩
  · have whole := alike.document?
    rcases left.read_verdict with ⟨document,accepted,_⟩ | ⟨refused,faulty,_⟩
    · obtain ⟨clean,found⟩ := Source.read_document_iff.mp accepted
      rw [clean,List.forall₂_nil_left_iff] at complaints
      rw [found] at whole
      generalize shape : right.document? = other at whole
      cases whole with
      | some same =>
        rw [accepted,Source.read_document_iff.mpr ⟨complaints,shape⟩]
        exact .some same
    · have others : right.diagnostics ≠ [] := by
        intro clean
        rw [clean,List.forall₂_nil_right_iff] at complaints
        exact faulty complaints
      rw [refused,(Source.read_faulty others).1]
      exact .none
  · rw [left.read_diagnostics,right.read_diagnostics]
    exact complaints
  · rw [Source.read_warnings,Source.read_warnings]
    exact alike.cautions

end Source.Alike

-- Letter case moves no line feed and makes no line blank, so every line keeps its number.
theorem numbered_recased {pieces others : List (List Char)} (number : Nat) (same : List.Forall₂ SameLetters pieces others) :
    List.Forall₂ (Line.Alike .recased) (numbered number pieces) (numbered number others) := by
  induction same generalizing number with
  | nil => exact .nil
  | @cons piece other pieces others same _ ih =>
    rw [numbered,numbered,same.isEmpty_eq]
    split
    · exact ih (number + 1)
    · exact .cons ⟨rfl,same⟩ (ih (number + 1))

theorem Source.of_recased {left right : String} (same : SameLetters left.toList right.toList) :
    Source.Alike .recased (Source.of left) (Source.of right) := by
  have folded (s : List Char) : ((cut '\n' s).map trim).map lowerAscii = (cut '\n' (lowerAscii s)).map trim := by
    rw [cut_lowerAscii lineFeed_unpaired,List.map_map,List.map_map]
    simp only [Function.comp_def,trim_lowerAscii]
  have pieces : List.Forall₂ Eq (((cut '\n' left.toList).map trim).map lowerAscii)
      (((cut '\n' right.toList).map trim).map lowerAscii) := by
    rw [List.forall₂_eq_eq_eq,folded,folded,same.lowerAscii_eq]
  rw [List.forall₂_map_left_iff,List.forall₂_map_right_iff] at pieces
  exact ⟨numbered_recased 1 pieces,congrArg (· + 1) pieces.length_eq⟩

theorem Source.of_moved {left right : String} (same : contentLines left = contentLines right) :
    Source.Alike .moved (Source.of left) (Source.of right) := by
  refine ⟨?_,trivial⟩
  have same : List.Forall₂ Eq (texts (Source.of left).lines) (texts (Source.of right).lines) := by
    rw [texts_of,texts_of,List.forall₂_eq_eq_eq]
    exact same
  unfold texts at same
  rw [List.forall₂_map_left_iff,List.forall₂_map_right_iff] at same
  exact same.imp fun _ _ text => ⟨trivial,text⟩

-- Blank lines and what stands around a line only move the numbers.
theorem read_ignores_layout {left right : String} (same : contentLines left = contentLines right) :
    (read left).accepted = (read right).accepted ∧ (read left).document = (read right).document ∧
      (read left).warnings = (read right).warnings ∧
      (read left).diagnostics.map (fun diagnostic => (diagnostic.place,diagnostic.message)) =
        (read right).diagnostics.map (fun diagnostic => (diagnostic.place,diagnostic.message)) := by
  obtain ⟨documents,diagnostics,warnings⟩ := (Source.of_moved same).read
  have documents : (read left).document = (read right).document :=
    eq_of_rel (rel_imp documents fun _ _ alike => alike.eq)
  refine ⟨by rw [Reading.accepted,documents]; rfl,documents,warnings,?_⟩
  unfold read
  rw [← List.forall₂_eq_eq_eq,List.forall₂_map_left_iff,List.forall₂_map_right_iff]
  refine diagnostics.imp fun one other alike => ?_
  have problems : one.problem = other.problem := Problem.Alike.eq alike.problem
  rw [Diagnostic.place,Diagnostic.message,problems]
  rfl

-- The same two faulty lines, once apart and indented: the messages agree where the numbers do not.
theorem spread_lines_ignore_layout :
    contentLines "RACE\nCAR" = contentLines "\n RACE\n\n\tCAR" ∧
      (read "RACE\nCAR").diagnostics.map (fun diagnostic => (diagnostic.place,diagnostic.message)) =
        (read "\n RACE\n\n\tCAR").diagnostics.map (fun diagnostic => (diagnostic.place,diagnostic.message)) ∧
      (read "RACE\nCAR").diagnostics.map (·.line) ≠ (read "\n RACE\n\n\tCAR").diagnostics.map (·.line) := by
  have same : contentLines "RACE\nCAR" = contentLines "\n RACE\n\n\tCAR" := by decide +kernel
  exact ⟨same,(read_ignores_layout same).2.2.2,by decide +kernel⟩

-- The case of an ASCII letter only tells where the sheet's own words are handed on.
theorem read_ignores_case {left right : String} (same : SameLetters left.toList right.toList) :
    (read left).accepted = (read right).accepted ∧ (read left).warnings = (read right).warnings ∧
      List.Forall₂ (fun one other => one.line = other.line ∧ one.place = other.place ∧
        SameLetters one.message.toList other.message.toList) (read left).diagnostics (read right).diagnostics ∧
      Option.Rel (Document.Alike SameLetters) (read left).document (read right).document := by
  obtain ⟨documents,diagnostics,warnings⟩ := (Source.of_recased same).read
  refine ⟨isSome_of_rel documents,warnings,?_,documents⟩
  refine diagnostics.imp fun one other alike => ⟨alike.line,?_,Problem.Alike.message alike.problem⟩
  rw [Diagnostic.place,Diagnostic.place,Problem.Alike.place alike.problem]

theorem small_monza_ignores_case :
    SameLetters (monza "Brake").toList (String.ofList (lowerAscii (monza "Brake").toList)).toList ∧
      Option.Rel (Document.Alike SameLetters) (read (monza "Brake")).document
        (read (String.ofList (lowerAscii (monza "Brake").toList))).document := by
  have same : SameLetters (monza "Brake").toList (String.ofList (lowerAscii (monza "Brake").toList)).toList := by
    rw [String.toList_ofList]
    simp [SameLetters,lowerAscii]
  exact ⟨same,(read_ignores_case same).2.2.2⟩

end Sheet
end PitWall

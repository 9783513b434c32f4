import PitWall.Proofs.Sheet.Reading

namespace PitWall

theorem Attempt.when_sound {α : Type} {cause : Bool} {checked : Except Flaw α}
    (sound : cause = true → ∃ value, checked = .ok value) : (Attempt.when cause checked).flaw? = none := by
  cases cause with
  | false => rfl
  | true =>
    obtain ⟨value,rfl⟩ := sound rfl
    rfl

namespace Sheet
open Text

theorem readRaceLine_flawless (line : List Char) : (readRaceLine line).1.bind (·.race.flaw?) = none := by
  unfold readRaceLine
  split
  · rename_i name laps weather cars found
    have named : name ≠ [] := by
      cases (LineKind.read?_eq_some_iff.mp found).holds rfl with
      | cons token rest => exact token.ne_nil
    dsimp only [Option.bind_some]
    split
    · rename_i weather _
      refine Attempt.when_sound fun sizes => ?_
      obtain ⟨length,field⟩ := Bool.and_eq_true_iff.mp sizes
      obtain ⟨race,made,_⟩ := race_of named weather (isRaceLength_iff.mp length).1 (isFieldSize_iff.mp field).1
      exact ⟨race,made⟩
    · rfl
  · rfl

theorem carFrom_flawless (number : Nat) (start pace risk : List Char) (target : Option (List Char)) :
    (carFrom number start pace risk target).1.bind (·.car.flaw?) = none := by
  unfold carFrom
  dsimp only [Option.bind_some]
  split
  · refine Attempt.when_sound fun onGrid => ?_
    have onGrid : (1 : Int) ≤ countValue start := by have := of_decide_eq_true onGrid; omega
    exact ⟨_,dif_pos onGrid⟩
  · rfl

theorem readCarLine_flawless (number : Nat) (line : List Char) : (readCarLine number line).1.bind (·.car.flaw?) = none := by
  unfold readCarLine
  split
  · exact carFrom_flawless _ _ _ _ _
  · exact carFrom_flawless _ _ _ _ _
  · rfl

theorem strategySection_flawless (stop : Nat) (below : List Line) : (strategySection stop below).found.flaw? = none := by
  cases below with
  | nil => rfl
  | cons line rest =>
    rw [strategySection]
    split
    · refine Attempt.when_sound fun nonempty => ⟨_,dif_neg ?_⟩
      simpa using nonempty
    · rfl

theorem Source.flaws_eq_nil (source : Source) : source.flaws = [] := by
  have race : source.race.found.bind (·.race.flaw?) = none := by
    rw [Source.race]
    cases source.lines with
    | nil => rfl
    | cons line rest => exact readRaceLine_flawless line.text
  have car : source.car.found.bind (·.car.flaw?) = none := by
    rw [Source.car]
    cases source.race.rest with
    | nil => rfl
    | cons line rest => exact readCarLine_flawless line.number line.text
  have plan : source.strategy.found.flaw? = none := strategySection_flawless _ _
  unfold flaws
  rw [race,car,plan]
  rfl

-- What each reader of a line can complain of, said once: what is true of these problems is true of all
-- that it finds.
section
variable {P : Problem → Prop}

theorem all_demand {fine : Bool} {problem : Problem} (holds : P problem) : ∀ other ∈ demand fine problem, P other := by
  cases fine <;> simp [demand,holds]

theorem all_wordIn {α : Type} [Vocabulary α] {term : Term} {word folded : List Char}
    (holds : P (.unknownTerm term word)) : ∀ other ∈ problemOf (wordIn (α := α) term word folded), P other := by
  unfold wordIn
  split <;> simp [problemOf,holds]

theorem readRaceLine_problems {line : List Char} (malformed : P (.malformed .race line))
    (weather : ∀ word, P (.unknownTerm .weather word)) (laps : ∀ laps, P (.lapCount laps))
    (cars : ∀ cars, P (.fieldSize cars)) : ∀ problem ∈ (readRaceLine line).2, P problem := by
  unfold readRaceLine
  split
  · exact List.forall_mem_append.mpr ⟨List.forall_mem_append.mpr ⟨all_wordIn (weather _),all_demand (laps _)⟩,
      all_demand (cars _)⟩
  · simpa using malformed

theorem carFrom_problems {number : Nat} {start pace risk : List Char} {target : Option (List Char)}
    (paces : ∀ word, P (.unknownTerm .paceClass word)) (risks : ∀ word, P (.unknownTerm .riskProfile word))
    (starts : ∀ start, P (.startPosition start)) : ∀ problem ∈ (carFrom number start pace risk target).2, P problem := by
  unfold carFrom
  exact List.forall_mem_append.mpr ⟨List.forall_mem_append.mpr ⟨all_wordIn (paces _),all_wordIn (risks _)⟩,
    all_demand (starts _)⟩

theorem readCarLine_problems {number : Nat} {line : List Char} (malformed : P (.malformed .car line))
    (paces : ∀ word, P (.unknownTerm .paceClass word)) (risks : ∀ word, P (.unknownTerm .riskProfile word))
    (starts : ∀ start, P (.startPosition start)) : ∀ problem ∈ (readCarLine number line).2, P problem := by
  unfold readCarLine
  split
  · exact carFrom_problems paces risks starts
  · exact carFrom_problems paces risks starts
  · simpa using malformed

theorem readAeroLine_problems {line : List Char} (malformed : P (.malformed .aero line))
    (aeros : ∀ word, P (.unknownTerm .aero word)) : ∀ problem ∈ (readAeroLine line).2, P problem := by
  unfold readAeroLine
  split
  · exact all_wordIn (aeros _)
  · simpa using malformed

theorem readOvertakingLine_problems {line : List Char} (malformed : P (.malformed .overtaking line))
    (difficulties : ∀ word, P (.unknownTerm .difficulty word)) (chances : ∀ chance, P (.overtakingChance chance)) :
    ∀ problem ∈ (readOvertakingLine line).2, P problem := by
  unfold readOvertakingLine
  split
  · exact List.forall_mem_append.mpr ⟨all_wordIn (difficulties _),all_demand (chances _)⟩
  · simpa using malformed

theorem readStintLine_problems {line : List Char} (malformed : P (.malformed .stint line))
    (compounds : ∀ word, P (.unknownTerm .compound word)) (laps : ∀ laps, P (.stintLaps laps)) :
    ∀ problem ∈ (readStintLine line).problems, P problem := by
  unfold readStintLine
  split
  · exact List.forall_mem_append.mpr ⟨all_wordIn (compounds _),all_demand (laps _)⟩
  · simpa using malformed

theorem readTurnLine_problems {line : List Char} (malformed : P (.malformed .turn line)) :
    ∀ problem ∈ problemOf (readTurnLine line), P problem := by
  unfold readTurnLine
  split <;> simp [problemOf,malformed]

theorem readWinnerStintLine_problems {line : List Char} (malformed : P (.malformed .winnerStint line))
    (compounds : ∀ word, P (.winnerCompound word)) : ∀ problem ∈ problemOf (readWinnerStintLine line), P problem := by
  unfold readWinnerStintLine
  split
  · split <;> simp [problemOf,compounds]
  · simpa [problemOf] using malformed

end

def InPlace (place : Section) (problems : List Problem) : Prop := ∀ problem ∈ problems, problem.place = some place

theorem inPlace_nil (place : Section) : InPlace place [] := fun problem member => by cases member

theorem inPlace_append {place : Section} {left right : List Problem} :
    InPlace place (left ++ right) ↔ InPlace place left ∧ InPlace place right := by
  simp [InPlace,or_imp,forall_and]

theorem inPlace_single {place : Section} {problem : Problem} : InPlace place [problem] ↔ problem.place = some place := by
  simp [InPlace]

theorem readRaceLine_place (line : List Char) : InPlace .race (readRaceLine line).2 :=
  readRaceLine_problems rfl (fun _ => rfl) (fun _ => rfl) fun _ => rfl

theorem readCarLine_place (number : Nat) (line : List Char) : InPlace .car (readCarLine number line).2 :=
  readCarLine_problems rfl (fun _ => rfl) (fun _ => rfl) fun _ => rfl

theorem readAeroLine_place (line : List Char) : InPlace .track (readAeroLine line).2 :=
  readAeroLine_problems rfl fun _ => rfl

theorem readOvertakingLine_place (line : List Char) : InPlace .track (readOvertakingLine line).2 :=
  readOvertakingLine_problems rfl (fun _ => rfl) fun _ => rfl

theorem readStintLine_place (line : List Char) : InPlace .strategy (readStintLine line).problems :=
  readStintLine_problems rfl (fun _ => rfl) fun _ => rfl

theorem readTurnLine_place (line : List Char) : InPlace .criticalTurns (problemOf (readTurnLine line)) :=
  readTurnLine_problems rfl

theorem readWinnerStintLine_place (line : List Char) : InPlace .previousWinner (problemOf (readWinnerStintLine line)) :=
  readWinnerStintLine_problems rfl fun _ => rfl

def Passage.InPlace {α : Type} (place : Section) (passage : Passage α) : Prop :=
  Sheet.InPlace place (passage.diagnostics.map (·.problem))

theorem rows_place {ρ : Type} {place : Section} {reader : List Char → ρ} {problems : ρ → List Problem}
    (each : ∀ text, InPlace place (problems (reader text))) (body : List Line) :
    InPlace place (((body.map fun line => (line,reader line.text)).flatMap
      fun entry => onLine entry.1 (problems entry.2)).map (·.problem)) := by
  simp only [List.flatMap_map,List.map_flatMap,onLine_problems]
  intro problem member
  obtain ⟨line,_,inside⟩ := List.mem_flatMap.mp member
  exact each line.text problem inside

theorem requiredLine_place {α : Type} (required : Required) {read : Line → α × List Problem}
    (each : ∀ line, InPlace required.place (read line).2) (absent : α) (stop : Nat) (below : List Line) :
    (requiredLine required read absent stop below).InPlace required.place := by
  cases below with
  | nil => exact inPlace_single.mpr rfl
  | cons line rest =>
    unfold Passage.InPlace requiredLine
    rw [onLine_problems]
    exact each line

theorem trackSection_place (stop : Nat) (below : List Line) : (trackSection stop below).InPlace .track := by
  have aero := requiredLine_place .aero (fun line => readAeroLine_place line.text) none stop below
  unfold trackSection
  dsimp only
  split
  · exact aero
  · unfold Passage.InPlace
    rw [List.map_append]
    exact inPlace_append.mpr ⟨aero,requiredLine_place .overtaking (fun line => readOvertakingLine_place line.text) _ _ _⟩

theorem strategySection_place (stop : Nat) (below : List Line) : (strategySection stop below).InPlace .strategy := by
  cases below with
  | nil => exact inPlace_single.mpr rfl
  | cons line rest =>
    unfold Passage.InPlace
    rw [strategySection]
    split
    · dsimp only
      rw [List.map_append]
      refine inPlace_append.mpr ⟨rows_place readStintLine_place _,?_⟩
      split
      · exact inPlace_nil _
      · exact inPlace_single.mpr rfl
    · exact inPlace_single.mpr rfl

theorem turnsSection_place (stop : Nat) (below : List Line) : (turnsSection stop below).InPlace .criticalTurns := by
  cases below with
  | nil => exact inPlace_nil _
  | cons line rest =>
    unfold Passage.InPlace
    rw [turnsSection]
    split
    · exact rows_place readTurnLine_place _
    · exact inPlace_nil _

theorem winnerStints_place (stop : Nat) (below : List Line) : (winnerStints stop below).InPlace .previousWinner := by
  cases below with
  | nil => exact inPlace_nil _
  | cons line rest =>
    unfold Passage.InPlace
    rw [winnerStints]
    split
    · exact rows_place readWinnerStintLine_place _
    · exact inPlace_nil _

theorem winnerSection_place (stop : Nat) (below : List Line) : (winnerSection stop below).InPlace .previousWinner := by
  cases below with
  | nil => exact inPlace_nil _
  | cons line rest =>
    unfold Passage.InPlace
    rw [winnerSection]
    split
    · cases rest with
      | nil => exact inPlace_single.mpr rfl
      | cons yearLine rest =>
        rw [winnerBody]
        split
        · exact winnerStints_place stop rest
        · exact inPlace_single.mpr rfl
    · exact inPlace_nil _

namespace Source

-- Every complaint names a section, so none is the one for a sheet that is incomplete for no reason.
theorem diagnostics_placed (source : Source) : ∀ diagnostic ∈ source.diagnostics, diagnostic.problem.place.isSome = true := by
  have placed {α : Type} {place : Section} {passage : Passage α} (inPlace : passage.InPlace place) :
      ∀ diagnostic ∈ passage.diagnostics, diagnostic.problem.place.isSome = true := by
    intro diagnostic member
    rw [inPlace _ (List.mem_map_of_mem member)]
    rfl
  have slot : ∀ diagnostic ∈ slotProblem source.race.found source.car.found, diagnostic.problem.place.isSome = true := by
    intro diagnostic member
    unfold slotProblem at member
    split at member
    · split at member
      · cases List.mem_singleton.mp member; rfl
      · cases member
    · cases member
  intro diagnostic member
  simp only [diagnostics,List.mem_append] at member
  rcases member with (((((race | car) | track) | strategy) | turns) | winner) | other
  · exact placed (requiredLine_place .race (fun line => readRaceLine_place line.text) _ _ _) _ race
  · exact placed (requiredLine_place .car (fun line => readCarLine_place line.number line.text) _ _ _) _ car
  · exact placed (trackSection_place _ _) _ track
  · exact placed (strategySection_place _ _) _ strategy
  · exact placed (turnsSection_place _ _) _ turns
  · exact placed (winnerSection_place _ _) _ winner
  · exact slot _ other

theorem document_of_clean {source : Source} (clean : source.diagnostics = []) :
    ∃ document, source.document? = some document := by
  obtain ⟨entries,listed⟩ := source.sound clean
  obtain ⟨document,_,_,whole,_⟩ := source.complete listed
  exact ⟨document,whole⟩

theorem parts_of_document {source : Source} {document : Document Float} (whole : source.document? = some document) :
    source.race.found.bind (·.race.value?) = some document.race ∧
      source.car.found.bind (·.car.value?) = some document.car ∧
      source.track.found = ⟨some document.track.aero,some document.track.difficulty,some document.track.overtakingChance⟩ ∧
      source.strategy.found.value? = some document.strategy := by
  unfold document? assemble at whole
  simp only [Option.bind_eq_bind,Option.bind_eq_some_iff] at whole
  obtain ⟨_,raceFound,race,raceMade,_,carFound,car,carMade,aero,aeroFound,difficulty,difficultyFound,chance,chanceFound,
    plan,planMade,same⟩ := whole
  cases same
  have trackFound : source.track.found = ⟨source.track.found.aero,source.track.found.difficulty,source.track.found.chance⟩ :=
    rfl
  rw [trackFound,aeroFound,difficultyFound,chanceFound,raceFound,carFound]
  exact ⟨raceMade,carMade,rfl,planMade⟩

theorem read_verdict (source : Source) :
    (∃ document, source.read.document = some document ∧ source.read.diagnostics = []) ∨
      (source.read.document = none ∧ source.diagnostics ≠ [] ∧ source.read.diagnostics = source.diagnostics) := by
  by_cases clean : source.diagnostics = []
  · obtain ⟨document,whole⟩ := document_of_clean clean
    refine .inl ⟨document,read_document_iff.mpr ⟨clean,whole⟩,?_⟩
    unfold read
    rw [clean,whole]
  · obtain ⟨refused,named⟩ := read_faulty clean
    exact .inr ⟨refused,clean,named⟩

theorem read_exclusive (source : Source) : Xor (source.read.document.isSome = true ∧ source.read.diagnostics = [])
    (source.read.document = none ∧ source.read.diagnostics ≠ []) := by
  rcases source.read_verdict with ⟨document,found,clean⟩ | ⟨refused,faulty,named⟩
  · exact .inl ⟨⟨Option.isSome_of_eq_some found,clean⟩,fun other => other.2 clean⟩
  · refine .inr ⟨⟨refused,fun clean => faulty (named.symm.trans clean)⟩,fun other => ?_⟩
    rw [refused] at other
    cases other.1

theorem never_incomplete (source : Source) : ∀ diagnostic ∈ source.read.diagnostics, diagnostic.problem ≠ .incomplete := by
  intro diagnostic member incomplete
  rcases source.read_verdict with ⟨document,_,clean⟩ | ⟨_,_,named⟩
  · rw [clean] at member
    cases member
  · rw [named] at member
    have placed := source.diagnostics_placed diagnostic member
    rw [incomplete] at placed
    cases placed

end Source

-- The ranges of what has been read. A target may be any place, also one that is not on the field.
structure InRange (document : Document Float) : Prop where
  laps : 1 ≤ document.race.laps ∧ document.race.laps ≤ 100
  field : 2 ≤ document.race.fieldSize ∧ document.race.fieldSize ≤ 30
  start : 1 ≤ document.car.start ∧ document.car.start ≤ document.race.fieldSize
  target : ∀ target ∈ document.car.target, 0 ≤ target
  stints : ∀ stint ∈ document.strategy.stints, 1 ≤ stint.laps ∧ stint.laps ≤ 100
  chance : isChance document.track.overtakingChance = true

theorem read_inRange {text : String} {document : Document Float} (accepted : (read text).document = some document) :
    InRange document := by
  obtain ⟨entries,listed,makes⟩ := read_sound accepted
  generalize contentLines text = lines at listed
  cases listed with
  | sheet essentials _ _ =>
    cases essentials with
    | lines race car onGrid _ overtaking strategy =>
      obtain ⟨_,_,_,_,_,_,_,length,field⟩ := race
      obtain ⟨_,_,_,_,_,_,_,_,_,first⟩ := car
      obtain ⟨_,_,_,_,_,chance⟩ := overtaking
      have laps := makes.laps
      have cars := makes.cars
      have start := makes.start
      refine ⟨by omega,by omega,by omega,?_,?_,?_⟩
      · intro target given
        rw [makes.target] at given
        obtain ⟨place,_,rfl⟩ := Option.mem_map.mp given
        exact Int.natCast_nonneg place
      · rw [makes.stints]
        cases strategy with
        | block heading enclosed each _ =>
          intro stint member
          obtain ⟨row,_,_,_,_,_,_,_,length,least,short⟩ := value_row each stint member
          omega
      · rw [makes.track]
        exact chance

theorem read_bounds {text : String} {document : Document Float} (accepted : (read text).document = some document) :
    document.race.fieldSize ≤ 30 ∧ document.car.start ≤ document.race.fieldSize ∧
      ∀ stint ∈ document.strategy.stints, 1 ≤ stint.laps ∧ stint.laps ≤ 100 := by
  have ranged := read_inRange accepted
  exact ⟨ranged.field.2,ranged.start.2,ranged.stints⟩

end Sheet
end PitWall

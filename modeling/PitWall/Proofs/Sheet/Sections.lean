import PitWall.Proofs.Sheet.Rows

namespace PitWall.Sheet
open Text

theorem Line.closes_iff {line : Line} : line.closes = true ↔ Says line.text "END" := Line.says_iff

theorem block_enclosed (stop : Nat) (below : List Line) :
    Enclosed (texts below) (texts (Block.of stop below).body) (texts (Block.of stop below).rest) := by
  have whole := List.takeWhile_append_dropWhile (p := fun line : Line => !line.closes) (l := below)
  unfold Block.of
  dsimp only
  split
  · rename_i unclosed
    rw [unclosed,List.append_nil] at whole
    rw [whole]
    exact .unclosed
  · rename_i closing rest found
    have closes : closing.closes = true := by
      have stopped := head?_dropWhile (p := fun line : Line => !line.closes) below closing (by rw [found]; rfl)
      simpa using stopped
    rw [found] at whole
    have split : texts below = texts (below.takeWhile fun line => !line.closes) ++ closing.text :: texts rest := by
      conv_lhs => rw [← whole]
      simp [texts]
    rw [split]
    exact .closed (Line.closes_iff.mp closes)

theorem block_of_enclosed (stop : Nat) {below : List Line} {rows rest : List (List Char)}
    (enclosed : Enclosed (texts below) rows rest) (inner : ∀ row ∈ rows, ¬ Says row "END") :
    texts (Block.of stop below).body = rows ∧ texts (Block.of stop below).rest = rest := by
  have open_ (body : List Line) (same : texts body = rows) : ∀ line ∈ body, (!line.closes) = true := by
    intro line member
    have other := inner line.text (same ▸ List.mem_map_of_mem member)
    simpa using fun closes => other (Line.closes_iff.mp closes)
  generalize shape : texts below = all at enclosed
  cases enclosed with
  | @closed line _ _ closing =>
    obtain ⟨body,behind,rfl,bodySame,behindSame⟩ := List.map_eq_append_iff.mp shape
    obtain ⟨last,others,rfl,rfl,restSame⟩ := List.map_eq_cons_iff.mp behindSame
    have stops : ∀ line ∈ (last :: others).head?, (!line.closes) = false := by
      intro line head
      cases head
      simpa using Line.closes_iff.mpr closing
    unfold Block.of
    dsimp only
    rw [takeWhile_run (open_ body bodySame) stops,dropWhile_run (open_ body bodySame) stops]
    exact ⟨bodySame,restSame⟩
  | unclosed =>
    have ended : ∀ line ∈ ([] : List Line).head?, (!line.closes) = false := by simp
    have taken := takeWhile_run (open_ below shape) ended
    have dropped := dropWhile_run (open_ below shape) ended
    rw [List.append_nil] at taken dropped
    unfold Block.of
    dsimp only
    rw [taken,dropped]
    exact ⟨shape,rfl⟩

theorem row_value {α β : Type} {R : β → α → Prop} {rows : List β} {values : List α}
    (each : List.Forall₂ R rows values) : ∀ row ∈ rows, ∃ value, R row value := by
  induction each with
  | nil => intro row member; cases member
  | cons first rest ih =>
    intro row member
    rcases List.mem_cons.mp member with rfl | member
    · exact ⟨_,first⟩
    · exact ih row member

theorem value_row {α β : Type} {R : β → α → Prop} {rows : List β} {values : List α}
    (each : List.Forall₂ R rows values) : ∀ value ∈ values, ∃ row ∈ rows, R row value := by
  induction each with
  | nil => intro value member; cases member
  | cons first rest ih =>
    intro value member
    rcases List.mem_cons.mp member with rfl | member
    · exact ⟨_,List.mem_cons_self,first⟩
    · obtain ⟨row,among,same⟩ := ih value member
      exact ⟨row,List.mem_cons_of_mem _ among,same⟩

-- The rows of a block, each put to a reader of its own: nothing is wrong exactly when every row is what
-- the grammar asks for, and then each gives its value.
theorem rows_iff {ρ α : Type} (reader : List Char → ρ) (value : ρ → Option α) (problems : ρ → List Problem)
    {R : List Char → α → Prop} (sound : ∀ text, problems (reader text) = [] → ∃ found, R text found)
    (complete : ∀ text found, R text found → value (reader text) = some found ∧ problems (reader text) = [])
    {body : List Line} {values : List α} :
    ((body.map fun line => (line,reader line.text)).flatMap (fun entry => onLine entry.1 (problems entry.2)) = [] ∧
      (body.map fun line => (line,reader line.text)).filterMap (fun entry => value entry.2) = values) ↔
      List.Forall₂ R (texts body) values := by
  induction body generalizing values with
  | nil => simp [texts,eq_comm]
  | cons line body ih =>
    simp only [List.map_cons,List.flatMap_cons,List.append_eq_nil_iff,texts]
    constructor
    · rintro ⟨⟨first,rest⟩,found⟩
      obtain ⟨one,fits⟩ := sound line.text (by simpa [onLine] using first)
      simp only [List.filterMap_cons,(complete line.text one fits).1] at found
      subst found
      exact .cons fits (ih.mp ⟨rest,rfl⟩)
    · intro each
      cases each with
      | cons fits others =>
        obtain ⟨one,clean⟩ := complete _ _ fits
        obtain ⟨rest,found⟩ := ih.mpr others
        refine ⟨⟨by simp [clean,onLine],rest⟩,?_⟩
        simp only [List.filterMap_cons,one,found]

-- Every section, and what it stands for: it has nothing to complain of exactly when the lines begin as
-- the grammar has it, and then it finds what they say and leaves the rest.
theorem raceSection_sound {stop : Nat} {below : List Line} (clean : (raceSection stop below).diagnostics = []) :
    ∃ line rest name laps weather cars, below = line :: rest ∧ RaceLine line.text name laps weather cars := by
  cases below with
  | nil => cases clean
  | cons line rest =>
    obtain ⟨name,laps,weather,cars,reads⟩ := readRaceLine_sound (List.map_eq_nil_iff.mp clean)
    exact ⟨line,rest,name,laps,weather,cars,rfl,reads⟩

theorem raceSection_complete (stop : Nat) {line : Line} (rest : List Line) {name : List Char} {laps cars : Nat}
    {weather : Weather} (reads : RaceLine line.text name laps weather cars) :
    ∃ race : Race, raceSection stop (line :: rest) = ⟨some (.of race),[],line.number + 1,rest⟩ ∧
      race.trackName = String.ofList (upper name) ∧ race.laps = laps ∧ race.weather = weather ∧
      race.fieldSize = cars := by
  obtain ⟨race,read,same⟩ := readRaceLine_complete reads
  refine ⟨race,?_,same⟩
  rw [raceSection,requiredLine,read]
  rfl

theorem carSection_sound {stop : Nat} {below : List Line} (clean : (carSection stop below).diagnostics = []) :
    ∃ line rest start pace risk target, below = line :: rest ∧ CarLine line.text start pace risk target := by
  cases below with
  | nil => cases clean
  | cons line rest =>
    obtain ⟨start,pace,risk,target,reads⟩ := readCarLine_sound (List.map_eq_nil_iff.mp clean)
    exact ⟨line,rest,start,pace,risk,target,rfl,reads⟩

theorem carSection_complete (stop : Nat) {line : Line} (rest : List Line) {start : Nat} {pace : PaceClass}
    {risk : RiskProfile} {target : Option Nat} (reads : CarLine line.text start pace risk target) :
    ∃ car : Car, carSection stop (line :: rest) = ⟨some (.of line.number car),[],line.number + 1,rest⟩ ∧
      car.start = start ∧ car.pace = pace ∧ car.risk = risk ∧ car.target = target.map Int.ofNat := by
  obtain ⟨car,read,same⟩ := readCarLine_complete line.number reads
  refine ⟨car,?_,same⟩
  rw [carSection,requiredLine,read]
  rfl

theorem trackSection_sound {stop : Nat} {below : List Line} (clean : (trackSection stop below).diagnostics = []) :
    ∃ first second rest aero difficulty chance, below = first :: second :: rest ∧ AeroLine first.text aero ∧
      OvertakingLine second.text difficulty chance := by
  cases below with
  | nil => cases clean
  | cons first below =>
    obtain ⟨aeroClean,overtakingClean⟩ := List.append_eq_nil_iff.mp clean
    obtain ⟨aero,aeroReads⟩ := readAeroLine_sound (List.map_eq_nil_iff.mp aeroClean)
    cases below with
    | nil => cases overtakingClean
    | cons second rest =>
      obtain ⟨difficulty,chance,reads⟩ := readOvertakingLine_sound (List.map_eq_nil_iff.mp overtakingClean)
      exact ⟨first,second,rest,aero,difficulty,chance,rfl,aeroReads,reads⟩

theorem trackSection_complete (stop : Nat) {first second : Line} (rest : List Line) {aero : AeroDemand}
    {difficulty : Difficulty} {chance : Float} (aeroReads : AeroLine first.text aero)
    (reads : OvertakingLine second.text difficulty chance) :
    trackSection stop (first :: second :: rest) =
      ⟨⟨some aero,some difficulty,some chance⟩,[],second.number + 1,rest⟩ := by
  simp only [trackSection,requiredLine,readAeroLine_complete aeroReads,readOvertakingLine_complete reads]
  rfl

theorem block_rows {α : Type} {R : List Char → α → Prop} (stop : Nat) {below : List Line} {rows rest : List (List Char)}
    {values : List α} (enclosed : Enclosed (texts below) rows rest) (each : List.Forall₂ R rows values)
    (apart : ∀ row value, R row value → ¬ Says row "END") :
    List.Forall₂ R (texts (Block.of stop below).body) values ∧ texts (Block.of stop below).rest = rest := by
  have inner : ∀ row ∈ rows, ¬ Says row "END" := by
    intro row member
    obtain ⟨value,reads⟩ := row_value each row member
    exact apart row value reads
  obtain ⟨bodySame,restSame⟩ := block_of_enclosed stop enclosed inner
  rw [bodySame]
  exact ⟨each,restSame⟩

theorem stintLine_apart (row : List Char) (stint : Stint) (reads : StintLineOf row stint) : ¬ Says row "END" := by
  obtain ⟨_,_,_,fits,_⟩ := reads
  exact fits.not_says (by decide)

theorem turnLine_apart (row : List Char) (turn : Turn) (reads : TurnLine row turn) : ¬ Says row "END" := by
  obtain ⟨_,_,_,_,fits,_⟩ := reads
  exact fits.not_says (by decide)

theorem winnerStintLine_apart (row : List Char) (stint : WinnerStint) (reads : WinnerStintLine row stint) :
    ¬ Says row "END" := by
  obtain ⟨_,_,fits,_⟩ := reads
  exact fits.not_says (by decide)

theorem head_not_keyword {line : Line} {keyword : String} (header : ¬ line.says keyword = true) (below : List Line) :
    ∀ first ∈ (line :: below).head?, ¬ Says first.text keyword := by
  intro first head
  cases head
  exact fun same => header (Line.says_iff.mpr same)

theorem head_text_not_keyword {line : Line} {keyword : String} (header : ¬ line.says keyword = true) (below : List Line) :
    ∀ first ∈ (texts (line :: below)).head?, ¬ Says first keyword := by
  intro first head
  cases head
  exact head_not_keyword header below line rfl

theorem stint_rows {body : List Line} {stints : List Stint} :
    ((body.map fun line => (line,readStintLine line.text)).flatMap
        (fun entry => onLine entry.1 entry.2.problems) = [] ∧
      (body.map fun line => (line,readStintLine line.text)).filterMap (fun entry => entry.2.stint) = stints) ↔
      List.Forall₂ StintLineOf (texts body) stints := by
  refine rows_iff readStintLine (·.stint) (·.problems)
    (fun text clean => readStintLine_sound clean) fun text stint reads => ?_
  rw [readStintLine_complete reads]
  exact ⟨rfl,rfl⟩

theorem strategySection_sound {stop : Nat} {below : List Line}
    (clean : (strategySection stop below).diagnostics = []) :
    ∃ label stints, StrategyBlock (texts below) label stints (texts (strategySection stop below).rest) := by
  cases below with
  | nil => cases clean
  | cons line rest =>
    rw [strategySection] at clean ⊢
    split at clean
    · rename_i label found
      dsimp only at clean ⊢
      obtain ⟨rows,someStint⟩ := List.append_eq_nil_iff.mp clean
      have each := stint_rows.mp ⟨rows,rfl⟩
      refine ⟨label,_,.block (LineKind.read?_eq_some_iff.mp found) (block_enclosed stop rest) each ?_⟩
      intro empty
      rw [List.map_eq_nil_iff.mp empty] at someStint
      cases someStint
    · cases clean

theorem strategySection_complete (stop : Nat) {below : List Line} {label : List Char} {stints : List Stint}
    {rest : List (List Char)} (block : StrategyBlock (texts below) label stints rest) :
    ∃ strategy : Strategy, strategy.label = String.ofList label ∧ strategy.stints = stints ∧
      (strategySection stop below).found = some (.ok strategy) ∧
      (strategySection stop below).diagnostics = [] ∧ texts (strategySection stop below).rest = rest := by
  generalize shape : texts below = listed at block
  cases block with
  | block heading enclosed each nonempty =>
    obtain ⟨line,others,rfl,rfl,rfl⟩ := List.map_eq_cons_iff.mp shape
    have someStint : stints ≠ [] := fun empty => nonempty (List.forall₂_nil_right_iff.mp (empty ▸ each))
    obtain ⟨each,restSame⟩ := block_rows stop enclosed each stintLine_apart
    obtain ⟨clean,found⟩ := stint_rows.mpr each
    have counted : ((Block.of stop others).body.map fun line => (line,readStintLine line.text)).any
        (·.2.isStint) = true := by
      have inBlock : (Block.of stop others).body ≠ [] := by
        intro empty
        rw [empty] at each
        exact someStint (List.forall₂_nil_left_iff.mp each)
      obtain ⟨first,member⟩ := List.exists_mem_of_ne_nil _ inBlock
      obtain ⟨stint,reads⟩ := row_value each first.text (List.mem_map_of_mem member)
      exact List.any_eq_true.mpr ⟨_,List.mem_map_of_mem member,by rw [readStintLine_complete reads]⟩
    refine ⟨⟨String.ofList label,stints,someStint⟩,rfl,rfl,?_⟩
    rw [strategySection,LineKind.read?_eq_some_iff.mpr heading]
    dsimp only
    rw [found,counted]
    refine ⟨?_,?_,restSame⟩
    · simp [Attempt.when,Strategy.of,someStint]
    · simpa using clean

theorem turn_rows {body : List Line} {turns : List Turn} :
    ((body.map fun line => (line,readTurnLine line.text)).flatMap
        (fun entry => onLine entry.1 (problemOf entry.2)) = [] ∧
      (body.map fun line => (line,readTurnLine line.text)).filterMap (fun entry => entry.2.toOption) = turns) ↔
      List.Forall₂ TurnLine (texts body) turns := by
  refine rows_iff readTurnLine Except.toOption problemOf ?_ ?_
  · intro text clean
    obtain ⟨turn,read⟩ := problemOf_eq_nil_iff.mp clean
    exact ⟨turn,readTurnLine_eq_ok_iff.mp read⟩
  · intro text turn reads
    rw [readTurnLine_eq_ok_iff.mpr reads]
    exact ⟨rfl,rfl⟩

theorem winnerStint_rows {body : List Line} {stints : List WinnerStint} :
    ((body.map fun line => (line,readWinnerStintLine line.text)).flatMap
        (fun entry => onLine entry.1 (problemOf entry.2)) = [] ∧
      (body.map fun line => (line,readWinnerStintLine line.text)).filterMap (fun entry => entry.2.toOption) = stints) ↔
      List.Forall₂ WinnerStintLine (texts body) stints := by
  refine rows_iff readWinnerStintLine Except.toOption problemOf ?_ ?_
  · intro text clean
    obtain ⟨stint,read⟩ := problemOf_eq_nil_iff.mp clean
    exact ⟨stint,readWinnerStintLine_eq_ok_iff.mp read⟩
  · intro text stint reads
    rw [readWinnerStintLine_eq_ok_iff.mpr reads]
    exact ⟨rfl,rfl⟩

theorem turnsSection_sound {stop : Nat} {below : List Line} (clean : (turnsSection stop below).diagnostics = []) :
    TurnsBlock (texts below) (turnsSection stop below).found (texts (turnsSection stop below).rest) := by
  cases below with
  | nil => exact .absent (by simp [texts])
  | cons line others =>
    by_cases header : line.says "CRITICAL_TURNS" = true
    · rw [turnsSection,if_pos header] at clean ⊢
      exact .listed (Line.says_iff.mp header) (block_enclosed stop others) (turn_rows.mp ⟨clean,rfl⟩)
    · rw [turnsSection,if_neg header]
      exact .absent (head_text_not_keyword header others)

theorem turnsSection_complete (stop : Nat) {below : List Line} {turns : List Turn} {rest : List (List Char)}
    (block : TurnsBlock (texts below) turns rest) :
    (turnsSection stop below).found = turns ∧ (turnsSection stop below).diagnostics = [] ∧
      texts (turnsSection stop below).rest = rest := by
  generalize shape : texts below = all at block
  cases block with
  | absent other =>
    subst shape
    cases below with
    | nil => exact ⟨rfl,rfl,rfl⟩
    | cons line others =>
      rw [turnsSection,if_neg fun header => other line.text rfl (Line.says_iff.mp header)]
      exact ⟨rfl,rfl,rfl⟩
  | listed header enclosed each =>
    obtain ⟨line,others,rfl,rfl,rfl⟩ := List.map_eq_cons_iff.mp shape
    obtain ⟨each,restSame⟩ := block_rows stop enclosed each turnLine_apart
    obtain ⟨clean,found⟩ := turn_rows.mpr each
    rw [turnsSection,if_pos (Line.says_iff.mpr header)]
    exact ⟨found,clean,restSame⟩

theorem winnerStints_sound {stop : Nat} {below : List Line} (clean : (winnerStints stop below).diagnostics = []) :
    WinnerStints (texts below) (winnerStints stop below).found := by
  cases below with
  | nil => exact .absent (by simp [texts])
  | cons line others =>
    by_cases header : line.says "STINTS:" = true
    · rw [winnerStints,if_pos header] at clean ⊢
      exact .listed (Line.says_iff.mp header) (block_enclosed stop others) (winnerStint_rows.mp ⟨clean,rfl⟩)
    · rw [winnerStints,if_neg header]
      exact .absent (head_text_not_keyword header others)

theorem winnerStints_complete (stop : Nat) {below : List Line} {stints : List WinnerStint}
    (block : WinnerStints (texts below) stints) :
    (winnerStints stop below).found = stints ∧ (winnerStints stop below).diagnostics = [] := by
  generalize shape : texts below = all at block
  cases block with
  | absent other =>
    subst shape
    cases below with
    | nil => exact ⟨rfl,rfl⟩
    | cons line others =>
      rw [winnerStints,if_neg fun header => other line.text rfl (Line.says_iff.mp header)]
      exact ⟨rfl,rfl⟩
  | listed header enclosed each =>
    obtain ⟨line,others,rfl,rfl,rfl⟩ := List.map_eq_cons_iff.mp shape
    obtain ⟨each,_⟩ := block_rows stop enclosed each winnerStintLine_apart
    obtain ⟨clean,found⟩ := winnerStint_rows.mpr each
    rw [winnerStints,if_pos (Line.says_iff.mpr header)]
    exact ⟨found,clean⟩

theorem winnerSection_sound {stop : Nat} {below : List Line} (clean : (winnerSection stop below).diagnostics = []) :
    WinnerBlock (texts below) (winnerSection stop below).found := by
  cases below with
  | nil => exact .absent (by simp [texts])
  | cons line others =>
    by_cases header : line.says "PREVIOUS_WINNER" = true
    · rw [winnerSection,if_pos header] at clean ⊢
      cases others with
      | nil => cases clean
      | cons yearLine others =>
        rw [winnerBody] at clean ⊢
        split at clean
        · rename_i year label found
          exact .listed (Line.says_iff.mp header) ⟨year,label,LineKind.read?_eq_some_iff.mp found,rfl,rfl⟩
            (winnerStints_sound clean)
        · cases clean
    · rw [winnerSection,if_neg header]
      exact .absent (head_text_not_keyword header others)

theorem winnerSection_complete (stop : Nat) {below : List Line} {winner : Option PreviousWinner}
    (block : WinnerBlock (texts below) winner) :
    (winnerSection stop below).found = winner ∧ (winnerSection stop below).diagnostics = [] := by
  generalize shape : texts below = all at block
  cases block with
  | absent other =>
    subst shape
    cases below with
    | nil => exact ⟨rfl,rfl⟩
    | cons line others =>
      rw [winnerSection,if_neg fun header => other line.text rfl (Line.says_iff.mp header)]
      exact ⟨rfl,rfl⟩
  | listed header year stints =>
    obtain ⟨line,others,rfl,rfl,behind⟩ := List.map_eq_cons_iff.mp shape
    obtain ⟨yearLine,others,rfl,rfl,rfl⟩ := List.map_eq_cons_iff.mp behind
    obtain ⟨digits,words,fits,rfl,rfl⟩ := year
    obtain ⟨found,clean⟩ := winnerStints_complete stop stints
    rw [winnerSection,if_pos (Line.says_iff.mpr header),winnerBody,LineKind.read?_eq_some_iff.mpr fits]
    dsimp only
    rw [found]
    exact ⟨rfl,clean⟩

end PitWall.Sheet

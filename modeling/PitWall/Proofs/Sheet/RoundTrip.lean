import PitWall.Proofs.Sheet.Reading
import PitWall.Proofs.Sheet.Rewritten

namespace PitWall.Sheet
open Text Decimal

-- Raw lines and what a reader sees of them: the blank ones are gone, and so is every indentation.
inductive Shows : List (List Char) → List (List Char) → Prop where
  | nil : Shows [] []
  | blank (rest : Shows raw rows) : Shows ([] :: raw) rows
  | line (depth : Nat) (legible : Legible row) (rest : Shows raw rows) : Shows (indented depth row :: raw) (row :: rows)

namespace Shows
variable {raw rows : List (List Char)}

theorem append {more others : List (List Char)} (shows_ : Shows raw rows) (rest : Shows more others) :
    Shows (raw ++ more) (rows ++ others) := by
  induction shows_ with
  | nil => exact rest
  | blank _ ih => exact .blank ih
  | line depth legible _ ih => exact .line depth legible ih

theorem map {α : Type} (depth : Nat) (write : α → List Char) {values : List α}
    (each : ∀ value ∈ values, Legible (write value)) :
    Shows (values.map (indented depth ∘ write)) (values.map write) := by
  induction values with
  | nil => exact .nil
  | cons value values ih =>
    exact .line depth (each value List.mem_cons_self) (ih fun other member => each other (List.mem_cons_of_mem _ member))

theorem whole (shows_ : Shows raw rows) : ∀ line ∈ raw, '\n' ∉ line := by
  induction shows_ with
  | nil => intro line member; cases member
  | blank _ ih =>
    intro line member
    rcases List.mem_cons.mp member with rfl | member
    · exact List.not_mem_nil
    · exact ih line member
  | line depth legible _ ih =>
    intro line member
    rcases List.mem_cons.mp member with rfl | member
    · intro inside
      rcases List.mem_append.mp inside with space | inside
      · exact absurd (List.eq_of_mem_replicate space) (by decide)
      · exact legible.whole inside
    · exact ih line member

theorem trim_indented {depth : Nat} {row : List Char} (legible : Legible row) : trim (indented depth row) = row := by
  have blank : ∀ c ∈ List.replicate (2 * depth) ' ', isBlank c = true := by
    intro c inside
    rw [List.eq_of_mem_replicate inside]
    decide
  rw [indented,trim_blanks blank,trim_eq_self legible.trimmed]

theorem kept (shows_ : Shows raw rows) : (raw.map trim).filter (· ≠ []) = rows := by
  induction shows_ with
  | nil => rfl
  | blank _ ih => exact ih
  | line depth legible _ ih =>
    rw [List.map_cons,trim_indented legible,List.filter_cons_of_pos (by simpa using legible.nonempty),ih]

end Shows

theorem contentLines_write {document : Document Float} {rows : List (List Char)} (shows_ : Shows (lines document) rows) :
    contentLines (write document) = rows := by
  rw [contentLines,write,String.toList_ofList,cut_lines shows_.whole,List.map_append,List.filter_append,shows_.kept]
  exact List.append_nil rows

theorem legible_word {word : List Char} (nonempty : word ≠ []) (dark : word.all (!isBlank ·) = true) : Legible word := by
  have dark (c : Char) (inside : c ∈ word) : isBlank c = false := by
    simpa using List.all_eq_true.mp dark c inside
  refine ⟨nonempty,⟨fun c first => dark c (List.mem_of_head? first),fun c last => dark c (List.mem_of_getLast? last)⟩,?_⟩
  intro inside
  have feed := dark _ inside
  revert feed; decide

theorem legible_end : Legible "END".toList := legible_word (by decide) (by decide)
theorem legible_turns : Legible "CRITICAL_TURNS".toList := legible_word (by decide) (by decide)
theorem legible_winner : Legible "PREVIOUS_WINNER".toList := legible_word (by decide) (by decide)
theorem legible_stints : Legible "STINTS:".toList := legible_word (by decide) (by decide)

theorem Enclosed.rows_subset {below rows rest : List (List Char)} (enclosed : Enclosed below rows rest) :
    rows ⊆ below ∧ rest ⊆ below := by
  cases enclosed with
  | closed closing => exact ⟨List.subset_append_left _ _,fun line member => by simp [member]⟩
  | unclosed => exact ⟨fun line => id,List.nil_subset _⟩

theorem rows_again {α : Type} {R : List Char → α → Prop} {write : α → List Char} {values : List α}
    (each : ∀ value ∈ values, R (write value) value) : List.Forall₂ R (values.map write) values := by
  induction values with
  | nil => exact .nil
  | cons value values ih =>
    exact .cons (each value List.mem_cons_self) (ih fun other member => each other (List.mem_cons_of_mem _ member))

theorem strategyLines_again {below rest : List (List Char)} {label : List Char} {stints : List Stint}
    (block : StrategyBlock below label stints rest) (whole : ∀ line ∈ below, '\n' ∉ line) {plan : Strategy}
    (labelSame : plan.label = String.ofList label) (stintsSame : plan.stints = stints) :
    (∃ rows, Shows (strategyLines plan) rows ∧ ∀ behind, StrategyBlock (rows ++ behind) label stints behind) ∧
      ∀ line ∈ rest, '\n' ∉ line := by
  cases block with
  | @block line _ _ rows _ _ heading enclosed each nonempty =>
    obtain ⟨_,restBelow⟩ := enclosed.rows_subset
    refine ⟨?_,fun line member => whole line (List.mem_cons_of_mem _ (restBelow member))⟩
    have stint (stint : Stint) (member : stint ∈ stints) :
        Legible (stintLine stint) ∧ StintLineOf (stintLine stint) stint := by
      obtain ⟨row,_,reads⟩ := value_row each stint member
      exact stintLine_again reads
    obtain ⟨legible,again⟩ := strategyLine_again heading (whole line List.mem_cons_self)
    refine ⟨LineKind.strategy.write [label] :: stints.map stintLine ++ ["END".toList],?_,?_⟩
    · unfold strategyLines
      rw [labelSame,stintsSame,String.toList_ofList]
      exact (Shows.line 0 legible (.map 1 stintLine fun value member => (stint value member).1)).append
        (.line 0 legible_end .nil)
    · intro behind
      rw [List.append_assoc,List.cons_append]
      refine .block again (.closed (by decide)) (rows_again fun value member => (stint value member).2) ?_
      intro empty
      rw [List.map_eq_nil_iff.mp empty] at each
      exact nonempty (List.forall₂_nil_right_iff.mp each)

theorem readTurnLine_again {line : List Char} {turn : Turn} (reads : TurnLine line turn) :
    readTurnLine (turnLine turn) = if turn.tags = [""] then .error (.malformed .turn (turnLine turn)) else .ok turn := by
  by_cases untagged : turn.tags = [""]
  · rw [if_pos untagged,readTurnLine,turnLine_unread reads untagged]
  · rw [if_neg untagged]
    exact readTurnLine_eq_ok_iff.mpr (turnLine_again reads untagged)

theorem turnLine_not_end (turn : Turn) : ¬ Says (turnLine turn) "END" := by
  have gap : Piece.gap ∈ turnPattern := by decide
  exact not_says_of_gap ⟨' ',Pattern.write_gap _ gap,by decide⟩ (by decide)

theorem turns_again {turns : List Turn} (each : ∀ turn ∈ turns, ∃ line, TurnLine line turn) :
    (turns.map turnLine).filterMap (fun row => (readTurnLine row).toOption) = turns.filter (·.tags ≠ [""]) ∧
      (turns.map turnLine).flatMap (fun row => problemOf (readTurnLine row)) =
        (turns.filter (·.tags = [""])).map fun turn => .malformed .turn (turnLine turn) := by
  induction turns with
  | nil => exact ⟨rfl,rfl⟩
  | cons turn turns ih =>
    obtain ⟨found,problems⟩ := ih fun other member => each other (List.mem_cons_of_mem _ member)
    obtain ⟨line,reads⟩ := each turn List.mem_cons_self
    have again := readTurnLine_again reads
    by_cases untagged : turn.tags = [""]
    · rw [if_pos untagged] at again
      rw [List.map_cons,List.filterMap_cons_none (by rw [again]; rfl),List.filter_cons_of_neg (by simpa using untagged),
        List.flatMap_cons,again,problems,List.filter_cons_of_pos (by simpa using untagged)]
      exact ⟨found,rfl⟩
    · rw [if_neg untagged] at again
      rw [List.map_cons,List.filterMap_cons_some (b := turn) (by rw [again]; rfl),found,List.flatMap_cons,again,problems,
        List.filter_cons_of_pos (by simpa using untagged),List.filter_cons_of_neg (by simpa using untagged)]
      exact ⟨rfl,rfl⟩

-- A block of written turns is read again but for those without a tag, and of these each is named.
theorem turnsSection_again (stop : Nat) {below : List Line} {turns : List Turn} {rest : List (List Char)}
    (each : ∀ turn ∈ turns, ∃ line, TurnLine line turn)
    (shape : texts below = "CRITICAL_TURNS".toList :: turns.map turnLine ++ "END".toList :: rest) :
    (turnsSection stop below).found = turns.filter (·.tags ≠ [""]) ∧
      (turnsSection stop below).diagnostics.map (·.problem) =
        (turns.filter (·.tags = [""])).map (fun turn => .malformed .turn (turnLine turn)) ∧
      texts (turnsSection stop below).rest = rest := by
  obtain ⟨header,others,rfl,headerSame,othersSame⟩ := List.map_eq_cons_iff.mp shape
  have says_ : header.says "CRITICAL_TURNS" = true := Line.says_iff.mpr (headerSame ▸ by decide)
  have enclosed : Enclosed (texts others) (turns.map turnLine) rest := by
    rw [show texts others = _ from othersSame]
    exact .closed (by decide)
  have inner : ∀ row ∈ turns.map turnLine, ¬ Says row "END" := by
    intro row member
    obtain ⟨turn,_,rfl⟩ := List.mem_map.mp member
    exact turnLine_not_end turn
  obtain ⟨bodySame,restSame⟩ := block_of_enclosed stop enclosed inner
  obtain ⟨found,problems⟩ := turns_again each
  rw [turnsSection,if_pos says_]
  refine ⟨?_,?_,restSame⟩
  · rw [← found,← bodySame]
    simp [texts]
  · rw [← problems,← bodySame]
    simp [texts,onLine_problems,List.map_flatMap,List.flatMap_map]

theorem turnsBlock_said {below rest : List (List Char)} {turns : List Turn} (block : TurnsBlock below turns rest)
    (whole : ∀ line ∈ below, '\n' ∉ line) :
    (∀ turn ∈ turns, ∃ line, '\n' ∉ line ∧ TurnLine line turn) ∧ ∀ line ∈ rest, '\n' ∉ line := by
  cases block with
  | absent other => exact ⟨fun turn member => by (cases member),whole⟩
  | listed header enclosed each =>
    obtain ⟨rowsBelow,restBelow⟩ := enclosed.rows_subset
    refine ⟨fun turn member => ?_,fun line member => whole line (List.mem_cons_of_mem _ (restBelow member))⟩
    obtain ⟨row,among,reads⟩ := value_row each turn member
    exact ⟨row,whole row (List.mem_cons_of_mem _ (rowsBelow among)),reads⟩

theorem turnsLines_shown {turns : List Turn} (each : ∀ turn ∈ turns, ∃ line, '\n' ∉ line ∧ TurnLine line turn) :
    ∃ rows, Shows (turnsLines turns) rows ∧ ∀ stop below rest, texts below = rows ++ rest →
      (∀ line ∈ rest.head?, ¬ Says line "CRITICAL_TURNS") →
      (turnsSection stop below).found = turns.filter (·.tags ≠ [""]) ∧
      (turnsSection stop below).diagnostics.map (·.problem) =
        (turns.filter (·.tags = [""])).map (fun turn => .malformed .turn (turnLine turn)) ∧
      texts (turnsSection stop below).rest = rest := by
  by_cases turnless : turns = []
  · subst turnless
    refine ⟨[],.nil,?_⟩
    intro stop below rest shape other
    have block : TurnsBlock (texts below) [] rest := by
      rw [shape]
      exact .absent other
    obtain ⟨found,clean,left⟩ := turnsSection_complete stop block
    rw [found,clean]
    exact ⟨rfl,rfl,left⟩
  · have legible (turn : Turn) (member : turn ∈ turns) : Legible (turnLine turn) := by
      obtain ⟨line,whole,reads⟩ := each turn member
      exact turnLine_legible reads whole
    refine ⟨"CRITICAL_TURNS".toList :: turns.map turnLine ++ ["END".toList],?_,?_⟩
    · rw [turnsLines,if_neg (by simpa using turnless)]
      exact .blank ((Shows.line 0 legible_turns (.map 1 turnLine legible)).append (.line 0 legible_end .nil))
    · intro stop below rest shape _
      rw [List.append_assoc] at shape
      refine turnsSection_again stop (fun turn member => ?_) shape
      obtain ⟨line,_,reads⟩ := each turn member
      exact ⟨line,reads⟩

theorem winnerStints_shown {stints : List WinnerStint} (each : ∀ stint ∈ stints, ∃ line, WinnerStintLine line stint) :
    ∃ rows, Shows (winnerStintsLines stints) rows ∧ WinnerStints (rows ++ ["END".toList]) stints := by
  by_cases stintless : stints = []
  · subst stintless
    exact ⟨[],.nil,.absent (by decide)⟩
  · have again (stint : WinnerStint) (member : stint ∈ stints) :
        Legible (winnerStintLine stint) ∧ WinnerStintLine (winnerStintLine stint) stint := by
      obtain ⟨line,reads⟩ := each stint member
      exact winnerStintLine_again reads
    refine ⟨"STINTS:".toList :: stints.map winnerStintLine,?_,?_⟩
    · rw [winnerStintsLines,if_neg (by simpa using stintless)]
      exact .line 1 legible_stints (.map 2 winnerStintLine fun stint member => (again stint member).1)
    · exact .listed (by decide) (.closed (by decide)) (rows_again fun stint member => (again stint member).2)

theorem winnerStints_said {below : List (List Char)} {stints : List WinnerStint} (block : WinnerStints below stints) :
    ∀ stint ∈ stints, ∃ line, WinnerStintLine line stint := by
  intro stint member
  cases block with
  | absent other => cases member
  | listed header enclosed each =>
    obtain ⟨row,_,reads⟩ := value_row each stint member
    exact ⟨row,reads⟩

theorem winnerLines_again {below : List (List Char)} {winner : Option PreviousWinner} (block : WinnerBlock below winner)
    (whole : ∀ line ∈ below, '\n' ∉ line) :
    ∃ rows, Shows (winnerLines winner) rows ∧ WinnerBlock rows winner ∧
      ∀ line ∈ rows.head?, ¬ Says line "CRITICAL_TURNS" := by
  cases block with
  | absent other => exact ⟨[],.nil,.absent (by decide),by decide⟩
  | @listed _ yearRow number label _ listedStints header year stints =>
    obtain ⟨legible,again⟩ := yearLine_again year (whole _ (by simp))
    obtain ⟨rows,shows_,stintsAgain⟩ := winnerStints_shown (winnerStints_said stints)
    refine ⟨"PREVIOUS_WINNER".toList :: LineKind.winnerYear.write [intText number,label.toList] ::
      (rows ++ ["END".toList]),?_,.listed (by decide) again stintsAgain,?_⟩
    · have opening := Shows.blank (Shows.line 0 legible_winner (Shows.line 1 legible .nil))
      exact (opening.append shows_).append (.line 0 legible_end .nil)
    · intro line first
      cases first
      decide

theorem essentials_again {all behind : List (List Char)} {entries : Entries} {document : Document Float}
    (essentials : Essentials all entries behind) (makes : entries.Make document) (whole : ∀ line ∈ all, '\n' ∉ line) :
    (∃ rows, Shows ([raceLine document.race,carLine document.car,aeroLine document.track.aero,
        overtakingLine document.track.difficulty document.track.overtakingChance,[]] ++ strategyLines document.strategy)
        rows ∧ ∀ rest, Essentials (rows ++ rest) {entries with name := upper entries.name} rest) ∧
      ∀ line ∈ behind, '\n' ∉ line := by
  cases essentials with
  | lines race car onGrid aero overtaking strategy =>
    rw [← makes.weather] at race
    rw [← makes.pace,← makes.risk] at car
    obtain ⟨raceLegible,raceAgain⟩ := raceLine_again race makes.trackName makes.laps makes.cars
    obtain ⟨carLegible,carAgain⟩ := carLine_again car makes.start makes.target
    obtain ⟨aeroLegible,aeroAgain⟩ := aeroLine_again entries.aero
    obtain ⟨overtakingLegible,overtakingAgain⟩ := overtakingLine_again overtaking
    obtain ⟨⟨rows,planShown,planAgain⟩,behindWhole⟩ := strategyLines_again strategy
      (fun line member => whole line (by simp [member])) makes.label makes.stints
    rw [makes.weather] at raceAgain
    rw [makes.pace,makes.risk] at carAgain
    rw [makes.track]
    refine ⟨⟨raceLine document.race :: carLine document.car :: aeroLine entries.aero ::
      overtakingLine entries.difficulty entries.chance :: rows,?_,?_⟩,behindWhole⟩
    · exact .line 0 raceLegible (.line 0 carLegible (.line 0 aeroLegible (.line 0 overtakingLegible (.blank planShown))))
    · intro rest
      exact .lines raceAgain carAgain onGrid aeroAgain overtakingAgain (planAgain rest)

theorem contentLines_whole (text : String) : ∀ line ∈ contentLines text, '\n' ∉ line := by
  intro line member inside
  obtain ⟨piece,cutOff,rfl⟩ := List.mem_map.mp (List.mem_filter.mp member).1
  exact (mem_cut cutOff _ (mem_trim inside)).2 rfl

theorem source_write {text : String} {document : Document Float} (accepted : (read text).document = some document) :
    (Source.of (write document)).diagnostics.map (·.problem) =
        (document.track.turns.filter (·.tags = [""])).map (fun turn => .malformed .turn (turnLine turn)) ∧
      (Source.of (write document)).document? =
        some {document with track.turns := document.track.turns.filter (·.tags ≠ [""])} ∧
      (Source.of (write document)).race.found = some (.of document.race) ∧
      (Source.of (write document)).strategy.found.value? = some document.strategy := by
  obtain ⟨entries,listed,makes⟩ := read_sound accepted
  cases listed with
  | sheet essentials turns winner =>
    obtain ⟨⟨rows,shown,again⟩,behindWhole⟩ := essentials_again essentials makes (contentLines_whole text)
    obtain ⟨turnsSaid,restWhole⟩ := turnsBlock_said turns behindWhole
    obtain ⟨turnRows,turnsShown,turnsRead⟩ := turnsLines_shown turnsSaid
    obtain ⟨winnerRows,winnerShown,winnerAgain,winnerFirst⟩ := winnerLines_again winner restWhole
    have turnsSame : document.track.turns = entries.turns := by rw [makes.track]
    have winnerSame : document.track.winner = entries.winner := by rw [makes.track]
    have shownAll : Shows (lines document) (rows ++ (turnRows ++ winnerRows)) := by
      unfold lines
      rw [turnsSame,winnerSame,← List.append_assoc]
      exact (shown.append turnsShown).append winnerShown
    generalize whole : Source.of (write document) = source
    have rowsAre : texts source.lines = rows ++ (turnRows ++ winnerRows) := by
      rw [← whole,texts_of,contentLines_write shownAll]
    obtain ⟨other,otherMakes,found,race,plan,behind,clean⟩ := Source.essentials_read (rowsAre ▸ again _)
    obtain ⟨turnsFound,turnsProblems,turnsRest⟩ := turnsRead source.stop _ _ behind winnerFirst
    obtain ⟨winnerFound,winnerClean⟩ := winnerSection_complete source.stop (turnsRest ▸ winnerAgain)
    have turnsNow : source.turns.found = entries.turns.filter (·.tags ≠ [""]) := turnsFound
    have winnerNow : source.winner.found = entries.winner := winnerFound
    have silent : source.winner.diagnostics = [] := winnerClean
    have same : other = {document with track.turns := document.track.turns.filter (·.tags ≠ [""])} := by
      refine otherMakes.unique ⟨?_,makes.laps,makes.weather,makes.cars,makes.start,makes.pace,makes.risk,makes.target,
        ?_,makes.label,makes.stints⟩
      · exact makes.trackName.trans (congrArg String.ofList (upper_upper _).symm)
      · rw [turnsNow,winnerNow,makes.track]
    rw [same] at found race plan
    refine ⟨?_,found,race,plan⟩
    rw [clean,silent,List.append_nil,turnsSame]
    exact turnsProblems

-- A sheet that is written and read again is the same document with the same warnings, unless a turn's
-- tags were nothing but blanks of another script: then each such turn is complained of, and nothing else.
theorem read_write {text : String} {document : Document Float} (accepted : (read text).document = some document) :
    ((∀ turn ∈ document.track.turns, turn.tags ≠ [""]) →
      (read (write document)).document = some document ∧ (read (write document)).diagnostics = [] ∧
        (read (write document)).warnings = (read text).warnings) ∧
    ((∃ turn ∈ document.track.turns, turn.tags = [""]) →
      (read (write document)).document = none ∧
        (read (write document)).diagnostics.map (·.problem) =
          (document.track.turns.filter (·.tags = [""])).map fun turn => .malformed .turn (turnLine turn)) := by
  obtain ⟨problems,found,race,plan⟩ := source_write accepted
  constructor
  · intro tagged
    have untagged : document.track.turns.filter (·.tags = [""]) = [] :=
      List.filter_eq_nil_iff.mpr fun turn member => by simpa using tagged turn member
    have kept : document.track.turns.filter (·.tags ≠ [""]) = document.track.turns :=
      List.filter_eq_self.mpr fun turn member => by simpa using tagged turn member
    rw [untagged,List.map_nil,List.map_eq_nil_iff] at problems
    rw [kept] at found
    obtain ⟨entries,listed,makes⟩ := read_sound accepted
    have again := Source.read_document_iff.mpr ⟨problems,found⟩
    obtain ⟨_,_,warnings⟩ := read_complete listed makes
    refine ⟨again,?_,?_⟩
    · obtain ⟨others,relisted,remakes⟩ := read_sound again
      exact (read_complete relisted remakes).2.1
    · rw [warnings]
      exact Source.read_warnings.trans (by rw [race,plan])
  · rintro ⟨turn,member,untagged⟩
    have faulty : (Source.of (write document)).diagnostics ≠ [] := by
      intro clean
      rw [clean] at problems
      have among : turn ∈ document.track.turns.filter (·.tags = [""]) := List.mem_filter.mpr ⟨member,by simpa using untagged⟩
      rw [List.map_eq_nil_iff.mp problems.symm] at among
      cases among
    obtain ⟨refused,named⟩ := Source.read_faulty faulty
    exact ⟨refused,by rw [← problems,← named]; rfl⟩

def monza (tags : String) : String :=
  let rows := ["RACE Monza LAPS=2 WEATHER=cool FIELD=20","CAR START=P3 PACE=midfield RISK=balanced","TRACK AERO=balanced",
    "TRACK OVERTAKING=easy CHANCE=0.5","STRATEGY \"Sprint\"","STINT 1 TIRE=SOFT LAPS=2","END","CRITICAL_TURNS"].map String.toList
  let turn := "TURN 1 NAME=\"Rettifilo\" RISK=".toList ++ tags.toList ++ " NOTE=\"Braking\"".toList
  String.ofList ((rows ++ [turn,"END".toList]).flatMap fun row => row ++ ['\n'])

theorem monza_read_write :
    (∃ document, (read (monza "Brake,Kerbs")).document = some document ∧ (read (write document)).document = some document) ∧
      ∃ document, (read (monza "\u00a0")).document = some document ∧ (read (write document)).document = none := by
  constructor
  · have tags : (read (monza "Brake,Kerbs")).document.map (·.track.turns.map (·.tags)) = some [["brake","kerbs"]] := by
      unfold read Source.of monza
      rw [String.toList_ofList]
      decide +kernel
    obtain ⟨document,found,tags⟩ := Option.map_eq_some_iff.mp tags
    refine ⟨document,found,((read_write found).1 fun turn member => ?_).1⟩
    have tagged := List.mem_map_of_mem (f := (·.tags)) member
    rw [tags,List.mem_singleton] at tagged
    rw [tagged]
    decide
  · have tags : (read (monza "\u00a0")).document.map (·.track.turns.map (·.tags)) = some [[""]] := by
      unfold read Source.of monza
      rw [String.toList_ofList]
      decide +kernel
    obtain ⟨document,found,tags⟩ := Option.map_eq_some_iff.mp tags
    have untagged : [""] ∈ document.track.turns.map (·.tags) := by rw [tags]; exact List.mem_singleton_self _
    exact ⟨document,found,((read_write found).2 (List.mem_map.mp untagged)).1⟩

end PitWall.Sheet

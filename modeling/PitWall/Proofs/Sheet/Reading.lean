import PitWall.Proofs.Sheet.Sections

namespace PitWall.Sheet
open Text

theorem texts_numbered (number : Nat) (pieces : List (List Char)) :
    texts (numbered number pieces) = pieces.filter (· ≠ []) := by
  induction pieces generalizing number with
  | nil => rfl
  | cons piece pieces ih =>
    cases piece with
    | nil => simpa [numbered] using ih (number + 1)
    | cons c piece => simpa [numbered,texts] using ih (number + 1)

theorem texts_of (text : String) : texts (Source.of text).lines = contentLines text := texts_numbered 1 _

theorem slotProblem_eq {race : Race} {car : Car} {number : Nat} :
    slotProblem (some (.of race)) (some (.of number car)) = [] ↔ car.start ≤ race.fieldSize := by
  have start := car.onGrid
  have field := race.rivals
  unfold slotProblem RaceFacts.of CarFacts.of
  dsimp only
  constructor
  · intro clean
    split at clean
    · cases clean
    · omega
  · intro onGrid
    rw [if_neg (by omega)]

namespace Source
variable {source : Source}

theorem race_read {line : Line} {rest : List Line} (whole : source.lines = line :: rest) {name : List Char}
    {laps cars : Nat} {weather : Weather} (reads : RaceLine line.text name laps weather cars) :
    ∃ race : Race, source.race = ⟨some (.of race),[],line.number + 1,rest⟩ ∧
      race.trackName = String.ofList (upper name) ∧ race.laps = laps ∧ race.weather = weather ∧
      race.fieldSize = cars := by
  rw [Source.race,whole]
  exact raceSection_complete source.stop rest reads

theorem car_read {line : Line} {rest : List Line} (before : source.race.rest = line :: rest) {start : Nat}
    {pace : PaceClass} {risk : RiskProfile} {target : Option Nat} (reads : CarLine line.text start pace risk target) :
    ∃ car : Car, source.car = ⟨some (.of line.number car),[],line.number + 1,rest⟩ ∧
      car.start = start ∧ car.pace = pace ∧ car.risk = risk ∧ car.target = target.map Int.ofNat := by
  rw [Source.car,before]
  exact carSection_complete source.stop rest reads

theorem track_read {first second : Line} {rest : List Line} (before : source.car.rest = first :: second :: rest)
    {aero : AeroDemand} {difficulty : Difficulty} {chance : Float} (aeroReads : AeroLine first.text aero)
    (reads : OvertakingLine second.text difficulty chance) :
    source.track = ⟨⟨some aero,some difficulty,some chance⟩,[],second.number + 1,rest⟩ := by
  rw [Source.track,before]
  exact trackSection_complete source.stop rest aeroReads reads

-- Behind the lines that every sheet has, only the two optional blocks are left to complain.
theorem essentials_read {entries : Entries} {behind : List (List Char)}
    (essentials : Essentials (texts source.lines) entries behind) :
    ∃ document, Entries.Make {entries with turns := source.turns.found, winner := source.winner.found} document ∧
      source.document? = some document ∧ source.race.found = some (.of document.race) ∧
      source.strategy.found.value? = some document.strategy ∧ texts source.strategy.rest = behind ∧
      source.diagnostics = source.turns.diagnostics ++ source.winner.diagnostics := by
  generalize shape : texts source.lines = all at essentials
  cases essentials with
  | lines race car onGrid aero overtaking strategy =>
    obtain ⟨raceLine,_,whole,rfl,carShape⟩ := List.map_eq_cons_iff.mp shape
    obtain ⟨carLine,_,rfl,rfl,aeroShape⟩ := List.map_eq_cons_iff.mp carShape
    obtain ⟨aeroLine,_,rfl,rfl,overtakingShape⟩ := List.map_eq_cons_iff.mp aeroShape
    obtain ⟨overtakingLine,below,rfl,rfl,rfl⟩ := List.map_eq_cons_iff.mp overtakingShape
    obtain ⟨race,raceFound,trackName,laps,weather,cars⟩ := race_read whole race
    obtain ⟨car,carFound,start,pace,risk,target⟩ := car_read (by rw [raceFound]) car
    have trackFound := track_read (by rw [carFound]) aero overtaking
    have strategyFound : source.strategy = strategySection source.stop below := by
      rw [Source.strategy,trackFound]
    obtain ⟨plan,label,stints,planFound,planClean,planRest⟩ := strategySection_complete source.stop strategy
    rw [← strategyFound] at planFound planClean planRest
    have slotClean : slotProblem source.race.found source.car.found = [] := by
      rw [raceFound,carFound]
      exact slotProblem_eq.mpr (by omega)
    refine ⟨⟨race,car,⟨entries.aero,entries.difficulty,entries.chance,source.turns.found,source.winner.found⟩,plan⟩,
      ⟨trackName,laps,weather,cars,start,pace,risk,target,rfl,label,stints⟩,?_,by rw [raceFound],
      by rw [planFound]; rfl,planRest,?_⟩
    · rw [document?,raceFound,carFound,trackFound,planFound]
      rfl
    · rw [diagnostics,slotClean,raceFound,carFound,trackFound,planClean]
      exact List.append_nil _

theorem complete {entries : Entries} (listed : Lists (texts source.lines) entries) :
    ∃ document, entries.Make document ∧ source.diagnostics = [] ∧ source.document? = some document ∧
      source.race.found = some (.of document.race) ∧ source.strategy.found.value? = some document.strategy := by
  cases listed with
  | sheet essentials turns winner =>
    obtain ⟨document,makes,whole,race,plan,behind,clean⟩ := essentials_read essentials
    rw [← behind] at turns
    obtain ⟨turnsFound,turnsClean,turnsRest⟩ := turnsSection_complete source.stop turns
    rw [← turnsRest] at winner
    obtain ⟨winnerFound,winnerClean⟩ := winnerSection_complete source.stop winner
    have turnsSame : source.turns.found = entries.turns := turnsFound
    have winnerSame : source.winner.found = entries.winner := winnerFound
    rw [turnsSame,winnerSame] at makes
    refine ⟨document,makes,?_,whole,race,plan⟩
    rw [clean]
    exact List.append_eq_nil_iff.mpr ⟨turnsClean,winnerClean⟩

theorem sound (clean : source.diagnostics = []) : ∃ entries, Lists (texts source.lines) entries := by
  simp only [diagnostics,List.append_eq_nil_iff] at clean
  obtain ⟨⟨⟨⟨⟨⟨raceClean,carClean⟩,trackClean⟩,strategyClean⟩,turnsClean⟩,winnerClean⟩,slotClean⟩ := clean
  obtain ⟨raceLine,behindRace,name,laps,weather,cars,whole,raceReads⟩ := raceSection_sound raceClean
  obtain ⟨race,raceFound,_,_,_,carsSame⟩ := race_read whole raceReads
  have raceRest : source.race.rest = behindRace := by rw [raceFound]
  rw [Source.car,raceRest] at carClean
  obtain ⟨carLine,behindCar,start,pace,risk,target,rfl,carReads⟩ := carSection_sound carClean
  obtain ⟨car,carFound,startSame,_,_,_⟩ := car_read raceRest carReads
  have carRest : source.car.rest = behindCar := by rw [carFound]
  rw [Source.track,carRest] at trackClean
  obtain ⟨aeroLine,overtakingLine,below,aero,difficulty,chance,rfl,aeroReads,overtakingReads⟩ :=
    trackSection_sound trackClean
  have trackFound := track_read carRest aeroReads overtakingReads
  have strategyIs : source.strategy = strategySection source.stop below := by rw [Source.strategy,trackFound]
  rw [strategyIs] at strategyClean
  obtain ⟨label,stints,plan⟩ := strategySection_sound strategyClean
  rw [← strategyIs] at plan
  have onGrid : start ≤ cars := by
    rw [raceFound,carFound] at slotClean
    have := slotProblem_eq.mp slotClean
    omega
  have lines : texts source.lines = raceLine.text :: carLine.text :: aeroLine.text :: overtakingLine.text :: texts below := by
    rw [whole]; rfl
  rw [lines]
  exact ⟨⟨name,laps,weather,cars,start,pace,risk,target,aero,difficulty,chance,label,stints,_,_⟩,
    .sheet (.lines raceReads carReads onGrid aeroReads overtakingReads plan) (turnsSection_sound turnsClean)
      (winnerSection_sound winnerClean)⟩

theorem read_document_iff {document : Document Float} :
    source.read.document = some document ↔ source.diagnostics = [] ∧ source.document? = some document := by
  unfold Source.read
  cases source.diagnostics with
  | nil => cases source.document? <;> simp
  | cons first rest => simp

theorem read_warnings : source.read.warnings = cautions source.race.found source.strategy.found.value? := by
  unfold Source.read
  cases source.diagnostics with
  | nil => cases source.document? <;> rfl
  | cons first rest => rfl

theorem read_faulty (faulty : source.diagnostics ≠ []) :
    source.read.document = none ∧ source.read.diagnostics = source.diagnostics := by
  unfold Source.read
  cases found : source.diagnostics with
  | nil => exact absurd found faulty
  | cons first rest => exact ⟨rfl,rfl⟩

end Source

theorem Entries.Make.unique {entries : Entries} {left right : Document Float} (one : entries.Make left)
    (other : entries.Make right) : left = right := by
  obtain ⟨leftRace,leftCar,leftTrack,leftPlan⟩ := left
  obtain ⟨rightRace,rightCar,rightTrack,rightPlan⟩ := right
  have race : leftRace = rightRace := by
    cases leftRace; cases rightRace
    simpa using ⟨one.trackName.trans other.trackName.symm,one.laps.trans other.laps.symm,
      one.weather.trans other.weather.symm,one.cars.trans other.cars.symm⟩
  have car : leftCar = rightCar := by
    cases leftCar; cases rightCar
    simpa using ⟨one.start.trans other.start.symm,one.pace.trans other.pace.symm,
      one.risk.trans other.risk.symm,one.target.trans other.target.symm⟩
  have plan : leftPlan = rightPlan := by
    cases leftPlan; cases rightPlan
    simpa using ⟨one.label.trans other.label.symm,one.stints.trans other.stints.symm⟩
  have track : leftTrack = rightTrack := one.track.trans other.track.symm
  rw [race,car,track,plan]

-- A text of the grammar is read, without a complaint; the warnings look at the race and the plan alone.
theorem read_complete {text : String} {entries : Entries} {document : Document Float}
    (listed : Lists (contentLines text) entries) (makes : entries.Make document) :
    (read text).document = some document ∧ (read text).diagnostics = [] ∧
      (read text).warnings = cautions (some (.of document.race)) (some document.strategy) := by
  rw [← texts_of] at listed
  obtain ⟨other,made,clean,whole,race,plan⟩ := Source.complete listed
  obtain rfl := made.unique makes
  unfold read Source.read
  rw [clean,whole,race,plan]
  exact ⟨rfl,rfl,rfl⟩

theorem read_sound {text : String} {document : Document Float} (accepted : (read text).document = some document) :
    ∃ entries, Lists (contentLines text) entries ∧ entries.Make document := by
  obtain ⟨clean,found⟩ := Source.read_document_iff.mp accepted
  obtain ⟨entries,listed⟩ := Source.sound clean
  obtain ⟨other,makes,_,same,_⟩ := Source.complete listed
  cases found.symm.trans same
  rw [texts_of] at listed
  exact ⟨entries,listed,makes⟩

-- What is accepted is the grammar, neither more nor less.
theorem read_accepted_iff (text : String) :
    (read text).accepted = true ↔ ∃ entries, Lists (contentLines text) entries := by
  unfold Reading.accepted
  constructor
  · intro accepted
    obtain ⟨document,found⟩ := Option.isSome_iff_exists.mp accepted
    obtain ⟨entries,listed,_⟩ := read_sound found
    exact ⟨entries,listed⟩
  · rintro ⟨entries,listed⟩
    obtain ⟨document,makes,_⟩ := Source.complete (texts_of text ▸ listed)
    rw [(read_complete listed makes).1]
    rfl

end PitWall.Sheet

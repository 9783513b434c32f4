import PitWall.Sheet.Sections

namespace PitWall.Sheet

-- How far the reader had come, and how much it had complained, after a section.
structure Mark where
  place : Section
  cursor : Nat
  diagnostics : Nat

structure Reading where
  document : Option (Document Float)
  diagnostics : List Diagnostic
  warnings : List Caution
  marks : List Mark
  ignored : Option Line

def cautions (race : Option RaceFacts) (strategy : Option Strategy) : List Caution :=
  match race,strategy with
  | some race,some strategy =>
    (if strategy.laps = race.laps then [] else [.lapMismatch strategy.laps race.laps])
      ++ (if race.weather = some .wet && !strategy.usesWetWeatherTires then [.dryTiresInTheWet] else [])
  | _,_ => []

-- Only the two lines together tell that a grid slot does not exist; the car's line is named.
def slotProblem (race : Option RaceFacts) (car : Option CarFacts) : List Diagnostic :=
  match race,car with
  | some race,some car =>
    if race.fieldSize < car.start then [⟨car.line,.startBeyondField car.start race.fieldSize⟩] else []
  | _,_ => []

def assemble (race : Option RaceFacts) (car : Option CarFacts) (track : TrackFacts)
    (strategy : Option Strategy) (turns : List Turn) (winner : Option PreviousWinner) :
    Option (Document Float) := do
  let race ← (← race).race.value?
  let car ← (← car).car.value?
  let aero ← track.aero
  let difficulty ← track.difficulty
  let chance ← track.chance
  let strategy ← strategy
  pure ⟨race,car,⟨aero,difficulty,chance,turns,winner⟩,strategy⟩

def marksOf (passed : List (Section × Nat × List Diagnostic)) : List Mark :=
  (passed.foldl (fun (marks,count) (place,cursor,diagnostics) =>
    let count := count + diagnostics.length
    (marks ++ [⟨place,cursor,count⟩],count)) (([] : List Mark),0)).1

namespace Source

-- Six sections in their order, each starting where the one before it stopped.
def race (source : Source) : Passage (Option RaceFacts) := raceSection source.stop source.lines
def car (source : Source) : Passage (Option CarFacts) := carSection source.stop source.race.rest
def track (source : Source) : Passage TrackFacts := trackSection source.stop source.car.rest
def strategy (source : Source) : Passage (Attempt Strategy) := strategySection source.stop source.track.rest
def turns (source : Source) : Passage (List Turn) := turnsSection source.stop source.strategy.rest
def winner (source : Source) : Passage (Option PreviousWinner) := winnerSection source.stop source.turns.rest

def diagnostics (source : Source) : List Diagnostic :=
  source.race.diagnostics ++ source.car.diagnostics ++ source.track.diagnostics
    ++ source.strategy.diagnostics ++ source.turns.diagnostics ++ source.winner.diagnostics
    ++ slotProblem source.race.found source.car.found

-- The checks of values that failed on the way. None ever does: a reading has no way to report one.
def flaws (source : Source) : List Flaw :=
  [source.race.found.bind (·.race.flaw?),source.car.found.bind (·.car.flaw?),
    source.strategy.found.flaw?].reduceOption

def document? (source : Source) : Option (Document Float) :=
  assemble source.race.found source.car.found source.track.found source.strategy.found.value?
    source.turns.found source.winner.found

def marks (source : Source) : List Mark :=
  marksOf [(.race,source.race.cursor,source.race.diagnostics),
    (.car,source.car.cursor,source.car.diagnostics),
    (.track,source.track.cursor,source.track.diagnostics),
    (.strategy,source.strategy.cursor,source.strategy.diagnostics),
    (.criticalTurns,source.turns.cursor,source.turns.diagnostics),
    (.previousWinner,source.winner.cursor,source.winner.diagnostics)]

-- A document is only made when nothing was wrong.
def read (source : Source) : Reading :=
  let warnings := cautions source.race.found source.strategy.found.value?
  let ignored := source.winner.rest.head?
  match source.diagnostics,source.document? with
  | [],some document => ⟨some document,[],warnings,source.marks,ignored⟩
  | [],none => ⟨none,[⟨cursorOf source.stop source.winner.rest,.incomplete⟩],warnings,source.marks,ignored⟩
  | diagnostics,_ => ⟨none,diagnostics,warnings,source.marks,ignored⟩

end Source

def read (text : String) : Reading := (Source.of text).read

def Reading.accepted (reading : Reading) : Bool := reading.document.isSome

end PitWall.Sheet

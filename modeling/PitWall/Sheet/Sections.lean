import PitWall.Race
import PitWall.Sheet.Diagnostic
import PitWall.Sheet.Source

namespace PitWall.Sheet
open Text

def digitValue (c : Char) : Nat := c.toNat - '0'.toNat

def countValue (digits : List Char) : Nat := digits.foldl (fun n c => 10 * n + digitValue c) 0

def chanceValue (numeral : List Char) : Float :=
  let places := (numeral.dropWhile (· ≠ '.')).drop 1
  Decimal.nearest (countValue (numeral.filter isDigit)) (Nat.pow 10 places.length)

-- A step over some lines: what was read, what was wrong, the line the reader stands on afterwards,
-- and the lines from there on.
structure Passage (α : Type) where
  found : α
  diagnostics : List Diagnostic
  cursor : Nat
  rest : List Line

def wordIn {α : Type} [Vocabulary α] (term : Term) (word folded : List Char) : Except Problem α :=
  match Vocabulary.ofSpelling? (String.ofList folded) with
  | some member => .ok member
  | none => .error (.unknownTerm term word)

-- Compounds are spelled in capitals, all other words in small letters.
def term {α : Type} [Vocabulary α] (term : Term) (word : List Char) : Except Problem α :=
  wordIn term word (lowerAscii word)
def compoundTerm (word : List Char) : Except Problem Compound := wordIn .compound word (upperAscii word)

def problemOf {α : Type} : Except Problem α → List Problem
  | .ok _ => []
  | .error problem => [problem]

def demand (fine : Bool) (problem : Problem) : List Problem := if fine then [] else [problem]

def isRaceLength (laps : Nat) : Bool := 1 ≤ laps && laps ≤ 100
def isFieldSize (cars : Nat) : Bool := 2 ≤ cars && cars ≤ 30

-- Kept also when a neighbour in the line is at fault, for the checks across sections.
structure RaceFacts where
  laps : Nat
  fieldSize : Nat
  weather : Option Weather
  race : Attempt Race

structure CarFacts where
  line : Nat
  start : Nat
  car : Attempt Car

structure TrackFacts where
  aero : Option AeroDemand
  difficulty : Option Difficulty
  chance : Option Float

def readRaceLine (line : List Char) : Option RaceFacts × List Problem :=
  match LineKind.race.read? line with
  | some [name,laps,weather,cars] =>
    let laps := countValue laps
    let cars := countValue cars
    let weather := term (α := Weather) .weather weather
    let race := match weather with
      | .ok weather =>
        .when (isRaceLength laps && isFieldSize cars) (Race.of (String.ofList (upper name)) laps weather cars)
      | .error _ => none
    (some ⟨laps,cars,weather.toOption,race⟩,
      problemOf weather ++ demand (isRaceLength laps) (.lapCount laps)
        ++ demand (isFieldSize cars) (.fieldSize cars))
  | _ => (none,[.malformed .race line])

def carFrom (number : Nat) (start pace risk : List Char) (target : Option (List Char)) :
    Option CarFacts × List Problem :=
  let start := countValue start
  let pace := term (α := PaceClass) .paceClass pace
  let risk := term (α := RiskProfile) .riskProfile risk
  let car := match pace,risk with
    | .ok pace,.ok risk =>
      .when (1 ≤ start) (Car.of start pace risk (target.map fun digits => (countValue digits : Int)))
    | _,_ => none
  (some ⟨number,start,car⟩,
    problemOf pace ++ problemOf risk ++ demand (1 ≤ start) (.startPosition start))

def readCarLine (number : Nat) (line : List Char) : Option CarFacts × List Problem :=
  match LineKind.car.read? line with
  | some [start,pace,risk] => carFrom number start pace risk none
  | some [start,pace,risk,target] => carFrom number start pace risk (some target)
  | _ => (none,[.malformed .car line])

def readAeroLine (line : List Char) : Option AeroDemand × List Problem :=
  match LineKind.aero.read? line with
  | some [aero] =>
    let aero := term (α := AeroDemand) .aero aero
    (aero.toOption,problemOf aero)
  | _ => (none,[.malformed .aero line])

def isChance (chance : Float) : Bool := 0.0 ≤ chance && chance ≤ 1.0

def readOvertakingLine (line : List Char) : (Option Difficulty × Option Float) × List Problem :=
  match LineKind.overtaking.read? line with
  | some [difficulty,chance] =>
    let difficulty := term (α := Difficulty) .difficulty difficulty
    let chance := chanceValue chance
    ((difficulty.toOption,if isChance chance then some chance else none),
      problemOf difficulty ++ demand (isChance chance) (.overtakingChance chance))
  | _ => ((none,none),[.malformed .overtaking line])

def onLine (line : Line) (problems : List Problem) : List Diagnostic := problems.map (⟨line.number,·⟩)

-- A required line takes exactly one line, whatever it says.
def requiredLine {α : Type} (required : Required) (read : Line → α × List Problem) (absent : α)
    (stop : Nat) : List Line → Passage α
  | [] => ⟨absent,[⟨stop,.missing required⟩],stop,[]⟩
  | line :: rest => ⟨(read line).1,onLine line (read line).2,line.number + 1,rest⟩

def raceSection (stop : Nat) (lines : List Line) : Passage (Option RaceFacts) :=
  requiredLine .race (fun line => readRaceLine line.text) none stop lines

def carSection (stop : Nat) (lines : List Line) : Passage (Option CarFacts) :=
  requiredLine .car (fun line => readCarLine line.number line.text) none stop lines

-- Two lines; without the first there is no complaint about the second.
def trackSection (stop : Nat) (lines : List Line) : Passage TrackFacts :=
  let aero := requiredLine .aero (fun line => readAeroLine line.text) none stop lines
  if lines.isEmpty then ⟨⟨none,none,none⟩,aero.diagnostics,aero.cursor,aero.rest⟩ else
  let overtaking := requiredLine .overtaking (fun line => readOvertakingLine line.text) (none,none) stop aero.rest
  ⟨⟨aero.found,overtaking.found.1,overtaking.found.2⟩,aero.diagnostics ++ overtaking.diagnostics,
    overtaking.cursor,overtaking.rest⟩

-- A line with the form of a stint counts as one, sound or not.
structure StintLine where
  isStint : Bool
  stint : Option Stint
  problems : List Problem

def readStintLine (line : List Char) : StintLine :=
  match LineKind.stint.read? line with
  | some [number,compound,laps] =>
    let laps := countValue laps
    let compound := compoundTerm compound
    let stint := match compound with
      | .ok compound => if isRaceLength laps then some ⟨countValue number,compound,laps⟩ else none
      | .error _ => none
    ⟨true,stint,problemOf compound ++ demand (isRaceLength laps) (.stintLaps laps)⟩
  | _ => ⟨false,none,[.malformed .stint line]⟩

def strategySection (stop : Nat) : List Line → Passage (Attempt Strategy)
  | [] => ⟨none,[⟨stop,.missing .strategy⟩],stop,[]⟩
  | line :: rest =>
    match LineKind.strategy.read? line.text with
    | some [label] =>
      let block := Block.of stop rest
      let read := block.body.map fun line => (line,readStintLine line.text)
      let stints := read.filterMap (·.2.stint)
      let problems := read.flatMap fun (line,stint) => onLine line stint.problems
      let missing := if read.any (·.2.isStint) then [] else [⟨block.cursor,.noStint⟩]
      let strategy := Attempt.when (!stints.isEmpty) (Strategy.of (String.ofList label) stints)
      ⟨strategy,problems ++ missing,block.cursor,block.rest⟩
    | _ => ⟨none,[⟨line.number,.malformed .strategy line.text⟩],line.number + 1,rest⟩

def riskTags (run : List Char) : List String :=
  (cut ',' run).map fun tag => String.ofList (lower (trim tag))

def readTurnLine (line : List Char) : Except Problem Turn :=
  match LineKind.turn.read? line with
  | some [number,name,tags,note] =>
    .ok ⟨countValue number,String.ofList name,riskTags tags,String.ofList note⟩
  | _ => .error (.malformed .turn line)

def cursorOf (stop : Nat) : List Line → Nat
  | [] => stop
  | line :: _ => line.number

-- An optional block is entered by its header only; any other line is left to what follows.
def turnsSection (stop : Nat) : List Line → Passage (List Turn)
  | [] => ⟨[],[],stop,[]⟩
  | line :: rest =>
    if line.says "CRITICAL_TURNS" then
      let block := Block.of stop rest
      let read := block.body.map fun line => (line,readTurnLine line.text)
      ⟨read.filterMap (·.2.toOption),read.flatMap fun (line,turn) => onLine line (problemOf turn),
        block.cursor,block.rest⟩
    else ⟨[],[],line.number,line :: rest⟩

def readWinnerStintLine (line : List Char) : Except Problem WinnerStint :=
  match LineKind.winnerStint.read? line with
  | some [compound,laps] =>
    match Vocabulary.ofSpelling? (α := Compound) (String.ofList (upperAscii compound)) with
    | some compound => .ok ⟨compound,countValue laps⟩
    | none => .error (.winnerCompound compound)
  | _ => .error (.malformed .winnerStint line)

-- The stints of the winner are a list under a heading of its own; without the heading, all up to
-- END is passed over.
def winnerStints (stop : Nat) (lines : List Line) : Passage (List WinnerStint) :=
  match lines with
  | [] => ⟨[],[],stop,[]⟩
  | line :: rest =>
    if line.says "STINTS:" then
      let block := Block.of stop rest
      let read := block.body.map fun line => (line,readWinnerStintLine line.text)
      ⟨read.filterMap (·.2.toOption),read.flatMap fun (line,stint) => onLine line (problemOf stint),
        block.cursor,block.rest⟩
    else
      let block := Block.of stop (line :: rest)
      ⟨[],[],block.cursor,block.rest⟩

def winnerBody (stop : Nat) : List Line → Passage (Option PreviousWinner)
  | [] => ⟨none,[⟨stop,.emptyWinner⟩],stop,[]⟩
  | line :: rest =>
    match LineKind.winnerYear.read? line.text with
    | some [year,label] =>
      let stints := winnerStints stop rest
      ⟨some ⟨countValue year,String.ofList label,stints.found⟩,stints.diagnostics,stints.cursor,stints.rest⟩
    | _ =>
      let block := Block.of stop (line :: rest)
      ⟨none,[⟨line.number,.malformed .winnerYear line.text⟩],block.cursor,block.rest⟩

def winnerSection (stop : Nat) : List Line → Passage (Option PreviousWinner)
  | [] => ⟨none,[],stop,[]⟩
  | line :: rest =>
    if line.says "PREVIOUS_WINNER" then winnerBody stop rest else ⟨none,[],line.number,line :: rest⟩

end PitWall.Sheet

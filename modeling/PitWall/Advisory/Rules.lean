import PitWall.Advisory.Basic

namespace PitWall

inductive Rule where
  | aggressiveRisk | conservativeRisk | startVsPace | targetPosition | weather | stintLengths
  | firstStint | lastStint | criticalTurns | strategyShape | backmarkerAggression | undercut
  | midfieldTraffic
deriving DecidableEq

instance : Vocabulary Rule where
  all := [.aggressiveRisk, .conservativeRisk, .startVsPace, .targetPosition, .weather, .stintLengths,
    .firstStint, .lastStint, .criticalTurns, .strategyShape, .backmarkerAggression, .undercut,
    .midfieldTraffic]
  spelling
    | .aggressiveRisk => "aggressive_risk"
    | .conservativeRisk => "conservative_risk"
    | .startVsPace => "start_vs_pace"
    | .targetPosition => "target_position"
    | .weather => "weather"
    | .stintLengths => "stint_lengths"
    | .firstStint => "first_stint"
    | .lastStint => "last_stint"
    | .criticalTurns => "critical_turns"
    | .strategyShape => "strategy_shape"
    | .backmarkerAggression => "backmarker_aggression"
    | .undercut => "undercut"
    | .midfieldTraffic => "midfield_traffic"

-- What a rule may look at. The finish is part of it although no rule asks for it yet.
structure Review (R : Type) where
  race : Race
  car : Car
  track : Track R
  strategy : Strategy
  tables : Tables R
  predictedFinish : Int

namespace Rule
open Advisory

def onlyIf (found : Bool) (advisory : Advisory) : List Advisory := if found then [advisory] else []

def hasLong (compound : Compound) (laps : Int) (stints : List Stint) : Bool :=
  stints.any fun stint => stint.compound = compound && laps < stint.laps

variable {R : Type}

def paceOf (review : Review R) : PaceData R := review.tables.pace review.car.pace

def raiseAggressiveRisk (review : Review R) : List Advisory :=
  if review.car.risk ≠ .aggressive then [] else
  note .strategy .medium "Aggressive risk profile increases tire wear by 20%"
      "Higher degradation rate may require earlier pit stops or compromise late-stint pace"
    :: onlyIf (review.track.difficulty = .hard)
      (note .strategy .high "Aggressive driving on low-overtaking track is risky"
        "If you lose position due to tire wear, recovery will be very difficult")
    ++ onlyIf (hasLong .soft 12 review.strategy.stints)
      (note .tire .high "Aggressive driving will shorten soft tire life significantly"
        "Soft tires may cliff early with aggressive driving style - consider shorter stint")

def raiseConservativeRisk (review : Review R) : List Advisory :=
  onlyIf (review.car.risk = .conservative)
    (note .strategy .low "Conservative approach protects tires but limits overtaking"
      "Better tire life but 30% fewer overtaking attempts - good for track position races")

def raiseStartVsPace (review : Review R) : List Advisory :=
  let start := review.car.start
  let pace := paceOf review
  let name := Vocabulary.spelling review.car.pace
  let ceiling := pace.realisticCeiling
  let usual := pace.typicalFinish
  onlyIf (start < ceiling)
    (note .strategy .high s!"Starting P{start} is ahead of {name} pace ceiling (P{ceiling})"
      "Expect to lose positions to faster cars during the race - focus on defensive strategy")
    ++ onlyIf (usual + 3 < start)
      (note .strategy .medium s!"Starting P{start} is below typical {name} finish (P{usual})"
        "Room to gain positions if strategy and first lap execution go well")

def raiseTargetPosition (review : Review R) : List Advisory :=
  match review.car.target with
  | none => []
  | some target =>
    let name := Vocabulary.spelling review.car.pace
    let ceiling := (paceOf review).realisticCeiling
    onlyIf (target < ceiling)
      (note .strategy .critical s!"Target P{target} is unrealistic for {name} car"
        s!"Best realistic finish for {name} is P{ceiling} - adjust expectations")

def raiseWeather (review : Review R) : List Advisory :=
  match review.race.weather with
  | .hot =>
    note .weather .medium "Hot conditions increase tire degradation by 25%"
        "Consider harder compounds or shorter stints to manage thermal degradation"
      :: onlyIf (hasLong .soft 10 review.strategy.stints)
        (note .tire .high "Soft tires in hot conditions will degrade rapidly"
          "Expect significant pace drop-off after ~10 laps on softs in the heat")
  | .cool =>
    onlyIf (review.strategy.first.compound = .hard)
      (note .tire .medium "Hard tires may struggle to warm up in cool conditions"
        "First few laps could have reduced grip - vulnerable on lap 1")
  | .wet =>
    [note .weather .medium "Wet conditions - reduced grip and visibility"
      "INTERMEDIATE or WET tires required. Watch for drying track creating crossover window."]
  | .normal => []

def shortStint (stint : Stint) : Advisory :=
  note .strategy .medium s!"Stint {stint.number} is very short ({stint.laps} laps)"
    "Short stints waste pit stop time - ensure this is intentional (e.g., safety car)"

def nearCliff (stint : Stint) (cliffLap : Int) : Advisory :=
  let compound := Vocabulary.spelling stint.compound
  note .tire .medium s!"Stint {stint.number} pushes {compound} tires near cliff ({stint.laps}/{cliffLap} laps)"
    "Pace will drop significantly in final laps - be prepared for pressure from behind"

section
variable [Arithmetic R]

-- The limit is only worked out for a stint past the cliff.
def isNearCliff (stint : Stint) (cliffLap : Int) (R : Type) [Arithmetic R] : Except Fault Bool :=
  if cliffLap < stint.laps then do
    let limit : R ← overrunLimit cliffLap
    return Arithmetic.within stint.laps limit
  else .ok false

def raiseStintLength (tables : Tables R) (stint : Stint) : Except Fault (List Advisory) := do
  let cliffLap := (tables.tire stint.compound).cliffLap
  let near ← isNearCliff stint cliffLap R
  return onlyIf (stint.laps < 8 && 1 < stint.number) (shortStint stint)
    ++ onlyIf near (nearCliff stint cliffLap)

def raiseStintLengths (review : Review R) : Except Fault (List Advisory) := do
  return (← review.strategy.stints.mapM (raiseStintLength review.tables)).flatten

end

def raiseFirstStint (review : Review R) : List Advisory :=
  let first := review.strategy.first.compound
  onlyIf (first = .soft && 10 < review.car.start)
    (note .strategy .medium "Starting on soft tires from back of grid"
      ("Soft tires optimal for qualifying but may limit strategic flexibility - "
        ++ "offset pit window from rivals"))
    ++ onlyIf (first = .hard && review.car.start ≤ 5)
      (note .strategy .medium "Starting on hard tires from front positions"
        "May lose positions early to cars on grippier compounds - requires track position defense")

def raiseLastStint (review : Review R) : List Advisory :=
  let last := review.strategy.last
  onlyIf (last.compound = .soft && 18 < last.laps)
    (note .tire .high "Long final stint on soft tires"
      "Risk of severe degradation in closing laps when positions are hardest to recover")

def raiseTurn (longStint hardTrack : Bool) (turn : Turn) : List Advisory :=
  onlyIf (turn.hasTag "tire_stress" && longStint)
    (note .track .medium s!"{turn.name} (Turn {turn.number}) may stress tires on longer stints" turn.note)
    ++ onlyIf (turn.hasTag "overtaking_zone" && hardTrack)
      (note .track .low s!"{turn.name} is one of few overtaking opportunities"
        s!"{turn.note} - Focus defensive efforts here")

def raiseCriticalTurns (review : Review R) : List Advisory :=
  let longStint := review.strategy.stints.any fun stint => 25 < stint.laps
  review.track.turns.flatMap (raiseTurn longStint (review.track.difficulty = .hard))

def raiseStrategyShape (review : Review R) : List Advisory :=
  let stints := review.strategy.stints.length
  let difficulty := review.track.difficulty
  onlyIf (stints = 1 && 40 < review.race.laps)
    (note .strategy .high "Zero-stop strategy on long race is extremely risky"
      "No compound can realistically last this distance competitively")
    ++ onlyIf (3 ≤ stints && difficulty = .hard)
      (note .strategy .high "Multiple pit stops on low-overtaking track"
        "Each stop risks losing positions that are nearly impossible to recover")
    ++ onlyIf (3 ≤ stints && difficulty = .medium)
      (note .strategy .medium "Three or more stops increases track position risk"
        "Consider if fresh tire advantage outweighs time lost in pits")

def raiseBackmarkerAggression (review : Review R) : List Advisory :=
  onlyIf (review.car.pace = .backmarker && review.car.risk = .aggressive)
    (note .strategy .medium "Aggressive strategy unlikely to overcome pace deficit"
      ("Backmarker cars benefit more from conservative tire management and capitalizing on "
        ++ "others' mistakes"))

def raiseUndercut (review : Review R) : List Advisory :=
  onlyIf (review.track.difficulty ≠ .easy && 2 ≤ review.strategy.stints.length)
    (note .strategy .low "Pit timing critical for position gains"
      "Undercut can gain 1-2 positions if pitting 1-2 laps before rivals on this track")

def raiseMidfieldTraffic (review : Review R) : List Advisory :=
  onlyIf (8 ≤ review.car.start && review.car.start ≤ 15)
    (note .traffic .low "Starting in congested midfield"
      "Expect close racing and potential for minor contact - lap 1 positioning is crucial")

-- A rule either raises its advisories or meets a cliff lap that is no number.
def raise [Arithmetic R] : Rule → Review R → Except Fault (List Advisory)
  | .aggressiveRisk, review => .ok (raiseAggressiveRisk review)
  | .conservativeRisk, review => .ok (raiseConservativeRisk review)
  | .startVsPace, review => .ok (raiseStartVsPace review)
  | .targetPosition, review => .ok (raiseTargetPosition review)
  | .weather, review => .ok (raiseWeather review)
  | .stintLengths, review => raiseStintLengths review
  | .firstStint, review => .ok (raiseFirstStint review)
  | .lastStint, review => .ok (raiseLastStint review)
  | .criticalTurns, review => .ok (raiseCriticalTurns review)
  | .strategyShape, review => .ok (raiseStrategyShape review)
  | .backmarkerAggression, review => .ok (raiseBackmarkerAggression review)
  | .undercut, review => .ok (raiseUndercut review)
  | .midfieldTraffic, review => .ok (raiseMidfieldTraffic review)

end Rule

def gather {A : Type} (raise : A → Except Fault (List Advisory)) (rules : List A) : Except Fault (List Advisory) := do
  return (← rules.mapM raise).flatten

def advise {R : Type} [Arithmetic R] (rules : List Rule) (review : Review R) : Except Fault (List Advisory) :=
  gather (·.raise review) rules

end PitWall

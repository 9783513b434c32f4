import PitWall.Proofs.Simulation.Course

namespace PitWall.Simulation
open Arithmetic Position
variable {R : Type} [Arithmetic R]

-- Two races that are the same to a car's moves. The plan, the distance, the weather, the circuit, the rest
-- of the track and of the risk profile may differ.
structure SameMoves (left right : Setup R) : Prop where
  fieldSize : left.race.fieldSize = right.race.fieldSize
  car : left.car = right.car
  pace : left.pace = right.pace
  aggressiveness : left.risk.overtakingAggressiveness = right.risk.overtakingAggressiveness
  rate : left.rate = right.rate

theorem change_aggressiveness {risk other : RiskData R}
    (same : risk.overtakingAggressiveness = other.overtakingAggressiveness) (position lap : Int) (rate : R)
    (pace : PaceData R) (fieldSize : Int) :
    change position lap rate pace risk fieldSize = change position lap rate pace other fieldSize := by
  cases risk
  cases other
  cases same
  rfl

namespace SameMoves
variable {left right : Setup R}

theorem change_eq (same : SameMoves left right) (position lap : Int) :
    change position lap left.rate left.pace left.risk left.race.fieldSize
      = change position lap right.rate right.pace right.risk right.race.fieldSize := by
  rw [same.rate,same.pace,same.fieldSize]
  exact change_aggressiveness same.aggressiveness _ _ _ _ _

-- The induction goes over both races at once: from the same place after as many laps they make the same
-- move, so the place and the number of laps are all that has to be carried along.
theorem places_agree (same : SameMoves left right) {driven : Nat} {position last final : Int}
    {records others : List (LapRecord R)} (one : Course left driven position records last)
    (other : Course right driven position others final) :
    let shared := min records.length others.length
    (records.map (·.position)).take shared = (others.map (·.position)).take shared ∧
      (records.length = others.length → last = final) := by
  induction one generalizing others with
  | done =>
    refine ⟨by simp,?_⟩
    intro idle
    cases other with
    | done => rfl
    | lap => cases idle
  | @lap driven position record next records last numbered moved placed rest ih =>
    cases other with
    | done => exact ⟨by simp,fun idle => by cases idle⟩
    | @lap _ _ twin _ _ _ _ movedToo placedToo restToo =>
      rw [same.change_eq,movedToo] at moved
      cases moved
      obtain ⟨places,ends⟩ := ih restToo
      have first : record.position = twin.position := placed.trans placedToo.symm
      refine ⟨?_,fun length => ends (Nat.succ_injective length)⟩
      simp [Nat.add_min_add_right,first,places]

theorem forecast_agrees (same : SameMoves left right) {last : Int} {one two : Outcome R} (foretold : Forecast left last one)
    (other : Forecast right last two) :
    one.predictedFinish = two.predictedFinish ∧ one.range = two.range ∧ one.gained = two.gained ∧
      one.pointsChance = two.pointsChance ∧ one.beatingStartChance = two.beatingStartChance := by
  have finish : one.predictedFinish = two.predictedFinish := by
    rw [foretold.predicted,other.predicted,same.pace,same.fieldSize]
  have gain : one.gained = two.gained := by rw [foretold.gained,other.gained,same.car,finish]
  have points := foretold.points
  rw [same.pace,finish,other.points] at points
  have beating := foretold.beating
  rw [same.pace,same.car,gain,other.beating] at beating
  have range : one.range = two.range := by
    rw [foretold.range,other.range,same.pace,same.fieldSize,same.car,finish]
  exact ⟨finish,range,gain,(Except.ok.inj points).symm,(Except.ok.inj beating).symm⟩

end SameMoves

-- Neither the plan nor what a lap costs comes into the places: two races that are the same to a car's moves
-- see it in the same place on every lap that both have, and foretell the same when they are as long.
theorem simulate_places_independent {left right : Setup R} {plan other : Strategy} {one two : Outcome R}
    (same : SameMoves left right) (raced : simulate left.race left.car plan left.track left.tables = .ok one)
    (racedToo : simulate right.race right.car other right.track right.tables = .ok two) :
    let shared := min one.laps.length two.laps.length
    (one.laps.map (·.position)).take shared = (two.laps.map (·.position)).take shared ∧
      (one.laps.length = two.laps.length →
        one.predictedFinish = two.predictedFinish ∧ one.range = two.range ∧ one.gained = two.gained ∧
          one.pointsChance = two.pointsChance ∧ one.beatingStartChance = two.beatingStartChance) := by
  obtain ⟨last,course,foretold⟩ := simulate_forecast _ raced
  obtain ⟨final,courseToo,foretoldToo⟩ := simulate_forecast _ racedToo
  rw [← same.car] at courseToo
  obtain ⟨places,ends⟩ := same.places_agree course courseToo
  refine ⟨places,?_⟩
  intro length
  rw [← ends length] at foretoldToo
  exact same.forecast_agrees foretold foretoldToo

-- The same car on other tires and another circuit, in the rain, where its tires and its stops are dear.
def rain : Race :=
  {sprint with trackName := "MONACO", laps := 78, weather := .wet, named := by decide, someLap := by decide}
def narrowTrack : Track Float := ⟨.dragReliant,.easy,0.1,[],none⟩
def lateStart : Strategy := ⟨"rain",[⟨1,.wet,0⟩,⟨2,.intermediate,2⟩],by decide⟩

def dearTables : Tables Float where
  __ := Tables.standard
  risk risk := {Tables.standard.risk risk with tireManagement := 2.0, pitStopEfficiency := 3.0}

theorem rain_places_independent :
    SameMoves ⟨sprint,fifth,openTrack,Tables.standard⟩ ⟨rain,fifth,narrowTrack,dearTables⟩ ∧
      ∃ one two, simulate sprint fifth oneStop openTrack Tables.standard = .ok one ∧
        simulate rain fifth lateStart narrowTrack dearTables = .ok two ∧
        one.laps.map (·.position) = two.laps.map (·.position) ∧ one.predictedFinish = two.predictedFinish ∧
        one.pointsChance = two.pointsChance := by
  have same : SameMoves ⟨sprint,fifth,openTrack,Tables.standard⟩ ⟨rain,fifth,narrowTrack,dearTables⟩ :=
    ⟨rfl,rfl,rfl,rfl,rfl⟩
  have runs : (simulate sprint fifth oneStop openTrack Tables.standard).toOption.any (·.laps.length == 2) = true := by
    decide +kernel
  have runsToo : (simulate rain fifth lateStart narrowTrack dearTables).toOption.any (·.laps.length == 2) = true := by
    decide +kernel
  obtain ⟨one,raced,length⟩ := returns_of_any runs
  obtain ⟨two,racedToo,lengthToo⟩ := returns_of_any runsToo
  rw [beq_iff_eq] at length lengthToo
  obtain ⟨places,foretold⟩ := simulate_places_independent same raced racedToo
  obtain ⟨finish,_,_,points,_⟩ := foretold (length.trans lengthToo.symm)
  rw [length,lengthToo,List.take_of_length_le (by simp [length]),List.take_of_length_le (by simp [lengthToo])] at places
  exact ⟨same,one,two,raced,racedToo,places,finish,points⟩

end PitWall.Simulation

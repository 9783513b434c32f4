import PitWall.Proofs.Arithmetic.Average
import PitWall.Proofs.Position
import PitWall.Proofs.Simulation.Progress
import PitWall.Proofs.Tables.Exact

namespace PitWall.Simulation
open Arithmetic Position

-- The divisors of a race. That by which the luck at the start is measured may be zero, but not where it is divided by.
structure Divisible (tables : Tables Rat) : Prop where
  cliff : ∀ compound, (tables.tire compound).cliffLap ≠ 0
  life : ∀ compound, ((tables.tire compound).cliffLap : Rat) * 1.5 ≠ 0
  defense : ∀ member, (tables.pace member).defenseAbility ≠ 0
  gain : ∀ position member profile seed, startSeed position = .ok seed →
    let gain := 0.3 * (tables.pace member).overtakingAbility * (tables.risk profile).overtakingAggressiveness
    below seed gain = true → gain ≠ 0

theorem startSeed_nonneg {position : Int} {seed : Rat} (drawn : startSeed position = .ok seed) : 0 ≤ seed := by
  change ratio (startDraw position) 100 = _ at drawn
  rw [ratio_eq _ (by decide)] at drawn
  cases drawn
  have draw := (startDraw_bounds position).1
  positivity

theorem quotient_exact (x : Rat) {y : Rat} (divisor : y ≠ 0) : Succeeds (quotient x y : Except Fault Rat) := by
  rw [quotient_eq x divisor]
  exact succeeds_ok _

theorem divisible_of_sound {tables : Tables Rat} (sound : Tables.Sound tables) : Divisible tables where
  cliff compound := by
    have counted := sound.cliff compound
    omega
  life compound := by
    have counted : (1 : Rat) ≤ ((tables.tire compound).cliffLap : Rat) := by exact_mod_cast sound.cliff compound
    positivity
  defense member := (Tables.atMost_zero_eq_false_iff.mp (sound.defense member)).ne'
  gain position member profile seed drawn := by
    intro gain beaten zero
    have less : seed < gain := of_decide_eq_true beaten
    rw [zero] at less
    exact absurd less (not_lt.mpr (startSeed_nonneg drawn))

theorem ofInt_exact (n : Int) : Succeeds (ofInt n : Except Fault Rat) := succeeds_ok (n : Rat)

theorem ratio_exact (a : Int) {b : Int} (divisor : b ≠ 0) : Succeeds (ratio a b : Except Fault Rat) :=
  quotient_exact a (Int.cast_ne_zero.mpr divisor)

theorem degradation_exact (tire : TireData Rat) (lap : Int) (weather management : Rat) :
    Succeeds (Lap.degradation tire lap weather management) :=
  Lap.degradation_returns (ofInt_exact lap) _ _ (fun _ => ofInt_exact _)
    ⟨(Lap.cliffRamp : Rat),rfl,fun x => quotient_exact x (by decide +kernel)⟩

theorem mean_exact {times : List Rat} (taken : times ≠ []) : Succeeds (mean times) :=
  ⟨_,mean_eq taken,trivial⟩

section
variable {tables : Tables Rat} (divisible : Divisible tables)
include divisible

theorem wear_exact (compound : Compound) (lap : Int) : Succeeds (Lap.wear (tables.tire compound) lap) :=
  Lap.wear_returns (ofInt_exact lap) ⟨((tables.tire compound).cliffLap : Rat),rfl,fun x => quotient_exact x (divisible.life compound)⟩
    fun _ => ratio_exact _ (divisible.cliff compound)

theorem firstLap_exact (position fieldSize : Int) (member : PaceClass) (profile : RiskProfile) :
    Succeeds (firstLap position (tables.pace member) (tables.risk profile) fieldSize) := by
  refine firstLap_returns (fun x => quotient_exact x (divisible.defense member)) fieldSize (ratio_exact _ (by decide)) ?_
  intro seed drawn gain beaten
  refine Returns.bind (quotient_exact seed (divisible.gain position member profile seed drawn beaten)) fun _ _ _ => ?_
  exact Returns.bind (ofInt_exact _) fun _ _ _ => succeeds_ok _

theorem laterLap_exact (position lap fieldSize : Int) (rate : Rat) (member : PaceClass) (profile : RiskProfile) :
    Succeeds (laterLap position lap rate (tables.pace member) (tables.risk profile) fieldSize) :=
  laterLap_returns (fun x => quotient_exact x (divisible.defense member)) fieldSize rate (ratio_exact _ (by decide))

end

theorem divisible_passable {setup : Setup Rat} (divisible : Divisible setup.tables) :
    Passable setup (fun _ => True) fun _ => True where
  limit _ := Returns.bind (ofInt_exact _) fun _ _ _ => succeeds_ok _
  degradation _ n _ := degradation_exact _ n _ _
  wear compound n _ := wear_exact divisible compound n
  change {position} driven _ := by
    have succeeds : Succeeds (change position (driven + 1 : Nat) setup.rate setup.pace setup.risk setup.race.fieldSize) := by
      unfold change
      split
      · exact firstLap_exact divisible _ _ _ _
      · exact laterLap_exact divisible _ _ _ _ _ _
    exact succeeds
  mean taken _ := mean_exact taken
  points _ := Odds.points_returns (ofInt_exact _) (ofInt_exact _)
  beatingStart _ := Odds.beatingStart_returns (ofInt_exact _) (ofInt_exact _) (ofInt_exact _)

theorem divisible_returns {tables : Tables Rat} (divisible : Divisible tables) (race : Race) (car : Car) (plan : Strategy)
    (track : Track Rat) : Succeeds (simulate race car plan track tables) :=
  simulate_returns (divisible_passable divisible) trivial fun _ _ _ _ _ => trivial

-- In exact numbers no race divides by zero, whatever its sheet says and however its tables came about:
-- every race is run to its end.
theorem simulate_divisors {tables : Tables Rat} (reached : Tables.ExactlyReached tables) :
    Divisible tables ∧ ∀ race car plan track, Succeeds (simulate race car plan track tables) := by
  have divides := divisible_of_sound reached.sound
  exact ⟨divides,divisible_returns divides⟩

def clearTrack : Track Rat := ⟨.balanced,.easy,0.5,[],none⟩

-- No car can overtake, nothing is risked and a lap takes no time.
def standstill {R : Type} : List (Tables.Scalar R × Tables.Value R) :=
  let zeros (names : List String) : Tables.Value R := .mapping (names.map fun name => (.text name,.scalar (.int 0)))
  let circuit := zeros ["base_lap_time","pit_lane_time_loss","fuel_effect_per_kg","starting_fuel_kg","fuel_consumption_per_lap"]
  [(.text "default_circuit",circuit),(.text "circuits",.mapping [(.text "Monza",circuit)]),
    (.text "pace_classes",.mapping (["front_runner","midfield","backmarker"].map fun name =>
      (.text name,zeros ["overtaking_ability"]))),
    (.text "risk_profiles",.mapping (["conservative","balanced","aggressive"].map fun name =>
      (.text name,zeros ["overtaking_aggressiveness"]))),
    (.text "overtake_base_rates",zeros ["easy","medium","hard"])]

def isReal : Tables.Value Float → Bool
  | .scalar (.number _) => true
  | _ => false

theorem standstill_finite (place : Tables.Place) (x : Float) (told : Tables.given standstill place = some (.scalar (.number x))) :
    (rational? x).isSome := by
  have real : (Tables.given standstill place).any isReal = true := by rw [told]; rfl
  have whole : (Tables.given standstill place).any isReal = false := by
    cases place with
    | defaultCircuit field => cases field <;> decide +kernel
    | circuit key field =>
      have named : ∀ entry ∈ Tables.topicOf (standstill (R := Float)) .circuits, circuitKey entry.1.shown = "MONZA" := by
        decide +kernel
      by_cases own : key = "MONZA"
      · subst own
        cases field <;> decide +kernel
      · have silent : Tables.given (standstill (R := Float)) (.circuit key field) = none := by
          refine List.findSome?_eq_none_iff.mpr fun entry there => ?_
          exact if_neg (by simpa [named entry (List.mem_reverse.mp there)] using Ne.symm own)
        rw [silent]
        rfl
    | tire member field => cases member <;> cases field <;> decide +kernel
    | pace member field => cases member <;> cases field <;> decide +kernel
    | risk member field => cases member <;> cases field <;> decide +kernel
    | weather member => cases member <;> decide +kernel
    | overtaking member => cases member <;> decide +kernel
  rw [real] at whole
  cases whole

theorem standstill_divisors :
    ∃ (exact : Tables Rat) (doubles : Tables Float), Tables.standard.merge standstill = .ok exact ∧
      Tables.standard.merge standstill = .ok doubles ∧ (exact.pace .midfield).overtakingAbility = 0 ∧
      (Divisible exact ∧ ∀ race car plan track, Succeeds (simulate race car plan track exact)) ∧
      Divisible (doubles.map Tables.exactly) ∧
      ∀ race car plan track, Succeeds (simulate race car plan track (doubles.map Tables.exactly)) := by
  have run : ((Tables.standard (R := Rat)).merge standstill).toOption.any
      (fun tables => decide ((tables.pace .midfield).overtakingAbility = 0)) = true := by decide +kernel
  have runToo : ((Tables.standard (R := Float)).merge standstill).toOption.any (fun _ => true) = true := by decide +kernel
  obtain ⟨exact,merged,still⟩ := returns_of_any run
  obtain ⟨doubles,mergedToo,_⟩ := returns_of_any runToo
  refine ⟨exact,doubles,merged,mergedToo,of_decide_eq_true still,?_,?_⟩
  · exact simulate_divisors (.exact (.merged .standard merged))
  · exact simulate_divisors (.doubles (.merged .standard standstill_finite mergedToo))

end PitWall.Simulation

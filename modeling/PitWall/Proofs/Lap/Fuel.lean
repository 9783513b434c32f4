import PitWall.Proofs.Arithmetic.Rationals
import PitWall.Proofs.Simulation.Divisors
import PitWall.Proofs.Simulation.Timetable

namespace PitWall.Lap
open Arithmetic

def load (circuit : Circuit Rat) (behind : Nat) : Rat :=
  max 0 (circuit.startingFuelKg - behind * circuit.fuelConsumptionPerLap)

def relief (circuit : Circuit Rat) (behind : Nat) : Rat :=
  -(min circuit.startingFuelKg (behind * circuit.fuelConsumptionPerLap) * circuit.fuelEffectPerKg / 2)

structure Empties (circuit : Circuit Rat) (load relief : Nat → Rat) : Prop where
  start : load 0 = circuit.startingFuelKg
  left : ∀ behind, 0 ≤ load behind
  falls : Antitone load
  effect : ∀ behind, fuelEffect circuit (load behind) = relief behind
  first : relief 0 = 0
  gain : ∀ behind, relief behind ≤ 0
  grows : Antitone relief
  most : ∀ behind, -(circuit.startingFuelKg * circuit.fuelEffectPerKg / 2) ≤ relief behind

theorem burn_eq (circuit : Circuit Rat) (fuel : Rat) : burn circuit fuel = max 0 (fuel - circuit.fuelConsumptionPerLap) := by
  have zero : (0.0 : Rat) = 0 := by norm_num
  unfold burn
  rw [greater_eq_max]
  exact congrArg (max · _) zero

theorem fuelEffect_eq (circuit : Circuit Rat) (fuel : Rat) :
    fuelEffect circuit fuel = -((circuit.startingFuelKg - fuel) * circuit.fuelEffectPerKg / 2) := by
  change -(circuit.startingFuelKg - fuel) * circuit.fuelEffectPerKg * 0.5 = _
  ring

section
variable {circuit : Circuit Rat}

-- A lap on an empty tank leaves it empty, so that stopping at zero on every lap comes to stopping there once.
theorem burn_load (thirst : 0 ≤ circuit.fuelConsumptionPerLap) (behind : Nat) :
    burn circuit (load circuit behind) = load circuit (behind + 1) := by
  unfold load
  rw [burn_eq,← max_sub_sub_right,← max_assoc,zero_sub,max_eq_left (neg_nonpos.mpr thirst)]
  push_cast
  ring_nf

theorem burned_eq (behind : Nat) : circuit.startingFuelKg - load circuit behind
    = min circuit.startingFuelKg (behind * circuit.fuelConsumptionPerLap) := by
  unfold load
  rw [← min_sub_sub_left,sub_zero,sub_sub_cancel]

theorem load_empties (filled : 0 ≤ circuit.startingFuelKg) (thirst : 0 ≤ circuit.fuelConsumptionPerLap)
    (weighs : 0 ≤ circuit.fuelEffectPerKg) : Empties circuit (load circuit) (relief circuit) where
  start := by simp [load,filled]
  left _ := le_max_left _ _
  falls := by
    intro earlier later order
    unfold load
    gcongr
  effect behind := by
    rw [fuelEffect_eq,burned_eq]
    rfl
  first := by simp [relief,filled]
  gain behind := by
    unfold relief
    rw [neg_nonpos]
    positivity
  grows := by
    intro earlier later order
    unfold relief
    gcongr
  most behind := by
    unfold relief
    gcongr
    exact min_le_left _ _

end
end PitWall.Lap

namespace PitWall.Simulation
open Arithmetic

theorem fuelAfter_eq_load {circuit : Circuit Rat} (filled : 0 ≤ circuit.startingFuelKg)
    (thirst : 0 ≤ circuit.fuelConsumptionPerLap) (behind : Nat) : fuelAfter circuit behind = Lap.load circuit behind := by
  induction behind with
  | zero => simp [fuelAfter,Lap.load,filled]
  | succ behind ih =>
    rw [fuelAfter,ih]
    exact Lap.burn_load thirst behind

theorem lapTime_fuel (setup : Setup Rat) (plan : LapPlan) (fuel degradation traffic : Rat) (position : Int) :
    lapTime setup plan fuel degradation traffic position =
      lapTime setup plan setup.circuit.startingFuelKg degradation traffic position + Lap.fuelEffect setup.circuit fuel := by
  have full : Lap.fuelEffect setup.circuit setup.circuit.startingFuelKg = 0 := by simp [Lap.fuelEffect_eq]
  rw [lapTime_eq,lapTime_eq,full]
  dsimp only
  split
  · change _ + _ + _ + _ + _ - _ + _ = _ + _ + _ + _ + _ - _ + _ + _
    ring
  · change _ + _ + _ + _ + _ + _ = _ + _ + _ + _ + _ + _ + _
    ring

theorem lapAlone_fuel {setup : Setup Rat} {planned : LapPlan} {behind : Nat} {record : LapRecord Rat}
    (alone : lapAlone setup planned behind = .ok record) (filled : 0 ≤ setup.circuit.startingFuelKg)
    (thirst : 0 ≤ setup.circuit.fuelConsumptionPerLap) (weighs : 0 ≤ setup.circuit.fuelEffectPerKg) :
    record.lap = behind + 1 ∧ record.fuel = Lap.load setup.circuit (behind + 1) ∧ ∃ degradation,
      Lap.degradation (setup.tables.tire planned.stint.compound) planned.lap setup.weather setup.risk.tireManagement
        = .ok degradation ∧
      record.time = lapTime setup planned setup.circuit.startingFuelKg degradation record.traffic record.position
        + Lap.relief setup.circuit behind := by
  obtain ⟨degradation,slowed,_,lap,fuel,time⟩ := lapAlone_parts alone
  have empties := Lap.load_empties filled thirst weighs
  rw [← lapTime_eq,lapTime_fuel,fuelAfter_eq_load filled thirst,empties.effect] at time
  rw [fuelAfter_eq_load filled thirst] at fuel
  exact ⟨lap,fuel,degradation,slowed,time⟩

-- However a race is split into stints, the fuel recorded on a lap is what is left when it ends, and its time is that of
-- a lap on a full tank less what the fuel burned before it had weighed.
theorem simulate_fuel {race : Race} {car : Car} {plan : Strategy} {track : Track Rat} {tables : Tables Rat}
    {outcome : Outcome Rat} (raced : simulate race car plan track tables = .ok outcome)
    (filled : 0 ≤ (tables.circuit race.trackName).startingFuelKg)
    (thirst : 0 ≤ (tables.circuit race.trackName).fuelConsumptionPerLap)
    (weighs : 0 ≤ (tables.circuit race.trackName).fuelEffectPerKg) :
    let circuit := tables.circuit race.trackName
    let setup : Setup Rat := ⟨race,car,track,tables⟩
    Lap.Empties circuit (Lap.load circuit) (Lap.relief circuit) ∧
    outcome.laps.length = lapsBefore plan.stints plan.stints.length ∧
    ∀ {behind : Nat} {record : LapRecord Rat}, outcome.laps[behind]? = some record →
      record.lap = behind + 1 ∧ record.fuel = Lap.load circuit (behind + 1) ∧
      ∃ planned degradation, (racePlans plan.stints)[behind]? = some planned ∧
        Lap.degradation (tables.tire planned.stint.compound) planned.lap setup.weather setup.risk.tireManagement
          = .ok degradation ∧
        record.time = lapTime setup planned circuit.startingFuelKg degradation record.traffic record.position
          + Lap.relief circuit behind := by
  intro circuit setup
  obtain ⟨length,each⟩ := simulate_flat raced
  refine ⟨Lap.load_empties filled thirst weighs,length.trans (racePlans_length _),?_⟩
  intro behind record there
  obtain ⟨within,_⟩ := List.getElem?_eq_some_iff.mp there
  have chosen := List.getElem?_eq_getElem (length ▸ within)
  obtain ⟨found,thereToo,alone⟩ := each chosen
  cases there.symm.trans thereToo
  obtain ⟨lap,fuel,degradation,slowed,time⟩ := lapAlone_fuel alone filled thirst weighs
  exact ⟨lap,fuel,_,degradation,chosen,slowed,time⟩

-- One stop in a race that goes on after the fuel has run out.
def longRun : Strategy := ⟨"long run",[⟨1,.hard,30⟩,⟨2,.hard,40⟩],by decide⟩

theorem longRun_fuel :
    let setup : Setup Rat := ⟨sprint,fifth,clearTrack,Tables.standard⟩
    ∃ outcome, simulate sprint fifth longRun clearTrack Tables.standard = .ok outcome ∧
    (∃ record, outcome.laps[0]? = some record ∧ record.fuel = 541 / 5) ∧
    (∃ record, outcome.laps[31]? = some record ∧ record.fuel = 262 / 5) ∧
    ∃ record planned degradation, outcome.laps[69]? = some record ∧ record.fuel = 0 ∧
      (racePlans longRun.stints)[69]? = some planned ∧
      Lap.degradation (Tables.standard.tire planned.stint.compound) planned.lap setup.weather setup.risk.tireManagement
        = .ok degradation ∧
      record.time = lapTime setup planned 110 degradation record.traffic record.position - 77 / 40 := by
  intro setup
  have divides : Divisible (Tables.standard : Tables Rat) := divisible_of_sound Tables.standard_sound_exact
  obtain ⟨outcome,raced,_⟩ := divisible_returns divides sprint fifth longRun clearTrack
  obtain ⟨_,length,each⟩ := simulate_fuel raced (by decide +kernel) (by decide +kernel) (by decide +kernel)
  have laps : outcome.laps.length = 70 := length
  have driven (behind : Nat) (within : behind < 70) : ∃ record, outcome.laps[behind]? = some record :=
    ⟨_,List.getElem?_eq_getElem (laps ▸ within)⟩
  obtain ⟨first,thereFirst⟩ := driven 0 (by decide)
  obtain ⟨second,thereSecond⟩ := driven 31 (by decide)
  obtain ⟨last,thereLast⟩ := driven 69 (by decide)
  obtain ⟨_,heavy,_⟩ := each thereFirst
  obtain ⟨_,light,_⟩ := each thereSecond
  obtain ⟨_,empty,planned,degradation,chosen,slowed,time⟩ := each thereLast
  refine ⟨outcome,raced,⟨first,thereFirst,?_⟩,⟨second,thereSecond,?_⟩,last,planned,degradation,thereLast,?_,
    chosen,slowed,?_⟩
  · exact heavy.trans (by decide +kernel)
  · exact light.trans (by decide +kernel)
  · exact empty.trans (by decide +kernel)
  · have gained : Lap.relief (Tables.standard.circuit "MONZA") 69 = -(77 / 40) := by decide +kernel
    have full : (Tables.standard.circuit "MONZA" : Circuit Rat).startingFuelKg = 110 := by decide +kernel
    rw [sub_eq_add_neg,← full,← gained]
    exact time

end PitWall.Simulation

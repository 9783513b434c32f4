import PitWall.Proofs.Arithmetic.Rationals
import PitWall.Proofs.Simulation.Cliffs
import PitWall.Proofs.Simulation.Divisors

namespace PitWall.Lap
open Arithmetic

-- How a tread wears up to the cliff at this lap, and how it does from there on.
def gentle (cliff lap : Int) : Rat := 2 * lap / (3 * cliff)
def steep (cliff lap : Int) : Rat := (7 * lap - 3 * cliff) / (6 * cliff)

-- The worn share of a tread: the two lines meet at the cliff, and what is worn off cannot wear.
def worn (cliff lap : Int) : Rat := min (max (gentle cliff lap) (steep cliff lap)) 1

section
variable {cliff : Int} (counted : 1 ≤ cliff)
include counted

theorem cliff_pos : (0 : Rat) < cliff := by exact_mod_cast counted

theorem gentle_eq (lap : Int) : (lap : Rat) / (cliff * 1.5) = gentle cliff lap := by
  have positive := cliff_pos counted
  unfold gentle
  rw [div_eq_div_iff (by positivity) (by positivity)]
  ring

theorem steep_eq (lap : Int) : gentle cliff lap + ((lap - cliff : Int) : Rat) / cliff * 0.5 = steep cliff lap := by
  have positive := cliff_pos counted
  unfold gentle steep
  push_cast
  field_simp
  ring

theorem gentle_le_steep {lap : Int} (past : cliff ≤ lap) : gentle cliff lap ≤ steep cliff lap := by
  have positive := cliff_pos counted
  have behind : (0 : Rat) ≤ (lap - cliff : Int) := by exact_mod_cast Int.sub_nonneg.mpr past
  rw [← steep_eq counted lap]
  apply le_add_of_nonneg_right
  positivity

theorem steep_le_gentle {lap : Int} (before : lap ≤ cliff) : steep cliff lap ≤ gentle cliff lap := by
  have positive := cliff_pos counted
  have ahead : ((lap - cliff : Int) : Rat) ≤ 0 := by exact_mod_cast Int.sub_nonpos_of_le before
  rw [← steep_eq counted lap]
  apply add_le_of_nonpos_right
  apply mul_nonpos_of_nonpos_of_nonneg _ (by norm_num)
  exact div_nonpos_of_nonpos_of_nonneg ahead positive.le

theorem worn_monotone : Monotone (worn cliff) := by
  intro earlier later order
  have positive := cliff_pos counted
  have order : (earlier : Rat) ≤ later := by exact_mod_cast order
  unfold worn gentle steep
  gcongr

theorem worn_nonneg {lap : Int} (driven : 0 ≤ lap) : 0 ≤ worn cliff lap := by
  have positive := cliff_pos counted
  have driven : (0 : Rat) ≤ lap := by exact_mod_cast driven
  have line : 0 ≤ gentle cliff lap := by
    unfold gentle
    positivity
  exact le_min (line.trans (le_max_left _ _)) zero_le_one

-- Only the steep line is ever the first to reach the end of the tread.
theorem worn_eq_one_iff (lap : Int) : worn cliff lap = 1 ↔ 9 * cliff ≤ 7 * lap := by
  have positive := cliff_pos counted
  unfold worn gentle steep
  rw [min_eq_right_iff,le_max_iff,le_div_iff₀ (by positivity),le_div_iff₀ (by positivity)]
  constructor
  · rintro (flat | deep)
    · have flat : 3 * cliff ≤ 2 * lap := by exact_mod_cast (one_mul (3 * (cliff : Rat))).symm.le.trans flat
      omega
    · have deep : 6 * cliff ≤ 7 * lap - 3 * cliff := by exact_mod_cast (one_mul (6 * (cliff : Rat))).symm.le.trans deep
      omega
  · intro gone
    have gone : (9 * cliff : Rat) ≤ 7 * lap := by exact_mod_cast gone
    right
    linarith

end

theorem wear_eq {tire : TireData Rat} (counted : 1 ≤ tire.cliffLap) (lap : Int) :
    wear tire lap = .ok (worn tire.cliffLap lap) := by
  have positive := cliff_pos counted
  have one : (1.0 : Rat) = 1 := by norm_num
  unfold wear
  rw [ofInt_eq,ofInt_eq]
  change (quotient _ _ >>= _) = _
  rw [quotient_eq _ (show (tire.cliffLap : Rat) * 1.5 ≠ 0 by positivity),gentle_eq counted]
  unfold worn
  split
  · rename_i past
    change (ratio _ _ >>= _) = _
    rw [ratio_eq _ (by omega)]
    change Except.ok (lesser (gentle tire.cliffLap lap + ((lap - tire.cliffLap : Int) : Rat) / tire.cliffLap * 0.5) 1.0) = _
    rw [lesser_eq_min,steep_eq counted,max_eq_right (gentle_le_steep counted past.le),one]
  · rename_i before
    change Except.ok (lesser (gentle tire.cliffLap lap) 1.0) = _
    rw [lesser_eq_min,max_eq_left (steep_le_gentle counted (not_lt.mp before)),one]

end PitWall.Lap

namespace PitWall
open Arithmetic Simulation

theorem Advisory.overrun_ne_dryInTheWet (stint : Stint) (cliffLap : Int) : overrun stint cliffLap ≠ dryInTheWet stint := by
  intro same
  cases congrArg Advisory.area same

theorem Advisory.ofStint_overrun (stint : Stint) (race : Race) (tables : Tables Rat) :
    Returns (ofStint stint race tables) fun advisories =>
      overrun stint (stint.cliffLap tables) ∈ advisories ↔ 13 * stint.cliffLap tables < 10 * stint.laps := by
  have beyond : exceeds stint.laps ((stint.cliffLap tables : Rat) * 1.3) = true ↔
      13 * stint.cliffLap tables < 10 * stint.laps := by
    have tenths : (stint.cliffLap tables : Rat) * 1.3 = (13 * stint.cliffLap tables : Int) / 10 := by
      push_cast
      ring
    rw [exceeds_iff,tenths,div_lt_iff₀ (by norm_num),mul_comm (stint.laps : Rat)]
    exact_mod_cast Iff.rfl
  have apart : overrun stint (stint.cliffLap tables) ∉
      if race.weather = .wet && !stint.compound.isWetWeather then [dryInTheWet stint] else [] := by
    split
    · simpa using overrun_ne_dryInTheWet stint (stint.cliffLap tables)
    · exact List.not_mem_nil
  refine ⟨_,rfl,?_⟩
  dsimp only
  rw [← beyond,List.mem_append,or_iff_left apart,List.mem_ite_nil_right]
  exact and_iff_left (List.mem_singleton.mpr rfl)

structure WearsOut (cliff : Int) (worn : Int → Rat) : Prop where
  share : ∀ lap, 0 ≤ lap → 0 ≤ worn lap ∧ worn lap ≤ 1
  onward : Monotone worn
  gone : ∀ lap, worn lap = 1 ↔ 9 * cliff ≤ 7 * lap

theorem worn_wearsOut {cliff : Int} (counted : 1 ≤ cliff) : WearsOut cliff (Lap.worn cliff) where
  share _ driven := ⟨Lap.worn_nonneg counted driven,min_le_right _ _⟩
  onward := Lap.worn_monotone counted
  gone lap := Lap.worn_eq_one_iff counted lap

-- So a stint that goes far enough beyond its cliff to be remarked on ends on no tread at all, and one that does not
-- go beyond it keeps some, in the records of every race.
theorem simulate_wear {tire : TireData Rat} (counted : 1 ≤ tire.cliffLap) : ∃ worn, WearsOut tire.cliffLap worn ∧
    (∀ lap, Lap.wear tire lap = .ok (worn lap)) ∧
    ∀ (tables : Tables Rat) (stint : Stint), tables.tire stint.compound = tire →
      (∀ race, ∃ advisories, Advisory.ofStint stint race tables = .ok advisories ∧
        (Advisory.overrun stint tire.cliffLap ∈ advisories ↔ 13 * tire.cliffLap < 10 * stint.laps) ∧
        (Advisory.overrun stint tire.cliffLap ∈ advisories → worn stint.laps = 1)) ∧
      (stint.laps ≤ tire.cliffLap → worn stint.laps < 1) ∧
      ∀ {race car plan track outcome index}, simulate race car plan track tables = .ok outcome →
        plan.stints[index]? = some stint → ∀ behind < stint.laps.toNat, ∃ record,
          outcome.laps[lapsBefore plan.stints index + behind]? = some record ∧ record.wear = worn (behind + 1) := by
  have wears := worn_wearsOut counted
  refine ⟨_,wears,Lap.wear_eq counted,?_⟩
  rintro tables stint rfl
  refine ⟨?_,?_,?_⟩
  · intro race
    obtain ⟨advisories,advised,remarked⟩ := Advisory.ofStint_overrun stint race tables
    refine ⟨advisories,advised,remarked,?_⟩
    intro told
    have far : 13 * stint.cliffLap tables < 10 * stint.laps := remarked.mp told
    apply (wears.gone _).mpr
    change 9 * stint.cliffLap tables ≤ _
    have : 1 ≤ stint.cliffLap tables := counted
    omega
  · intro short
    apply lt_of_le_of_ne (min_le_right _ _)
    intro full
    have : 9 * (tables.tire stint.compound).cliffLap ≤ 7 * stint.laps := (wears.gone _).mp full
    omega
  · intro race car plan track outcome index raced chosen behind within
    obtain ⟨_,each⟩ := simulate_flat raced
    obtain ⟨record,there,alone⟩ := each (racePlans_at chosen within)
    obtain ⟨_,_,tread,_⟩ := lapAlone_parts alone
    refine ⟨record,there,?_⟩
    change Lap.wear (tables.tire stint.compound) (behind + 1 : Nat) = _ at tread
    rw [Lap.wear_eq counted] at tread
    exact (Except.ok.inj tread).symm

theorem fourLengths_wear : ∃ outcome worn, simulate sprint fifth fourLengths clearTrack Tables.standard = .ok outcome ∧
    WearsOut 15 worn ∧
    (∃ record, outcome.laps[49]? = some record ∧ record.wear = worn 19 ∧ record.wear ≠ 1) ∧
    (∃ advisories, Advisory.ofStint ⟨4,.soft,20⟩ sprint (Tables.standard : Tables Rat) = .ok advisories ∧
      Advisory.overrun ⟨4,.soft,20⟩ 15 ∈ advisories) ∧
    ∃ record, outcome.laps[69]? = some record ∧ record.wear = 1 := by
  have divides : Divisible (Tables.standard : Tables Rat) := divisible_of_sound Tables.standard_sound_exact
  obtain ⟨outcome,raced,_⟩ := divisible_returns divides sprint fifth fourLengths clearTrack
  have cliff : 1 ≤ (Tables.standard.tire .soft : TireData Rat).cliffLap := by decide
  obtain ⟨worn,wears,_,each⟩ := simulate_wear cliff
  obtain ⟨_,_,inside⟩ := each Tables.standard ⟨3,.soft,19⟩ rfl
  obtain ⟨told,_,beyond⟩ := each Tables.standard ⟨4,.soft,20⟩ rfl
  obtain ⟨short,thereShort,tread⟩ := @inside sprint fifth fourLengths clearTrack outcome 2 raced rfl 18 (by decide)
  obtain ⟨long,thereLong,bare⟩ := @beyond sprint fifth fourLengths clearTrack outcome 3 raced rfl 19 (by decide)
  obtain ⟨advisories,advised,remarked,gone⟩ := told sprint
  have overrun := remarked.mpr (by decide)
  refine ⟨outcome,worn,raced,wears,⟨short,thereShort,tread,?_⟩,⟨advisories,advised,overrun⟩,long,thereLong,?_⟩
  · intro full
    have few := (wears.gone 19).mp (tread.symm.trans full)
    exact absurd few (by decide)
  · exact bare.trans (gone overrun)

end PitWall

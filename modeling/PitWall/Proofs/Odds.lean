import PitWall.Proofs.Arithmetic.Rationals
import PitWall.Proofs.Simulation.Course
import PitWall.Proofs.Simulation.Divisors

namespace PitWall.Odds
open Arithmetic

def upTo (most base step : Rat) (lead : Int) : Rat := min most (base + lead * step)
def downTo (least base step : Rat) (lead : Int) : Rat := max least (base + lead * step)

theorem lesser_lead (most base step : Rat) (lead : Int) : lesser most (base + lead * step) = upTo most base step lead :=
  lesser_eq_min _ _

theorem greater_lead (least base step : Rat) (lead : Int) :
    greater least (base + lead * step) = downTo least base step lead :=
  greater_eq_max _ _

theorem behind_eq (base step : Rat) (behind : Int) : base - behind * step = base + (-behind : Int) * step := by
  push_cast
  ring

theorem upTo_monotone (most base : Rat) {step : Rat} (grows : 0 ≤ step) : Monotone (upTo most base step) := by
  intro less more order
  have order : (less : Rat) ≤ more := by exact_mod_cast order
  unfold upTo
  gcongr

theorem downTo_monotone (least base : Rat) {step : Rat} (grows : 0 ≤ step) : Monotone (downTo least base step) := by
  intro less more order
  have order : (less : Rat) ≤ more := by exact_mod_cast order
  unfold downTo
  gcongr

def pointsChance (pace : PaceData Rat) (predicted : Int) : Rat :=
  if 10 < pace.realisticCeiling then downTo 0.02 0.15 0.01 (10 - predicted)
  else if predicted ≤ 10 then upTo 0.85 0.9 0.05 (pace.realisticCeiling - predicted)
  else downTo 0.05 0.35 0.03 (10 - predicted)

def beatingChance (pace : PaceData Rat) (start predicted : Int) : Rat :=
  if pace.typicalFinish < start then upTo 0.75 0.5 0.08 (start - pace.typicalFinish)
  else if start < pace.realisticCeiling then downTo 0.1 0.3 0.1 (start - pace.realisticCeiling)
  else if predicted ≤ start then upTo 0.65 0.45 0.05 (start - predicted)
  else downTo 0.2 0.45 0.1 (start - predicted)

theorem points_eq (pace : PaceData Rat) (predicted : Int) : points pace predicted = .ok (pointsChance pace predicted) := by
  unfold points pointsChance pointsPositions
  split
  · change Except.ok (greater 0.02 (0.15 - ((predicted - 10 : Int) : Rat) * 0.01)) = _
    rw [behind_eq,neg_sub,greater_lead]
  · split
    · change Except.ok (lesser 0.85 (0.9 - ((predicted - pace.realisticCeiling : Int) : Rat) * 0.05)) = _
      rw [behind_eq,neg_sub,lesser_lead]
    · change Except.ok (greater 0.05 (0.35 - ((predicted - 10 : Int) : Rat) * 0.03)) = _
      rw [behind_eq,neg_sub,greater_lead]

theorem beatingStart_eq (pace : PaceData Rat) (start predicted : Int) :
    beatingStart pace start (start - predicted) = .ok (beatingChance pace start predicted) := by
  unfold beatingStart beatingChance
  split
  · change Except.ok (lesser 0.75 (0.5 + ((start - pace.typicalFinish : Int) : Rat) * 0.08)) = _
    rw [lesser_lead]
  · split
    · change Except.ok (greater 0.1 (0.3 - ((pace.realisticCeiling - start : Int) : Rat) * 0.1)) = _
      rw [behind_eq,neg_sub,greater_lead]
    · simp only [sub_nonneg]
      split
      · change Except.ok (lesser 0.65 (0.45 + ((start - predicted : Int) : Rat) * 0.05)) = _
        rw [lesser_lead]
      · change Except.ok (greater 0.2 (0.45 + ((start - predicted : Int) : Rat) * 0.1)) = _
        rw [greater_lead]

structure Falling (least most : Rat) (chance : Int → Rat) : Prop where
  atLeast : ∀ place, 1 ≤ place → least ≤ chance place
  atMost : ∀ place, 1 ≤ place → chance place ≤ most
  falls : Antitone chance

-- Two falling chances, one up to an edge and one beyond it, with a seam between them that neither crosses.
theorem Falling.joined {least most : Rat} {near far : Int → Rat} {edge : Int} (seam : Rat) (nearFalls : Antitone near)
    (farFalls : Antitone far) (above : seam ≤ near edge) (below : far (edge + 1) ≤ seam)
    (low : ∀ place, least ≤ far place) (high : ∀ place, near place ≤ most) :
    Falling least most fun place => if place ≤ edge then near place else far place := by
  have inside (place : Int) (held : place ≤ edge) : seam ≤ near place := above.trans (nearFalls held)
  have outside (place : Int) (beyond : ¬ place ≤ edge) : far place ≤ seam := (farFalls (by omega)).trans below
  have lowSeam : least ≤ seam := (low (edge + 1)).trans below
  have highSeam : seam ≤ most := above.trans (high edge)
  refine ⟨fun place _ => ?_,fun place _ => ?_,fun better worse order => ?_⟩
  · split
    · rename_i held
      exact lowSeam.trans (inside place held)
    · exact low place
  · split
    · exact high place
    · rename_i beyond
      exact (outside place beyond).trans highSeam
  · split
    · rename_i held
      rw [if_pos (order.trans held)]
      exact nearFalls order
    · rename_i beyond
      split
      · rename_i held
        exact (outside worse beyond).trans (inside better held)
      · exact farFalls order

theorem upTo_falls (most base : Rat) {step : Rat} (grows : 0 ≤ step) (place : Int) :
    Antitone fun predicted => upTo most base step (place - predicted) :=
  fun _ _ order => upTo_monotone most base grows (Int.sub_le_sub_left order place)

theorem downTo_falls (least base : Rat) {step : Rat} (grows : 0 ≤ step) (place : Int) :
    Antitone fun predicted => downTo least base step (place - predicted) :=
  fun _ _ order => downTo_monotone least base grows (Int.sub_le_sub_left order place)

-- A car that is foreseen ten places behind its ceiling is still in the points, and worth more than the first one out of them.
theorem points_falling {pace : PaceData Rat} (ceiling : 0 ≤ pace.realisticCeiling) :
    Falling 0.02 0.85 (pointsChance pace) := by
  by_cases outOfReach : 10 < pace.realisticCeiling
  · have chance : pointsChance pace = fun predicted => downTo 0.02 0.15 0.01 (10 - predicted) :=
      funext fun _ => if_pos outOfReach
    rw [chance]
    refine ⟨fun _ _ => le_max_left _ _,fun predicted onField => ?_,downTo_falls _ _ (by norm_num) 10⟩
    calc downTo 0.02 0.15 0.01 (10 - predicted)
      _ ≤ downTo 0.02 0.15 0.01 9 := downTo_monotone _ _ (by norm_num) (by omega)
      _ ≤ 0.85 := by norm_num [downTo]
  · have chance : pointsChance pace = fun predicted =>
        if predicted ≤ 10 then upTo 0.85 0.9 0.05 (pace.realisticCeiling - predicted)
        else downTo 0.05 0.35 0.03 (10 - predicted) := funext fun _ => if_neg outOfReach
    rw [chance]
    refine .joined 0.4 (upTo_falls _ _ (by norm_num) pace.realisticCeiling) (downTo_falls _ _ (by norm_num) 10) ?_ ?_ ?_ ?_
    · calc (0.4 : Rat)
        _ ≤ upTo 0.85 0.9 0.05 (-10) := by norm_num [upTo]
        _ ≤ upTo 0.85 0.9 0.05 (pace.realisticCeiling - 10) := upTo_monotone _ _ (by norm_num) (by omega)
    · norm_num [downTo]
    · exact fun _ => le_trans (by norm_num) (le_max_left _ _)
    · exact fun _ => min_le_left _ _

-- Where a class starts behind its usual place, or ahead of its ceiling, the finish is not asked for.
theorem beating_falling (pace : PaceData Rat) (start : Int) : Falling 0.1 0.75 (beatingChance pace start) := by
  by_cases behind : pace.typicalFinish < start
  · have chance : beatingChance pace start = fun _ => upTo 0.75 0.5 0.08 (start - pace.typicalFinish) :=
      funext fun _ => if_pos behind
    have grown : 0.5 ≤ upTo 0.75 0.5 0.08 (start - pace.typicalFinish) :=
      calc (0.5 : Rat)
        _ ≤ upTo 0.75 0.5 0.08 0 := by norm_num [upTo]
        _ ≤ upTo 0.75 0.5 0.08 (start - pace.typicalFinish) := upTo_monotone _ _ (by norm_num) (by omega)
    rw [chance]
    exact ⟨fun _ _ => le_trans (by norm_num) grown,fun _ _ => min_le_left _ _,antitone_const⟩
  · by_cases ahead : start < pace.realisticCeiling
    · have chance : beatingChance pace start = fun _ => downTo 0.1 0.3 0.1 (start - pace.realisticCeiling) :=
        funext fun _ => (if_neg behind).trans (if_pos ahead)
      have fallen : downTo 0.1 0.3 0.1 (start - pace.realisticCeiling) ≤ 0.3 :=
        calc downTo 0.1 0.3 0.1 (start - pace.realisticCeiling)
          _ ≤ downTo 0.1 0.3 0.1 0 := downTo_monotone _ _ (by norm_num) (by omega)
          _ ≤ 0.3 := by norm_num [downTo]
      rw [chance]
      exact ⟨fun _ _ => le_max_left _ _,fun _ _ => fallen.trans (by norm_num),antitone_const⟩
    · have chance : beatingChance pace start = fun predicted =>
          if predicted ≤ start then upTo 0.65 0.45 0.05 (start - predicted)
          else downTo 0.2 0.45 0.1 (start - predicted) :=
        funext fun _ => (if_neg behind).trans (if_neg ahead)
      rw [chance]
      refine .joined 0.45 (upTo_falls _ _ (by norm_num) start) (downTo_falls _ _ (by norm_num) start) ?_ ?_ ?_ ?_
      · norm_num [upTo]
      · norm_num [downTo]
      · exact fun _ => le_trans (by norm_num) (le_max_left _ _)
      · exact fun _ => (min_le_left _ _).trans (by norm_num)

end PitWall.Odds

namespace PitWall.Simulation
open Arithmetic

-- A worse finish never raises the odds, over every change of formula; and a race is given the odds of the finish that is
-- foreseen, which is a place on the field.
theorem simulate_odds {pace : PaceData Rat} (ceiling : 0 ≤ pace.realisticCeiling) :
    ∃ (inPoints : Int → Rat) (beating : Int → Int → Rat),
      Odds.Falling 0.02 0.85 inPoints ∧ (∀ start, Odds.Falling 0.1 0.75 (beating start)) ∧
      (∀ predicted, Odds.points pace predicted = .ok (inPoints predicted)) ∧
      (∀ start predicted, Odds.beatingStart pace start (start - predicted) = .ok (beating start predicted)) ∧
      ∀ {race : Race} {car : Car} {plan : Strategy} {track : Track Rat} {tables : Tables Rat} {outcome : Outcome Rat},
        tables.pace car.pace = pace → simulate race car plan track tables = .ok outcome →
        1 ≤ outcome.predictedFinish ∧ outcome.pointsChance = inPoints outcome.predictedFinish ∧
          outcome.beatingStartChance = beating car.start outcome.predictedFinish := by
  refine ⟨Odds.pointsChance pace,Odds.beatingChance pace,Odds.points_falling ceiling,
    Odds.beating_falling pace,Odds.points_eq pace,Odds.beatingStart_eq pace,?_⟩
  rintro race car plan track tables outcome rfl raced
  obtain ⟨last,_,forecast⟩ := simulate_forecast ⟨race,car,track,tables⟩ raced
  obtain ⟨onField,ordered,_⟩ := Position.envelope_bounds (tables.pace car.pace) (one_le_fieldSize race)
  have within := predict_bounds ordered last
  have inPoints := forecast.points
  have beating := forecast.beating
  rw [forecast.gained,Odds.beatingStart_eq] at beating
  rw [Odds.points_eq] at inPoints
  refine ⟨?_,(Except.ok.inj inPoints).symm,(Except.ok.inj beating).symm⟩
  rw [forecast.predicted]
  exact onField.trans within.1

theorem midfield_odds :
    let pace : PaceData Rat := Tables.standard.pace .midfield
    (∃ tenth eleventh, Odds.points pace 10 = .ok tenth ∧ Odds.points pace 11 = .ok eleventh ∧
      tenth = 0.65 ∧ eleventh = 0.32 ∧ eleventh ≤ tenth) ∧
    (∃ kept lost, Odds.beatingStart pace 8 (8 - 8) = .ok kept ∧ Odds.beatingStart pace 8 (8 - 9) = .ok lost ∧
      kept = 0.45 ∧ lost = 0.35 ∧ lost ≤ kept) ∧
    ∃ outcome, simulate sprint fifth oneStop clearTrack Tables.standard = .ok outcome ∧
      (0.02 ≤ outcome.pointsChance ∧ outcome.pointsChance ≤ 0.85) ∧
      0.1 ≤ outcome.beatingStartChance ∧ outcome.beatingStartChance ≤ 0.75 := by
  intro pace
  have divides : Divisible (Tables.standard : Tables Rat) := divisible_of_sound Tables.standard_sound_exact
  obtain ⟨outcome,raced,_⟩ := divisible_returns divides sprint fifth oneStop clearTrack
  have ceiling : 0 ≤ pace.realisticCeiling := by decide
  obtain ⟨inPoints,beating,pointsFall,beatingFalls,points,beats,foretold⟩ := simulate_odds ceiling
  obtain ⟨onField,chance,beaten⟩ := foretold rfl raced
  have tenth : Odds.points pace 10 = .ok 0.65 := by decide +kernel
  have eleventh : Odds.points pace 11 = .ok 0.32 := by decide +kernel
  have kept : Odds.beatingStart pace 8 (8 - 8) = .ok 0.45 := by decide +kernel
  have lost : Odds.beatingStart pace 8 (8 - 9) = .ok 0.35 := by decide +kernel
  refine ⟨⟨_,_,points 10,points 11,?_,?_,pointsFall.falls (by decide)⟩,
    ⟨_,_,beats 8 8,beats 8 9,?_,?_,(beatingFalls 8).falls (by decide)⟩,outcome,raced,?_,?_⟩
  · exact Except.ok.inj ((points 10).symm.trans tenth)
  · exact Except.ok.inj ((points 11).symm.trans eleventh)
  · exact Except.ok.inj ((beats 8 8).symm.trans kept)
  · exact Except.ok.inj ((beats 8 9).symm.trans lost)
  · rw [chance]
    exact ⟨pointsFall.atLeast _ onField,pointsFall.atMost _ onField⟩
  · rw [beaten]
    exact ⟨(beatingFalls 5).atLeast _ onField,(beatingFalls 5).atMost _ onField⟩

end PitWall.Simulation

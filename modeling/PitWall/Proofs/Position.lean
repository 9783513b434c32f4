import PitWall.Position
import PitWall.Proofs.Checked

namespace PitWall.Position
open Arithmetic
variable {R : Type}

theorem startDraw_bounds (position : Int) : 0 ≤ startDraw position ∧ startDraw position < 100 := by
  unfold startDraw
  omega

theorem potentialGain_bounds (position : Int) : 1 ≤ potentialGain position ∧ potentialGain position ≤ 3 := by
  unfold potentialGain
  split
  · omega
  · split <;> omega

theorem envelope_bounds (pace : PaceData R) {fieldSize : Int} (populated : 1 ≤ fieldSize) :
    1 ≤ (envelope pace fieldSize).ceiling ∧
      (envelope pace fieldSize).ceiling ≤ (envelope pace fieldSize).floor ∧
      (envelope pace fieldSize).floor ≤ fieldSize := by
  unfold envelope
  dsimp only
  omega

variable [Arithmetic R] {pace : PaceData R} {risk : RiskData R} {rate : R}

-- All that is asked of the numbers: a draw below its threshold, as a share of it and taken of some
-- places, is not floored below none. What any comparison says is left open.
def FloorsUp (R : Type) [Arithmetic R] : Prop :=
  ∀ {draw places : Int} {seed threshold share whole : R} {floored : Int},
    0 ≤ draw → draw < 100 → 1 ≤ places → ratio draw 100 = .ok seed → below seed threshold = true →
    quotient seed threshold = .ok share → ofInt places = .ok whole → floor (share * whole) = .ok floored →
    0 ≤ floored

theorem FloorsUp.start (floors : FloorsUp R) {position floored : Int} {seed chance share whole : R}
    (drawn : startSeed position = .ok seed) (beaten : below seed chance = true) (divided : quotient seed chance = .ok share)
    (converted : ofInt (potentialGain position) = .ok whole) (rounded : floor (share * whole) = .ok floored) :
    0 ≤ floored := by
  obtain ⟨low,high⟩ := startDraw_bounds position
  exact floors low high (potentialGain_bounds position).1 drawn beaten divided converted rounded

def Envelope.distance (bounds : Envelope) (position : Int) : Int :=
  max 0 (max (bounds.ceiling - position) (position - bounds.floor))

def startGain (pace : PaceData R) (risk : RiskData R) : R := 0.3 * pace.overtakingAbility * risk.overtakingAggressiveness

def LosesStart (position : Int) (pace : PaceData R) (risk : RiskData R) (fieldSize : Int) : Prop :=
  ∃ seed loss, startSeed position = .ok seed ∧ quotient 0.15 pace.defenseAbility = .ok loss ∧
    ¬ (below seed (startGain pace risk) = true ∧ (envelope pace fieldSize).ceiling < position) ∧
    below (1.0 - loss) seed = true

-- All that a first lap can come to, with what decided it; nothing below opens `firstLap` again.
inductive Launched (position : Int) (pace : PaceData R) (risk : RiskData R) (fieldSize : Int) : Change → Prop where
  | gain {seed share whole : R} {floored next : Int} (drawn : startSeed position = .ok seed)
      (beaten : below seed (startGain pace risk) = true) (behind : (envelope pace fieldSize).ceiling < position)
      (divided : quotient seed (startGain pace risk) = .ok share) (converted : ofInt (potentialGain position) = .ok whole)
      (rounded : floor (share * whole) = .ok floored)
      (placed : next = max (envelope pace fieldSize).ceiling (position - min (potentialGain position) (floored + 1))) :
      Launched position pace risk fieldSize ⟨next,next < position,false⟩
  | lose {next : Int} (lost : LosesStart position pace risk fieldSize) (placed : next = min fieldSize (position + 1)) :
      Launched position pace risk fieldSize ⟨next,false,position < next⟩
  | stay (kept : ¬ LosesStart position pace risk fieldSize) : Launched position pace risk fieldSize (.stay position)

theorem firstLap_launched {position fieldSize : Int} {change : Change}
    (moved : firstLap position pace risk fieldSize = .ok change) : Launched position pace risk fieldSize change := by
  unfold firstLap at moved
  obtain ⟨seed,drawn,moved⟩ := ok_of_bind moved
  obtain ⟨loss,guarded,moved⟩ := ok_of_bind moved
  split at moved
  · rename_i gains
    obtain ⟨beaten,behind⟩ := Bool.and_eq_true_iff.mp gains
    obtain ⟨share,divided,moved⟩ := ok_of_bind moved
    obtain ⟨whole,converted,moved⟩ := ok_of_bind moved
    obtain ⟨floored,rounded,moved⟩ := ok_of_bind moved
    cases moved
    exact .gain drawn beaten (of_decide_eq_true behind) divided converted rounded rfl
  · rename_i gainless
    simp only [Bool.and_eq_true,decide_eq_true_eq] at gainless
    split at moved
    · rename_i beyond
      cases moved
      exact .lose ⟨seed,loss,drawn,guarded,gainless,beyond⟩ rfl
    · rename_i guard
      cases moved
      refine .stay ?_
      rintro ⟨other,another,drawnToo,guardedToo,_,beyond⟩
      cases drawn.symm.trans drawnToo
      cases guarded.symm.trans guardedToo
      exact guard beyond

inductive Opening (ceiling fieldSize position : Int) : Int → Prop where
  | stay : Opening ceiling fieldSize position position
  | lose : Opening ceiling fieldSize position (min fieldSize (position + 1))
  | gain (behind : ceiling < position) (moved : 1 ≤ places) :
      Opening ceiling fieldSize position (max ceiling (position - min (potentialGain position) places))

theorem Launched.opening {position fieldSize : Int} {change : Change} (floors : FloorsUp R)
    (launched : Launched position pace risk fieldSize change) :
    Opening (envelope pace fieldSize).ceiling fieldSize position change.position := by
  cases launched with
  | gain drawn beaten behind divided converted rounded placed =>
    have up := floors.start drawn beaten divided converted rounded
    subst placed
    exact .gain behind (by omega)
  | lose _ placed => subst placed; exact .lose
  | stay => exact .stay

theorem firstLap_opening {position fieldSize : Int} {change : Change} (floors : FloorsUp R)
    (moved : firstLap position pace risk fieldSize = .ok change) :
    Opening (envelope pace fieldSize).ceiling fieldSize position change.position :=
  (firstLap_launched moved).opening floors

inductive Shifted (bounds : Envelope) (fieldSize position : Int) : Change → Prop where
  | stay : Shifted bounds fieldSize position (.stay position)
  | lose (room : position < fieldSize) (above : position < bounds.floor) :
      Shifted bounds fieldSize position ⟨position + 1,false,true⟩
  | gain (behind : bounds.ceiling < position) : Shifted bounds fieldSize position ⟨position - 1,true,false⟩

theorem laterLap_shifted {position lap fieldSize : Int} {change : Change}
    (moved : laterLap position lap rate pace risk fieldSize = .ok change) :
    Shifted (envelope pace fieldSize) fieldSize position change := by
  unfold laterLap at moved
  obtain ⟨seed,_,moved⟩ := ok_of_bind moved
  obtain ⟨loss,_,moved⟩ := ok_of_bind moved
  split at moved
  · rename_i gains
    have behind : (envelope pace fieldSize).ceiling < position :=
      of_decide_eq_true (Bool.and_eq_true_iff.mp gains).2
    have kept : max (envelope pace fieldSize).ceiling (position - 1) = position - 1 := by omega
    have ahead : decide (position - 1 < position) = true := decide_eq_true (by omega)
    dsimp only at moved
    rw [kept,ahead] at moved
    cases moved
    exact .gain behind
  · split at moved
    · rename_i loses
      simp only [Bool.and_eq_true,decide_eq_true_eq] at loses
      cases moved
      exact .lose loses.1.2 loses.2
    · cases moved; exact .stay

inductive Onward (bounds : Envelope) (fieldSize position : Int) : Int → Prop where
  | stay : Onward bounds fieldSize position position
  | lose (room : position < fieldSize) (above : position < bounds.floor) :
      Onward bounds fieldSize position (position + 1)
  | gain (behind : bounds.ceiling < position) : Onward bounds fieldSize position (position - 1)

theorem laterLap_onward {position lap fieldSize : Int} {change : Change}
    (moved : laterLap position lap rate pace risk fieldSize = .ok change) :
    Onward (envelope pace fieldSize) fieldSize position change.position := by
  cases laterLap_shifted moved with
  | stay => exact .stay
  | lose room above => exact .lose room above
  | gain behind => exact .gain behind

structure OpeningMove (fieldSize start next : Int) : Prop where
  onField : 1 ≤ next ∧ next ≤ fieldSize
  loss : next ≤ start + 1
  gainFromBack : 10 < start → start - 3 ≤ next
  gainFromMiddle : 6 ≤ start → start ≤ 10 → start - 2 ≤ next
  gainFromFront : start ≤ 5 → start - 1 ≤ next

structure LaterMove (bounds : Envelope) (fieldSize before after : Int) : Prop where
  onField : 1 ≤ after ∧ after ≤ fieldSize
  loss : after ≤ before + 1
  gain : before - 1 ≤ after
  nearer : bounds.distance after ≤ bounds.distance before

-- The corridor of a race: a car outside its envelope comes back at its own pace.
structure Corridor (bounds : Envelope) (start position : Int) : Prop where
  best : min start bounds.ceiling ≤ position
  worst : position ≤ max (start + 1) bounds.floor

theorem Opening.move {ceiling fieldSize start next : Int} (opening : Opening ceiling fieldSize start next)
    (ceilingOnField : 1 ≤ ceiling ∧ ceiling ≤ fieldSize) (onField : 1 ≤ start ∧ start ≤ fieldSize) :
    OpeningMove fieldSize start next := by
  cases opening with
  | stay => constructor <;> omega
  | lose => constructor <;> omega
  | gain behind moved => unfold potentialGain; constructor <;> grind

theorem Opening.corridor {bounds : Envelope} {fieldSize start next : Int}
    (opening : Opening bounds.ceiling fieldSize start next) (onField : start ≤ fieldSize) :
    Corridor bounds start next := by
  cases opening with
  | stay => constructor <;> omega
  | lose => constructor <;> omega
  | gain behind moved =>
    have := potentialGain_bounds start
    constructor <;> omega

theorem Onward.move {bounds : Envelope} {fieldSize before after : Int} (onward : Onward bounds fieldSize before after)
    (ceilingOnField : 1 ≤ bounds.ceiling) (onField : 1 ≤ before ∧ before ≤ fieldSize) : LaterMove bounds fieldSize before after := by
  cases onward with
  | stay => exact ⟨onField,by omega,by omega,by omega⟩
  | lose room above => exact ⟨by omega,by omega,by omega,by unfold Envelope.distance; omega⟩
  | gain behind => exact ⟨by omega,by omega,by omega,by unfold Envelope.distance; omega⟩

theorem Onward.corridor {bounds : Envelope} {fieldSize start before after : Int}
    (onward : Onward bounds fieldSize before after) (within : Corridor bounds start before) :
    Corridor bounds start after := by
  obtain ⟨best,worst⟩ := within
  cases onward with
  | stay => exact ⟨best,worst⟩
  | lose room above => constructor <;> omega
  | gain behind => constructor <;> omega

structure Change.Flagged (before : Int) (change : Change) : Prop where
  overtook : change.overtook = decide (change.position < before)
  wasOvertaken : change.wasOvertaken = decide (before < change.position)

-- A car that starts beyond its field would be moved forward by a start that costs a place.
theorem Launched.flagged {position fieldSize : Int} {change : Change} (floors : FloorsUp R)
    (onField : position ≤ fieldSize) (launched : Launched position pace risk fieldSize change) : change.Flagged position := by
  have potential := potentialGain_bounds position
  cases launched with
  | gain drawn beaten behind divided converted rounded placed =>
    have up := floors.start drawn beaten divided converted rounded
    exact ⟨rfl,(decide_eq_false (by dsimp only; omega)).symm⟩
  | lose _ placed => exact ⟨(decide_eq_false (by dsimp only; omega)).symm,rfl⟩
  | stay => exact ⟨(decide_eq_false (Int.lt_irrefl _)).symm,(decide_eq_false (Int.lt_irrefl _)).symm⟩

theorem Shifted.flagged {bounds : Envelope} {position fieldSize : Int} {change : Change}
    (shifted : Shifted bounds fieldSize position change) : change.Flagged position := by
  cases shifted with
  | stay => exact ⟨(decide_eq_false (Int.lt_irrefl _)).symm,(decide_eq_false (Int.lt_irrefl _)).symm⟩
  | lose => exact ⟨(decide_eq_false (by dsimp only; omega)).symm,(decide_eq_true (by dsimp only; omega)).symm⟩
  | gain => exact ⟨(decide_eq_true (by dsimp only; omega)).symm,(decide_eq_false (by dsimp only; omega)).symm⟩

theorem change_flagged {position lap fieldSize : Int} {next : Change} (floors : FloorsUp R)
    (onField : lap = 1 → position ≤ fieldSize) (moved : change position lap rate pace risk fieldSize = .ok next) :
    next.Flagged position := by
  unfold change at moved
  split at moved
  · rename_i first
    exact (firstLap_launched moved).flagged floors (onField first)
  · exact (laterLap_shifted moved).flagged

end PitWall.Position

import PitWall.Proofs.Arithmetic.Finite
import PitWall.Proofs.Simulation.Steady
import PitWall.Proofs.Tables.Acceptance

namespace PitWall.Position
open Arithmetic

-- A start from the floor of the envelope that loses a place to a field with room behind it. Only the ends of the
-- field hold such a car back: nothing asks for the floor.
structure FallsThrough {R : Type} [Arithmetic R] (position lap : Int) (pace : PaceData R) (risk : RiskData R)
    (fieldSize : Int) : Prop where
  first : lap = 1
  atFloor : position = (envelope pace fieldSize).floor
  room : position < fieldSize
  lost : LosesStart position pace risk fieldSize

structure Bounded {R : Type} [Arithmetic R] (position lap : Int) (pace : PaceData R) (risk : RiskData R)
    (fieldSize next : Int) : Prop where
  within : ¬ FallsThrough position lap pace risk fieldSize →
    (envelope pace fieldSize).ceiling ≤ next ∧ next ≤ (envelope pace fieldSize).floor
  below : FallsThrough position lap pace risk fieldSize → next = (envelope pace fieldSize).floor + 1

section
variable {R : Type} [Arithmetic R] {pace : PaceData R} {risk : RiskData R} {position fieldSize : Int}

theorem not_losesStart {seed : R} (drawn : startSeed position = .ok seed)
    (beaten : below seed (startGain pace risk) = true) (behind : (envelope pace fieldSize).ceiling < position) :
    ¬ LosesStart position pace risk fieldSize := by
  rintro ⟨other,_,drawnToo,_,gainless,_⟩
  cases drawn.symm.trans drawnToo
  exact gainless ⟨beaten,behind⟩

variable (inside : (envelope pace fieldSize).ceiling ≤ position ∧ position ≤ (envelope pace fieldSize).floor)
include inside

theorem Launched.bounded {change : Change} (floors : FloorsUp R) (onField : (envelope pace fieldSize).floor ≤ fieldSize)
    (launched : Launched position pace risk fieldSize change) :
    Bounded position 1 pace risk fieldSize change.position := by
  have potential := potentialGain_bounds position
  cases launched with
  | gain drawn beaten behind divided converted rounded placed =>
    have up := floors.start drawn beaten divided converted rounded
    refine ⟨fun _ => ?_,fun falls => absurd falls.lost (not_losesStart drawn beaten behind)⟩
    dsimp only
    omega
  | lose lost placed =>
    dsimp only
    refine ⟨fun kept => ?_,fun falls => ?_⟩
    · have held : ¬ (position = (envelope pace fieldSize).floor ∧ position < fieldSize) :=
        fun ends => kept ⟨rfl,ends.1,ends.2,lost⟩
      omega
    · have atFloor := falls.atFloor
      have room := falls.room
      omega
  | stay kept => exact ⟨fun _ => inside,fun falls => absurd falls.lost kept⟩

theorem Shifted.bounded {lap : Int} {change : Change} (later : lap ≠ 1)
    (shifted : Shifted (envelope pace fieldSize) fieldSize position change) :
    Bounded position lap pace risk fieldSize change.position := by
  refine ⟨fun _ => ?_,fun falls => absurd falls.first later⟩
  cases shifted with
  | stay => exact inside
  | lose room above => dsimp only; omega
  | gain behind => dsimp only; omega

theorem change_bounded {lap : Int} {rate : R} {next : Change} (floors : FloorsUp R)
    (onField : (envelope pace fieldSize).floor ≤ fieldSize) (moved : change position lap rate pace risk fieldSize = .ok next) :
    Bounded position lap pace risk fieldSize next.position := by
  unfold change at moved
  split at moved
  · rename_i first
    subst first
    exact (firstLap_launched moved).bounded inside floors onField
  · rename_i later
    exact (laterLap_shifted moved).bounded inside later

end

theorem potentialGain_upTo (position : Int) :
    Returns (ofInt (potentialGain position) : Except Fault Float) fun whole => UpTo 0 whole.toModel.unpack := by
  have run : ∀ n < 3, (ofInt (n + 1 : Nat)).toOption.any (fun x : Float => UpTo 0 x.toModel.unpack) = true := by
    decide +kernel
  obtain ⟨low,high⟩ := potentialGain_bounds position
  obtain ⟨n,few,shape⟩ : ∃ n < 3, potentialGain position = (n + 1 : Nat) :=
    ⟨(potentialGain position).toNat - 1,by omega,by omega⟩
  rw [shape]
  obtain ⟨whole,converted,upTo⟩ := returns_of_any (run n few)
  exact ⟨whole,converted,of_decide_eq_true upTo⟩

-- Whatever the chance is, infinite or no number, the places that a start is worth can be counted.
theorem gainedPlaces_succeeds (position : Int) (chance : Float) : Succeeds (gainedPlaces position chance) := by
  obtain ⟨low,high⟩ := startDraw_bounds position
  unfold gainedPlaces
  refine Returns.bind (startSeed_succeeds position) fun seed drawn _ => ?_
  split
  · rename_i beaten
    obtain ⟨whole,converted,upTo⟩ := potentialGain_upTo position
    have plain : Plain seed := plain_ratio low (by decide : (0 : Int) < 100) drawn
    obtain ⟨share,divided,floored⟩ := share_succeeds plain beaten upTo
    rw [divided,converted]
    exact floored
  · exact succeeds_ok _

theorem change_succeeds {pace : PaceData Float} (defense : atMost pace.defenseAbility 0.0 = false) (position lap : Int)
    (rate : Float) (risk : RiskData Float) (fieldSize : Int) :
    Succeeds (change position lap rate pace risk fieldSize) := by
  have nonzero := nonzero_of_positive defense
  unfold change
  split
  · exact firstLap_succeeds fieldSize nonzero (gainedPlaces_succeeds position _)
  · exact laterLap_succeeds risk lap fieldSize rate nonzero

-- Whatever has been admitted to the tables, a lap takes a car to a place within its envelope, but for a start from
-- its floor that loses a place.
theorem change_envelope {base tables : Tables Float} {description : List (Tables.Scalar Float × Tables.Value Float)}
    (merged : base.merge description = .ok tables) (member : PaceClass) (profile : RiskProfile) (rate : Float) (lap : Int)
    {fieldSize position : Int} (rivals : 2 ≤ fieldSize)
    (inside : (envelope (tables.pace member) fieldSize).ceiling ≤ position ∧
      position ≤ (envelope (tables.pace member) fieldSize).floor) :
    ∃ next, change position lap rate (tables.pace member) (tables.risk profile) fieldSize = .ok next ∧
      Bounded position lap (tables.pace member) (tables.risk profile) fieldSize next.position := by
  obtain ⟨next,moved,_⟩ := change_succeeds ((Tables.merge_sound merged).defense member) position lap rate
    (tables.risk profile) fieldSize
  obtain ⟨_,_,onField⟩ := envelope_bounds (tables.pace member) (by omega : 1 ≤ fieldSize)
  exact ⟨next,moved,change_bounded inside floorsUp_double onField moved⟩

theorem frontRunner_falls : ∃ tables : Tables Float, Tables.standard.merge [] = .ok tables ∧
    envelope (tables.pace .frontRunner) 20 = ⟨1,6⟩ ∧
    change 6 1 0.04 (tables.pace .frontRunner) (tables.risk .balanced) 20 = .ok ⟨7,false,true⟩ := by
  have run : ((Tables.standard (R := Float)).merge []).toOption.any (fun tables =>
      envelope (tables.pace .frontRunner) 20 = ⟨1,6⟩ ∧
        (change 6 1 0.04 (tables.pace .frontRunner) (tables.risk .balanced) 20).toOption = some ⟨7,false,true⟩) = true := by
    decide +kernel
  obtain ⟨tables,merged,known⟩ := returns_of_any run
  obtain ⟨bounds,moved⟩ := of_decide_eq_true known
  exact ⟨tables,merged,bounds,ok_of_toOption moved⟩

theorem frontRunner_bounded : ∃ tables : Tables Float, Tables.standard.merge [] = .ok tables ∧
    ∃ next, change 6 2 0.04 (tables.pace .frontRunner) (tables.risk .balanced) 20 = .ok next ∧
      1 ≤ next.position ∧ next.position ≤ 6 := by
  have run : ((Tables.standard (R := Float)).merge []).toOption.any (fun tables =>
      envelope (tables.pace .frontRunner) 20 = ⟨1,6⟩) = true := by
    decide +kernel
  obtain ⟨tables,merged,known⟩ := returns_of_any run
  have bounds := of_decide_eq_true known
  obtain ⟨next,moved,bounded⟩ := change_envelope merged .frontRunner .balanced 0.04 2 (by decide : (2 : Int) ≤ 20)
    (by rw [bounds]; decide : _ ≤ (6 : Int) ∧ (6 : Int) ≤ _)
  have within := bounded.within fun falls => absurd falls.first (by decide)
  rw [bounds] at within
  exact ⟨tables,merged,next,moved,within⟩

end PitWall.Position

import PitWall.Text.Blank

namespace PitWall.Text

-- A property of the ASCII characters is settled by looking at each of them.
theorem ascii_all {P : Char → Prop} (each : ∀ n < 128, P (Char.ofNat n)) (c : Char)
    (ascii : c.toNat < 128) : P c := by
  have one := each c.toNat ascii
  rwa [Char.ofNat_toNat] at one

-- Core's letter case leaves all other characters alone.
theorem toLower_beyond {c : Char} (beyond : 128 ≤ c.toNat) : c.toLower = c := by
  unfold Char.toLower
  split
  · rename_i capital
    have high : c.toNat ≤ 90 := UInt32.le_iff_toNat_le.mp capital.2
    omega
  · rfl

end PitWall.Text

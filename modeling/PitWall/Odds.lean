import PitWall.Tables.Basic

namespace PitWall.Odds
open Arithmetic
variable {R : Type} [Arithmetic R]

def pointsPositions : Int := 10

def points (pace : PaceData R) (predicted : Int) : Except Fault R := do
  if pointsPositions < pace.realisticCeiling then
    return greater 0.02 (0.15 - (← ofInt (predicted - pointsPositions)) * 0.01)
  if predicted ≤ pointsPositions then
    return lesser 0.85 (0.9 - (← ofInt (predicted - pace.realisticCeiling)) * 0.05)
  return greater 0.05 (0.35 - (← ofInt (predicted - pointsPositions)) * 0.03)

def beatingStart (pace : PaceData R) (start gained : Int) : Except Fault R := do
  if pace.typicalFinish < start then
    return lesser 0.75 (0.5 + (← ofInt (start - pace.typicalFinish)) * 0.08)
  if start < pace.realisticCeiling then
    return greater 0.1 (0.3 - (← ofInt (pace.realisticCeiling - start)) * 0.1)
  if 0 ≤ gained then
    return lesser 0.65 (0.45 + (← ofInt gained) * 0.05)
  return greater 0.2 (0.45 + (← ofInt gained) * 0.1)

end PitWall.Odds

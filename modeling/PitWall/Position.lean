import PitWall.Tables.Basic

namespace PitWall.Position
open Arithmetic
variable {R : Type} [Arithmetic R]

structure Change where
  position : Int
  overtook : Bool
  wasOvertaken : Bool
deriving DecidableEq

def Change.stay (position : Int) : Change := ⟨position,false,false⟩

-- Draws in hundredths, from the lap and the position alone.
def startDraw (position : Int) : Int := (position * 47 + 13) % 100
def lapDraw (lap position : Int) : Int := (lap * 17 + position * 31) % 100

def startSeed (position : Int) : Except Fault R := ratio (startDraw position) 100
def lapSeed (lap position : Int) : Except Fault R := ratio (lapDraw lap position) 100

structure Envelope where
  ceiling : Int
  floor : Int
deriving DecidableEq

def envelope (pace : PaceData R) (fieldSize : Int) : Envelope :=
  let ceiling := max 1 (min pace.realisticCeiling fieldSize)
  ⟨ceiling,max ceiling (min pace.realisticFloor fieldSize)⟩

-- The further back, the more there is to gain at the start.
def potentialGain (position : Int) : Int := if 10 < position then 3 else if 5 < position then 2 else 1

def firstLap (position : Int) (pace : PaceData R) (risk : RiskData R) (fieldSize : Int) :
    Except Fault Change := do
  let ceiling := (envelope pace fieldSize).ceiling
  let seed : R ← startSeed position
  let potential := potentialGain position
  let gain := 0.3 * pace.overtakingAbility * risk.overtakingAggressiveness
  let loss ← quotient 0.15 pace.defenseAbility
  if below seed gain && ceiling < position then
    let places := (← floor ((← quotient seed gain) * (← ofInt potential))) + 1
    let next := max ceiling (position - min potential places)
    return ⟨next,next < position,false⟩
  if below (1.0 - loss) seed then
    let next := min fieldSize (position + 1)
    return ⟨next,false,position < next⟩
  return .stay position

-- Near its ceiling a car races faster machinery; behind its usual place it meets slower.
def gainChance (position : Int) (rate : R) (pace : PaceData R) (risk : RiskData R) (fieldSize : Int) : R :=
  let ceiling := (envelope pace fieldSize).ceiling
  let chance := rate * pace.overtakingAbility * risk.overtakingAggressiveness
  let chance := if position ≤ ceiling + 2 then chance * 0.1
    else if position ≤ ceiling + 4 then chance * 0.4 else chance
  if pace.typicalFinish < position then chance * 1.3 else chance

def lossChance (position : Int) (rate : R) (pace : PaceData R) (fieldSize : Int) : Except Fault R := do
  let chance ← quotient (rate * 0.5) pace.defenseAbility
  let chance := if position < pace.typicalFinish - 2 then chance * 1.5 else chance
  return if (envelope pace fieldSize).floor ≤ position then chance * 0.3 else chance

def laterLap (position lap : Int) (rate : R) (pace : PaceData R) (risk : RiskData R) (fieldSize : Int) :
    Except Fault Change := do
  let bounds := envelope pace fieldSize
  let seed ← lapSeed lap position
  let loss ← lossChance position rate pace fieldSize
  if below seed (gainChance position rate pace risk fieldSize) && 1 < position && bounds.ceiling < position then
    let next := max bounds.ceiling (position - 1)
    return ⟨next,next < position,false⟩
  if below (1.0 - loss) seed && position < fieldSize && position < bounds.floor then
    return ⟨position + 1,false,true⟩
  return .stay position

def change (position lap : Int) (rate : R) (pace : PaceData R) (risk : RiskData R) (fieldSize : Int) :
    Except Fault Change :=
  if lap = 1 then firstLap position pace risk fieldSize else laterLap position lap rate pace risk fieldSize

end PitWall.Position

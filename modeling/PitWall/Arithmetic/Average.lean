import PitWall.Arithmetic

namespace PitWall.Arithmetic
variable {R : Type} [Arithmetic R]

-- Sums are taken in eight interleaved lanes, and a long list in halves: the order of the additions
-- decides the last digit.
def addLanes : List R → List R → List R × List R
  | lanes, a :: b :: c :: d :: e :: f :: g :: h :: rest =>
    addLanes (List.zipWith (· + ·) lanes [a,b,c,d,e,f,g,h]) rest
  | lanes, rest => (lanes,rest)

def laneSum : List R → R
  | a :: b :: c :: d :: e :: f :: g :: h :: rest =>
    match addLanes [a,b,c,d,e,f,g,h] rest with
    | ([r0,r1,r2,r3,r4,r5,r6,r7],rest) =>
      rest.foldl (· + ·) (((r0 + r1) + (r2 + r3)) + ((r4 + r5) + (r6 + r7)))
    | (lanes,rest) => (lanes ++ rest).foldl (· + ·) 0.0
  | few => few.foldl (· + ·) 0.0

def laneBlock : Nat := 128

def sumWithin : Nat → List R → R
  | 0, values => laneSum values
  | depth + 1, values =>
    if values.length ≤ laneBlock then laneSum values else
    let half := values.length / 2 / 8 * 8
    sumWithin depth (values.take half) + sumWithin depth (values.drop half)

def sum (values : List R) : R := sumWithin values.length values

def mean (values : List R) : Except Fault R := do quotient (sum values) (← ofInt values.length)

-- A value that is no number wins over all others.
def pick (better : R → R → Bool) (kept value : R) : R :=
  if !isNumber kept then kept else if !isNumber value || better value kept then value else kept

def least (values : List R) : Option R :=
  match values with
  | [] => none
  | value :: rest => some (rest.foldl (pick below) value)

def greatest (values : List R) : Option R :=
  match values with
  | [] => none
  | value :: rest => some (rest.foldl (pick fun x y => below y x) value)

end PitWall.Arithmetic

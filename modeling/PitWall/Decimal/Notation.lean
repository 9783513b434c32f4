import PitWall.Decimal.Shortest

namespace PitWall.Decimal

-- A decimal as it is written: whole digits, the digits behind the point, and a power of ten if it
-- is set off from them.
structure Written where
  whole : List Char
  fraction : List Char
  exponent : Option Int
deriving DecidableEq

def digitsOf (n : Nat) : List Char := Nat.toDigits 10 n
def zeros (n : Nat) : List Char := List.replicate n '0'
def intText (n : Int) : List Char := if n < 0 then '-' :: digitsOf n.natAbs else digitsOf n.natAbs

-- From 10^-4 up to 10^16 the point stands where it belongs, and a whole number keeps one zero
-- behind it; beyond, one digit stands before the point and the rest is an exponent.
def Digits.written (d : Digits) : Written :=
  let text := digitsOf d.digits
  let point := (text.length : Int) + d.exponent
  if d.digits == 0 then ⟨['0'],['0'],none⟩
  else if point ≤ -4 || 16 < point then ⟨text.take 1,text.drop 1,some (point - 1)⟩
  else if point ≤ 0 then ⟨['0'],zeros (-point).toNat ++ text,none⟩
  else if point < text.length then ⟨text.take point.toNat,text.drop point.toNat,none⟩
  else ⟨text ++ zeros d.exponent.toNat,['0'],none⟩

-- An exponent has a sign and at least two digits.
def exponentText (e : Int) : List Char :=
  let digits := digitsOf e.natAbs
  (if e < 0 then '-' else '+') :: (if digits.length < 2 then '0' :: digits else digits)

def pointed (whole fraction : List Char) : List Char :=
  if fraction.isEmpty then whole else whole ++ '.' :: fraction

def Written.text (w : Written) : List Char :=
  pointed w.whole w.fraction ++ (match w.exponent with
    | none => []
    | some e => 'e' :: exponentText e)

def Written.plain (w : Written) : List Char :=
  match w.exponent with
  | none => pointed w.whole w.fraction
  | some (.ofNat e) =>
    if w.fraction.length ≤ e then w.whole ++ w.fraction ++ zeros (e - w.fraction.length)
    else pointed (w.whole ++ w.fraction.take e) (w.fraction.drop e)
  | some (.negSucc e) =>
    let back := e + 1
    if w.whole.length ≤ back then pointed ['0'] (zeros (back - w.whole.length) ++ w.whole ++ w.fraction)
    else pointed (w.whole.take (w.whole.length - back)) (w.whole.drop (w.whole.length - back) ++ w.fraction)

structure Spelling where
  nan : List Char
  infinite : List Char
  magnitude : Binary → List Char

def Spelling.write (spelling : Spelling) (x : Float) : List Char :=
  let double := Double.of x
  match double.kind with
  | .nan => spelling.nan
  | .infinite => if double.negative then '-' :: spelling.infinite else spelling.infinite
  | .finite magnitude =>
    if double.negative then '-' :: spelling.magnitude magnitude else spelling.magnitude magnitude

def shown : Spelling := ⟨"nan".toList,"inf".toList,fun x => x.shortest.written.text⟩

-- The same digits, never with an exponent.
def plain : Spelling := ⟨"NaN".toList,"Infinity".toList,fun x => x.shortest.written.plain⟩

def fixedMagnitude (places : Nat) (x : Binary) : List Char :=
  let scaled := roundQuotient (x.numerator * Nat.pow 10 places) x.denominator
  let text := digitsOf scaled
  let padded := zeros (places + 1 - text.length) ++ text
  let whole := padded.length - places
  pointed (padded.take whole) (padded.drop whole)

def fixed (places : Nat) : Spelling := ⟨"nan".toList,"inf".toList,fixedMagnitude places⟩

def percent (x : Float) : List Char := (fixed 0).write (x * 100.0) ++ ['%']

end PitWall.Decimal

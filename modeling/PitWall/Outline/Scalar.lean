import PitWall.Outline.Moment

namespace PitWall.Outline
open Tables

def nulls : List (List Char) := [] :: ["~".toList, "null".toList, "Null".toList, "NULL".toList]
def truths : List (List Char) :=
  ["yes", "Yes", "YES", "true", "True", "TRUE", "on", "On", "ON"].map String.toList
def falsehoods : List (List Char) :=
  ["no", "No", "NO", "false", "False", "FALSE", "off", "Off", "OFF"].map String.toList
def infinities : List (List Char) := [".inf", ".Inf", ".INF"].map String.toList
def nans : List (List Char) := [".nan", ".NaN", ".NAN"].map String.toList

def startsWithDigit (s : List Char) : Bool := s.head?.any isDigit

def belowSixty (group : List Char) : Option Nat :=
  if group.length ≤ 2 && group.all isDigit then (inBase 10 group).filter (· < 60) else none

-- Groups of sixty: every group behind the first has one or two digits and stays below sixty.
def sixties (s : List Char) : Option (List Nat) :=
  match Text.cut ':' s with
  | first :: second :: rest => do
    if !startsWithDigit first then none
    return (← inBase 10 first) :: (← (second :: rest).mapM belowSixty)
  | _ => none

-- Behind the mark of a base there may be nothing but underscores: the form of a number without one.
def marked (base : Nat) (digits : List Char) : Option (Except Fault Nat) :=
  (inBase base digits).map fun n => if digits.all (· = '_') then .error (.noDigits base) else .ok n

def unsignedInt? : List Char → Option (Except Fault Nat)
  | ['0'] => some (.ok 0)
  | '0' :: 'b' :: digits => marked 2 digits
  | '0' :: 'x' :: digits => marked 16 digits
  | '0' :: digits => (inBase 8 digits).map .ok
  | digits =>
    if !startsWithDigit digits then none
    else ((inBase 10 digits).orElse fun _ =>
      (sixties digits).map fun groups => groups.foldl (60 * · + ·) 0).map .ok

def withoutSign : List Char → Bool × List Char
  | '-' :: rest => (true,rest)
  | '+' :: rest => (false,rest)
  | rest => (false,rest)

def int? (s : List Char) : Option (Except Fault Int) :=
  let (negative,digits) := withoutSign s
  (unsignedInt? digits).map fun found => found.map fun n => if negative then -(n : Int) else n

-- An exponent is only one with its sign.
def exponent? : List Char → Option Int
  | [] => some 0
  | mark :: sign :: digits =>
    if (mark = 'e' || mark = 'E') && !digits.isEmpty && digits.all isDigit then
      match sign with
      | '+' => (inBase 10 digits).map fun n => (n : Int)
      | '-' => (inBase 10 digits).map fun n => -(n : Int)
      | _ => none
    else none
  | _ => none

def isDigitOrScore (c : Char) : Bool := isDigit c || c = '_'

-- No double is so large, and none but zero so small.
def farExponent : Nat := 400

def scaled (digits : Nat) (exponent : Int) : Float :=
  if digits = 0 || exponent < -((farExponent + digits.log2 : Nat) : Int) then 0.0
  else if farExponent < exponent then 1.0 / 0.0
  else Decimal.nearest (digits * Nat.pow 10 exponent.toNat) (Nat.pow 10 (-exponent).toNat)

def decimal (whole : Nat) (fraction : List Char) (exponent : Int) : Option Float := do
  let places := fraction.filter (· ≠ '_')
  let digits ← if places.isEmpty then some 0 else inBase 10 places
  return scaled (whole * Nat.pow 10 places.length + digits) (exponent - places.length)

-- The last group has the fraction; the sum begins with it.
def sixtiesReal (groups : List Nat) (fraction : List Char) : Option Float :=
  match groups.reverse with
  | last :: before => do
    let start ← decimal last fraction 0
    return (before.foldl (fun (value,unit) group => (value + scaled group 0 * unit,unit * 60.0)) (start,60.0)).1
  | [] => none

-- A number is told from an integer by its point.
def unsignedReal? (s : List Char) : Option Float :=
  let whole := s.takeWhile (· ≠ '.')
  match s.dropWhile (· ≠ '.') with
  | '.' :: behind =>
    let fraction := behind.takeWhile isDigitOrScore
    let rest := behind.dropWhile isDigitOrScore
    if whole.isEmpty then
      if startsWithDigit fraction then do decimal 0 fraction (← exponent? rest) else none
    else if startsWithDigit whole && whole.all isDigitOrScore then do
      decimal (← inBase 10 whole) fraction (← exponent? rest)
    else if rest.isEmpty then do sixtiesReal (← sixties whole) fraction
    else none
  | _ => none

def real? (s : List Char) : Option Float :=
  let (negative,rest) := withoutSign s
  if infinities.contains rest then some (if negative then -1.0 / 0.0 else 1.0 / 0.0)
  else if nans.contains s then some (0.0 / 0.0)
  else if s.head? ≠ rest.head? && rest.head? = some '.' then none
  else (unsignedReal? rest).map fun x => if negative then -x else x

def Leaf.ofExcept {α : Type} (form : α → Scalar Float) : Except Fault α → Leaf
  | .ok value => .scalar (form value)
  | .error fault => .refused fault

def number? (s : List Char) : Option Leaf :=
  (int? s).map (.ofExcept .int) <|> (real? s).map (.scalar <| .number ·) <|> (moment? s).map (.ofExcept .moment)

def resolve (s : List Char) : Leaf :=
  if nulls.contains s then .scalar .null
  else if truths.contains s then .scalar (.bool true)
  else if falsehoods.contains s then .scalar (.bool false)
  else if s = ['<','<'] then .merge
  else if s = ['='] then .standard
  else (number? s).getD (.scalar (.text (String.ofList s)))

end PitWall.Outline

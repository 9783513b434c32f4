import PitWall.Outline.Node

namespace PitWall.Outline
open Tables

def digitOf (c : Char) : Option Nat :=
  if '0' ≤ c && c ≤ '9' then some (c.toNat - '0'.toNat)
  else if 'a' ≤ c && c ≤ 'f' then some (c.toNat - 'a'.toNat + 10)
  else if 'A' ≤ c && c ≤ 'F' then some (c.toNat - 'A'.toNat + 10)
  else none

def inBase (base : Nat) (digits : List Char) : Option Nat :=
  if digits.isEmpty then none else
  (digits.filter (· ≠ '_')).foldlM (fun value c => do
    let digit ← digitOf c
    if digit < base then some (base * value + digit) else none) 0

def isDigit (c : Char) : Bool := '0' ≤ c && c ≤ '9'

def figure (least most : Nat) (s : List Char) : Option (Nat × List Char) := do
  let digits := s.takeWhile isDigit
  if least ≤ digits.length && digits.length ≤ most then
    return (← inBase 10 digits,s.drop digits.length)
  else none

def behind (mark : Char) : List Char → Option (List Char)
  | c :: rest => if c = mark then some rest else none
  | [] => none

-- A fraction of a second: six places count.
def fraction? : List Char → Nat × List Char
  | '.' :: rest =>
    let digits := rest.takeWhile isDigit
    ((inBase 10 (digits.take 6 ++ List.replicate (6 - digits.length) '0')).getD 0,rest.drop digits.length)
  | rest => (0,rest)

def zoneMinutes? (s : List Char) : Option (Nat × List Char) := do
  let (hours,rest) ← figure 1 2 s
  match rest with
  | ':' :: rest => do
    let (minutes,rest) ← figure 2 2 rest
    return (60 * hours + minutes,rest)
  | rest => return (60 * hours,rest)

-- Universal time, or hours and perhaps minutes ahead of it or behind.
def zone? (s : List Char) : Option (Option Int) :=
  match s.dropWhile (· = ' ') with
  | [] => if s.isEmpty then some none else none
  | ['Z'] => some (some 0)
  | '+' :: rest => do
    let (minutes,rest) ← zoneMinutes? rest
    if rest.isEmpty then some (some minutes) else none
  | '-' :: rest => do
    let (minutes,rest) ← zoneMinutes? rest
    if rest.isEmpty then some (some (-minutes)) else none
  | _ => none

def clock? (s : List Char) : Option Clock := do
  let (hour,rest) ← figure 1 2 s
  let (minute,rest) ← figure 2 2 (← behind ':' rest)
  let (second,rest) ← figure 2 2 (← behind ':' rest)
  let (micros,rest) := fraction? rest
  return ⟨hour,minute,second,micros,← zone? rest⟩

-- Behind the day a time follows a letter T or blanks. Only a day on its own needs all its digits.
def draft? (s : List Char) : Option Moment := do
  let (year,rest) ← figure 4 4 s
  let date ← behind '-' rest
  let (month,rest) ← figure 1 2 date
  let (day,rest) ← figure 1 2 (← behind '-' rest)
  match rest with
  | [] => if date.length = 5 then some ⟨year,month,day,none⟩ else none
  | c :: rest =>
    if c = 'T' || c = 't' then return ⟨year,month,day,some (← clock? rest)⟩
    else if c = ' ' then return ⟨year,month,day,some (← clock? (rest.dropWhile (· = ' ')))⟩
    else none

def moment? (s : List Char) : Option (Except Fault Moment) :=
  (draft? s).map fun moment => match moment.fault with
    | none => .ok moment
    | some cause => .error (.calendar cause)

end PitWall.Outline

import PitWall.Decimal.Notation

namespace PitWall.Tables
open Decimal

structure Clock where
  hour : Nat
  minute : Nat
  second : Nat
  micros : Nat
  ahead : Option Int
deriving DecidableEq

structure Moment where
  year : Nat
  month : Nat
  day : Nat
  clock : Option Clock
deriving DecidableEq

def isLeap (year : Nat) : Bool := year % 4 = 0 && (year % 100 ≠ 0 || year % 400 = 0)

def daysIn (year month : Nat) : Nat :=
  if month = 2 then (if isLeap year then 29 else 28)
  else if month = 4 || month = 6 || month = 9 || month = 11 then 30
  else 31

def minutesADay : Nat := 1440

inductive CalendarFault where
  | zone (ahead : Int)
  | year (value : Nat)
  | month | day | hour | minute | second
deriving DecidableEq

def padded (width n : Nat) : List Char := (digitsOf n).leftpad width '0'

-- A span of minutes as days and seconds; only the days can be below zero.
def spanText (minutes : Int) : List Char :=
  let days := minutes.fdiv minutesADay
  let seconds := 60 * minutes.fmod minutesADay
  let parts := (if days = 0 then [] else ["days=".toList ++ intText days])
    ++ (if seconds = 0 then [] else ["seconds=".toList ++ intText seconds])
  "datetime.timedelta(".toList ++ (", ".toList).intercalate parts ++ [')']

def CalendarFault.message : CalendarFault → List Char
  | .zone ahead =>
    "offset must be a timedelta strictly between -timedelta(hours=24) and timedelta(hours=24), not ".toList
      ++ spanText ahead ++ ['.']
  | .year value => "year ".toList ++ digitsOf value ++ " is out of range".toList
  | .month => "month must be in 1..12".toList
  | .day => "day is out of range for month".toList
  | .hour => "hour must be in 0..23".toList
  | .minute => "minute must be in 0..59".toList
  | .second => "second must be in 0..59".toList

namespace Moment

def clockFault (clock : Clock) : Option CalendarFault :=
  if 23 < clock.hour then some .hour
  else if 59 < clock.minute then some .minute
  else if 59 < clock.second then some .second
  else none

def zoneFault (clock : Clock) : Option CalendarFault :=
  clock.ahead.bind fun ahead => if ahead.natAbs < minutesADay then none else some (.zone ahead)

def dayFault (moment : Moment) : Option CalendarFault :=
  if moment.year = 0 then some (.year moment.year)
  else if moment.month < 1 || 12 < moment.month then some .month
  else if moment.day < 1 || daysIn moment.year moment.month < moment.day then some .day
  else none

-- The zone is looked at first, and then all figures from the largest to the smallest.
def fault (moment : Moment) : Option CalendarFault :=
  (moment.clock.bind zoneFault).orElse fun _ => moment.dayFault.orElse fun _ => moment.clock.bind clockFault

def kind (moment : Moment) : String := if moment.clock.isSome then "datetime" else "date"

def zoneText (ahead : Int) : List Char :=
  (if ahead < 0 then '-' else '+') :: padded 2 (ahead.natAbs / 60) ++ ':' :: padded 2 (ahead.natAbs % 60)

def clockText (clock : Clock) : List Char :=
  ' ' :: padded 2 clock.hour ++ ':' :: padded 2 clock.minute ++ ':' :: padded 2 clock.second
    ++ (if clock.micros = 0 then [] else '.' :: padded 6 clock.micros)
    ++ (clock.ahead.map zoneText).getD []

def shown (moment : Moment) : List Char :=
  padded 4 moment.year ++ '-' :: padded 2 moment.month ++ '-' :: padded 2 moment.day
    ++ (moment.clock.map clockText).getD []

-- Seconds are left out where they and what is below them are zero.
def clockParts (clock : Clock) : List (List Char) :=
  let small :=
    if clock.micros ≠ 0 then [clock.second,clock.micros] else if clock.second ≠ 0 then [clock.second] else []
  ([clock.hour,clock.minute] ++ small).map digitsOf
    ++ (clock.ahead.map fun ahead => "tzinfo=".toList ++ if ahead = 0 then "datetime.timezone.utc".toList
      else "datetime.timezone(".toList ++ spanText ahead ++ [')']).toList

def listed (moment : Moment) : List Char :=
  let parts := [moment.year,moment.month,moment.day].map digitsOf ++ (moment.clock.map clockParts).getD []
  "datetime.".toList ++ moment.kind.toList ++ '(' :: (", ".toList).intercalate parts ++ [')']

end Moment
end PitWall.Tables

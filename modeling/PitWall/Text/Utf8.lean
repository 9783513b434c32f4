import PitWall.Text.Quoted

namespace PitWall.Text

inductive Utf8Fault where
  | invalidStart | invalidContinuation | endOfData
deriving DecidableEq

structure Undecodable where
  start : Nat
  count : Nat
  lead : Nat
  fault : Utf8Fault
deriving DecidableEq

-- A character under way: its bits so far, the bytes still owed, and the bounds of the next one.
structure Pending where
  start : Nat
  lead : Nat
  count : Nat
  bits : Nat
  owed : Nat
  low : Nat
  high : Nat

-- What a lead byte promises; the bounds keep out overlong forms, surrogates and all past U+10FFFF.
def promised (position byte : Nat) : Option Pending :=
  if 0xC2 ≤ byte && byte ≤ 0xDF then some ⟨position,byte,1,byte - 0xC0,1,0x80,0xBF⟩
  else if 0xE0 ≤ byte && byte ≤ 0xEF then
    some ⟨position,byte,1,byte - 0xE0,2,if byte = 0xE0 then 0xA0 else 0x80,if byte = 0xED then 0x9F else 0xBF⟩
  else if 0xF0 ≤ byte && byte ≤ 0xF4 then
    some ⟨position,byte,1,byte - 0xF0,3,if byte = 0xF0 then 0x90 else 0x80,if byte = 0xF4 then 0x8F else 0xBF⟩
  else none

-- `read` holds the characters so far, last first.
def decodeFrom : Nat → Option Pending → List Char → List UInt8 → Except Undecodable (List Char)
  | _,none,read,[] => .ok read.reverse
  | _,some pending,_,[] => .error ⟨pending.start,pending.count,pending.lead,.endOfData⟩
  | position,none,read,byte :: bytes =>
    if byte.toNat < 0x80 then decodeFrom (position + 1) none (Char.ofNat byte.toNat :: read) bytes
    else match promised position byte.toNat with
      | some pending => decodeFrom (position + 1) (some pending) read bytes
      | none => .error ⟨position,1,byte.toNat,.invalidStart⟩
  | position,some pending,read,byte :: bytes =>
    if pending.low ≤ byte.toNat && byte.toNat ≤ pending.high then
      let bits := pending.bits * 64 + (byte.toNat - 0x80)
      if pending.owed = 1 then decodeFrom (position + 1) none (Char.ofNat bits :: read) bytes
      else decodeFrom (position + 1)
        (some ⟨pending.start,pending.lead,pending.count + 1,bits,pending.owed - 1,0x80,0xBF⟩) read bytes
    else .error ⟨pending.start,pending.count,pending.lead,.invalidContinuation⟩

def decode (bytes : List UInt8) : Except Undecodable (List Char) := decodeFrom 0 none [] bytes

-- A long text may be decoded piece by piece as it comes in.
def pieceLength : Nat := 8192

def isContinuation (byte : UInt8) : Bool := 0x80 ≤ byte && byte ≤ 0xBF

-- How many bytes before a boundary within well-formed text belong to a character that goes on behind it.
def leftOver (bytes : List UInt8) (boundary : Nat) : Nat :=
  if (bytes.drop boundary).head?.any isContinuation then
    ((bytes.take boundary).reverse.takeWhile isContinuation).length + 1
  else 0

-- The first two bytes of a surrogate at the end of a piece wait for the next one.
def waits (bytes : List UInt8) (start : Nat) : Bool :=
  match bytes.drop start with
  | lead :: next :: rest =>
    lead == 0xED && isContinuation next && 0xA0 ≤ next && (rest.isEmpty || (start + 2) % pieceLength == 0)
  | _ => false

-- A fault is placed within the piece where it shows; what the piece before left unfinished goes first.
def placeInPiece (bytes : List UInt8) (found : Undecodable) : Nat :=
  let shows := if found.fault = .invalidContinuation then found.start + found.count else found.start
  let boundary := shows / pieceLength * pieceLength
  if found.fault = .endOfData || waits bytes found.start || found.start ≤ boundary then 0
  else found.start - boundary + leftOver bytes boundary

def decodeInPieces (bytes : List UInt8) : Except Undecodable (List Char) :=
  (decode bytes).mapError fun found => {found with start := placeInPiece bytes found}

def Utf8Fault.message : Utf8Fault → String
  | .invalidStart => "invalid start byte"
  | .invalidContinuation => "invalid continuation byte"
  | .endOfData => "unexpected end of data"

def Undecodable.message (found : Undecodable) : String :=
  let last := found.start + found.count - 1
  (if found.count = 1 then
    "'utf-8' codec can't decode byte 0x" ++ String.ofList (hex 2 found.lead) ++ s!" in position {found.start}: "
  else s!"'utf-8' codec can't decode bytes in position {found.start}-{last}: ") ++ found.fault.message

-- A carriage return, with or without a line feed behind it, ends a line like a line feed.
def unifyNewlines : List Char → List Char
  | '\r' :: '\n' :: rest => '\n' :: unifyNewlines rest
  | '\r' :: rest => '\n' :: unifyNewlines rest
  | c :: rest => c :: unifyNewlines rest
  | [] => []

end PitWall.Text

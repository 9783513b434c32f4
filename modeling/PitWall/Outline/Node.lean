import PitWall.Arithmetic.Doubles
import PitWall.Tables.Value

namespace PitWall.Outline
open Tables

inductive Fault where
  | malformed
  | noDigits (base : Nat)
  | beyondUnicode
  | wideCode
  | calendar (cause : CalendarFault)
deriving DecidableEq

def Fault.message : Fault → String
  | .malformed => "not well formed"
  | .noDigits base => s!"invalid literal for int() with base {base}: \x27\x27"
  | .beyondUnicode => "chr() arg not in range(0x110000)"
  | .wideCode => "Python int too large to convert to C int"
  | .calendar cause => String.ofList cause.message

-- What stands at the tips: a value, one of the two marks that only mean something as a key, or what
-- has the form of a value and is none.
inductive Leaf where
  | scalar (value : Scalar Float)
  | merge
  | standard
  | refused (fault : Fault)

-- The entries of a mapping have all merges carried out; where that cannot be done it is tangled.
inductive Node where
  | leaf (tip : Leaf)
  | list (items : List Node)
  | mapping (entries : List (Node × Node))
  | tangled

namespace Node

def empty : Node := .leaf (.scalar .null)

def entries? : Node → Option (List (Node × Node))
  | .mapping entries => some entries
  | _ => none

-- What a merge brings in: the entries of a mapping, or of a list of them, the last one first.
def merged? : Node → Option (List (Node × Node))
  | .list items => (items.reverse.mapM entries?).map List.flatten
  | node => node.entries?

def isMerge : Node × Node → Bool
  | (.leaf .merge,_) => true
  | _ => false

-- As a key the mark of a standard value is a text like any other.
def plainKey : Node × Node → Node × Node
  | (.leaf .standard,value) => (.leaf (.scalar (.text "=")),value)
  | entry => entry

def ofEntries (entries : List (Node × Node)) : Node :=
  match (entries.filter isMerge).mapM (merged? ·.2) with
  | some merged => .mapping (merged.flatten ++ (entries.filter (!isMerge ·)).map plainKey)
  | none => .tangled

end Node

-- A key that is there already keeps its place and takes the new value.
def addEntry (entries : List (Scalar Float × Value Float)) (key : Scalar Float) (value : Value Float) :
    List (Scalar Float × Value Float) :=
  match entries with
  | [] => [(key,value)]
  | (other,old) :: rest =>
    if other.sameKey key then (other,value) :: rest else (other,old) :: addEntry rest key value

-- A fault, and how deep it stands.
structure Met where
  depth : Nat
  fault : Fault

-- Values are made level by level: the less deep of two faults is met first, and at one depth the
-- one before.
def both {α β : Type} : Except Met α → Except Met β → Except Met (α × β)
  | .ok left,.ok right => .ok (left,right)
  | .error left,.error right => .error (if right.depth < left.depth then right else left)
  | .error left,_ => .error left
  | _,.error right => .error right

def Leaf.value (depth : Nat) : Leaf → Except Met (Scalar Float)
  | .scalar value => .ok value
  | .merge | .standard => .error ⟨depth,.malformed⟩
  | .refused fault => .error ⟨depth,fault⟩

def Node.key (depth : Nat) : Node → Except Met (Scalar Float)
  | .leaf tip => tip.value depth
  | _ => .error ⟨depth,.malformed⟩

mutual
def Node.valueAt (depth : Nat) : Node → Except Met (Value Float)
  | .leaf tip => (tip.value depth).map .scalar
  | .list items => (itemsAt (depth + 1) items).map .list
  | .mapping entries => (entriesAt (depth + 1) entries).map fun entries =>
      .mapping (entries.foldl (fun found (key,value) => addEntry found key value) [])
  | .tangled => .error ⟨depth + 1,.malformed⟩

def itemsAt (depth : Nat) : List Node → Except Met (List (Value Float))
  | [] => .ok []
  | item :: rest =>
    (both (item.valueAt depth) (itemsAt depth rest)).map fun (value,values) => value :: values

def entriesAt (depth : Nat) : List (Node × Node) → Except Met (List (Scalar Float × Value Float))
  | [] => .ok []
  | (key,value) :: rest =>
    (both (both (key.key depth) (value.valueAt depth)) (entriesAt depth rest)).map fun (entry,entries) =>
      entry :: entries
end

def Node.value (node : Node) : Except Fault (Value Float) := (node.valueAt 0).mapError Met.fault

end PitWall.Outline

import PitWall.Arithmetic
import PitWall.Tables.Moment
import PitWall.Text.Quoted

namespace PitWall.Tables
open Arithmetic

-- What a description of tables is made of. Integers and other numbers stay apart, and so do texts
-- with code points in them that are no characters.
inductive Scalar (R : Type) where
  | null
  | bool (value : Bool)
  | int (value : Int)
  | number (value : R)
  | text (value : String)
  | codes (points : List Nat)
  | moment (value : Moment)

inductive Value (R : Type) where
  | scalar (value : Scalar R)
  | list (items : List (Value R))
  | mapping (entries : List (Scalar R × Value R))

variable {R : Type}

def replacement : Char := '\ufffd'

def charOf (point : Nat) : Char := if point.isValidChar then Char.ofNat point else replacement

namespace Scalar
variable [Arithmetic R]

def shown : Scalar R → String
  | .null => "None"
  | .bool true => "True"
  | .bool false => "False"
  | .int value => toString value
  | .number value => Arithmetic.text value
  | .text value => value
  | .codes points => String.ofList (points.map charOf)
  | .moment value => String.ofList value.shown

def listed : Scalar R → String
  | .text value => String.ofList (Text.quoted value.toList)
  | .codes points => String.ofList (Text.quotedPoints points)
  | .moment value => String.ofList value.listed
  | value => value.shown

def kind : Scalar R → String
  | .null => "NoneType" | .bool _ => "bool" | .int _ => "int" | .number _ => "float"
  | .text _ | .codes _ => "str" | .moment value => value.kind

-- The key of a mapping: a truth value is a number there.
def integer? : Scalar R → Option Int
  | .bool value => some (if value then 1 else 0)
  | .int value => some value
  | _ => none

-- A key that is not a number at all is still the same as itself.
def sameNumber (left right : R) : Bool :=
  (atMost left right && atMost right left) || !(isNumber left || isNumber right)

def sameKey : Scalar R → Scalar R → Bool
  | .null,.null => true
  | .text left,.text right => left == right
  | .codes left,.codes right => left == right
  | .moment left,.moment right => left == right
  | .number left,.number right => sameNumber left right
  | .number left,right => right.integer?.any (equals · left)
  | left,.number right => left.integer?.any (equals · right)
  | left,right => match left.integer?,right.integer? with
    | some left,some right => left == right
    | _,_ => false

def points? : Scalar R → Option (List Nat)
  | .text value => some (value.toList.map Char.toNat)
  | .codes points => some points
  | _ => none

-- Texts are ordered among themselves, and so are numbers; nothing else has an order.
def precedes? : Scalar R → Scalar R → Option Bool
  | .text left,.text right => some (left < right)
  | .number left,.number right => some (below left right)
  | .number left,right => right.integer?.map fun right => order right left == some .gt
  | left,.number right => left.integer?.map fun left => order left right == some .lt
  | left,right => match left.integer?,right.integer? with
    | some left,some right => some (left < right)
    | _,_ => match left.points?,right.points? with
      | some left,some right => some (left < right)
      | _,_ => none

end Scalar

namespace Value
variable [Arithmetic R]

def kind : Value R → String
  | .scalar value => value.kind
  | .list _ => "list"
  | .mapping _ => "dict"

-- Null, false, zero and whatever is empty say nothing.
def isVoid : Value R → Bool
  | .scalar .null => true
  | .scalar (.bool value) => !value
  | .scalar (.int value) => value == 0
  | .scalar (.number value) => equals 0 value
  | .scalar (.text value) => value == ""
  | .scalar (.codes points) => points.isEmpty
  | .scalar (.moment _) => false
  | .list items => items.isEmpty
  | .mapping entries => entries.isEmpty

end Value
end PitWall.Tables

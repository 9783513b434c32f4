import PitWall.Location
import PitWall.Tables.Merge
import PitWall.Text.Utf8
import PitWall.Outline.Block

namespace PitWall.Tables
open Location

inductive FileFault where
  | missing (path : String)
  | directory (path : String)
  | tooLong (path : String)
  | undecodable (found : Text.Undecodable)
  | unread (cause : Outline.Fault)
  | notMapping (path : String)
  | refused (refusal : Refusal Float)

def FileFault.message : FileFault → String
  | .missing path => "Domain tables file not found: " ++ path
  | .directory path => "[Errno 21] Is a directory: " ++ String.ofList (Text.quoted path.toList)
  | .tooLong path => "[Errno 36] File name too long: " ++ String.ofList (Text.quoted path.toList)
  | .undecodable found => found.message
  | .unread cause => cause.message
  | .notMapping path => path ++ ": top level must be a mapping"
  | .refused refusal => refusal.message

def amendedBy (tables : Tables Float) (path : String) (value : Value Float) : Except FileFault (Tables Float) :=
  if value.isVoid then .ok tables else
  match value with
  | .mapping entries => (tables.merge entries).mapError .refused
  | _ => .error (.notMapping path)

def ofText (tables : Tables Float) (path : String) (text : List Char) : Except FileFault (Tables Float) :=
  match Outline.read (Text.unifyNewlines text) with
  | .ok value => amendedBy tables path value
  | .error cause => .error (.unread cause)

-- The tables as a file amends them. Messages name the path in its normal form.
def load (tables : Tables Float) (path : String) : Found → Except FileFault (Tables Float)
  | .absent | .notDirectory => .error (.missing (normal path))
  | .directory => .error (.directory (normal path))
  | .tooLong => .error (.tooLong (normal path))
  | .file content => do
    let text ← (Text.decodeInPieces content).mapError .undecodable
    ofText tables (normal path) text

end PitWall.Tables

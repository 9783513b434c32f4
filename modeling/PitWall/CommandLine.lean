import PitWall.Handbook
import PitWall.Log
import PitWall.Text.Digit

namespace PitWall.CommandLine

inductive Switch where
  | help | exampleSheet | tables | logLevel
deriving DecidableEq

instance : Vocabulary Switch where
  all := [.help, .exampleSheet, .tables, .logLevel]
  spelling
    | .help => "--help" | .exampleSheet => "--example" | .tables => "--tables" | .logLevel => "--log-level"

inductive Word where
  | operand (text : String)
  | switch (switch : Switch) (value : Option String)
  | divider
  | unknown

def dash : Char := '-'

def withoutLineEnd (s : List Char) : List Char := if s.getLast? = some '\n' then s.dropLast else s

-- A dash and a number, in the digits of any script; a line end may stand behind it.
def isNegative (s : List Char) : Bool :=
  match withoutLineEnd s with
  | '-' :: digits =>
    let whole := digits.takeWhile Text.isDecimalDigit
    match digits.dropWhile Text.isDecimalDigit with
    | [] => !whole.isEmpty
    | '.' :: places => !places.isEmpty && places.all Text.isDecimalDigit
    | _ => false
  | _ => false

-- A switch may be cut short as long as only one begins like it.
def named (name : List Char) : List Switch :=
  match Vocabulary.ofSpelling? (String.ofList name) with
  | some switch => [switch]
  | none =>
    if ['-','-'].isPrefixOf name then
      Vocabulary.all.filter fun switch => name.isPrefixOf (Vocabulary.spelling switch).toList
    else []

-- The value of a switch may stand behind an equals sign.
def splitValue (s : List Char) : List Char × Option String :=
  match s.dropWhile (· ≠ '=') with
  | _ :: value => (s.takeWhile (· ≠ '='),some (String.ofList value))
  | [] => (s,none)

def Word.of (text : String) : Word :=
  let chars := text.toList
  if chars = [dash,dash] then .divider
  else if chars.head? ≠ some dash || chars = [dash] then .operand text
  else if chars = ['-','h'] then .switch .help none
  else if ['-','h'].isPrefixOf chars then .unknown
  else
    let (name,value) := splitValue chars
    match named name with
    | [only] => .switch only value
    | [] => if isNegative chars || chars.contains ' ' then .operand text else .unknown
    | _ => .unknown

-- Behind a divider every word is an operand, another double dash included.
def words : List String → List Word
  | [] => []
  | text :: rest =>
    match Word.of text with
    | .divider => .divider :: rest.map .operand
    | word => word :: words rest

def standardInput : String := "-"

structure Request where
  source : String
  exampleSheet : Option String
  tables : Option String
  level : Level
deriving DecidableEq

-- An example takes the place of the source.
def Request.readsInput (request : Request) : Bool :=
  request.exampleSheet.isNone && request.source == standardInput

def Request.readsSource (request : Request) : Bool :=
  request.exampleSheet.isNone && request.source != standardInput

def Request.paths (request : Request) : List String :=
  request.tables.toList ++ if request.readsSource then [request.source] else []

structure Draft where
  source : Option String
  exampleSheet : Option String
  tables : Option String
  level : Level

def Draft.start : Draft := ⟨none,none,none,.warning⟩

def Draft.request (draft : Draft) : Request :=
  ⟨draft.source.getD standardInput,draft.exampleSheet,draft.tables,draft.level⟩

-- The last value given to a switch is the one that holds.
def Draft.put (draft : Draft) (switch : Switch) (value : String) : Option Draft :=
  match switch with
  | .help => none
  | .exampleSheet =>
    if (Handbook.named? value).isSome then some {draft with exampleSheet := some value} else none
  | .tables => some {draft with tables := some value}
  | .logLevel => (Vocabulary.ofSpelling? value).map fun level => {draft with level := level}

def Draft.name (draft : Draft) (source : String) : Option Draft :=
  if draft.source.isSome then none else some {draft with source := some source}

-- One source at most. A divider stands next to it, or where it could still come.
def Draft.read : Draft → List Word → Option Draft
  | draft,[] => some draft
  | draft,.operand source :: .divider :: rest => do (← draft.name source).read rest
  | draft,.operand source :: rest => do (← draft.name source).read rest
  | draft,.divider :: rest => if draft.source.isSome then none else draft.read rest
  | draft,.switch switch (some value) :: rest => do (← draft.put switch value).read rest
  | draft,.switch switch none :: .operand value :: rest => do (← draft.put switch value).read rest
  | _,.switch _ none :: _ => none
  | _,.unknown :: _ => none

def Request.of (arguments : List String) : Option Request :=
  ((Draft.start.read (words arguments)).map Draft.request)

def usage : String :=
  "pitwall [--example NAME] [--tables PATH] [--log-level LEVEL] [SOURCE]\n"
    ++ "SOURCE is a strategy sheet, or - for the standard input (the default).\n"
    ++ "NAME is one of: " ++ ", ".intercalate (Handbook.examples.map (·.1)) ++ "\n"
    ++ "LEVEL is one of: " ++ Vocabulary.choices Level

def asksForHelp (arguments : List String) : Bool :=
  (words arguments).any fun
    | .switch .help none => true
    | _ => false

end PitWall.CommandLine

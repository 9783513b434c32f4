import PitWall.Tables.Refusal

namespace PitWall.Tables
open Arithmetic
variable {R : Type} [Arithmetic R]

abbrev Checked (R α : Type) := Except (Refusal R) α

def lift {α : Type} : Except Fault α → Checked R α
  | .ok value => .ok value
  | .error fault => .error (.fault fault)

-- Names are complained about in order.
def insertName (name : Scalar R) : List (Scalar R) → Checked R (List (Scalar R))
  | [] => .ok [name]
  | other :: rest =>
    match name.precedes? other with
    | some true => .ok (name :: other :: rest)
    | some false => (insertName name rest).map (other :: ·)
    | none => .error (.unorderedNames name other)

def sortNames (names : List (Scalar R)) : Checked R (List (Scalar R)) :=
  names.foldlM (fun sorted name => insertName name sorted) []

def complain (names : List (Scalar R)) (refusal : List (Scalar R) → Refusal R) : Checked R Unit :=
  if names.isEmpty then .ok () else do throw (refusal (← sortNames names))

def member? {α : Type} [Vocabulary α] : Scalar R → Option α
  | .text name => Vocabulary.ofSpelling? name
  | _ => none

-- A truth value is no number, and only a signed figure may be below zero.
def measured (measure : Measure) (spot : Spot R) (field : Option String) : Value R → Checked R (Number R)
  | .scalar (.int n) =>
    if measure ≠ .signed && n < 0 then .error (.negative spot field (.int n)) else .ok (.int n)
  | .scalar (.number x) =>
    if measure ≠ .signed && below x 0.0 then .error (.negative spot field (.real x))
    else if measure = .whole then do
      if equals (← lift (floor x)) x then return .real x else throw (.notWhole spot field (.real x))
    else .ok (.real x)
  | value => .error (.notNumeric spot field value.kind)

def Number.toReal : Number R → Checked R R
  | .int n => lift (ofInt n)
  | .real x => .ok x

def Number.toWhole : Number R → Checked R Int
  | .int n => .ok n
  | .real x => lift (floor x)

def figure (measure : Measure) (number : Number R) : Checked R (Figure R) :=
  if measure = .whole then number.toWhole.map .whole else number.toReal.map .number

def entriesOf (spot : Spot R) : Value R → Checked R (List (Scalar R × Value R))
  | .mapping entries => .ok entries
  | _ => .error (.entryNotMapping spot)

section
variable {F E : Type} [Vocabulary F]

def knownFields (spot : Spot R) (entries : List (Scalar R × Value R)) : Checked R Unit :=
  complain ((entries.filter fun entry => (member? (α := F) entry.1).isNone).map (·.1))
    (.unknownFields spot)

-- A field that is known is measured, turned into its figure and written; `put` goes on from there.
def checkField (schema : Schema F E R) (spot : Spot R) (entry : Scalar R × Value R) :
    Checked R (Option (F × Number R)) :=
  match member? (α := F) entry.1 with
  | none => .ok none
  | some field => do
    return some (field,← measured (schema.measure field) spot (some (Vocabulary.spelling field)) entry.2)

def putField (schema : Schema F E R) (current : E) : Option (F × Number R) → Checked R E
  | none => .ok current
  | some (field,number) => do return schema.put field (← figure (schema.measure field) number) current

-- Field by field, so that the first fault in the order of the entries is the one reported.
def mergeEntry (schema : Schema F E R) (spot : Spot R) (current : E) (value : Value R) : Checked R E := do
  let entries ← entriesOf spot value
  knownFields (F := F) spot entries
  entries.foldlM (fun current entry => do putField schema current (← checkField schema spot entry)) current

end

-- An absent topic, and one that says nothing, has no entries.
def topicEntries (topic : Topic) (description : List (Scalar R × Value R)) :
    Checked R (List (Scalar R × Value R)) :=
  match description.find? fun entry => member? entry.1 == some topic with
  | none => .ok []
  | some (_,value) =>
    if value.isVoid then .ok [] else
    match value with
    | .mapping entries => .ok entries
    | _ => .error (.topicNotMapping topic)

def keyed {α : Type} [Vocabulary α] (topic : Topic) (key : Scalar R) : Checked R α :=
  match Vocabulary.ofSpelling? key.shown with
  | some member => .ok member
  | none => .error (.unknownKey topic key)

def setAt {α β : Type} [DecidableEq α] (f : α → β) (key : α) (value : β) : α → β :=
  fun x => if x = key then value else f x

def mergeKeyed {K F E : Type} [Vocabulary K] [DecidableEq K] [Vocabulary F] (topic : Topic)
    (spot : K → Spot R) (schema : Schema F E R) (current : K → E)
    (description : List (Scalar R × Value R)) : Checked R (K → E) := do
  (← topicEntries topic description).foldlM (fun current (key,value) => do
    let member ← keyed topic key
    return setAt current member (← mergeEntry schema (spot member) (current member) value)) current

def mergeScalars {K : Type} [Vocabulary K] [DecidableEq K] (topic : Topic) (spot : K → Spot R)
    (current : K → Option R) (description : List (Scalar R × Value R)) : Checked R (K → Option R) := do
  (← topicEntries topic description).foldlM (fun current (key,value) => do
    let member ← keyed topic key
    let number ← measured .positive (spot member) none value
    return setAt current member (some (← number.toReal))) current

-- A new key goes to the end, a known one keeps its place.
def amend (key : String) (change : CircuitOverride R → CircuitOverride R) :
    List (String × CircuitOverride R) → List (String × CircuitOverride R)
  | [] => [(key,change .nothing)]
  | (other,override) :: rest =>
    if other = key then (other,change override) :: rest else (other,override) :: amend key change rest

def putAll {F E : Type} (schema : Schema F E R) (fields : List (F × Figure R)) (current : E) : E :=
  fields.foldl (fun current (field,figure) => schema.put field figure current) current

-- All fields of an override are measured before the first of them is converted.
def mergeCircuit (overrides : List (String × CircuitOverride R)) (entry : Scalar R × Value R) :
    Checked R (List (String × CircuitOverride R)) := do
  let spot : Spot R := .circuit entry.1
  let entries ← entriesOf spot entry.2
  knownFields (F := CircuitField) spot entries
  let numbers ← entries.mapM (checkField overrideSchema spot)
  let fields ← (numbers.filterMap id).mapM fun (field,number) => do
    return (field,← figure (R := R) .positive number)
  return amend (circuitKey entry.1.shown) (putAll overrideSchema fields) overrides

def mergeDefaultCircuit (current : Circuit R) (description : List (Scalar R × Value R)) :
    Checked R (Circuit R) :=
  match description.find? fun entry => member? entry.1 == some Topic.defaultCircuit with
  | none => .ok current
  | some (_,value) => mergeEntry circuitSchema .defaultCircuit current value

-- What only the merged figures can tell.
def soundTire (tire : Compound → TireData R) (compound : Compound) : Checked R Unit :=
  if (tire compound).cliffLap < 1 then .error (.cliffBelowOne compound) else .ok ()

def soundPace (pace : PaceClass → PaceData R) (member : PaceClass) : Checked R Unit :=
  let data := pace member
  if !(data.realisticCeiling ≤ data.typicalFinish && data.typicalFinish ≤ data.realisticFloor) then
    .error (.finishOutOfOrder member)
  else if atMost data.defenseAbility 0.0 then .error (.noDefense member)
  else .ok ()

def knownTopics (description : List (Scalar R × Value R)) : Checked R Unit :=
  complain ((description.filter fun entry => (member? (α := Topic) entry.1).isNone).map (·.1)) .unknownTopics

-- Tables are handed out with every override under the key of its name; where two names have one key,
-- the later override counts.
def rekeyed (overrides : List (String × CircuitOverride R)) : List (String × CircuitOverride R) :=
  overrides.foldl (fun kept (name,override) => amend (circuitKey name) (fun _ => override) kept) []

def build (tables : Tables R) : Tables R := {tables with overrides := rekeyed tables.overrides}

-- Whatever the description mentions overwrites the tables field by field; the rest stays.
def overwritten (tables : Tables R) (description : List (Scalar R × Value R)) : Checked R (Tables R) := do
  knownTopics description
  let defaultCircuit ← mergeDefaultCircuit tables.defaultCircuit description
  let overrides ← (← topicEntries .circuits description).foldlM mergeCircuit tables.overrides
  let tire ← mergeKeyed .tires .tire tireSchema tables.tire description
  let pace ← mergeKeyed .paceClasses .pace paceSchema tables.pace description
  let risk ← mergeKeyed .riskProfiles .risk riskSchema tables.risk description
  let weather ← mergeScalars .weather .weather tables.weather description
  let overtaking ← mergeScalars .overtakeBaseRates .overtaking tables.overtaking description
  return ⟨defaultCircuit,overrides,tire,weather,pace,risk,overtaking⟩

def merge (tables : Tables R) (description : List (Scalar R × Value R)) : Checked R (Tables R) := do
  let figures ← tables.overwritten description
  Vocabulary.all.forM (soundTire figures.tire)
  Vocabulary.all.forM (soundPace figures.pace)
  return build figures

end PitWall.Tables

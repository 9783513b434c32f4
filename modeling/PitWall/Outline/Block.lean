import PitWall.Outline.Inline

namespace PitWall.Outline
open Tables

-- A node, the next thing behind it, and whether that starts a line of its own.
structure Parsed where
  node : Node
  next : Cursor
  fresh : Bool

def parsed (node : Node) (finish : Cursor) : Parsed :=
  let next := finish.skip
  ⟨node,next,next.line ≠ finish.line⟩

def colon? (finish : Cursor) : Option Cursor :=
  let next := finish.skipSpaces
  match next.rest with
  | ':' :: rest => if isClear rest then some next else none
  | _ => none

-- Blocks are told apart by their columns: what stands further in belongs to the entry before it,
-- what stands further out ends the block, and nothing follows a value on its line.
mutual
def blockNode : Nat → Nat → Cursor → Except Fault Parsed
  | 0,_,_ => malformed
  | fuel + 1,indent,cursor =>
    if cursor.isEntry then blockItems fuel false cursor.column [] cursor else do
    let (node,finish) ← inlineNode indent cursor
    match colon? finish with
    | some colon =>
      if canBeKey cursor colon then blockEntries fuel cursor.column [] node (colon.past 1)
      else .ok (parsed node finish)
    | none => .ok (parsed node finish)

def blockItems : Nat → Bool → Nat → List Node → Cursor → Except Fault Parsed
  | 0,_,_,_,_ => malformed
  | fuel + 1,withinMapping,column,items,cursor => do
    let start := cursor.past 1
    let next := start.skip
    let item ← if next.stops then .ok ⟨.empty,next,true⟩
      else if next.line = start.line || column < next.column then blockNode fuel (column + 1) next
      else .ok ⟨.empty,next,true⟩
    let items := item.node :: items
    if item.next.stops then .ok ⟨.list items.reverse,item.next,true⟩
    else if !item.fresh then unexpected item.next
    else if item.next.column < column then .ok ⟨.list items.reverse,item.next,true⟩
    else if column < item.next.column then unexpected item.next
    else if item.next.isEntry then blockItems fuel withinMapping column items item.next
    else if withinMapping then .ok ⟨.list items.reverse,item.next,true⟩
    else unexpected item.next

-- From behind the colon of a key. The items of a list may stand right under the key.
def blockEntries : Nat → Nat → List (Node × Node) → Node → Cursor → Except Fault Parsed
  | 0,_,_,_,_ => malformed
  | fuel + 1,column,entries,key,colon => do
    let next := colon.skip
    let value ← if next.stops then .ok ⟨.empty,next,true⟩
      else if next.line = colon.line then
        if next.isEntry then malformed
        else (inlineNode (column + 1) next).map fun (node,finish) => parsed node finish
      else if column < next.column then blockNode fuel (column + 1) next
      else if next.column = column && next.isEntry then blockItems fuel true column [] next
      else .ok ⟨.empty,next,true⟩
    let entries := (key,value.node) :: entries
    if value.next.stops then .ok ⟨.ofEntries entries.reverse,value.next,true⟩
    else if !value.fresh then unexpected value.next
    else if value.next.column < column then .ok ⟨.ofEntries entries.reverse,value.next,true⟩
    else if column < value.next.column || value.next.isEntry then unexpected value.next
    else do
      let (key,finish) ← inlineNode (column + 1) value.next
      let colon ← orMalformed (colon? finish)
      if canBeKey value.next colon then blockEntries fuel column entries key (colon.past 1) else malformed
end

-- Control characters other than tab and line ends have no place in a text.
def isAllowed (c : Char) : Bool :=
  c = '\t' || c = '\n' || c = '\r' || (' ' ≤ c && c ≤ '~') || c = '\x85'
    || (0xA0 ≤ c.toNat && c.toNat ≤ 0xD7FF) || (0xE000 ≤ c.toNat && c.toNat ≤ 0xFFFD) || 0x10000 ≤ c.toNat

def byteOrderMark : Char := '\ufeff'

-- Behind the one document there is nothing but its end.
def nothingFurther : Nat → Cursor → Except Fault Unit
  | 0,_ => malformed
  | fuel + 1,cursor =>
    if cursor.atEnd then .ok ()
    else if cursor.endsDocument then nothingFurther fuel (cursor.past 3).skip
    else unexpected cursor

def document (cursor : Cursor) : Except Fault Node := do
  let fuel := 2 * cursor.rest.length + 2
  let parsed ← if cursor.startsDocument then
      let start := cursor.past 3
      let next := start.skip
      if next.stops then .ok ⟨.empty,next,true⟩
      else if next.line ≠ start.line then blockNode fuel 0 next
      else (inlineNode 0 next).map fun (node,finish) => parsed node finish
    else if cursor.atEnd then .ok ⟨.empty,cursor,true⟩
    else if cursor.endsDocument then malformed
    else blockNode fuel 0 cursor
  nothingFurther fuel parsed.next
  return parsed.node

-- The value of a YAML text. Tags, anchors, keys behind a question mark and texts set as a block
-- are not read.
def read (text : List Char) : Except Fault (Value Float) :=
  if !text.all isAllowed then malformed else
  let text := match text with
    | c :: rest => if c = byteOrderMark then rest else text
    | [] => []
  do (← document (Cursor.skip ⟨text,0,0⟩)).value

end PitWall.Outline

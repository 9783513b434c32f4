import PitWall.Outline.Cursor
import PitWall.Outline.Scalar

namespace PitWall.Outline
open Tables

def isFlowMark (c : Char) : Bool := c = ',' || c = '[' || c = ']' || c = '\x7b' || c = '\x7d'

def endsPlain (flow : Bool) (c : Char) (rest : List Char) : Bool :=
  c = ' ' || c = '\t' || isBreak c
    || (c = ':' && (isClear rest || (flow && rest.head?.any isFlowMark)))
    || (flow && (c = '?' || isFlowMark c))

def plainChunk (flow : Bool) : List Char → List Char
  | [] => []
  | c :: rest => if endsPlain flow c rest then [] else c :: plainChunk flow rest

def indicators : List Char := "-?:,[]\x7b\x7d#&*!|>'\x22%@\x60".toList

def startsPlain (flow : Bool) : List Char → Bool
  | [] => false
  | c :: rest =>
    if c = '-' || (!flow && (c = '?' || c = ':')) then !isClear rest
    else !indicators.contains c && !isClear [c]

-- Line ends within a text: one alone is a space, each further one stays.
def folded (breaks : List Char) : List Char :=
  match breaks with
  | [] => []
  | '\n' :: [] => [' ']
  | '\n' :: further => further
  | breaks => breaks

def lineFeed (c : Char) : Char := if c = '\x85' then '\n' else c

-- The line ends from here on, over the given blanks between them; none where a document ends.
def breaksFrom (blank : Char → Bool) (column : Nat) : List Char → Nat → List Char → Option (List Char × Cursor)
  | [],line,breaks => some (breaks.reverse,⟨[],line,column⟩)
  | c :: rest,line,breaks =>
    if Cursor.startsDocument ⟨c :: rest,line,column⟩ || Cursor.endsDocument ⟨c :: rest,line,column⟩ then none
    else if isBreak c then breaksFrom blank 0 rest (line + 1) (lineFeed c :: breaks)
    else if blank c then breaksFrom blank (column + 1) rest line breaks
    else some (breaks.reverse,⟨c :: rest,line,column⟩)

def isSpace (c : Char) : Bool := c = ' '
def isSpaceOrTab (c : Char) : Bool := c = ' ' || c = '\t'

def joint (cursor : Cursor) : Option (List Char × Cursor) :=
  let spaces := cursor.rest.takeWhile isSpace
  let next := cursor.skipSpaces
  match next.rest with
  | c :: _ =>
    if isBreak c then
      (breaksFrom isSpace next.column next.rest next.line []).map fun (breaks,next) => (folded breaks,next)
    else if spaces.isEmpty then none else some (spaces,next)
  | [] => none

-- Chunks go on over the lines as long as they are indented enough; the cursor stays behind the last.
def plainFrom (flow : Bool) (indent : Nat) : Nat → List Char → Cursor → List Char × Cursor
  | 0,text,cursor => (text,cursor)
  | fuel + 1,text,cursor =>
    let chunk := plainChunk flow cursor.rest
    let text := text ++ chunk
    let cursor := cursor.past chunk.length
    match joint cursor with
    | none => (text,cursor)
    | some (between,next) =>
      if next.rest.head? = some '#' || (!flow && next.column < indent)
        || (plainChunk flow next.rest).isEmpty then (text,cursor)
      else plainFrom flow indent fuel (text ++ between) next

def plain (flow : Bool) (indent : Nat) (cursor : Cursor) : List Char × Cursor :=
  plainFrom flow indent (cursor.rest.length + 1) [] cursor

def escapes : List (Char × Nat) :=
  [('0',0), ('a',7), ('b',8), ('t',9), ('\t',9), ('n',10), ('v',11), ('f',12), ('r',13), ('e',27),
   (' ',32), ('\x22',34), ('\\',92), ('/',47), ('N',0x85), ('_',0xA0), ('L',0x2028), ('P',0x2029)]

def escapeWidth : Char → Nat
  | 'x' => 2 | 'u' => 4 | 'U' => 8 | _ => 0

def malformed {α : Type} : Except Fault α := .error .malformed

def orMalformed {α : Type} (found : Option α) : Except Fault α := found.elim malformed .ok

-- Surrogates pass; what lies beyond the last code point is told from what no 32 bits hold signed.
def checkedPoint (n : Nat) : Except Fault Nat :=
  if n < 0x110000 then .ok n else .error (if n < 0x80000000 then .beyondUnicode else .wideCode)

def escape (s : List Char) : Except Fault (Nat × Nat) :=
  match s with
  | [] => malformed
  | c :: rest =>
    match escapes.lookup c with
    | some n => .ok (n,1)
    | none =>
      let digits := rest.take (escapeWidth c)
      if escapeWidth c = 0 || digits.length < escapeWidth c || !digits.all (digitOf · |>.isSome) then malformed
      else do return (← checkedPoint (← orMalformed (inBase 16 digits)),1 + digits.length)

def pointsBack (s : List Char) : List Nat := (s.map Char.toNat).reverse

-- Inside quotes; `text` is what was read, last first.
def quotedFrom (double : Bool) : Nat → List Nat → Cursor → Except Fault (List Nat × Cursor)
  | 0,_,_ => malformed
  | fuel + 1,text,cursor =>
    match cursor.rest with
    | [] => malformed
    | c :: rest =>
      if isSpaceOrTab c || isBreak c then
        let blanks := cursor.rest.takeWhile isSpaceOrTab
        let next := cursor.past blanks.length
        if next.rest.head?.any isBreak then do
          let (breaks,next) ← orMalformed (breaksFrom isSpaceOrTab next.column next.rest next.line [])
          quotedFrom double fuel (pointsBack (folded breaks) ++ text) next
        else quotedFrom double fuel (pointsBack blanks ++ text) next
      else if double then
        if c = '\x22' then .ok (text.reverse,cursor.past 1)
        else if c = '\\' then
          if rest.head?.any isBreak then do
            let next := cursor.past 1
            let (breaks,next) ← orMalformed (breaksFrom isSpaceOrTab next.column next.rest next.line [])
            quotedFrom double fuel (pointsBack (breaks.drop 1) ++ text) next
          else do
            let (meant,count) ← escape rest
            quotedFrom double fuel (meant :: text) (cursor.past (1 + count))
        else quotedFrom double fuel (c.toNat :: text) (cursor.past 1)
      else if c = '\x27' then
        if rest.head? = some '\x27' then quotedFrom double fuel (c.toNat :: text) (cursor.past 2)
        else .ok (text.reverse,cursor.past 1)
      else quotedFrom double fuel (c.toNat :: text) (cursor.past 1)

def textOf (points : List Nat) : Scalar Float :=
  if points.all (·.isValidChar) then .text (String.ofList (points.map Char.ofNat)) else .codes points

def quoted (double : Bool) (cursor : Cursor) : Except Fault (Node × Cursor) :=
  (quotedFrom double (cursor.rest.length + 1) [] (cursor.past 1)).map fun (points,next) =>
    (.leaf (.scalar (textOf points)),next)

def unexpected {α : Type} (cursor : Cursor) : Except Fault α :=
  match cursor.rest with
  | '\x22' :: _ => do
    let _ ← quoted true cursor
    malformed
  | _ => malformed

def plainNode (flow : Bool) (indent : Nat) (cursor : Cursor) : Node × Cursor :=
  let (text,next) := plain flow indent cursor
  (.leaf (resolve text),next)

def longestKey : Nat := 1024

def canBeKey (start finish : Cursor) : Bool :=
  start.line == finish.line && start.rest.length - finish.rest.length ≤ longestKey

-- Brackets and braces: layout means nothing inside them.
mutual
def flowNode : Nat → Cursor → Except Fault (Node × Cursor)
  | 0,_ => malformed
  | fuel + 1,cursor =>
    if cursor.stops then malformed else
    match cursor.rest with
    | '[' :: _ => flowItems fuel [] (cursor.past 1).skip
    | '\x7b' :: _ => flowEntries fuel [] (cursor.past 1).skip
    | '\x22' :: _ => quoted true cursor
    | '\x27' :: _ => quoted false cursor
    | rest => if startsPlain true rest then .ok (plainNode true 0 cursor) else malformed

-- A value may be left out before a comma or the end.
def flowValue : Nat → Cursor → Except Fault (Node × Cursor)
  | 0,_ => malformed
  | fuel + 1,cursor =>
    match cursor.rest with
    | ',' :: _ | ']' :: _ | '\x7d' :: _ => .ok (.empty,cursor)
    | _ => flowNode fuel cursor

-- In a list a key and its value make a mapping of one entry.
def flowItems : Nat → List Node → Cursor → Except Fault (Node × Cursor)
  | 0,_,_ => malformed
  | fuel + 1,items,cursor =>
    match cursor.rest with
    | ']' :: _ => .ok (.list items.reverse,cursor.past 1)
    | _ => do
      let (item,next) ← flowNode fuel cursor
      let next := next.skip
      let (item,next) ← match next.rest with
        | ':' :: _ =>
          if canBeKey cursor next then do
            let (value,next) ← flowValue fuel (next.past 1).skip
            .ok (Node.ofEntries [(item,value)],next.skip)
          else malformed
        | _ => .ok (item,next)
      match next.rest with
      | ',' :: _ => flowItems fuel (item :: items) (next.past 1).skip
      | ']' :: _ => .ok (.list (item :: items).reverse,next.past 1)
      | _ => unexpected next

def flowEntries : Nat → List (Node × Node) → Cursor → Except Fault (Node × Cursor)
  | 0,_,_ => malformed
  | fuel + 1,entries,cursor =>
    match cursor.rest with
    | '\x7d' :: _ => .ok (.ofEntries entries.reverse,cursor.past 1)
    | _ => do
      let (key,next) ← flowNode fuel cursor
      let next := next.skip
      let (value,next) ← match next.rest with
        | ':' :: _ =>
          if canBeKey cursor next then do
            let (value,next) ← flowValue fuel (next.past 1).skip
            .ok (value,next.skip)
          else malformed
        | _ => .ok (Node.empty,next)
      let entries := (key,value) :: entries
      match next.rest with
      | ',' :: _ => flowEntries fuel entries (next.past 1).skip
      | '\x7d' :: _ => .ok (.ofEntries entries.reverse,next.past 1)
      | _ => unexpected next
end

-- Whatever can stand within a line of a block; `indent` is what further lines of it need.
def inlineNode (indent : Nat) (cursor : Cursor) : Except Fault (Node × Cursor) :=
  match cursor.rest with
  | '[' :: _ | '\x7b' :: _ | '\x22' :: _ | '\x27' :: _ => flowNode (2 * cursor.rest.length + 2) cursor
  | rest => if startsPlain false rest then .ok (plainNode false indent cursor) else malformed

end PitWall.Outline

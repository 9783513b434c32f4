import PitWall.Session

namespace PitWall
open CommandLine Location

def isDirectoryCode : UInt32 := 21
def tooLongCode : UInt32 := 36

def isCode (expected code : UInt32) : Bool := code == expected || code == 0 - expected

-- Any other trouble with a file is left to the runtime.
def lookUp (path : String) : IO Found := do
  if !isPath path then return .absent
  match ← (IO.FS.readBinFile (normal path)).toBaseIO with
  | .ok content => return .file content.toList
  | .error (.noFileOrDirectory ..) => return .absent
  | .error (.inappropriateType _ code _) => return if isCode isDirectoryCode code then .directory else .notDirectory
  | .error problem@(.invalidArgument _ code _) => if isCode tooLongCode code then return .tooLong else throw problem
  | .error problem => throw problem

-- Everything a request asks for is fetched before the session starts.
def surroundingsOf (request : Request) : IO Surroundings := do
  let found ← request.paths.mapM fun path => return (path,← lookUp path)
  let input ← if request.readsInput then (← IO.getStdin).readBinToEnd else pure .empty
  return ⟨input.toList,fun path => (found.lookup path).getD .absent⟩

def emitLog (level : Level) (log : List LogRecord) : IO Unit :=
  (log.filter fun record => level.rank ≤ record.level.rank).forM fun record =>
    IO.eprintln record.text

def finish : Ending → IO UInt32
  | .exit code complaint => do
    IO.eprint complaint
    return code.toUInt32
  | .breakdown cause => do
    IO.eprintln cause.message
    return 1

end PitWall

open PitWall CommandLine in
def main (arguments : List String) : IO UInt32 := do
  match Request.of arguments with
  | none =>
    if asksForHelp arguments then IO.println usage else IO.eprintln usage
    return if asksForHelp arguments then 0 else 2
  | some request =>
    let session := Session.of (← surroundingsOf request) request
    IO.print session.output
    emitLog request.level session.log
    finish session.ending

import PitWall.CommandLine
import PitWall.Report
import PitWall.Tables.File
import PitWall.Tables.Standard

namespace PitWall
open CommandLine Location

structure Surroundings where
  input : List UInt8
  find : String → Found

inductive Breakdown where
  | tables (fault : Tables.FileFault)
  | undecodable (found : Text.Undecodable)
  | nullInPath
  | race (fault : Fault)

def Breakdown.message : Breakdown → String
  | .tables fault => fault.message
  | .undecodable found => found.message
  | .nullInPath => "embedded null byte"
  | .race fault => fault.message

-- Zero for a race, one for a rejected sheet, two for a sheet that cannot be read; or a breakdown.
inductive Ending where
  | exit (code : Nat) (complaint : String)
  | breakdown (cause : Breakdown)

structure Session where
  output : String
  log : List LogRecord
  ending : Ending

namespace Session

inductive SourceFault where
  | unreadable (reason : String)
  | undecodable (found : Text.Undecodable)
  | nullInPath

def decoded (content : List UInt8) : Except SourceFault String :=
  match Text.decode content with
  | .ok text => .ok (String.ofList (Text.unifyNewlines text))
  | .error found => .error (.undecodable found)

def contentOf : Found → Except SourceFault (List UInt8)
  | .file content => .ok content
  | .absent => .error (.unreadable "No such file or directory")
  | .directory => .error (.unreadable "Is a directory")
  | .notDirectory => .error (.unreadable "Not a directory")
  | .tooLong => .error (.unreadable "File name too long")

def sheetText (surroundings : Surroundings) (request : Request) : Except SourceFault String :=
  match request.exampleSheet.bind Handbook.named? with
  | some text => .ok text
  | none =>
    if request.source = standardInput then decoded surroundings.input
    else if !isPath request.source then .error .nullInPath
    else do decoded (← contentOf (surroundings.find request.source))

def tablesOf (surroundings : Surroundings) (request : Request) : Except Tables.FileFault (Tables Float) :=
  match request.tables with
  | none => .ok .standard
  | some path => Tables.standard.load path (surroundings.find path)

def tablesLog (request : Request) : List LogRecord :=
  (request.tables.map fun path => LogRecord.ofTables (normal path)).toList

def run (text : String) (tables : Tables Float) (log : List LogRecord) : Session :=
  match Run.of text tables with
  | .error fault =>
    ⟨Report.text Report.banner,log ++ LogRecord.ofReading (Sheet.read text),.breakdown (.race fault)⟩
  | .ok run =>
    ⟨Report.text (Report.banner ++ Report.ofRun run),log ++ LogRecord.ofRun run,
      .exit (if run.raced then 0 else 1) ""⟩

-- The tables come first, before a word is printed; then the sheet.
def of (surroundings : Surroundings) (request : Request) : Session :=
  match tablesOf surroundings request with
  | .error fault => ⟨"",[],.breakdown (.tables fault)⟩
  | .ok tables =>
    let log := tablesLog request
    match sheetText surroundings request with
    | .ok text => run text tables log
    | .error (.unreadable reason) => ⟨Report.text Report.banner,log,
        .exit 2 s!"error: cannot read {request.source}: {reason}\n"⟩
    | .error (.undecodable found) => ⟨Report.text Report.banner,log,.breakdown (.undecodable found)⟩
    | .error .nullInPath => ⟨Report.text Report.banner,log,.breakdown .nullInPath⟩

end Session
end PitWall

import PitWall.Run
import PitWall.Text.Quoted

namespace PitWall

inductive Level where
  | debug | info | warning | error
deriving DecidableEq

instance : Vocabulary Level where
  all := [.debug, .info, .warning, .error]
  spelling
    | .debug => "DEBUG" | .info => "INFO" | .warning => "WARNING" | .error => "ERROR"

def Level.rank : Level → Nat
  | .debug => 0 | .info => 1 | .warning => 2 | .error => 3

inductive Channel where
  | sheet | run | simulation | tables
deriving DecidableEq

def Channel.name : Channel → String
  | .sheet => "race_strategy.dsl.parser"
  | .run => "race_strategy.pipeline"
  | .simulation => "race_strategy.core.simulation"
  | .tables => "race_strategy.config"

structure LogRecord where
  level : Level
  channel : Channel
  message : String
deriving DecidableEq

namespace LogRecord

def text (record : LogRecord) : String :=
  " | ".intercalate [Vocabulary.spelling record.level,record.channel.name,record.message]

def truth (value : Bool) : String := if value then "True" else "False"

def ofMark (mark : Sheet.Mark) : LogRecord :=
  ⟨.debug,.sheet,Vocabulary.spelling mark.place
    ++ s!" section done, cursor at line {mark.cursor}, {mark.diagnostics} diagnostics so far"⟩

def ofIgnored (line : Sheet.Line) : LogRecord :=
  ⟨.warning,.sheet,s!"Ignoring unrecognised content from line {line.number}: "
    ++ String.ofList (Text.quoted line.text)⟩

def ofReading (reading : Sheet.Reading) : List LogRecord :=
  let success := truth reading.accepted
  let problems := reading.diagnostics.length
  let warnings := reading.warnings.length
  reading.marks.map ofMark ++ (reading.ignored.map ofIgnored).toList
    ++ [⟨.info,.sheet,s!"Parsed strategy DSL: success={success} diagnostics={problems} warnings={warnings}"⟩]

def ofStop (stop : Simulation.PitStop Float) : LogRecord :=
  ⟨.debug,.simulation,s!"Lap {stop.lap}: pit stop onto " ++ Vocabulary.spelling stop.onto
    ++ " (" ++ String.ofList ((Decimal.fixed 2).write stop.loss) ++ " s)"⟩

def ofOutcome (outcome : Simulation.Outcome Float) : List LogRecord :=
  let laps := outcome.laps.length
  let advisories := outcome.advisories.length
  outcome.stops.map ofStop
    ++ [⟨.info,.simulation,s!"Simulated {laps} laps of " ++ outcome.race.trackName
      ++ s!": P{outcome.car.start} -> P{outcome.predictedFinish} ({advisories} warnings)"⟩]

def ofRun (run : Run) : List LogRecord :=
  ofReading run.reading ++ match run.outcome with
    | some outcome => ofOutcome outcome
    | none =>
      let problems := run.reading.diagnostics.length
      [⟨.info,.run,s!"Strategy rejected with {problems} diagnostics"⟩]

def ofTables (path : String) : LogRecord := ⟨.info,.tables,"Loaded domain tables from " ++ path⟩

end LogRecord
end PitWall

/-
DispatchGen/Log/Event.lean

What a run tells its log, as things that happened.  Each event has a level, the
component that tells it, a message and named values.
-/
import DispatchGen.Issue
import DispatchGen.Record

namespace DispatchGen.Log

/-- How much an event matters, the most important first. -/
inductive Level where
  | error
  | warn
  | info
  | debug
  | trace
deriving DecidableEq, Repr

namespace Level

def name : Level → String
  | error => "error"
  | warn => "warn"
  | info => "info"
  | debug => "debug"
  | trace => "trace"

/-- The name in capitals, as log lines show it. -/
def shout : Level → String
  | error => "ERROR"
  | warn => "WARN"
  | info => "INFO"
  | debug => "DEBUG"
  | trace => "TRACE"

/-- The place in the order of importance. -/
def rank : Level → Nat
  | error => 1
  | warn => 2
  | info => 3
  | debug => 4
  | trace => 5

/-- The next level down, which lets more events through. -/
def next : Level → Level
  | error => warn
  | warn => info
  | info => debug
  | debug => trace
  | trace => trace

def all : List Level := [error, warn, info, debug, trace]

/-- The level with the given name, in letters of either case. -/
def ofName? (name : String) : Option Level := all.find? (·.name = name.map Char.toLower)

end Level

/-- A value in a log line. -/
inductive FieldValue where
  | text (s : String)
  | number (n : Nat)
deriving DecidableEq, Repr

def FieldValue.shown : FieldValue → String
  | text s => s
  | number n => toString n

inductive Event where
  /-- The extractor warned about a marker or a file. -/
  | issueRaised (i : Issue)
  | decoratorIgnored (name : String)
  | fileScanned (file : Path) (classes routes tasks : Nat)
  /-- The scan met the file that is to be generated. -/
  | outputSkipped (file : Path)
  | targetDisabled (target : Pipeline)
  | sourceDirMissing (target : Pipeline) (directory : Path)
  | moduleGenerated (target : Pipeline) (records files : Nat) (output : Path)
  | targetFailed (target : Pipeline) (error : String)
deriving DecidableEq, Repr

namespace Event

def level : Event → Level
  | issueRaised _ => .warn
  | decoratorIgnored _ => .trace
  | fileScanned _ _ _ _ => .debug
  | outputSkipped _ => .debug
  | targetDisabled _ => .debug
  | sourceDirMissing _ _ => .warn
  | moduleGenerated _ _ _ _ => .info
  | targetFailed _ _ => .error

/-- The component that tells the event; a log filter selects by it. -/
def component : Event → String
  | issueRaised _ => "edgeroute::extract"
  | decoratorIgnored _ => "edgeroute::extract::marker"
  | outputSkipped _ => "edgeroute::scanner"
  | _ => "edgeroute::generator::project"

def message : Event → String
  | issueRaised i => i.message
  | decoratorIgnored _ => "Ignoring unknown decorator"
  | fileScanned _ _ _ _ => "Scanned source file"
  | outputSkipped _ => "Skipping generated output"
  | targetDisabled _ => "Target disabled"
  | sourceDirMissing _ _ => "Source directory missing"
  | moduleGenerated _ _ _ _ => "Generated dispatch module"
  | targetFailed _ _ => "Target failed"

/-- The named values, in the order a log line shows them. -/
def fields : Event → List (String × FieldValue)
  | issueRaised i => [("kind", .text i.kind), ("location", .text i.location)]
  | decoratorIgnored name => [("decorator", .text name)]
  | fileScanned file classes routes tasks =>
      [("file", .text file.text), ("classes", .number classes), ("routes", .number routes),
        ("tasks", .number tasks)]
  | outputSkipped file => [("path", .text file.text)]
  | targetDisabled target => [("target_kind", .text target.name)]
  | sourceDirMissing target directory =>
      [("target_kind", .text target.name), ("source_dir", .text directory.text)]
  | moduleGenerated target records files output =>
      [("target_kind", .text target.name), ("records", .number records),
        ("files", .number files), ("output", .text output.text)]
  | targetFailed target error => [("target_kind", .text target.name), ("error", .text error)]

end Event

end DispatchGen.Log

/-
DispatchGen/Record.lean

The vocabulary of dispatch: the two pipelines, the verbs, and the records that
end up as one branch each in a generated module.
-/
import DispatchGen.Path

namespace DispatchGen

/-- Which generated module a record feeds. -/
inductive Pipeline where
  /-- Routes registered on a router. -/
  | http
  /-- Consumers dispatched by queue name. -/
  | queue
deriving DecidableEq, Repr, Inhabited

namespace Pipeline

def name : Pipeline → String
  | http => "http"
  | queue => "queue"

/-- Both pipelines, in generation order. -/
def all : List Pipeline := [http, queue]

end Pipeline

/-- The verbs a route marker can name. -/
inductive Verb where
  | get
  | post
  | put
  | delete
  | all
deriving DecidableEq, Repr, Inhabited

namespace Verb

/-- The lowercase name, which is also the method that registers the route. -/
def name : Verb → String
  | get => "get"
  | post => "post"
  | put => "put"
  | delete => "delete"
  | all => "all"

/-- The name in capitals, as reports show it. -/
def shout : Verb → String
  | get => "GET"
  | post => "POST"
  | put => "PUT"
  | delete => "DELETE"
  | all => "ALL"

/-- The verb with the given lowercase name. -/
def ofName? : String → Option Verb
  | "get" => some get
  | "post" => some post
  | "put" => some put
  | "delete" => some delete
  | "all" => some all
  | _ => none

theorem ofName?_name (v : Verb) : ofName? v.name = some v := by
  cases v <;> rfl

end Verb

/-- Where a record was declared: a module file and a line counted from one. -/
structure Location where
  file : Path
  line : Nat
deriving DecidableEq, Repr, Inhabited

def Location.text (l : Location) : String := l.file.text ++ ":" ++ toString l.line

/-- One verb marker on a method. -/
structure Route where
  verb : Verb
  pattern : String
  handler : String
  controller : String
  location : Location
deriving DecidableEq, Repr, Inhabited

/-- The `Class.method` label of reports. -/
def Route.site (r : Route) : String := r.controller ++ "." ++ r.handler

/-- One consumer marker on a method. -/
structure Task where
  queue : String
  method : String
  consumer : String
  isBatch : Bool
  location : Location
deriving DecidableEq, Repr, Inhabited

/-- The `Class.method` label of reports. -/
def Task.site (t : Task) : String := t.consumer ++ "." ++ t.method

/-- A class that carries the marker its pipeline asks for. -/
structure MarkedClass where
  name : String
  module : Path
  /-- Declared as `export default class`, hence imported without braces. -/
  isDefault : Bool
deriving DecidableEq, Repr, Inhabited

end DispatchGen

/-
DispatchGen/Command/Listing.lean

The records of the targets, listed for people or as JSON.
-/
import DispatchGen.Table
import DispatchGen.Text.Json

namespace DispatchGen.Command

/-- The text, with blanks after it up to a width in characters. -/
def padded (width : Nat) (s : String) : String :=
  s ++ String.ofList (List.replicate (width - s.length) ' ')

/-! ### For people -/

def routeLine (r : Route) : String :=
  "   " ++ padded 7 r.verb.shout ++ " " ++ padded 40 r.pattern ++ " → " ++ r.site ++ " (" ++
    r.location.text ++ ")"

def taskLine (t : Task) : String :=
  "   " ++ padded 24 t.queue ++ " " ++ padded 8 (if t.isBatch then "batch" else "message") ++
    " → " ++ t.site ++ " (" ++ t.location.text ++ ")"

/-- The records of one target under their title. -/
def listingLines : Pipeline × Table → List String
  | (.http, t) =>
      ("🌐 HTTP routes (" ++ toString t.routes.length ++ "):") :: t.routes.map routeLine
  | (.queue, t) =>
      ("📬 Queue consumers (" ++ toString t.tasks.length ++ "):") :: t.tasks.map taskLine

/-! ### As JSON

A file is named by its path as a text there, not as it is displayed, so there is no such listing
if one of the paths is no text. -/

def locationJson? (l : Location) : Option Text.Json := do
  let file ← l.file.raw.toText?
  return .object [("file", .string file), ("line", .number l.line)]

def routeJson? (r : Route) : Option Text.Json := do
  let location ← locationJson? r.location
  return .object [("method", .string r.verb.name), ("path", .string r.pattern),
    ("handler_name", .string r.handler), ("controller_name", .string r.controller),
    ("location", location)]

def taskJson? (t : Task) : Option Text.Json := do
  let location ← locationJson? t.location
  return .object [("queue_name", .string t.queue), ("method_name", .string t.method),
    ("class_name", .string t.consumer), ("is_batch", .boolean t.isBatch),
    ("location", location)]

/-- The records of one target under its name. -/
def listingMember? : Pipeline × Table → Option (String × Text.Json)
  | (.http, t) => do return (Pipeline.http.name, .array (← t.routes.mapM routeJson?))
  | (.queue, t) => do return (Pipeline.queue.name, .array (← t.tasks.mapM taskJson?))

def listingJson? (tables : List (Pipeline × Table)) : Option Text.Json := do
  return .object (← tables.mapM listingMember?)

end DispatchGen.Command

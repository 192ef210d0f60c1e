/-
DispatchGen/Log/Line.lean

The text of a log line in each format.
-/
import DispatchGen.Log.Settings
import DispatchGen.Text.Json

namespace DispatchGen.Log

/-- A character of a message as a terminal may be shown it: characters that
start or make up control sequences are written as escapes. -/
def calmChar (c : Char) : List Char :=
  let n := c.toNat
  if n = 0x1b || n = 0x07 || n = 0x08 || n = 0x0c || n = 0x7f then
    ['\\', 'x'] ++ (if n < 0x10 then ['0'] else []) ++ Text.hexText n
  else if 0x80 ≤ n && n ≤ 0x9f then ['\\', 'u', '\x7b'] ++ Text.hexText n ++ ['\x7d']
  else [c]

def calm (s : String) : String := String.ofList (s.toList.flatMap calmChar)

namespace Event

def compactText (e : Event) : String :=
  e.level.shout ++ " " ++ calm e.message ++
    String.join (e.fields.map fun (name, v) => " " ++ name ++ "=" ++ v.shown)

def prettyText (e : Event) : String :=
  "  " ++ e.level.shout ++ " " ++ e.component ++ ": " ++ calm e.message ++
    String.join (e.fields.map fun (name, v) => ", " ++ name ++ ": " ++ v.shown) ++ "\n"

/-- An event as an object.  Events are told by a component as a whole: with
locations, the component is the file, and the line is its first. -/
def json (includeLocation : Bool) (e : Event) : Text.Json :=
  let field := fun (v : FieldValue) =>
    match v with
    | .text s => Text.Json.string s
    | .number n => .number n
  .object <|
    [("level", .string e.level.shout),
      ("fields", .object (("message", .string e.message) ::
        e.fields.map fun (name, v) => (name, field v))),
      ("target", .string e.component)] ++
    (if includeLocation then [("filename", .string e.component), ("line_number", .number 1)]
      else [])

/-- The line or lines that the settings make of an event. -/
def text (s : Settings) (e : Event) : String :=
  match s.format with
  | .compact => e.compactText
  | .pretty => e.prettyText
  | .json => (e.json s.includeLocation).compact

end Event

end DispatchGen.Log

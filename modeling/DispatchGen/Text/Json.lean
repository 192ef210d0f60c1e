/-
DispatchGen/Text/Json.lean

JSON text, on one line or indented.
-/
import DispatchGen.Text.Hex

namespace DispatchGen.Text

inductive Json where
  | string (s : String)
  | number (n : Nat)
  | boolean (b : Bool)
  | array (items : List Json)
  /-- Members in the order they are written. -/
  | object (members : List (String × Json))

namespace Json

/-- A character inside a string. -/
def escapeChar (c : Char) : List Char :=
  if c = '"' || c = '\\' then ['\\', c]
  else if c = '\n' then ['\\', 'n']
  else if c = '\r' then ['\\', 'r']
  else if c = '\t' then ['\\', 't']
  else if c = '\x08' then ['\\', 'b']
  else if c = '\x0c' then ['\\', 'f']
  else if c.toNat < 0x20 then
    ['\\', 'u', '0', '0'] ++ (if c.toNat < 0x10 then ['0'] else []) ++ hexText c.toNat
  else [c]

def stringText (s : String) : String :=
  String.ofList ('"' :: s.toList.flatMap escapeChar ++ ['"'])

/-- `open`, the items between commas, and `close`; each item on a line of its
own, two spaces further in than `indent`. -/
def block (indent : String) (opening closing : String) (items : List String) : String :=
  if items.isEmpty then opening ++ closing
  else
    opening ++ String.intercalate "," (items.map fun item => "\n" ++ indent ++ "  " ++ item) ++
      "\n" ++ indent ++ closing

mutual

/-- The value on one line. -/
def compact : Json → String
  | string s => stringText s
  | number n => toString n
  | boolean b => toString b
  | array items => "[" ++ String.intercalate "," (compactItems items) ++ "]"
  | object members => "\x7b" ++ String.intercalate "," (compactMembers members) ++ "\x7d"

def compactItems : List Json → List String
  | [] => []
  | item :: rest => item.compact :: compactItems rest

def compactMembers : List (String × Json) → List String
  | [] => []
  | (key, v) :: rest => (stringText key ++ ":" ++ v.compact) :: compactMembers rest

end

mutual

/-- The value with one item a line; lines after the first start with
`indent`. -/
def pretty (indent : String) : Json → String
  | string s => stringText s
  | number n => toString n
  | boolean b => toString b
  | array items => block indent "[" "]" (prettyItems (indent ++ "  ") items)
  | object members => block indent "\x7b" "\x7d" (prettyMembers (indent ++ "  ") members)

def prettyItems (indent : String) : List Json → List String
  | [] => []
  | item :: rest => item.pretty indent :: prettyItems indent rest

def prettyMembers (indent : String) : List (String × Json) → List String
  | [] => []
  | (key, v) :: rest => (stringText key ++ ": " ++ v.pretty indent) :: prettyMembers indent rest

end

end Json

end DispatchGen.Text

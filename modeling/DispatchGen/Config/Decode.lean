/-
DispatchGen/Config/Decode.lean

From a document to a configuration.

A structure is described by its fields in order, each with the way its value is
read; a document overrides the defaults field by field.  A field that the
structure does not have is an error, and so is a value of the wrong type.  A
structure may also be written as an array of its field values in order.
-/
import DispatchGen.Config
import DispatchGen.Text.Shown
import DispatchGen.Toml.Document

namespace DispatchGen.Config

open Toml

/-- Why a document is no configuration. -/
inductive DecodeError where
  | unknownField (name : String) (expected : List String)
  | missingField (name : String)
  | invalidType (found expected : String)
  | tooShort (length : Nat) (expected : String)
deriving DecidableEq, Repr

/-- Why a text is no configuration. -/
inductive Error where
  /-- It is no document at all. -/
  | notADocument
  | decode (cause : DecodeError)
deriving DecidableEq, Repr

/-- Names a message offers as alternatives. -/
def offered : List String → String
  | [] => "there are no fields"
  | [a] => "expected `" ++ a ++ "`"
  | [a, b] => "expected `" ++ a ++ "` or `" ++ b ++ "`"
  | names => "expected one of " ++ String.intercalate ", " (names.map fun n => "`" ++ n ++ "`")

def DecodeError.message : DecodeError → String
  | unknownField name expected => "unknown field `" ++ name ++ "`, " ++ offered expected
  | missingField name => "missing field `" ++ name ++ "`"
  | invalidType found expected => "invalid type: " ++ found ++ ", expected " ++ expected
  | tooShort length expected => "invalid length " ++ toString length ++ ", expected " ++ expected

def Error.message : Error → String
  | notADocument => "the text is not a TOML document"
  | decode cause => cause.message

/-- The width that a message names for an integer too wide for 64 bits. -/
def widthNote (n : Int) : String :=
  let below := fun (bits : Nat) => n.natAbs < Nat.pow 2 bits
  let least := fun (bits : Nat) => n < 0 && n.natAbs = Nat.pow 2 bits
  if below 63 || least 63 || (n > 0 && below 64) then ""
  else if below 127 || least 127 then " as i128"
  else " as u128"

/-- What a message calls a value. -/
def found : Value → String
  | .string s => "string " ++ Text.showValue s
  | .integer n => "integer `" ++ toString n ++ "`" ++ widthNote n
  | .float shown => "floating point `" ++ shown ++ "`"
  | .boolean b => "boolean `" ++ toString b ++ "`"
  | .date => "map"
  | .array _ => "sequence"
  | .table _ => "map"

abbrev Decoder (α : Type) := Value → Except DecodeError α

/-! ### Single values -/

def boolean : Decoder Bool
  | .boolean b => .ok b
  | v => .error (.invalidType (found v) "a boolean")

def string : Decoder String
  | .string s => .ok s
  | v => .error (.invalidType (found v) "a string")

def path : Decoder Path
  | .string s => .ok ⟨s⟩
  | v => .error (.invalidType (found v) "path string")

/-- The elements of an array, in order. -/
def list {α : Type} (element : Decoder α) : Decoder (List α)
  | .array items => items.mapM element
  | v => .error (.invalidType (found v) "a sequence")

/-! ### Structures -/

/-- A field of a structure `σ` under construction: its name, and how a value
sets it. -/
structure Setting (σ : Type) where
  name : String
  set : Value → σ → Except DecodeError σ

/-- The setting that stores what a decoder reads. -/
def Setting.of {σ α : Type} (name : String) (decoder : Decoder α) (store : α → σ → σ) :
    Setting σ where
  name
  set v s := (decoder v).map fun a => store a s

/-- Set the fields that a table mentions. -/
def setFields {σ : Type} (settings : List (Setting σ)) (start : σ) :
    List (String × Value) → Except DecodeError σ
  | [] => .ok start
  | (key, v) :: rest =>
      match settings.find? (·.name = key) with
      | none => .error (.unknownField key (settings.map (·.name)))
      | some setting => do setFields settings (← setting.set v start) rest

/-- Set the fields in order from the elements of an array, as far as they go. -/
def setInOrder {σ : Type} : List (Setting σ) → List Value → σ → Except DecodeError σ
  | setting :: settings, v :: vs, s => do setInOrder settings vs (← setting.set v s)
  | _, _, s => .ok s

/-- A structure that overrides the defaults `start`. -/
def overriding {σ : Type} (label : String) (settings : List (Setting σ)) (start : σ) : Decoder σ
  | .table entries => setFields settings start entries
  | .array items => setInOrder settings items start
  | v => .error (.invalidType (found v) label)

/-! ### The configuration -/

/-- A middleware entry under construction: both fields must be given. -/
structure PartialMiddleware where
  name : Option String := none
  path : Option Path := none

def middlewareSettings : List (Setting PartialMiddleware) := [
  .of "name" string fun name m => { m with name := some name },
  .of "path" path fun path m => { m with path := some path }]

def middleware (v : Value) : Except DecodeError Middleware := do
  let m ← overriding "struct MiddlewareImport" middlewareSettings {} v
  let missing := fun (name : String) (position : Nat) =>
    match v with
    | .array _ => DecodeError.tooShort position "struct MiddlewareImport with 2 elements"
    | _ => .missingField name
  match m.name, m.path with
  | some name, some path => return ⟨name, path⟩
  | none, _ => throw (missing "name" 0)
  | _, none => throw (missing "path" 1)

def httpSettings : List (Setting HttpTarget) := [
  .of "enabled" boolean fun enabled t => { t with enabled },
  .of "source_dir" path fun sourceDir t => { t with sourceDir },
  .of "output" path fun output t => { t with output },
  .of "router_package" string fun routerPackage t => { t with routerPackage },
  .of "container_package" string fun containerPackage t => { t with containerPackage },
  .of "container_type" string fun containerType t => { t with containerType },
  .of "health_path" string fun healthPath t => { t with healthPath },
  .of "middleware" (list middleware) fun middleware t => { t with middleware }]

def queueSettings : List (Setting QueueTarget) := [
  .of "enabled" boolean fun enabled t => { t with enabled },
  .of "source_dir" path fun sourceDir t => { t with sourceDir },
  .of "output" path fun output t => { t with output },
  .of "container_package" string fun containerPackage t => { t with containerPackage },
  .of "container_type" string fun containerType t => { t with containerType },
  .of "env_type" string fun envType t => { t with envType },
  .of "env_module" path fun envModule t => { t with envModule := some envModule }]

def settings : List (Setting Config) := [
  .of "extensions" (list string) fun extensions c => { c with extensions },
  .of "exclude" (list string) fun exclude c => { c with exclude },
  .of "http" (overriding "struct HttpTargetConfig" httpSettings {}) fun http c => { c with http },
  .of "queue" (overriding "struct QueueTargetConfig" queueSettings {})
    fun queue c => { c with queue }]

/-- The configuration that a document describes. -/
def decode : Decoder Config := overriding "struct GeneratorConfig" settings {}

/-- The configuration that a text describes. -/
def ofText (text : String) : Except Error Config :=
  match Toml.read? text with
  | none => .error .notADocument
  | some document =>
      match decode document with
      | .ok c => .ok c
      | .error cause => .error (.decode cause)

end DispatchGen.Config

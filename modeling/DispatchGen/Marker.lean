/-
DispatchGen/Marker.lean

The closed set of decorators that mean something to dispatch.

`Controller`, `BasePath` and `Consumer` are matched exactly, verbs in any
letter case.  A decorator names its marker by an identifier, by the last
segment of a member chain, or by a call of either.
-/
import DispatchGen.Record
import DispatchGen.Syntax.Node

namespace DispatchGen

open Syntax

inductive MarkerKind where
  /-- `@Controller(path)` on a class. -/
  | controller
  /-- `@BasePath(path)` on a class. -/
  | basePath
  /-- `@Get(path)`, `@Post(path)` and so on, on a method. -/
  | route (verb : Verb)
  /-- `@Consumer(options)` on a method, or bare on a class. -/
  | consumer
deriving DecidableEq, Repr

namespace MarkerKind

/-- The verb a marker name spells in any letter case. -/
def verb? (name : String) : Option Verb :=
  Verb.ofName? (String.ofList (name.toList.map Char.toLower))

def ofName? (name : String) : Option MarkerKind :=
  if name = "Controller" then some controller
  else if name = "BasePath" then some basePath
  else if name = "Consumer" then some consumer
  else (verb? name).map route

end MarkerKind

/-- A decorator that is a marker. -/
structure Marker where
  kind : MarkerKind
  /-- The name as written, for reports. -/
  name : String
  /-- The arguments of the call; none for a bare decorator. -/
  args : List Node
  /-- The line of the decorator. -/
  line : Nat
deriving Repr

/-- The last segment of an identifier or member chain. -/
def calleeName? (n : Node) : Option String :=
  match n.kind with
  | .identifier => some n.text
  | .memberExpression => (n.child? .property).map (·.text)
  | _ => none

/-- The name a decorator carries and its call arguments. -/
def decoratorCall? (decorator : Node) : Option (String × List Node) :=
  match decorator.contents with
  | [] => none
  | e :: _ =>
      if e.kind = .callExpression then do
        let name ← calleeName? (← e.child? .function)
        let args := match e.child? .arguments with
          | some list => list.contents
          | none => []
        return (name, args)
      else do
        return (← calleeName? e, [])

/-- The marker a decorator is. -/
def marker? (decorator : Node) : Option Marker := do
  let (name, args) ← decoratorCall? decorator
  let kind ← MarkerKind.ofName? name
  return { kind, name, args, line := decorator.line }

/-- The name of a decorator that has one and is no marker. -/
def unknownName? (decorator : Node) : Option String :=
  match decoratorCall? decorator with
  | some (name, _) => if (MarkerKind.ofName? name).isSome then none else some name
  | none => none

end DispatchGen

/-
DispatchGen/Command/Options.lean

The options of a command line, read word by word.

An option is written `--name`, `--name=value`, `-n`, `-nvalue` or `-n=value`,
and several one-letter flags may share a dash.  A word that starts with a dash
is never the value of the option before it, unless it is a dash alone.  The
values of an option are complete when the next option starts or the words end;
only then are they checked.  After `--` there are no options.
-/
import DispatchGen.Command.Invocation
import DispatchGen.Path

namespace DispatchGen.Command

/-- What an option takes. -/
inductive Arity where
  /-- Nothing; giving it again counts. -/
  | count
  /-- Nothing; given once. -/
  | flag
  /-- One value, not empty; given once. -/
  | single
  /-- At least one value out of `choices`, several to a word between commas. -/
  | many (choices : List String)
  /-- Nothing; it ends the reading. -/
  | stop (reason : UsageError)
deriving DecidableEq, Repr

structure Opt where
  name : String
  letter : Option Char := none
  arity : Arity
deriving DecidableEq, Repr

namespace Opt

def takesValue (o : Opt) : Bool :=
  match o.arity with
  | .single | .many _ => true
  | _ => false

/-- Whether the option takes another value when it has `values`. -/
def takesMore (o : Opt) (values : List String) : Bool :=
  match o.arity with
  | .single => values.isEmpty
  | .many _ => true
  | _ => false

end Opt

/-- The options read so far. -/
structure Reading where
  /-- Each time an option was given, with its values; the latest first. -/
  given : List (String × List String) := []
  /-- An option whose values may go on, and its values in order. -/
  pending : Option (Opt × List String) := none
deriving Repr

namespace Reading

/-- Whether an option was given. -/
def has (r : Reading) (name : String) : Bool := r.given.any (·.1 = name)

/-- How often an option was given. -/
def times (r : Reading) (name : String) : Nat := (r.given.filter (·.1 = name)).length

/-- All values of an option, in order. -/
def values (r : Reading) (name : String) : List String :=
  (r.given.reverse.filter (·.1 = name)).flatMap (·.2)

/-- Take an option with its values into account. -/
def accept (r : Reading) (o : Opt) (values : List String) : Except UsageError Reading :=
  let accepted := fun (vs : List String) => { r with given := (o.name, vs) :: r.given }
  match o.arity with
  | .count => .ok (accepted [])
  | .flag => if r.has o.name then .error .givenTwice else .ok (accepted [])
  | .stop reason => .error reason
  | .single =>
      if values.isEmpty then .error .invalidValue
      else if r.has o.name then .error .givenTwice
      else if values.contains "" then .error .invalidValue
      else .ok (accepted values)
  | .many choices =>
      let pieces := values.flatMap fun v => (Path.splitPieces ',' v.toList).map String.ofList
      if pieces.isEmpty || !pieces.all choices.contains then .error .invalidValue
      else .ok (accepted pieces)

/-- Complete the pending option. -/
def settle (r : Reading) : Except UsageError Reading :=
  match r.pending with
  | none => .ok r
  | some (o, values) => accept { r with pending := none } o values

/-- Start an option, to which `attached` may be attached. -/
def start (r : Reading) (o : Opt) (attached : Option String) : Except UsageError Reading := do
  let r ← r.settle
  if !o.takesValue then r.accept o []
  else
    match attached with
    | some v => r.accept o [v]
    | none => return { r with pending := some (o, []) }

/-- Read a word after `--`. -/
def long (options : List Opt) (r : Reading) (word : List Char) : Except UsageError Reading :=
  let name := String.ofList (word.takeWhile (· ≠ '='))
  let attached := match word.dropWhile (· ≠ '=') with
    | [] => none
    | _ :: v => some (String.ofList v)
  match options.find? (·.name = name) with
  | none => .error .unknownArgument
  | some o => if attached.isSome && !o.takesValue then .error .valueForFlag else r.start o attached

/-- Read the letters after one dash. -/
def letters (options : List Opt) (r : Reading) : List Char → Except UsageError Reading
  | [] => .ok r
  | c :: cs =>
      match options.find? (·.letter = some c) with
      | none => .error .unknownArgument
      | some o =>
          if o.takesValue then
            r.start o (match cs with
              | [] => none
              | '=' :: v => some (String.ofList v)
              | v => some (String.ofList v))
          else do letters options (← r.start o none) cs

/-- Read a word that is no option: the next value of the pending option, if it
takes one. -/
def plain (r : Reading) (word : String) : Option Reading :=
  match r.pending with
  | none => none
  | some (o, values) =>
      if o.takesMore values then some { r with pending := some (o, values ++ [word]) } else none

end Reading

end DispatchGen.Command

/-
DispatchGen/Extract/Warning.lean

What the extractor complains about, as causes, and the wording of each.

A warning names the line it is about and the class or method it concerns; the
module file is supplied when it becomes an issue.
-/
import DispatchGen.Issue
import DispatchGen.Literal
import DispatchGen.Path

namespace DispatchGen.Extract

open Literal

/-- Method modifiers under which a handler cannot be bound. -/
inductive Modifier where
  | static
  | getter
  | setter
deriving DecidableEq, Repr

def Modifier.label : Modifier → String
  | static => "static method"
  | getter => "getter"
  | setter => "setter"

/-- Why the extractor warns.  `marker` is always the name as written. -/
inductive Cause where
  /-- The file does not parse. -/
  | syntaxErrors
  /-- A controller marker without a path: the class is ignored. -/
  | controllerWithoutPath (marker className : String)
  /-- A base path marker without a path. -/
  | basePathWithoutPath (marker className : String)
  /-- A consumer marker without an argument on a class: the class is ignored. -/
  | consumerWithoutGroup (marker className : String)
  /-- A path argument that does not fold: the empty text stands in for it. -/
  | unfoldablePath (fault : Fault)
  /-- A marked method whose name is no plain identifier. -/
  | unbindableName (method className : String)
  /-- A marked method that is no instance method. -/
  | unbindableKind (modifier : Modifier) (method className : String)
  | routeWithoutPath (marker site : String)
  | taskWithoutOptions (marker site : String)
  | taskWithoutChannel (marker site : String)
  | unfoldableChannel (site : String) (fault : Fault)
  | emptyChannel (marker site : String)
  /-- A batch flag that is no boolean literal counts as false. -/
  | oddBatch (site text : String)
deriving DecidableEq, Repr

namespace Cause

/-- The kind under which the issue is filed. -/
def kind : Cause → String
  | syntaxErrors => "parse_error"
  | unfoldablePath _ | unfoldableChannel _ _ => "literal_unsupported"
  | unbindableName _ _ => "method_name"
  | unbindableKind _ _ _ => "method_kind"
  | _ => "marker_arguments"

def message : Cause → String
  | syntaxErrors => "file contains syntax errors; markers near the error may be missed"
  | controllerWithoutPath marker cls =>
      "@" ++ marker ++ " on class " ++ cls ++ " has no path argument; class ignored"
  | basePathWithoutPath marker cls =>
      "@" ++ marker ++ " on class " ++ cls ++ " has no path argument"
  | consumerWithoutGroup marker cls =>
      "@" ++ marker ++ " on class " ++ cls ++ " has no argument; class ignored"
  | unfoldablePath fault => fault.message ++ "; using an empty string"
  | unbindableName method cls =>
      "method " ++ method ++ " of " ++ cls ++
        " is not a plain identifier and cannot be bound; marker skipped"
  | unbindableKind modifier method cls =>
      modifier.label ++ " " ++ method ++ " of " ++ cls ++
        " is not an instance method and cannot be bound; marker skipped"
  | routeWithoutPath marker site =>
      "@" ++ marker ++ " on " ++ site ++ " has no path argument; route skipped"
  | taskWithoutOptions marker site =>
      "@" ++ marker ++ " on " ++ site ++ " needs an object literal argument; task skipped"
  | taskWithoutChannel marker site =>
      "@" ++ marker ++ " on " ++ site ++ " has no channel; task skipped"
  | unfoldableChannel site fault =>
      "channel of " ++ site ++ ": " ++ fault.message ++ "; task skipped"
  | emptyChannel marker site =>
      "@" ++ marker ++ " on " ++ site ++ " has an empty channel; task skipped"
  | oddBatch site text =>
      "batch of " ++ site ++ " is `" ++ text ++ "`, not a boolean literal; treated as false"

def suggestion? : Cause → Option String
  | controllerWithoutPath _ _ => some "Use @Controller('') for an unprefixed controller"
  | consumerWithoutGroup _ _ => some "Name the consumer group, e.g. @Consumer('orders')"
  | unfoldablePath _ => some "Use a string literal, a static template or a `+` of those"
  | unbindableName _ _ => some "Rename the handler to a plain public method name"
  | unbindableKind _ _ _ => some "Move the marker to a plain instance method"
  | taskWithoutOptions _ _ => some "Write @Consumer(\x7b channel: 'queue-name' \x7d)"
  | _ => none

end Cause

structure Warning where
  line : Nat
  /-- The class or method concerned; none for the file as a whole. -/
  site : Option String
  cause : Cause
deriving DecidableEq, Repr

/-- The issue a warning about `module` is reported as. -/
def Warning.issue (module : Path) (w : Warning) : Issue where
  location := module.text ++ ":" ++ toString w.line ++
    (match w.site with
      | some site => " " ++ site
      | none => "")
  severity := .warning
  kind := w.cause.kind
  message := w.cause.message
  suggestion := w.cause.suggestion?

end DispatchGen.Extract

/-
DispatchGen/Issue.lean

Diagnostics.  An issue says where something is wrong, how bad it is, which kind
of problem it is, and what to do about it.  Errors block generation; a warning
means that one marker was left out.
-/

namespace DispatchGen

inductive Severity where
  | error
  | warning
deriving DecidableEq, Repr, Inhabited

def Severity.name : Severity → String
  | error => "error"
  | warning => "warning"

structure Issue where
  location : String
  severity : Severity
  kind : String
  message : String
  suggestion : Option String := none
deriving DecidableEq, Repr, Inhabited

namespace Issue

def isError (i : Issue) : Bool := i.severity = .error

/-- The issue on one line. -/
def text (i : Issue) : String :=
  "[" ++ i.severity.name ++ "] " ++ i.kind ++ " " ++ i.location ++ ": " ++ i.message

/-- Whether any of the issues is an error. -/
def anyError (issues : List Issue) : Bool := issues.any isError

/-! ### The report -/

/-- The lines that report one issue. -/
def reportLines (i : Issue) : List String :=
  ["   [" ++ i.kind ++ "] " ++ i.location, "      " ++ i.message] ++
    (match i.suggestion with
      | some suggestion => ["      💡 Suggestion: " ++ suggestion]
      | none => [])

/-- A titled group of the report; an empty group is left out, title and all. -/
def groupLines (title : String) : List Issue → List String
  | [] => []
  | issues => title :: issues.flatMap reportLines ++ [""]

/-- The report of a run: errors first, then warnings. -/
def report (issues : List Issue) : List String :=
  if issues.isEmpty then ["✅ No lint issues found!"]
  else
    let errors := issues.filter isError
    let warnings := issues.filter (!·.isError)
    ["", "📋 Lint Results:",
      "   " ++ toString errors.length ++ " error(s), " ++ toString warnings.length ++ " warning(s)",
      ""] ++
    groupLines "❌ Errors (must fix):" errors ++
    groupLines "⚠️  Warnings (should fix):" warnings

end Issue

end DispatchGen

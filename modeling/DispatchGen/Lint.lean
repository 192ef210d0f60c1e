/-
DispatchGen/Lint.lean

What makes a dispatch table wrong: two records under one key, of which only the
first could be reached, and a class name that two modules declare.

A table's diagnostics are its own issues, then one error for each record whose
key an earlier record has, then one for each import conflict about a class that
a record refers to.
-/
import DispatchGen.Table

namespace DispatchGen.Lint

/-- For each item after the first with its key, that first item and the item
itself; `seen` holds the items before, first to last. -/
def repeats {α β : Type} [DecidableEq β] (key : α → β) (seen : List α) : List α → List (α × α)
  | [] => []
  | x :: xs =>
      (match seen.find? (fun y => key y = key x) with
        | some first => [(first, x)]
        | none => []) ++ repeats key (seen ++ [x]) xs

/-- What makes two routes indistinguishable. -/
def routeKey (r : Route) : Verb × String := (r.verb, r.pattern)

def duplicateRoute (first second : Route) : Issue where
  location := second.location.text ++ " " ++ second.site
  severity := .error
  kind := "duplicate_route"
  message := second.verb.shout ++ " " ++ second.pattern ++ " is declared by both " ++
    first.site ++ " (" ++ first.location.text ++ ") and " ++ second.site ++ " (" ++
    second.location.text ++ "); the second handler is unreachable"
  suggestion := some "Change one of the paths or merge the handlers"

def duplicateQueue (first second : Task) : Issue where
  location := second.location.text ++ " " ++ second.site
  severity := .error
  kind := "duplicate_queue"
  message := "queue '" ++ second.queue ++ "' is consumed by both " ++ first.site ++ " (" ++
    first.location.text ++ ") and " ++ second.site ++ " (" ++ second.location.text ++ ")"
  suggestion := some "Each queue must be bound to exactly one consumer method"

def duplicateClass (c : ImportConflict) : Issue where
  location := c.second.text
  severity := .error
  kind := "duplicate_class"
  message := "class " ++ c.name ++ " is declared in both " ++ c.first.text ++ " and " ++
    c.second.text ++ "; generated imports would collide"
  suggestion := some "Rename one of the classes"

/-- Errors for records under a key that is taken. -/
def duplicateRecords (t : Table) : Pipeline → List Issue
  | .http => (repeats routeKey [] t.routes).map fun (first, second) => duplicateRoute first second
  | .queue => (repeats Task.queue [] t.tasks).map fun (first, second) => duplicateQueue first second

/-- Errors for class names that generated imports would declare twice. -/
def duplicateClasses (t : Table) (p : Pipeline) : List Issue :=
  (t.imports.conflicts.filter fun c => (t.referenced p).contains c.name).map duplicateClass

end Lint

/-- All diagnostics of a table for one pipeline. -/
def lint (t : Table) (p : Pipeline) : List Issue :=
  t.issues ++ Lint.duplicateRecords t p ++ Lint.duplicateClasses t p

end DispatchGen

/-
DispatchGen/Table.lean

The dispatch table: everything one run found, in the order it was found.

The order of records becomes the order of branches in the generated module,
where the first match wins, so nothing here sorts them.  Duplicates are let in;
`DispatchGen.Lint` reports them.
-/
import DispatchGen.Extract.Facts
import DispatchGen.Imports

namespace DispatchGen

structure Table where
  routes : List Route := []
  tasks : List Task := []
  imports : Imports := {}
  issues : List Issue := []
  filesScanned : Nat := 0
deriving DecidableEq, Repr, Inhabited

/-- Put a name into an increasing list of names, unless it is there. -/
def insertName (name : String) : List String → List String
  | [] => [name]
  | n :: ns =>
      if name < n then name :: n :: ns
      else if name = n then n :: ns
      else n :: insertName name ns

/-- The names in increasing order, each once. -/
def sortedNames (names : List String) : List String := names.foldr insertName []

namespace Table

/-- Append the facts of one file. -/
def absorb (t : Table) (f : Facts) : Table where
  routes := t.routes ++ f.routes
  tasks := t.tasks ++ f.tasks
  imports := t.imports.insertAll f.classes
  issues := t.issues ++ f.issues
  filesScanned := t.filesScanned + 1

/-- The class of each record of a pipeline. -/
def recordClasses (t : Table) : Pipeline → List String
  | .http => t.routes.map (·.controller)
  | .queue => t.tasks.map (·.consumer)

/-- The class names that the records of a pipeline refer to. -/
def referenced (t : Table) (p : Pipeline) : List String := sortedNames (t.recordClasses p)

/-- How many branches a pipeline emits. -/
def recordCount (t : Table) : Pipeline → Nat
  | .http => t.routes.length
  | .queue => t.tasks.length

end Table

end DispatchGen

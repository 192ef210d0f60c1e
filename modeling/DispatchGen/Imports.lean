/-
DispatchGen/Imports.lean

Which module declares a class.

The first declaration of a name stays; a later one from another module (compared
as a path) is remembered as a conflict, and one from the same module adds
nothing.
-/
import DispatchGen.Record

namespace DispatchGen

/-- Two modules that declare the same class name. -/
structure ImportConflict where
  name : String
  first : Path
  second : Path
deriving DecidableEq, Repr, Inhabited

/-- The classes by name, in the order of their first declaration, and the
conflicts met so far. -/
structure Imports where
  classes : List MarkedClass := []
  conflicts : List ImportConflict := []
deriving DecidableEq, Repr, Inhabited

namespace Imports

/-- The class first declared under a name. -/
def get? (m : Imports) (name : String) : Option MarkedClass :=
  m.classes.find? (·.name = name)

/-- How many names are declared. -/
def size (m : Imports) : Nat := m.classes.length

/-- Record a declaration. -/
def insert (m : Imports) (c : MarkedClass) : Imports :=
  match m.get? c.name with
  | none => { m with classes := m.classes ++ [c] }
  | some first =>
      if first.module.same c.module then m
      else { m with conflicts := m.conflicts ++ [⟨c.name, first.module, c.module⟩] }

/-- Record declarations one after another. -/
def insertAll (m : Imports) (cs : List MarkedClass) : Imports := cs.foldl insert m

end Imports

end DispatchGen

/-
DispatchGen/Path/Clean.lean

Lexical normal form of a path, the way from a directory to a file, and the
specifier that an import writes for that way.

`clean` drops `.` and lets each `..` undo the name before it; what is left is
a root or a number of `..`, followed by names only.  `relativeTo` compares two
cleaned paths component by component.  `importSpecifier` takes the extension
off last, so a module that is named like a directory on the way still gets a
specifier of its own.  A specifier is a text, so it shows the steps as they are
displayed.
-/
import DispatchGen.Path

namespace DispatchGen.Path

/-- One step of cleaning; `done` holds the cleaned steps so far, last first. -/
def cleanStep (done : List Component) : Component → List Component
  | .here => done
  | .up =>
      match done with
      | .normal _ :: rest => rest
      | .root :: _ => done
      | _ => .up :: done
  | c => c :: done

/-- The components of the cleaned path. -/
def cleanComponents (cs : List Component) : List Component :=
  (cs.foldl cleanStep []).reverse

/-- The path without `.`, and without a `..` that undoes a name before it. -/
def clean (p : Path) : Path := ofComponents (cleanComponents p.components)

/-- How many leading components two lists share. -/
def sharedPrefix : List Component → List Component → Nat
  | a :: as, b :: bs => if a = b then sharedPrefix as bs + 1 else 0
  | _, _ => 0

/-- The way from the directory `dir` to `target`: up from what they do not
share, then down. -/
def relativeTo (target dir : Path) : Path :=
  let source := dir.clean.components
  let goal := target.clean.components
  let shared := sharedPrefix source goal
  ofComponents (List.replicate (source.length - shared) .up ++ goal.drop shared)

/-- The specifier that an `import` in the directory `dir` writes for the
module file `target`. -/
def importSpecifier (target dir : Path) : String :=
  let steps := (target.relativeTo dir).withoutExtension.components
  let joined := String.intercalate "/" (steps.map fun s => s.raw.display)
  if joined.startsWith "../" then joined else "./" ++ joined

end DispatchGen.Path

/-
DispatchGen/Extract/Facts.lean

What one file contributes to a dispatch table.

A tree with a syntax error is reported once, first, at the line of its first
error; the rest of the findings follow in document order and are sorted by what
they are.
-/
import DispatchGen.Extract.Survey

namespace DispatchGen

open Syntax Extract

/-- The classes, records and issues of one file, each in declaration order. -/
structure Facts where
  classes : List MarkedClass := []
  routes : List Route := []
  tasks : List Task := []
  issues : List Issue := []
deriving DecidableEq, Repr, Inhabited

namespace Extract

/-- The warning about syntax errors, if the tree has any. -/
def syntaxFindings (root : Node) : List Finding :=
  if root.hasError then
    [.warning ⟨(root.firstErrorLine?).getD 1, none, .syntaxErrors⟩]
  else []

/-- All findings of a file. -/
def findings (pipeline : Pipeline) (root : Node) : List Finding :=
  syntaxFindings root ++ survey pipeline {} root

def Finding.class? (module : Path) : Finding → Option MarkedClass
  | marked name isDefault => some ⟨name, module, isDefault⟩
  | _ => none

def Finding.route? (module : Path) : Finding → Option Route
  | route verb pattern handler controller line =>
      some ⟨verb, pattern, handler, controller, ⟨module, line⟩⟩
  | _ => none

def Finding.task? (module : Path) : Finding → Option Task
  | task queue method consumer isBatch line =>
      some ⟨queue, method, consumer, isBatch, ⟨module, line⟩⟩
  | _ => none

def Finding.issue? (module : Path) : Finding → Option Issue
  | warning w => some (w.issue module)
  | _ => none

end Extract

/-- The facts that findings about `module` amount to. -/
def Facts.ofFindings (module : Path) (fs : List Finding) : Facts where
  classes := fs.filterMap (·.class? module)
  routes := fs.filterMap (·.route? module)
  tasks := fs.filterMap (·.task? module)
  issues := fs.filterMap (·.issue? module)

/-- The facts one pipeline extracts from the tree of `module`. -/
def extract (pipeline : Pipeline) (module : Path) (root : Node) : Facts :=
  .ofFindings module (findings pipeline root)

end DispatchGen

/-
DispatchGen/Grammar/File.lean

From a source text to its syntax tree.

`Source.rules` gives every goal of the grammar its rule.  Rules call one another
through the goals, each time with one unit of depth less; since a rule that
consumes no token nests only a few goals before one that does, a depth in
proportion to the length of the text is never exhausted by a text that parses.
-/
import DispatchGen.Grammar.Statement
import DispatchGen.Path

namespace DispatchGen.Grammar

open Syntax Reading

/-- The dialect a file is written in, by its extension. -/
def Dialect.ofPath (path : Path) : Dialect :=
  if path.extension? = some "tsx" then .tsx else .typeScript

/-- The rule of one goal in terms of the readings of all goals. -/
def rule (self : Goal → Reading Node) : Goal → Reading Node
  | .statement => statement self
  | .expression allowIn => expression self allowIn
  | .assignment allowIn => assignment self allowIn
  | .operation strength allowIn => operation self strength allowIn
  | .operand => operand self
  | .target => target self
  | .typeExpr conditional => typeExpr self conditional
  | .markup => markupElement self

/-- The reading of a goal, nested no deeper than the given depth. -/
def reading : Nat → Goal → Reading Node
  | 0, _ => fail
  | depth + 1, goal => rule (reading depth) goal

/-- All statements of a file; a brace that closes nothing is an error. -/
def program (self : Goal → Reading Node) : Reading Node := do
  let parts ← many do
    if (← peek).kind = .endOfText then return none
    else if ← isMark "\x7d" then return some [← leaf .error]
    else return some (← statements self)
  node .program 0 parts.flatten

/-- The tree of a source. -/
def readSource (dialect : Dialect) (source : Source) : Node :=
  let depth := 16 * (source.size + 2)
  let first := source.firstPosition
  match ((program (reading depth)).run { source, dialect }).run ⟨source.tokenAt first, first⟩ with
  | .ok (root, _) => root
  | .error fault => { kind := .program, line := fault.line, hasError := true }

/-- The tree of a source text. -/
def read (dialect : Dialect) (text : String) : Node := readSource dialect (.ofChars text.toList)

/-- A reading of source texts as syntax trees, which may fail.  What a run makes of the trees
takes any. -/
class Reader where
  tree? : Dialect → String → Option Node

/-- A run reads by the rules of this library, which give every text a tree. -/
instance libraryReader : Reader := ⟨fun dialect text => some (read dialect text)⟩

end DispatchGen.Grammar

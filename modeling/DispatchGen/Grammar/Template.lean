/-
DispatchGen/Grammar/Template.lean

Template literals: text between backticks with substitutions in it.
-/
import DispatchGen.Grammar.Reading

namespace DispatchGen.Grammar

open Syntax

/-- From a position inside a template: the end of the closing backtick or of
the next opening of a substitution, whether it was the backtick, and the
malformed escapes passed. -/
def Source.templateStop? (s : Source) (i : Nat) : Option (Nat × Bool × List Nat) :=
  if h : i < s.chars.size then
    let c := s.chars[i]
    if c = '`' then some (i + 1, true, [])
    else if c = '$' && s.at? (i + 1) = some '\x7b' then some (i + 2, false, [])
    else if c = '\\' then
      match s.templateStop? (i + 2) with
      | some (stop, closes, malformed) =>
          some (stop, closes, if s.escapeOk i then malformed else i :: malformed)
      | none => none
    else s.templateStop? (i + 1)
  else none
termination_by s.chars.size - i

namespace Reading

/-- What stands between the backticks, from a position on. -/
def templateParts (inside : Reading Node) : Nat → Nat → List Node → Reading (List Node)
  | 0, _, _ => fail
  | fuel + 1, position, found => do
      match (← source).templateStop? position with
      | none => fail
      | some (stop, closes, malformed) => do
          let found := found ++ (← escapeErrors malformed)
          moveTo stop
          if closes then return found
          else
            let e ← inside
            let close ← mark "\x7d"
            let lastStop ← lastStop
            let part ← node .templateSubstitution (stop - 2) [e, close]
            templateParts inside fuel lastStop (found ++ [part])

/-- A template literal whose substitutions are read by `inside`. -/
def template (inside : Reading Node) : Reading Node := do
  if ← isMark "`" then
    let opening ← peek
    let parts ← templateParts inside ((← source).size + 1) opening.stop []
    node .templateString opening.start parts
  else fail

end Reading

end DispatchGen.Grammar

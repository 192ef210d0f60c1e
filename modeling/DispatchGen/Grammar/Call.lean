/-
DispatchGen/Grammar/Call.lean

Argument lists, and decorators, which are calls or names after an `@`.
-/
import DispatchGen.Grammar.Reading

namespace DispatchGen.Grammar.Reading

open Syntax

/-- `...` and an expression. -/
def spread (self : Goal → Reading Node) : Reading Node := do
  let start := (← peek).start
  let dots ← mark "..."
  let e ← self (.assignment true)
  node .spreadElement start [dots, e]

/-- An expression or a spread one. -/
def element (self : Goal → Reading Node) : Reading Node := do
  if ← isMark "..." then spread self else self (.assignment true)

/-- The parenthesized arguments of a call. -/
def arguments (self : Goal → Reading Node) : Reading Node := do
  let start := (← peek).start
  let opening ← mark "("
  let items ← listUntil ")" do return [← element self]
  let close ← mark ")"
  node (.other "arguments") start (opening :: items ++ [close])

/-- Types between angle brackets. -/
def typeArguments (self : Goal → Reading Node) : Reading Node := do
  let start := (← peek).start
  let opening ← mark "<"
  let items ← listUntil ">" do return [← self (.typeExpr true)]
  if items.isEmpty then fail
  let close ← mark ">"
  node (.other "type_arguments") start (opening :: items ++ [close])

/-- A name, as the start of a member chain. -/
def chainHead : Reading Node := do
  if ← isWord "this" then leaf .this else anyWord .identifier

/-- A decorator. -/
def decorator (self : Goal → Reading Node) : Reading Node := do
  let start := (← peek).start
  let at_ ← mark "@"
  let inner := (← peek).start
  if ← isMark "(" then
    let opening ← tokenNode
    let e ← self (.expression true)
    let close ← mark ")"
    let group ← node .parenthesizedExpression inner [opening, e, close]
    node .decorator start [at_, group]
  else
    let head ← chainHead
    let links ← many do
      if ← isMark "." then
        let dot ← tokenNode
        let property ← anyWord .propertyIdentifier
        return some (dot, property, ← lastStop)
      else return none
    let s ← source
    let chain := links.foldl (fun object (dot, property, stop) =>
      { kind := .memberExpression, text := s.slice inner stop, line := s.lineAt inner,
        children := [object, dot, property.as .property] }) head
    let types ← attempt do
      let types ← typeArguments self
      if ← isMark "(" then return types else fail
    if ← isMark "(" then
      let list ← arguments self
      let call ← node .callExpression inner
        (chain.as .function :: types.toList ++ [list.as .arguments])
      node .decorator start [at_, call]
    else node .decorator start [at_, chain]

/-- The decorators ahead. -/
def decorators (self : Goal → Reading Node) : Reading (List Node) :=
  many do
    if ← isMark "@" then return some (← decorator self) else return none

end DispatchGen.Grammar.Reading

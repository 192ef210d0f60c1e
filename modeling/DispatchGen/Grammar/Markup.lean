/-
DispatchGen/Grammar/Markup.lean

Markup elements in expressions.

Between an opening and a closing tag, text runs up to the next `<` or brace and
is no token; strings in attributes have no escapes.
-/
import DispatchGen.Grammar.Call

namespace DispatchGen.Grammar.Reading

open Syntax

/-- The parts of a tag or attribute name. -/
def markupName : Reading (List Node) := do
  let first ← anyWord .identifier
  let links ← many do
    if (← isMark "-") || (← isMark ":") || (← isMark ".") then
      let link ← tokenNode
      if (← peek).kind = .word then return some [link, ← leaf .identifier] else return some [link]
    else return none
  return first :: links.flatten

/-- An expression in braces, possibly empty or spread. -/
def markupBraces (self : Goal → Reading Node) : Reading Node := do
  let start := (← peek).start
  let opening ← mark "\x7b"
  let inside ← if ← isMark "\x7d" then pure []
    else if ← isMark "..." then pure [← spread self]
    else pure [← self (.expression true)]
  let close ← mark "\x7d"
  node (.other "jsx_expression") start (opening :: inside ++ [close])

/-- A quoted attribute value, which may span lines. -/
def markupString : Reading Node := do
  let token ← peek
  let s ← source
  match s.at? token.start with
  | some quote =>
      if quote = '"' || quote = '\'' then
        let stop := s.skipWhile (· ≠ quote) (token.start + 1)
        if s.at? stop = some quote then
          moveTo (stop + 1)
          node .string token.start []
        else fail
      else fail
  | none => fail

/-- An attribute with its value, or a spread one. -/
def markupAttribute (self : Goal → Reading Node) : Reading (List Node) := do
  if ← isMark "\x7b" then return [← markupBraces self]
  let name ← markupName
  if ← isMark "=" then
    let equals ← tokenNode
    let value ← if ← isMark "\x7b" then markupBraces self
      else if ← isMark "<" then self .markup
      else markupString
    return name ++ [equals, value]
  else return name

/-- What stands between tags. -/
def markupChildren (self : Goal → Reading Node) : Reading (List Node) := do
  many do
    let s ← source
    moveTo (s.skipWhile (fun c => c ≠ '<' && c ≠ '\x7b') (← lastStop))
    if ← isMark "\x7b" then return some (← markupBraces self)
    else if ← isMark "<" then
      let next ← second
      if next.kind = .mark && next.text = "/" then return none
      else return some (← self .markup)
    else fail

/-- An element or fragment. -/
def markupElement (self : Goal → Reading Node) : Reading Node := do
  let start := (← peek).start
  let opening ← mark "<"
  let head ← if ← isMark ">" then pure []
    else
      let name ← markupName
      let types ← if ← isMark "<" then pure [← typeArguments self] else pure []
      let attributes ← many do
        if (← isMark ">") || (← isMark "/") then return none
        else return some (← markupAttribute self)
      pure (name ++ types ++ attributes.flatten)
  if ← isMark "/" then
    let slash ← tokenNode
    let close ← mark ">"
    node .jsxSelfClosingElement start (opening :: head ++ [slash, close])
  else
    let close ← mark ">"
    let children ← markupChildren self
    let last ← mark "<"
    let slash ← mark "/"
    let name ← if ← isMark ">" then pure [] else markupName
    let final ← mark ">"
    node .jsxElement start
      (opening :: head ++ close :: children ++ [last, slash] ++ name ++ [final])

end DispatchGen.Grammar.Reading

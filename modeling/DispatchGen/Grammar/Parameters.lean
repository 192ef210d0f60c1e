/-
DispatchGen/Grammar/Parameters.lean

Property names, binding targets, parameter lists and signatures.
-/
import DispatchGen.Grammar.Call

namespace DispatchGen.Grammar.Reading

open Syntax

/-- The name of a property: a word, a string, a number, a private name, or an
expression in brackets. -/
def propertyName (self : Goal → Reading Node) : Reading Node := do
  let token ← peek
  match token.kind with
  | .word => leaf .propertyIdentifier
  | .privateName => leaf .privatePropertyIdentifier
  | .number => leaf .number
  | .string _ => stringLiteral
  | .mark =>
      if token.text = "[" then
        let opening ← tokenNode
        let e ← self (.assignment true)
        let close ← mark "]"
        node .computedPropertyName token.start [opening, e, close]
      else fail
  | _ => fail

/-- `: T`, if it is ahead. -/
def ascription? (self : Goal → Reading Node) : Reading (List Node) := do
  if ← isMark ":" then
    let start := (← peek).start
    let colon ← tokenNode
    let type ← self (.typeExpr true)
    return [← node (.other "type_annotation") start [colon, type]]
  else return []

/-- `= e`, if it is ahead. -/
def initializer? (self : Goal → Reading Node) (allowIn : Bool) : Reading (List Node) := do
  if ← isMark "=" then
    let equals ← tokenNode
    let e ← self (.assignment allowIn)
    return [equals, e.as .value]
  else return []

/-- A target with the value it takes by default. -/
def targetWithDefault (self : Goal → Reading Node) : Reading (List Node) := do
  let t ← self .target
  return t :: (← initializer? self true)

/-- `...` and a target. -/
def restTarget (self : Goal → Reading Node) : Reading (List Node) := do
  return [← mark "...", ← self .target]

/-- What a declaration or parameter binds: a name, or a pattern of targets. -/
def target (self : Goal → Reading Node) : Reading Node := do
  let token ← peek
  if ← isMark "\x7b" then
    let opening ← tokenNode
    let items ← listUntil "\x7d" do
      if ← isMark "..." then restTarget self
      else
        let key ← propertyName self
        if ← isMark ":" then
          let colon ← tokenNode
          return key :: colon :: (← targetWithDefault self)
        else return key :: (← initializer? self true)
    let close ← mark "\x7d"
    node (.other "object_pattern") token.start (opening :: items ++ [close])
  else if ← isMark "[" then
    let opening ← tokenNode
    let items ← listUntil "]" do
      if ← isMark "," then return []
      else if ← isMark "..." then restTarget self
      else targetWithDefault self
    let close ← mark "]"
    node (.other "array_pattern") token.start (opening :: items ++ [close])
  else if ← isWord "this" then leaf .this
  else identifier

/-- Words that may stand before a parameter. -/
def parameterModifiers : List String :=
  ["public", "private", "protected", "readonly", "override"]

/-- A modifier, if one is ahead and a parameter follows it. -/
def parameterModifier? : Reading (Option Node) := do
  if ← isWordOf parameterModifiers then
    let next ← second
    if next.kind = .word || (next.kind = .mark && ["\x7b", "[", "..."].contains next.text) then
      return some (← leaf (.other "accessibility_modifier"))
    else return none
  else return none

/-- One parameter. -/
def parameter (self : Goal → Reading Node) : Reading Node := do
  let start := (← peek).start
  let decorators ← decorators self
  let modifiers ← many parameterModifier?
  let dots ← mark? "..."
  let t ← self .target
  let optional ← mark? "?"
  let type ← ascription? self
  let initial ← initializer? self true
  node (.other "required_parameter") start
    (decorators ++ modifiers ++ dots ++ [t] ++ optional ++ type ++ initial)

/-- A parenthesized parameter list. -/
def parameters (self : Goal → Reading Node) : Reading Node := do
  let start := (← peek).start
  let opening ← mark "("
  let items ← listUntil ")" do return [← parameter self]
  let close ← mark ")"
  node (.other "formal_parameters") start (opening :: items ++ [close])

/-- Words that may stand before a type parameter. -/
def variance : Reading (Option Node) := do
  if ← isWordOf ["const", "in", "out"] then
    if (← second).kind = .word then return some (← tokenNode) else return none
  else return none

/-- A type parameter with its bound and default. -/
def typeParameter (self : Goal → Reading Node) : Reading (List Node) := do
  let modifiers ← many variance
  let name ← anyWord (.other "type_identifier")
  let bound ← if ← isWord "extends" then
      pure [← tokenNode, ← self (.typeExpr true)]
    else pure []
  let initial ← if ← isMark "=" then
      pure [← tokenNode, ← self (.typeExpr true)]
    else pure []
  return modifiers ++ [name] ++ bound ++ initial

/-- Type parameters between angle brackets, if they are ahead. -/
def typeParameters? (self : Goal → Reading Node) : Reading (List Node) := do
  if ← isMark "<" then
    let start := (← peek).start
    let opening ← tokenNode
    let items ← listUntil ">" (typeParameter self)
    let close ← mark ">"
    return [← node (.other "type_parameters") start (opening :: items ++ [close])]
  else return []

/-- Type parameters, parameters and the type of the result. -/
def signature (self : Goal → Reading Node) : Reading (List Node) := do
  let types ← typeParameters? self
  let list ← parameters self
  let result ← ascription? self
  return types ++ [list] ++ result

/-- Statements between braces.  A brace missing at the end of the text is
supplied. -/
def block (statements : Reading (List Node)) : Reading Node := do
  let start := (← peek).start
  let opening ← mark "\x7b"
  let inner ← statements
  let close ← closing "\x7d"
  node (.other "statement_block") start (opening :: inner ++ [close])

end DispatchGen.Grammar.Reading

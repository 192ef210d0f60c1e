/-
DispatchGen/Grammar/Class.lean

Functions with a body, and classes with their members.

A modifier of a member is a word that another name follows on the same line;
a word that ends its line is a field of that name.  Decorators stand beside the
method they precede, while a field holds its own.
-/
import DispatchGen.Grammar.TypeExpr
import DispatchGen.Grammar.Recovery

namespace DispatchGen.Grammar.Reading

open Syntax

/-- Statements up to a closing brace or the end of the text. -/
def statements (self : Goal → Reading Node) : Reading (List Node) := do
  let parts ← many do
    if (← peek).kind = .endOfText || (← isMark "\x7d") then return none
    else return some (← recovering do return [← self .statement])
  return parts.flatten

/-- The braces of a function and what they hold. -/
def functionBody (self : Goal → Reading Node) : Reading Node := block (statements self)

/-! ### Modifiers -/

def memberModifiers : List String :=
  ["public", "private", "protected", "static", "abstract", "override", "readonly", "declare",
    "async", "accessor", "get", "set"]

/-- Whether a token can follow a modifier: it begins a name, or is the star of
a generator. -/
def followsModifier (next : Token) : Bool :=
  match next.kind with
  | .word | .privateName | .number | .string _ => !next.afterNewline
  | .mark => (next.text = "[" && !next.afterNewline) || next.text = "*"
  | _ => false

def memberModifier? : Reading (Option Node) := do
  if ← isWordOf memberModifiers then
    if followsModifier (← second) then
      if ← isWordOf ["public", "private", "protected"] then
        return some (← leaf (.other "accessibility_modifier"))
      else if ← isWord "override" then return some (← leaf (.other "override_modifier"))
      else return some (← tokenNode)
    else return none
  else return none

/-! ### Members -/

/-- An index signature, `[key: K]: V`. -/
def indexSignature (self : Goal → Reading Node) : Reading Node := do
  let start := (← peek).start
  indexMember self
  node (.other "index_signature") start []

/-- The end of a member that has no body. -/
def memberEnd : Reading (List Node) := do
  if ← isMark "," then return [← tokenNode] else semicolon

/-- A member with a name: a method from `start` on, or a field, which begins
with its decorators at `outer`. -/
def namedMember (self : Goal → Reading Node) (outer start : Nat)
    (decorators modifiers : List Node) : Reading (List Node) := do
  let star ← mark? "*"
  let name ← propertyName self
  let optional ← mark? "?"
  let sure ← mark? "!"
  let head := modifiers ++ star ++ [name.as .name] ++ optional ++ sure
  if (← isMark "(") || (← isMark "<") then
    let sig ← signature self
    if ← isMark "\x7b" then
      let body ← functionBody self
      let method ← node .methodDefinition start (head ++ sig ++ [body.as .body])
      return decorators ++ [method]
    else
      let method ← node (.other "method_signature") start (head ++ sig)
      return decorators ++ [method] ++ (← memberEnd)
  else
    let type ← ascription? self
    let initial ← initializer? self true
    let field ←
      node (.other "public_field_definition") outer (decorators ++ head ++ type ++ initial)
    return field :: (← memberEnd)

/-- A member of a class, with the decorators before it. -/
def member (self : Goal → Reading Node) : Reading (List Node) := do
  if ← isMark ";" then return [← tokenNode]
  let outer := (← peek).start
  let decorators ← decorators self
  if (← isMark "\x7d") || (← peek).kind = .endOfText then return decorators
  let start := (← peek).start
  let next ← second
  if (← isWord "static") && next.kind = .mark && next.text = "\x7b" then
    let word ← tokenNode
    let body ← functionBody self
    let static ← node (.other "class_static_block") start [word, body.as .body]
    return decorators ++ [static]
  let modifiers ← many memberModifier?
  if ← isMark "[" then
    if let some index ← attempt (indexSignature self) then
      return decorators ++ [index] ++ (← memberEnd)
  namedMember self outer start decorators modifiers

/-- The braces of a class and its members. -/
def classBody (self : Goal → Reading Node) : Reading Node := do
  let start := (← peek).start
  let opening ← mark "\x7b"
  let members ← many do
    if (← peek).kind = .endOfText || (← isMark "\x7d") then return none
    else return some (← recovering (member self))
  let close ← closing "\x7d"
  node .classBody start (opening :: members.flatten ++ [close])

/-! ### Classes -/

/-- What a class extends and implements. -/
def heritage? (self : Goal → Reading Node) : Reading (List Node) := do
  let start := (← peek).start
  let extended ← if ← isWord "extends" then
      let word ← tokenNode
      let base ← self .operand
      let types ← if ← isMark "<" then pure [← typeArguments self] else pure []
      pure (word :: base :: types)
    else pure []
  let implemented ← if ← isWord "implements" then
      let word ← tokenNode
      let first ← self (.typeExpr true)
      let others ← many do
        if ← isMark "," then
          let comma ← tokenNode
          return some [comma, ← self (.typeExpr true)]
        else return none
      pure (word :: first :: others.flatten)
    else pure []
  if extended.isEmpty && implemented.isEmpty then return []
  else return [← node (.other "class_heritage") start (extended ++ implemented)]

/-- Whether a class is named here. -/
def namesClass : Reading Bool := do
  let token ← peek
  if !isIdentifier token then return false
  else if token.text = "implements" then return !(← second).kind = .word
  else return true

/-- A class from its keyword on, given what precedes it.  The kind is `kind`
for a class with a name and `unnamed?` for one without, if that is allowed. -/
def classFrom (self : Goal → Reading Node) (start : Nat) (before : List Node)
    (kind : NodeKind) (unnamed? : Option NodeKind) : Reading Node := do
  let keyword ← word "class"
  let name ← if ← namesClass then
      pure [(← leaf (.other "type_identifier")).as .name]
    else pure []
  let kind ← match name, unnamed? with
    | [], none => fail
    | [], some other => pure other
    | _, _ => pure kind
  let types ← typeParameters? self
  let heritage ← heritage? self
  let body ← classBody self
  node kind start (before ++ keyword :: name ++ types ++ heritage ++ [body.as .body])

/-- A class that is an expression. -/
def classExpression (self : Goal → Reading Node) : Reading Node := do
  let start := (← peek).start
  let decorators ← decorators self
  classFrom self start decorators .classExpression (some .classExpression)

/-! ### Functions -/

/-- A function that is an expression. -/
def functionExpression (self : Goal → Reading Node) : Reading Node := do
  let start := (← peek).start
  let async ← word? "async"
  let keyword ← word "function"
  let star ← mark? "*"
  let name ← if isIdentifier (← peek) then pure [(← leaf .identifier).as .name] else pure []
  let sig ← signature self
  let body ← functionBody self
  let kind := if star.isEmpty then .functionExpression else .generatorFunction
  node kind start (async ++ keyword :: star ++ name ++ sig ++ [body.as .body])

end DispatchGen.Grammar.Reading

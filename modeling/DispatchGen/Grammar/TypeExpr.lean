/-
DispatchGen/Grammar/TypeExpr.lean

Types.  No rule of this library looks inside a type, so a type is read for its
extent only and becomes a leaf.
-/
import DispatchGen.Grammar.Parameters
import DispatchGen.Grammar.Template

namespace DispatchGen.Grammar.Reading

open Syntax

/-- Whether a type may begin with the token. -/
def startsType (token : Token) : Bool :=
  match token.kind with
  | .word | .number | .string _ => true
  | .mark => ["(", "[", "\x7b", "<", "-", "`"].contains token.text
  | _ => false

/-- Arguments of a generic type, if they are ahead. -/
def typeArguments? (self : Goal → Reading Node) : Reading Unit := do
  if ← isMark "<" then discard (attempt (typeArguments self))

/-- The links of a qualified name. -/
def nameLinks : Reading Unit := do
  discard <| many do
    if ← isMark "." then
      discard advance
      if (← peek).kind = .privateName then discard advance
      else discard (anyWord .identifier)
      return some ()
    else return none

/-- The parameters and result of a function type. -/
def functionType (self : Goal → Reading Node) : Reading Unit := do
  discard (typeParameters? self)
  discard (parameters self)
  discard (mark "=>")
  discard (self (.typeExpr true))

/-! ### Members of object types -/

/-- What follows the name of a member: a signature, a type, or nothing. -/
def memberType (self : Goal → Reading Node) : Reading Unit := do
  discard (mark? "?")
  if (← isMark "(") || (← isMark "<") then discard (signature self)
  else discard (ascription? self)

/-- A mapped member, `[K in T as U]?: V`. -/
def mappedMember (self : Goal → Reading Node) : Reading Unit := do
  discard (mark "[")
  discard (anyWord .identifier)
  discard (word "in")
  discard (self (.typeExpr true))
  if ← isWord "as" then
    discard advance
    discard (self (.typeExpr true))
  discard (mark "]")
  if (← isMark "+") || (← isMark "-") then discard advance
  discard (mark? "?")
  discard (ascription? self)

/-- An index signature, `[key: K]: V`. -/
def indexMember (self : Goal → Reading Node) : Reading Unit := do
  discard (mark "[")
  discard (anyWord .identifier)
  discard (mark ":")
  discard (self (.typeExpr true))
  discard (mark "]")
  discard (ascription? self)

/-- Whether the word ahead is a modifier: the name of a member follows it. -/
def modifiesMember : Reading Bool := do
  let next ← second
  return match next.kind with
    | .word | .number | .string _ | .privateName => true
    | .mark => next.text = "["
    | _ => false

def typeMember (self : Goal → Reading Node) : Reading Unit := do
  if (← isMark "+") || (← isMark "-") then discard advance
  if ← isWord "readonly" then
    if ← modifiesMember then discard advance
  if ← isMark "[" then
    if (← attempt (mappedMember self)).isSome then return
    if (← attempt (indexMember self)).isSome then return
    discard (propertyName self)
    memberType self
  else if (← isMark "(") || (← isMark "<") then discard (signature self)
  else
    if ← isWord "new" then
      let next ← second
      if next.kind = .mark && (next.text = "(" || next.text = "<") then
        discard advance
        discard (signature self)
        return
    if ← isWordOf ["get", "set"] then
      if ← modifiesMember then discard advance
    discard (propertyName self)
    memberType self

/-- The type of objects with the given members. -/
def objectType (self : Goal → Reading Node) : Reading Unit := do
  discard (mark "\x7b")
  discard <| many do
    if ← isMark "\x7d" then return none
    else if (← isMark ";") || (← isMark ",") then
      discard advance
      return some ()
    else
      typeMember self
      return some ()
  discard (mark "\x7d")

/-! ### Tuples -/

/-- An element of a tuple type, with its label. -/
def tupleElement (self : Goal → Reading Node) : Reading (List Node) := do
  discard (mark? "...")
  discard <| attempt do
    discard (anyWord .identifier)
    discard (mark? "?")
    discard (mark ":")
  discard (self (.typeExpr true))
  mark? "?"

/-! ### Operands -/

/-- A type that is no operator applied to another. -/
def primaryType (self : Goal → Reading Node) : Reading Unit := do
  let token ← peek
  match token.kind with
  | .number => discard advance
  | .string _ => discard stringLiteral
  | .mark =>
      if token.text = "-" then
        discard advance
        if (← peek).kind = .number then discard advance else fail
      else if token.text = "`" then discard (template (self (.typeExpr true)))
      else if token.text = "\x7b" then objectType self
      else if token.text = "[" then
        discard advance
        discard (listUntil "]" (tupleElement self))
        discard (mark "]")
      else if token.text = "(" then
        discard advance
        discard (self (.typeExpr true))
        discard (mark ")")
      else fail
  | .word =>
      discard advance
      if token.text = "typeof" then
        discard (anyWord .identifier)
      if (token.text = "import" || token.text = "typeof") && (← isMark "(") then
        discard (arguments self)
      nameLinks
      typeArguments? self
  | _ => fail

/-- A primary type and the brackets after it. -/
def bracketedType (self : Goal → Reading Node) : Reading Unit := do
  primaryType self
  discard <| many do
    let token ← peek
    if token.kind = .mark && token.text = "[" && !token.afterNewline then
      discard advance
      if !(← isMark "]") then discard (self (.typeExpr true))
      discard (mark "]")
      return some ()
    else return none

/-- An operand of a union or intersection. -/
def typeOperand (self : Goal → Reading Node) : Reading Unit := do
  discard <| many do
    if ← isWordOf ["keyof", "unique", "readonly"] then
      if startsType (← second) then
        discard advance
        return some ()
      else return none
    else return none
  if ← isWord "infer" then
    discard advance
    discard (anyWord .identifier)
    discard <| attempt do
      discard (word "extends")
      discard (self (.typeExpr false))
  else if ← isWord "new" then
    discard advance
    functionType self
  else if ← isMark "<" then functionType self
  else if ← isMark "(" then
    if (← attempt (functionType self)).isSome then return
    bracketedType self
  else
    if ← isWord "abstract" then
      let next ← second
      if next.kind = .word && next.text = "new" then
        discard advance
        discard advance
        functionType self
        return
    bracketedType self

/-- Operands joined by `|` and `&`. -/
def unionType (self : Goal → Reading Node) : Reading Unit := do
  if (← isMark "|") || (← isMark "&") then discard advance
  typeOperand self
  discard <| many do
    if (← isMark "|") || (← isMark "&") then
      discard advance
      typeOperand self
      return some ()
    else return none

/-- Whether the word ahead is followed by another one on its line. -/
def wordFollows (accepts : Token → Bool) : Reading Bool := do
  let next ← second
  return next.kind = .word && !next.afterNewline && accepts next

/-- A type. -/
def typeExpr (self : Goal → Reading Node) (conditional : Bool) : Reading Node := do
  let start := (← peek).start
  if ← isWord "asserts" then
    if ← wordFollows fun next => next.text = "this" || isIdentifier next then
      discard advance
      if !(← wordFollows fun next => next.text = "is") then
        discard advance
        return ← node (.other "type") start []
  if (← peek).kind = .word then
    if ← wordFollows fun next => next.text = "is" then
      discard advance
      discard advance
  unionType self
  if conditional && (← isWord "extends") && !(← peek).afterNewline then
    discard advance
    discard (self (.typeExpr false))
    discard (mark "?")
    discard (self (.typeExpr true))
    discard (mark ":")
    discard (self (.typeExpr true))
  node (.other "type") start []

end DispatchGen.Grammar.Reading

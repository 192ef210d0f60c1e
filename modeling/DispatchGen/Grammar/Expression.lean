/-
DispatchGen/Grammar/Expression.lean

Expressions.

Operators are read by strength.  Most of them associate to the left; `**`
associates to the right.  A postfix `!`, `as` and `satisfies` apply to all the
arithmetic on their left: they are weaker than the arithmetic and shift
operators, and stronger than comparisons.
-/
import DispatchGen.Grammar.Class
import DispatchGen.Grammar.Markup

namespace DispatchGen.Grammar.Reading

open Syntax

/-! ### Operators -/

/-- The strength of the weakest binary operator. -/
def weakest : Nat := 1

/-- The strength of `!`, `as` and `satisfies`. -/
def assertionStrength : Nat := 9

/-- The strength of a binary operator. -/
def strength? : String → Option Nat
  | "??" => some 1
  | "||" => some 2
  | "&&" => some 3
  | "|" => some 4
  | "^" => some 5
  | "&" => some 6
  | "==" | "!=" | "===" | "!==" => some 7
  | "<" | "<=" | ">" | ">=" | "in" | "instanceof" => some 8
  | "<<" | ">>" | ">>>" => some 10
  | "+" | "-" => some 11
  | "*" | "/" | "%" => some 12
  | "**" => some 13
  | _ => none

def assignmentMarks : List String :=
  ["+=", "-=", "*=", "/=", "%=", "**=", "<<=", ">>=", ">>>=", "&=", "|=", "^=", "&&=", "||=", "??="]

/-- The marks that begin with `>`, longest first. -/
def angleMarks : List String := [">>>=", ">>>", ">>=", ">>", ">=", ">"]

/-- The operator ahead and the position it ends at. -/
def operatorAhead : Reading (Option (String × Nat)) := do
  let token ← peek
  if token.kind = .mark && token.text = ">" then
    let s ← source
    match angleMarks.find? fun m => s.hasAt token.start m.toList with
    | some m => return some (m, token.start + m.length)
    | none => return none
  else if token.kind = .mark ||
      (token.kind = .word && ["in", "instanceof"].contains token.text) then
    return some (token.text, token.stop)
  else return none

/-- The operator that ends at `stop`, as a node. -/
def operatorNode (text : String) (stop : Nat) : Reading Node := do
  let start := (← peek).start
  moveTo stop
  node (.token text) start []

/-! ### Literals -/

def regularExpression : Reading Node := do
  let token ← peek
  match (← source).regexEnd false (token.start + 1) with
  | some stop => do
      moveTo stop
      node .regex token.start []
  | none => fail

def arrayLiteral (self : Goal → Reading Node) : Reading Node := do
  let start := (← peek).start
  let opening ← mark "["
  let items ← listUntil "]" do
    if ← isMark "," then return [] else return [← element self]
  let close ← mark "]"
  node .array start (opening :: items ++ [close])

/-- Whether the word ahead begins a method of an object literal. -/
def modifiesProperty : Reading Bool := do
  if ← isWordOf ["async", "get", "set"] then
    let next ← second
    return match next.kind with
      | .word | .privateName | .number | .string _ => true
      | .mark => next.text = "[" || next.text = "*"
      | _ => false
  else return false

/-- A member of an object literal. -/
def objectMember (self : Goal → Reading Node) : Reading (List Node) := do
  if ← isMark "..." then return [← spread self]
  let start := (← peek).start
  let modifiers ← many do
    if ← modifiesProperty then return some (← tokenNode) else return none
  let star ← mark? "*"
  let isWord := (← peek).kind = .word
  let name ← propertyName self
  if (← isMark "(") || (← isMark "<") then
    let sig ← signature self
    let body ← functionBody self
    let method ← node .methodDefinition start
      (modifiers ++ star ++ [name.as .name] ++ sig ++ [body.as .body])
    return [method]
  else if !(modifiers.isEmpty && star.isEmpty) then fail
  else if ← isMark ":" then
    let colon ← tokenNode
    let value ← self (.assignment true)
    return [← node .pair start [name.as .key, colon, value.as .value]]
  else if isWord then
    let shorthand := { name with kind := .other "shorthand_property_identifier" }
    let initial ← initializer? self true
    return shorthand :: initial
  else fail

def objectLiteral (self : Goal → Reading Node) : Reading Node := do
  let start := (← peek).start
  let opening ← mark "\x7b"
  let items ← listUntil "\x7d" (objectMember self)
  let close ← mark "\x7d"
  node .object start (opening :: items ++ [close])

/-! ### Primary expressions -/

def parenthesized (self : Goal → Reading Node) : Reading Node := do
  let start := (← peek).start
  let opening ← mark "("
  let e ← self (.expression true)
  let type ← ascription? self
  let close ← mark ")"
  node .parenthesizedExpression start (opening :: e :: type ++ [close])

/-- The kind of a word that is an expression by itself. -/
def wordKind (text : String) : Option NodeKind :=
  match text with
  | "true" => some .trueLiteral
  | "false" => some .falseLiteral
  | "null" => some .nullLiteral
  | "undefined" => some .undefinedLiteral
  | "this" => some .this
  | "super" => some .super
  | _ => if reserved.contains text then none else some .identifier

/-- `import` as the function of a call, or as a meta property. -/
def importExpression : Reading Node := do
  let start := (← peek).start
  let keyword ← tokenNode
  if ← isMark "." then
    let dot ← tokenNode
    let name ← anyWord .propertyIdentifier
    node .metaProperty start [keyword, dot, name]
  else if ← isMark "(" then return { keyword with kind := .other "import" }
  else fail

/-- An expression that is no operator applied to others, calls and member
accesses left aside. -/
def primary (self : Goal → Reading Node) : Reading Node := do
  let token ← peek
  match token.kind with
  | .number => leaf .number
  | .string _ => stringLiteral
  | .privateName => leaf .privatePropertyIdentifier
  | .mark =>
      match token.text with
      | "(" => parenthesized self
      | "[" => arrayLiteral self
      | "\x7b" => objectLiteral self
      | "`" => template (self (.expression true))
      | "/" | "/=" => regularExpression
      | "@" => classExpression self
      | "<" => if (← read).dialect = .tsx then markupElement self else fail
      | _ => fail
  | .word =>
      let next ← second
      if token.text = "function" then functionExpression self
      else if token.text = "async" && next.kind = .word && next.text = "function" &&
          !next.afterNewline then functionExpression self
      else if token.text = "class" then classExpression self
      else if token.text = "import" then importExpression
      else
        match wordKind token.text with
        | some kind => leaf kind
        | none => fail
  | _ => fail

/-! ### Calls and member accesses -/

/-- Whether an expression may begin with the token. -/
def startsExpression (token : Token) : Bool :=
  match token.kind with
  | .number | .string _ | .privateName => true
  | .word =>
      !(["in", "instanceof", "as", "satisfies", "of", "extends", "implements"].contains token.text)
  | .mark => ["(", "[", "\x7b", "`", "/", "/=", "@", "<", "!", "~", "+", "-", "++", "--"].contains
      token.text
  | _ => false

/-- One access or call applied to `object`, which begins at `start`. -/
def link? (self : Goal → Reading Node) (calls : Bool) (start : Nat) (object : Node) :
    Reading (Option Node) := do
  let token ← peek
  if token.kind != .mark then return none
  match token.text with
  | "." => do
      let dot ← tokenNode
      let property ← propertyAfterDot
      return some (← node .memberExpression start [object, dot, property.as .property])
  | "?." => do
      let dot ← tokenNode
      if ← isMark "(" then
        let list ← arguments self
        return some (← node .callExpression start
          [object.as .function, dot, list.as .arguments])
      else if ← isMark "[" then
        let opening ← tokenNode
        let index ← self (.expression true)
        let close ← mark "]"
        return some (← node .subscriptExpression start [object, dot, opening, index, close])
      else
        let property ← propertyAfterDot
        return some (← node .memberExpression start [object, dot, property.as .property])
  | "[" => do
      let opening ← tokenNode
      let index ← self (.expression true)
      let close ← mark "]"
      return some (← node .subscriptExpression start [object, opening, index, close])
  | "(" =>
      if calls then
        let list ← arguments self
        return some (← node .callExpression start [object.as .function, list.as .arguments])
      else return none
  | "`" => do
      if calls then
        let text ← template (self (.expression true))
        return some (← node .callExpression start [object.as .function, text.as .arguments])
      else return none
  | "<" =>
      if calls then
        let types ← attempt do
          let types ← typeArguments self
          if (← isMark "(") || (← isMark "`") || !startsExpression (← peek) then return types
          else fail
        match types with
        | none => return none
        | some types =>
            if ← isMark "(" then
              let list ← arguments self
              return some (← node .callExpression start
                [object.as .function, types, list.as .arguments])
            else return some (← node .instantiationExpression start [object, types])
      else return none
  | _ => return none
where
  propertyAfterDot : Reading Node := do
    if (← peek).kind = .privateName then leaf .privatePropertyIdentifier
    else anyWord .propertyIdentifier

/-- The accesses and calls applied to `object`, which begins at `start`. -/
def links (self : Goal → Reading Node) (calls : Bool) (start : Nat) (object : Node) :
    Reading Node := do
  let rec go : Nat → Node → Reading Node
    | 0, object => return object
    | fuel + 1, object => do
        match ← link? self calls start object with
        | some longer => go fuel longer
        | none => return object
  go ((← source).size + 1) object

/-- `new` with the class it instantiates and the arguments, if any. -/
def newExpression (self : Goal → Reading Node) : Nat → Reading Node
  | 0 => fail
  | fuel + 1 => do
      let start := (← peek).start
      let keyword ← word "new"
      if ← isMark "." then
        let dot ← tokenNode
        let name ← anyWord .propertyIdentifier
        node .metaProperty start [keyword, dot, name]
      else
        let inner := (← peek).start
        let head ← if ← isWord "new" then newExpression self fuel else primary self
        let callee ← links self false inner head
        let types ← attempt do
          let types ← typeArguments self
          if (← isMark "(") || !startsExpression (← peek) then return types else fail
        let list ← if ← isMark "(" then pure [(← arguments self).as .arguments] else pure []
        node .newExpression start (keyword :: callee :: types.toList ++ list)

/-! ### Operands -/

def unaryMarks : List String := ["!", "~", "+", "-"]

def unaryWords : List String := ["typeof", "void", "delete"]

/-- An operand with the postfix `++` or `--` it may carry. -/
def access (self : Goal → Reading Node) : Reading Node := do
  let start := (← peek).start
  let head ← if ← isWord "new" then newExpression self ((← source).size + 1) else primary self
  let e ← links self true start head
  let token ← peek
  if token.kind = .mark && (token.text = "++" || token.text = "--") && !token.afterNewline then
    let op ← tokenNode
    node .updateExpression start [e, op.as .operator]
  else return e

/-- `e!`, `e as T` or `e satisfies T`, if one of these continues `e`. -/
def assertion? (self : Goal → Reading Node) (start : Nat) (e : Node) : Reading (Option Node) := do
  let token ← peek
  if token.afterNewline then return none
  else if token.kind = .mark && token.text = "!" then
    let op ← tokenNode
    let sure ← node .nonNullExpression start [e, op]
    return some (← links self true start sure)
  else if token.kind = .word && (token.text = "as" || token.text = "satisfies") then
    let kind := if token.text = "as" then .asExpression else .satisfiesExpression
    let op ← tokenNode
    let type ← self (.typeExpr true)
    return some (← node kind start [e, op, type])
  else return none

/-- The assertions that continue `e`. -/
def assertions (self : Goal → Reading Node) (start : Nat) : Nat → Node → Reading Node
  | 0, e => return e
  | fuel + 1, e => do
      match ← assertion? self start e with
      | some longer => assertions self start fuel longer
      | none => return e

/-- An operand with the operators in front of it. -/
def operand (self : Goal → Reading Node) : Reading Node := do
  let token ← peek
  let start := token.start
  let isUnary := (token.kind = .mark && unaryMarks.contains token.text) ||
    (token.kind = .word && unaryWords.contains token.text)
  if isUnary then
    let op ← tokenNode
    let e ← self .operand
    node .unaryExpression start [op.as .operator, e]
  else if token.kind = .mark && (token.text = "++" || token.text = "--") then
    let op ← tokenNode
    let e ← self .operand
    node .updateExpression start [op.as .operator, e]
  else if token.kind = .mark && token.text = "<" && (← read).dialect = .typeScript then
    let types ← typeArguments self
    let e ← self .operand
    node .typeAssertion start [types, e]
  else if token.kind = .word && token.text = "await" && startsExpression (← second) then
    let keyword ← tokenNode
    let inner := (← peek).start
    let e ← self .operand
    let e ← assertions self inner ((← source).size + 1) e
    node .awaitExpression start [keyword, e]
  else access self

/-! ### Binary operators -/

/-- `left` with the operators that follow it and are at least as strong as
`strength`. -/
def operations (self : Goal → Reading Node) (strength : Nat) (allowIn : Bool) (start : Nat) :
    Nat → Node → Reading Node
  | 0, left => return left
  | fuel + 1, left => do
      let asserted ← if strength ≤ assertionStrength then assertion? self start left else pure none
      match asserted with
      | some left => operations self strength allowIn start fuel left
      | none =>
          match ← operatorAhead with
          | none => return left
          | some (text, stop) =>
              match strength? text with
              | none => return left
              | some s =>
                  if s < strength || (text = "in" && !allowIn) then return left
                  else
                    let op ← operatorNode text stop
                    let right ← self (.operation (if text = "**" then s else s + 1) allowIn)
                    let e ← node .binaryExpression start
                      [left.as .left, op.as .operator, right.as .right]
                    operations self strength allowIn start fuel e

/-- Operands joined by operators at least as strong as `strength`. -/
def operation (self : Goal → Reading Node) (strength : Nat) (allowIn : Bool) : Reading Node := do
  let start := (← peek).start
  let left ← self .operand
  operations self strength allowIn start ((← source).size + 1) left

/-! ### Arrow functions -/

/-- The arrow and what follows it. -/
def arrowBody (self : Goal → Reading Node) (allowIn : Bool) : Reading (List Node) := do
  let arrow ← mark "=>"
  let body ← if ← isMark "\x7b" then functionBody self else self (.assignment allowIn)
  return [arrow, body.as .body]

/-- The parameters of an arrow function up to its arrow, which stays ahead. -/
def arrowHead (self : Goal → Reading Node) : Reading (List Node) := do
  let async ← if ← isWord "async" then
      let next ← second
      if next.afterNewline || (next.kind = .mark && next.text = "=>") then pure []
      else pure [← tokenNode]
    else pure []
  let head ← if !((← isMark "(") || (← isMark "<")) then pure [← identifier]
    else if (← read).resultTypes then signature self
    else pure ((← typeParameters? self) ++ [← parameters self])
  if ← isMark "=>" then return async ++ head else fail

/-- Whether the token ahead can begin an arrow function. -/
def mayStartArrow : Reading Bool := do
  let token ← peek
  if token.kind = .mark then return token.text = "(" || token.text = "<"
  else if isIdentifier token then
    let next ← second
    return (next.kind = .mark && next.text = "=>") || token.text = "async"
  else return false

/-- An arrow function, if one is ahead. -/
def arrowFunction? (self : Goal → Reading Node) (allowIn : Bool) : Reading (Option Node) := do
  if ← mayStartArrow then
    let start := (← peek).start
    match ← attempt (arrowHead self) with
    | some head => return some (← node .arrowFunction start (head ++ (← arrowBody self allowIn)))
    | none => return none
  else return none

/-! ### Assignments and sequences -/

/-- Whether `yield` is ahead as an operator. -/
def yieldAhead : Reading Bool := do
  if ← isWord "yield" then
    let next ← second
    return !(next.kind = .mark && ["=", ".", "=>", "?", ":", "?."].contains next.text)
  else return false

/-- The first branch of a conditional expression and the colon after it.  A
parenthesis and a colon may be the head of an arrow function; where that leaves
no colon for the conditional, the colon is its own. -/
def firstBranch (self : Goal → Reading Node) : Reading (List Node) := do
  if (← read).resultTypes then
    if let some found ← attempt branch then return found
  withoutResultTypes branch
where
  branch : Reading (List Node) := do return [← self (.assignment true), ← mark ":"]

/-- An expression without commas. -/
def assignment (self : Goal → Reading Node) (allowIn : Bool) : Reading Node := do
  let start := (← peek).start
  if let some arrow ← arrowFunction? self allowIn then return arrow
  if ← yieldAhead then
    let keyword ← tokenNode
    let star ← mark? "*"
    let token ← peek
    let value ← if !token.afterNewline && startsExpression token then
        pure [← self (.assignment allowIn)]
      else pure []
    return ← node .yieldExpression start (keyword :: star ++ value)
  let left ← operation self weakest allowIn
  if ← isMark "?" then
    let question ← tokenNode
    let yes ← firstBranch self
    let no ← self (.assignment allowIn)
    node .ternaryExpression start (left :: question :: yes ++ [no])
  else
    match ← operatorAhead with
    | some ("=", stop) =>
        let op ← operatorNode "=" stop
        let right ← self (.assignment allowIn)
        node .assignmentExpression start [left.as .left, op, right.as .right]
    | some (text, stop) =>
        if assignmentMarks.contains text then
          let op ← operatorNode text stop
          let right ← self (.assignment allowIn)
          node .augmentedAssignmentExpression start
            [left.as .left, op.as .operator, right.as .right]
        else return left
    | none => return left

/-- Expressions joined by commas. -/
def expression (self : Goal → Reading Node) (allowIn : Bool) : Reading Node := do
  let start := (← peek).start
  let first ← self (.assignment allowIn)
  let others ← many do
    if ← isMark "," then
      let comma ← tokenNode
      return some [comma, ← self (.assignment allowIn)]
    else return none
  if others.isEmpty then return first
  else node .sequenceExpression start (first :: others.flatten)

end DispatchGen.Grammar.Reading

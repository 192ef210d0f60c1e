/-
DispatchGen/Grammar/Statement.lean

Statements and declarations.

Decorators in front of `export` belong to the export statement, decorators in
front of `class` to the class.
-/
import DispatchGen.Grammar.Expression

namespace DispatchGen.Grammar.Reading

open Syntax

/-- A parenthesized expression that is a condition. -/
def condition (self : Goal → Reading Node) : Reading Node := do
  let start := (← peek).start
  let opening ← mark "("
  let e ← self (.expression true)
  let close ← mark ")"
  node .parenthesizedExpression start [opening, e, close]

/-! ### Variables -/

/-- A declared name or pattern with its type and value. -/
def declarator (self : Goal → Reading Node) (allowIn : Bool) : Reading Node := do
  let start := (← peek).start
  let t ← self .target
  let sure ← mark? "!"
  let type ← ascription? self
  let initial ← initializer? self allowIn
  node (.other "variable_declarator") start (t.as .name :: sure ++ type ++ initial)

/-- A keyword and the declarators after it. -/
def declarators (self : Goal → Reading Node) (allowIn : Bool) : Reading (List Node) := do
  let keyword ← tokenNode
  let first ← declarator self allowIn
  let others ← many do
    if ← isMark "," then
      let comma ← tokenNode
      return some [comma, ← declarator self allowIn]
    else return none
  return keyword :: first :: others.flatten

/-- Whether a declaration of variables is ahead. -/
def declaresVariable : Reading Bool := do
  if ← isWordOf ["var", "const"] then return true
  else if ← isWordOf ["let", "using"] then
    let isLet ← isWord "let"
    let next ← second
    return match next.kind with
      | .word => isIdentifier next && (isLet || (!next.afterNewline && next.text != "of"))
      | .mark => isLet && (next.text = "[" || next.text = "\x7b")
      | _ => false
  else return false

/-- A declaration of variables, as a statement. -/
def variableStatement (self : Goal → Reading Node) : Reading Node := do
  let start := (← peek).start
  let parts ← declarators self true
  let stop ← semicolon
  node (.other "lexical_declaration") start (parts ++ stop)

/-! ### Loops and branches -/

/-- The head of a loop, from after its opening parenthesis. -/
def loopHead (self : Goal → Reading Node) : Reading (List Node) := do
  let first ← if ← isMark ";" then pure []
    else if ← declaresVariable then declarators self false
    else pure [← self (.expression false)]
  if (← isWord "of") || (← isWord "in") then
    let keyword ← tokenNode
    return first ++ [keyword, ← self (.expression true)]
  else
    let one ← mark ";"
    let test ← if ← isMark ";" then pure [] else pure [← self (.expression true)]
    let two ← mark ";"
    let step ← if ← isMark ")" then pure [] else pure [← self (.expression true)]
    return first ++ [one] ++ test ++ [two] ++ step

def forStatement (self : Goal → Reading Node) : Reading Node := do
  let start := (← peek).start
  let keyword ← tokenNode
  let await ← word? "await"
  let opening ← mark "("
  let head ← loopHead self
  let close ← mark ")"
  let body ← self .statement
  node (.other "for_statement") start
    (keyword :: await ++ opening :: head ++ [close, body.as .body])

def ifStatement (self : Goal → Reading Node) : Reading Node := do
  let start := (← peek).start
  let keyword ← tokenNode
  let test ← condition self
  let yes ← self .statement
  let no ← if ← isWord "else" then pure [← tokenNode, ← self .statement] else pure []
  node (.other "if_statement") start (keyword :: test :: yes :: no)

/-- `while` or `with`. -/
def whileStatement (self : Goal → Reading Node) : Reading Node := do
  let start := (← peek).start
  let keyword ← tokenNode
  let test ← condition self
  let body ← self .statement
  node (.other "while_statement") start [keyword, test, body.as .body]

def doStatement (self : Goal → Reading Node) : Reading Node := do
  let start := (← peek).start
  let keyword ← tokenNode
  let body ← self .statement
  let second ← word "while"
  let test ← condition self
  let stop ← mark? ";"
  node (.other "do_statement") start ([keyword, body.as .body, second, test] ++ stop)

/-- The statements of one case of a switch. -/
def caseStatements (self : Goal → Reading Node) : Reading (List Node) := do
  let parts ← many do
    if (← peek).kind = .endOfText || (← isMark "\x7d") || (← isWordOf ["case", "default"]) then
      return none
    else return some (← recovering do return [← self .statement])
  return parts.flatten

def switchCase (self : Goal → Reading Node) : Reading Node := do
  let start := (← peek).start
  let head ← if ← isWord "default" then pure [← tokenNode]
    else pure [← word "case", ← self (.expression true)]
  let colon ← mark ":"
  let inner ← caseStatements self
  node (.other "switch_case") start (head ++ colon :: inner)

def switchStatement (self : Goal → Reading Node) : Reading Node := do
  let start := (← peek).start
  let keyword ← tokenNode
  let subject ← condition self
  let opening ← mark "\x7b"
  let cases ← many do
    if ← isWordOf ["case", "default"] then return some (← switchCase self) else return none
  let close ← closing "\x7d"
  node (.other "switch_statement") start (keyword :: subject :: opening :: cases ++ [close])

/-- The `catch` clause, if it is ahead. -/
def catchClause? (self : Goal → Reading Node) : Reading (List Node) := do
  if ← isWord "catch" then
    let keyword ← tokenNode
    let binding ← if ← isMark "(" then
        let opening ← tokenNode
        let t ← self .target
        let type ← ascription? self
        let close ← mark ")"
        pure (opening :: t :: type ++ [close])
      else pure []
    return keyword :: binding ++ [← functionBody self]
  else return []

def tryStatement (self : Goal → Reading Node) : Reading Node := do
  let start := (← peek).start
  let keyword ← tokenNode
  let body ← functionBody self
  let handler ← catchClause? self
  let final ← if ← isWord "finally" then pure [← tokenNode, ← functionBody self] else pure []
  if handler.isEmpty && final.isEmpty then fail
  node (.other "try_statement") start (keyword :: body :: handler ++ final)

/-- `throw` and a value. -/
def throwStatement (self : Goal → Reading Node) : Reading Node := do
  let start := (← peek).start
  let keyword ← tokenNode
  let value ← self (.expression true)
  let stop ← semicolon
  node (.other "throw_statement") start (keyword :: value :: stop)

/-- `return`, with a value on the same line if there is one. -/
def returnStatement (self : Goal → Reading Node) : Reading Node := do
  let start := (← peek).start
  let keyword ← tokenNode
  let next ← peek
  let ends := next.kind = .endOfText || next.afterNewline ||
    (next.kind = .mark && (next.text = ";" || next.text = "\x7d"))
  let value ← if ends then pure [] else pure [← self (.expression true)]
  let stop ← semicolon
  node (.other "return_statement") start (keyword :: value ++ stop)

/-- `break`, `continue` or `debugger`, with a label on the same line. -/
def jumpStatement : Reading Node := do
  let start := (← peek).start
  let keyword ← tokenNode
  let next ← peek
  let label ← if isIdentifier next && !next.afterNewline then pure [← identifier] else pure []
  let stop ← semicolon
  node (.other "jump_statement") start (keyword :: label ++ stop)

/-! ### Modules -/

/-- `with { … }` after a module name, if it is ahead. -/
def importAttributes? (self : Goal → Reading Node) : Reading (List Node) := do
  if (← isWordOf ["with", "assert"]) && !(← peek).afterNewline then
    return [← tokenNode, ← objectLiteral self]
  else return []

/-- The names in an import or export clause, without braces. -/
def names : Reading (List Node) :=
  many do
    let token ← peek
    match token.kind with
    | .word =>
        if token.text = "from" && (← second).isString then return none
        else return some (← tokenNode)
    | .mark =>
        if token.text = "," || token.text = "*" then return some (← tokenNode) else return none
    | .string _ => return some (← stringLiteral)
    | _ => return none

/-- What an import or export clause names: names, and names between braces. -/
def clause : Reading (List Node) := do
  let outer ← names
  if ← isMark "\x7b" then
    let opening ← tokenNode
    let inner ← names
    let closing ← mark "\x7d"
    return outer ++ opening :: inner ++ [closing]
  else return outer

/-- `from` and the module name. -/
def fromModule (self : Goal → Reading Node) : Reading (List Node) := do
  let keyword ← word "from"
  let name ← stringLiteral
  return keyword :: name :: (← importAttributes? self)

def importStatement (self : Goal → Reading Node) : Reading Node := do
  let start := (← peek).start
  let keyword ← tokenNode
  if (← peek).isString then
    let name ← stringLiteral
    let attributes ← importAttributes? self
    let stop ← semicolon
    node (.other "import_statement") start (keyword :: name :: attributes ++ stop)
  else
    let named ← clause
    if named.isEmpty then fail
    let source ← if ← isMark "=" then
        pure [← tokenNode, ← self (.assignment true)]
      else fromModule self
    let stop ← semicolon
    node (.other "import_statement") start (keyword :: named ++ source ++ stop)

/-- What an export statement exports without a declaration: a clause, a value,
or a namespace. -/
def exportRest (self : Goal → Reading Node) : Reading (List Node) := do
  if ← isMark "=" then
    let equals ← tokenNode
    let value ← self (.expression true)
    return equals :: value :: (← semicolon)
  else
    let named ← clause
    if named.isEmpty then fail
    let source ← if ← isWord "from" then fromModule self else pure []
    return named ++ source ++ (← semicolon)

/-! ### Declarations -/

/-- A function, or its signature where the body is left out. -/
def functionDeclaration (self : Goal → Reading Node) : Reading Node := do
  let start := (← peek).start
  let async ← word? "async"
  let keyword ← word "function"
  let star ← mark? "*"
  let name ← if isIdentifier (← peek) then pure [(← leaf .identifier).as .name] else pure []
  let sig ← signature self
  let rest ← if ← isMark "\x7b" then pure [(← functionBody self).as .body] else semicolon
  node (.other "function_declaration") start (async ++ keyword :: star ++ name ++ sig ++ rest)

def interfaceDeclaration (self : Goal → Reading Node) : Reading Node := do
  let start := (← peek).start
  let keyword ← tokenNode
  let name ← anyWord (.other "type_identifier")
  let types ← typeParameters? self
  if ← isWord "extends" then
    discard advance
    discard (self (.typeExpr true))
    discard <| many do
      if ← isMark "," then
        discard advance
        discard (self (.typeExpr true))
        return some ()
      else return none
  objectType self
  node (.other "interface_declaration") start (keyword :: name :: types)

def typeAlias (self : Goal → Reading Node) : Reading Node := do
  let start := (← peek).start
  let keyword ← tokenNode
  let name ← anyWord (.other "type_identifier")
  let types ← typeParameters? self
  let equals ← mark "="
  let type ← self (.typeExpr true)
  let stop ← semicolon
  node (.other "type_alias_declaration") start (keyword :: name :: types ++ [equals, type] ++ stop)

def enumDeclaration (self : Goal → Reading Node) : Reading Node := do
  let start := (← peek).start
  let const ← word? "const"
  let keyword ← word "enum"
  let name ← identifier
  let opening ← mark "\x7b"
  let items ← listUntil "\x7d" do
    let key ← propertyName self
    return key :: (← initializer? self true)
  let close ← mark "\x7d"
  node (.other "enum_declaration") start
    (const ++ keyword :: name :: opening :: items ++ [close])

/-- A namespace, or a module with a quoted name. -/
def moduleDeclaration (self : Goal → Reading Node) : Reading Node := do
  let start := (← peek).start
  let keyword ← tokenNode
  let name ← if (← peek).isString then stringLiteral else anyWord .identifier
  nameLinks
  let rest ← if ← isMark "\x7b" then pure [(← functionBody self).as .body] else semicolon
  node (.other "module") start (keyword :: name :: rest)

/-- The class after its decorators. -/
def classDeclaration (self : Goal → Reading Node) (start : Nat) (decorators : List Node)
    (unnamed? : Option NodeKind) : Reading Node := do
  if ← isWord "abstract" then
    let keyword ← tokenNode
    classFrom self start (decorators ++ [keyword]) .abstractClassDeclaration none
  else classFrom self start decorators .classDeclaration unnamed?

/-- Whether the word ahead is `text` and one of the words follows it on its
line. -/
def wordBefore (text : String) (accepts : Token → Bool) : Reading Bool := do
  if ← isWord text then
    let next ← second
    return !next.afterNewline && accepts next
  else return false

def isWordToken (words : List String) (token : Token) : Bool :=
  token.kind = .word && words.contains token.text

/-- A declaration other than of variables, if one is ahead. -/
def declaration? (self : Goal → Reading Node) : Reading (Option Node) := do
  let start := (← peek).start
  if (← isWord "class") || (← wordBefore "abstract" (isWordToken ["class"])) then
    return some (← classDeclaration self start [] (some .classExpression))
  else if (← isWord "function") || (← wordBefore "async" (isWordToken ["function"])) then
    return some (← functionDeclaration self)
  else if (← isWord "enum") || (← wordBefore "const" (isWordToken ["enum"])) then
    return some (← enumDeclaration self)
  else if ← wordBefore "interface" (·.kind = .word) then
    return some (← interfaceDeclaration self)
  else if (← wordBefore "type" isIdentifier) then
    return some (← typeAlias self)
  else if (← wordBefore "namespace" isIdentifier) ||
      (← wordBefore "module" fun t => isIdentifier t || t.isString) ||
      (← wordBefore "global" fun t => t.kind = .mark && t.text = "\x7b") then
    if ← isWord "global" then
      let keyword ← tokenNode
      let body ← functionBody self
      return some (← node (.other "module") start [keyword, body.as .body])
    else return some (← moduleDeclaration self)
  else if ← wordBefore "declare" (·.kind = .word) then
    let keyword ← tokenNode
    let inner ← self .statement
    return some (← node (.other "ambient_declaration") start [keyword, inner])
  else return none

/-- What follows `export`. -/
def exported (self : Goal → Reading Node) : Reading (List Node) := do
  if ← isWord "default" then
    let keyword ← tokenNode
    let start := (← peek).start
    if ← isMark "@" then
      let decorators ← decorators self
      return [keyword, ← classDeclaration self start decorators (some .classExpression)]
    match ← declaration? self with
    | some inner => return [keyword, inner]
    | none =>
        let value ← self (.expression true)
        return keyword :: value :: (← semicolon)
  else if ← isMark "@" then
    let start := (← peek).start
    let decorators ← decorators self
    return [← classDeclaration self start decorators none]
  else if ← isWord "import" then return [← importStatement self]
  else if ← isWord "as" then
    return (← tokenNode) :: (← word "namespace") :: (← identifier) :: (← semicolon)
  else
    match ← declaration? self with
    | some inner => return [inner]
    | none => if ← declaresVariable then return [← variableStatement self] else exportRest self

def exportStatement (self : Goal → Reading Node) (start : Nat) (decorators : List Node) :
    Reading Node := do
  let keyword ← word "export"
  node .exportStatement start (decorators ++ keyword :: (← exported self))

/-- A class or export statement with the decorators before it. -/
def decorated (self : Goal → Reading Node) : Reading Node := do
  let start := (← peek).start
  let decorators ← decorators self
  if ← isWord "export" then exportStatement self start decorators
  else classDeclaration self start decorators none

/-! ### Statements -/

def expressionStatement (self : Goal → Reading Node) : Reading Node := do
  let start := (← peek).start
  let e ← self (.expression true)
  let stop ← semicolon
  node (.other "expression_statement") start (e :: stop)

/-- Whether `import` is ahead as part of an expression. -/
def importsValue : Reading Bool := do
  let next ← second
  return next.kind = .mark && (next.text = "(" || next.text = ".")

def labeled (self : Goal → Reading Node) : Reading Node := do
  let start := (← peek).start
  let label ← identifier
  let colon ← mark ":"
  let inner ← self .statement
  node (.other "labeled_statement") start [label, colon, inner]

/-- A statement. -/
def statement (self : Goal → Reading Node) : Reading Node := do
  let token ← peek
  if token.kind = .mark then
    if token.text = "\x7b" then return ← functionBody self
    if token.text = ";" then
      let mark ← tokenNode
      return ← node (.other "empty_statement") token.start [mark]
    if token.text = "@" then return ← decorated self
  if token.kind = .word then
    let next ← second
    if next.kind = .mark && next.text = ":" && isIdentifier token then return ← labeled self
    if ← declaresVariable then
      if !(token.text = "const" && next.kind = .word && next.text = "enum") then
        return ← variableStatement self
    if token.text = "export" then return ← exportStatement self token.start []
    if token.text = "import" then
      if !(← importsValue) then return ← importStatement self
    if let some inner ← declaration? self then return inner
    match token.text with
    | "if" => return ← ifStatement self
    | "for" => return ← forStatement self
    | "while" | "with" => return ← whileStatement self
    | "do" => return ← doStatement self
    | "switch" => return ← switchStatement self
    | "try" => return ← tryStatement self
    | "return" => return ← returnStatement self
    | "throw" => return ← throwStatement self
    | "break" | "continue" | "debugger" => return ← jumpStatement
    | _ => pure ()
  expressionStatement self

end DispatchGen.Grammar.Reading

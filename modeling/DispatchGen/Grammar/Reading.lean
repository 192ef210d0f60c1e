/-
DispatchGen/Grammar/Reading.lean

Reading a source token by token.

A `Reading` sees one token ahead and may fail; a failed attempt leaves no trace,
so alternatives are tried with `attempt`.  Recursion between rules of the
grammar goes through `Goal`: a rule receives the reading of every goal as an
argument, and `Grammar.File` closes the circle with a bound on the depth.
-/
import DispatchGen.Grammar.Token
import DispatchGen.Syntax.Node

namespace DispatchGen.Grammar

open Syntax

/-- Which of the two languages a file is written in. -/
inductive Dialect where
  | typeScript
  /-- With markup in expressions. -/
  | tsx
deriving DecidableEq, Repr, Inhabited

/-- The nonterminals that rules refer to one another by. -/
inductive Goal where
  | statement
  /-- An expression, commas included; `allowIn` is off in the head of a loop. -/
  | expression (allowIn : Bool)
  /-- An expression without commas. -/
  | assignment (allowIn : Bool)
  /-- Operands joined by operators at least as strong as `strength`. -/
  | operation (strength : Nat) (allowIn : Bool)
  | operand
  | target
  /-- A type; a conditional type only where `conditional` is on. -/
  | typeExpr (conditional : Bool)
  | markup
deriving Repr, Inhabited

/-- Where reading stands: the token ahead, and where the last one ended. -/
structure Cursor where
  token : Token
  lastStop : Nat
deriving Inhabited

/-- A token that fits no rule; at the end of the text, the last token. -/
structure Fault where
  line : Nat
  position : Nat
deriving Inhabited

structure Setting where
  source : Source
  dialect : Dialect
  /-- Whether an arrow function may give the type of its result. -/
  resultTypes : Bool := true

abbrev Reading := ReaderT Setting (StateT Cursor (Except Fault))

namespace Reading

/-! ### Tokens -/

def peek : Reading Token := do return (← get).token

def source : Reading Source := do return (← read).source

/-- Go on from a position in the text. -/
def moveTo (position : Nat) : Reading Unit := do
  let token := (← source).tokenAt position
  set (Cursor.mk token position)

def advance : Reading Token := do
  let token ← peek
  moveTo token.stop
  return token

/-- Where the last token ended. -/
def lastStop : Reading Nat := do return (← get).lastStop

/-- The line of the last character read. -/
def lastLine : Reading Nat := do
  return (← source).lineAt ((← lastStop) - 1)

/-- The line of the token ahead. -/
def lineAhead : Reading Nat := do return (← source).lineAt (← peek).start

def fail {α : Type} : Reading α := do
  let token ← peek
  let line ← if token.kind = .endOfText then lastLine else lineAhead
  throw ⟨line, token.start⟩

/-- The result of `p`, or nothing and no step taken if it fails. -/
def attempt {α : Type} (p : Reading α) : Reading (Option α) :=
  tryCatch (some <$> p) fun _ => return none

/-- `p` with no arrow function giving the type of its result. -/
def withoutResultTypes {α : Type} (p : Reading α) : Reading α :=
  withReader (fun s => { s with resultTypes := false }) p

/-- The results of `p` until it gives none. -/
def many {α : Type} (p : Reading (Option α)) : Reading (List α) := do
  let rec go : Nat → List α → Reading (List α)
    | 0, found => return found.reverse
    | fuel + 1, found => do
        match ← p with
        | some x => go fuel (x :: found)
        | none => return found.reverse
  go ((← source).size + 1) []

/-! ### Nodes -/

/-- The node of the text from `start` to the last token read. -/
def node (kind : NodeKind) (start : Nat) (children : List Node) : Reading Node := do
  let s ← source
  return {
    kind
    text := s.slice start (← lastStop)
    line := s.lineAt start
    hasError := kind = .error || children.any (·.hasError)
    children }

/-- The token ahead as a node of its own. -/
def leaf (kind : NodeKind) : Reading Node := do
  let token ← advance
  node kind token.start []

/-- The token ahead as a keyword or mark. -/
def tokenNode : Reading Node := do
  let token ← advance
  node (.token token.text) token.start []

def isMark (text : String) : Reading Bool := do
  let token ← peek
  return token.kind = .mark && token.text = text

def isWord (text : String) : Reading Bool := do
  let token ← peek
  return token.kind = .word && token.text = text

/-- Whether the token ahead is one of the words. -/
def isWordOf (words : List String) : Reading Bool := do
  let token ← peek
  return token.kind = .word && words.contains token.text

/-- The mark, if it is ahead, as a list of at most one node. -/
def mark? (text : String) : Reading (List Node) := do
  if ← isMark text then return [← tokenNode] else return []

def word? (text : String) : Reading (List Node) := do
  if ← isWord text then return [← tokenNode] else return []

def mark (text : String) : Reading Node := do
  if ← isMark text then tokenNode else fail

def word (text : String) : Reading Node := do
  if ← isWord text then tokenNode else fail

/-- The closing mark, or, at the end of the text, a missing one. -/
def closing (text : String) : Reading Node := do
  if (← peek).kind = .endOfText then
    return {
      kind := .token text, line := ← lastLine, missing := true, hasError := true }
  else mark text

/-- The token after the one ahead. -/
def second : Reading Token := do
  return (← source).tokenAt (← peek).stop

/-- A semicolon, or a place where one may be left out. -/
def semicolon : Reading (List Node) := do
  let token ← peek
  if token.kind = .mark && token.text = ";" then return [← tokenNode]
  else if token.kind = .endOfText || token.afterNewline ||
      (token.kind = .mark && token.text = "\x7d") then return []
  else fail

/-- Items separated by commas up to the closing mark, which stays ahead; a
comma may follow the last. -/
def listUntil (close : String) (item : Reading (List Node)) : Reading (List Node) := do
  let parts ← many do
    if ← isMark close then return none
    else
      let found ← item
      if ← isMark close then return some found
      else return some (found ++ [← mark ","])
  return parts.flatten

/-! ### Words -/

/-- Words that cannot name a variable. -/
def reserved : List String :=
  ["break", "case", "catch", "class", "const", "continue", "debugger", "default", "delete", "do",
    "else", "enum", "export", "extends", "false", "finally", "for", "function", "if", "import",
    "in", "instanceof", "new", "null", "return", "super", "switch", "this", "throw", "true",
    "try", "typeof", "var", "void", "while", "with"]

def isIdentifier (token : Token) : Bool := token.kind = .word && !reserved.contains token.text

/-- An identifier. -/
def identifier : Reading Node := do
  if isIdentifier (← peek) then leaf .identifier else fail

/-- Any word, as the name of something. -/
def anyWord (kind : NodeKind) : Reading Node := do
  if (← peek).kind = .word then leaf kind else fail

/-- An error node for each malformed escape, given by position. -/
def escapeErrors (positions : List Nat) : Reading (List Node) := do
  let s ← source
  return positions.map fun i =>
    { kind := NodeKind.error, text := s.slice i (i + 2), line := s.lineAt i,
      hasError := true : Node }

/-- A string literal. -/
def stringLiteral : Reading Node := do
  match (← peek).kind with
  | .string malformed => do
      let token ← advance
      node .string token.start (← escapeErrors malformed)
  | _ => fail

end Reading

end DispatchGen.Grammar

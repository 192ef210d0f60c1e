/-
DispatchGen/Literal.lean

Constant folding of marker arguments.

`Literal.fold` gives an expression its value if it is built from string
literals, templates without substitutions, parentheses and `+`; everything else
is a `Literal.Fault`, which says what the expression is instead.  No source text
is ever executed.

`boolean?` and `property?` read the two other things a marker argument may
hold: a boolean literal and a property of an object literal.
-/
import DispatchGen.Syntax.Node
import DispatchGen.Text.Quoted

namespace DispatchGen.Literal

open Syntax Text

/-- Why an expression has no constant string value. -/
inductive Fault where
  /-- The expression is of a kind that never folds. -/
  | unsupported (kind : NodeKind) (text : String) (line : Nat)
  /-- A template with substitutions. -/
  | interpolated (text : String) (line : Nat)
  /-- A binary expression that is not a `+` of two foldable operands. -/
  | badConcatenation (text : String) (line : Nat)
deriving DecidableEq, Repr

def Fault.line : Fault → Nat
  | unsupported _ _ line => line
  | interpolated _ line => line
  | badConcatenation _ line => line

def Fault.message : Fault → String
  | unsupported kind text _ => "`" ++ text ++ "` (" ++ kind.name ++ ") is not a string literal"
  | interpolated text _ => "template `" ++ text ++ "` contains substitutions"
  | badConcatenation text _ => "`" ++ text ++ "` is not a concatenation of string literals"

/-- Whether the children of a template hold a substitution. -/
def hasSubstitution (children : List Node) : Bool :=
  children.any (·.kind = .templateSubstitution)

/-- Whether the children of a binary expression make it an addition. -/
def isPlus (children : List Node) : Bool :=
  match children.find? (·.field = some .operator) with
  | some op => op.kind = .token "+"
  | none => false

mutual

/-- The constant string value of an expression. -/
def fold : Node → Except Fault String
  | ⟨kind, _, text, line, _, _, children⟩ =>
      match kind with
      | .string => .ok (unquote text)
      | .templateString =>
          if hasSubstitution children then .error (.interpolated text line)
          else .ok (unquote text)
      | .parenthesizedExpression =>
          match foldContents children with
          | [value] => value
          | _ => .error (.unsupported kind text line)
      | .binaryExpression =>
          match foldRole .left children, foldRole .right children with
          | some left, some right =>
              if isPlus children then
                match left, right with
                | .ok a, .ok b => .ok (a ++ b)
                | _, _ => .error (.badConcatenation text line)
              else .error (.badConcatenation text line)
          | _, _ => .error (.unsupported kind text line)
      | _ => .error (.unsupported kind text line)

/-- The values of the content nodes among `ns`. -/
def foldContents : List Node → List (Except Fault String)
  | [] => []
  | n :: ns => if n.isContent then fold n :: foldContents ns else foldContents ns

/-- The value of the first node among `ns` in the role `f`. -/
def foldRole (f : Field) : List Node → Option (Except Fault String)
  | [] => none
  | n :: ns => if n.field = some f then some (fold n) else foldRole f ns

end

theorem foldContents_eq_map (ns : List Node) :
    foldContents ns = (ns.filter Node.isContent).map fold := by
  induction ns with
  | nil => rfl
  | cons n ns ih => by_cases h : n.isContent <;> simp [foldContents, h, ih]

theorem foldRole_eq_map (f : Field) (ns : List Node) :
    foldRole f ns = (ns.find? (·.field = some f)).map fold := by
  induction ns with
  | nil => rfl
  | cons n ns ih => by_cases h : n.field = some f <;> simp [foldRole, h, ih]

/-- The value of a boolean literal. -/
def boolean? (n : Node) : Option Bool :=
  match n.kind with
  | .trueLiteral => some true
  | .falseLiteral => some false
  | _ => none

/-- The text under which the key of a pair is looked up: a quoted key loses its
quotes, any other is taken as written. -/
def keyText (key : Node) : String :=
  match key.kind with
  | .string => String.ofList (stripQuotes key.text.toList)
  | _ => key.text

/-- Whether `n` is a pair whose key reads `key`. -/
def isPairOf (key : String) (n : Node) : Bool :=
  n.kind = .pair &&
    match n.child? .key with
    | some k => keyText k = key
    | none => false

/-- The value of the first pair of `object` whose key reads `key`. -/
def property? (object : Node) (key : String) : Option Node :=
  (object.contents.find? (isPairOf key)).bind (·.child? .value)

end DispatchGen.Literal

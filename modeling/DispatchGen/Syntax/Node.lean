/-
DispatchGen/Syntax/Node.lean

The concrete syntax tree of a source file.

A node knows its grammatical kind, the role it plays in its parent, the exact
slice of source text it covers, the line it starts on, and its children,
punctuation and keywords included.  Nothing here depends on how a tree was
read: the extractor and the constant folder are defined on all trees.

Two marks record syntax errors.  A node of kind `error` covers text that fits
no rule, a `missing` node stands for a token that should have been there, and
`hasError` says that one of these occurs in the subtree.
-/

namespace DispatchGen.Syntax

/-- The grammatical kind of a node.  Kinds that no rule of this library asks
for and no message names are `other`. -/
inductive NodeKind where
  /-- A keyword or punctuation mark, by its text. -/
  | token (text : String)
  | comment
  | error
  | program
  | exportStatement
  | classDeclaration
  | abstractClassDeclaration
  | classBody
  | methodDefinition
  | decorator
  | pair
  | propertyIdentifier
  | privatePropertyIdentifier
  | computedPropertyName
  | templateSubstitution
  | identifier
  | string
  | templateString
  | number
  | regex
  | trueLiteral
  | falseLiteral
  | nullLiteral
  | undefinedLiteral
  | this
  | super
  | array
  | object
  | arrowFunction
  | functionExpression
  | generatorFunction
  | classExpression
  | parenthesizedExpression
  | sequenceExpression
  | binaryExpression
  | unaryExpression
  | updateExpression
  | ternaryExpression
  | assignmentExpression
  | augmentedAssignmentExpression
  | awaitExpression
  | yieldExpression
  | callExpression
  | newExpression
  | memberExpression
  | subscriptExpression
  | instantiationExpression
  | asExpression
  | satisfiesExpression
  | nonNullExpression
  | typeAssertion
  | spreadElement
  | metaProperty
  | jsxElement
  | jsxSelfClosingElement
  | other (name : String)
deriving DecidableEq, Repr, Inhabited

/-- The name of a kind in messages. -/
def NodeKind.name : NodeKind → String
  | token text => text
  | comment => "comment"
  | error => "ERROR"
  | program => "program"
  | exportStatement => "export_statement"
  | classDeclaration => "class_declaration"
  | abstractClassDeclaration => "abstract_class_declaration"
  | classBody => "class_body"
  | methodDefinition => "method_definition"
  | decorator => "decorator"
  | pair => "pair"
  | propertyIdentifier => "property_identifier"
  | privatePropertyIdentifier => "private_property_identifier"
  | computedPropertyName => "computed_property_name"
  | templateSubstitution => "template_substitution"
  | identifier => "identifier"
  | string => "string"
  | templateString => "template_string"
  | number => "number"
  | regex => "regex"
  | trueLiteral => "true"
  | falseLiteral => "false"
  | nullLiteral => "null"
  | undefinedLiteral => "undefined"
  | this => "this"
  | super => "super"
  | array => "array"
  | object => "object"
  | arrowFunction => "arrow_function"
  | functionExpression => "function_expression"
  | generatorFunction => "generator_function"
  | classExpression => "class"
  | parenthesizedExpression => "parenthesized_expression"
  | sequenceExpression => "sequence_expression"
  | binaryExpression => "binary_expression"
  | unaryExpression => "unary_expression"
  | updateExpression => "update_expression"
  | ternaryExpression => "ternary_expression"
  | assignmentExpression => "assignment_expression"
  | augmentedAssignmentExpression => "augmented_assignment_expression"
  | awaitExpression => "await_expression"
  | yieldExpression => "yield_expression"
  | callExpression => "call_expression"
  | newExpression => "new_expression"
  | memberExpression => "member_expression"
  | subscriptExpression => "subscript_expression"
  | instantiationExpression => "instantiation_expression"
  | asExpression => "as_expression"
  | satisfiesExpression => "satisfies_expression"
  | nonNullExpression => "non_null_expression"
  | typeAssertion => "type_assertion"
  | spreadElement => "spread_element"
  | metaProperty => "meta_property"
  | jsxElement => "jsx_element"
  | jsxSelfClosingElement => "jsx_self_closing_element"
  | other name => name

/-- Whether a kind is a grammar rule rather than a token of its own. -/
def NodeKind.isNamed : NodeKind → Bool
  | token _ => false
  | _ => true

/-- The roles of a child in its parent that rules of this library ask for. -/
inductive Field where
  | name
  | body
  | function
  | arguments
  | property
  | operator
  | left
  | right
  | key
  | value
deriving DecidableEq, Repr, Inhabited

/-- A syntax tree. -/
structure Node where
  kind : NodeKind
  field : Option Field := none
  text : String := ""
  line : Nat
  missing : Bool := false
  hasError : Bool := false
  children : List Node := []
deriving Repr, Inhabited

namespace Node

/-- Children a reader of the tree looks at: grammar rules, comments left out. -/
def isContent (n : Node) : Bool := n.kind.isNamed && n.kind != .comment

def contents (n : Node) : List Node := n.children.filter isContent

/-- The first child that plays the role `f`. -/
def child? (n : Node) (f : Field) : Option Node := n.children.find? (·.field = some f)

/-- The node in the role `f`. -/
def as (n : Node) (f : Field) : Node := { n with field := some f }

/-! ### The first error

The search visits a node before its children and enters only subtrees that are
marked, so its cost is bounded by the marked part of the tree. -/

mutual

/-- The line of the first error in document order. -/
def firstErrorLine? : Node → Option Nat
  | ⟨kind, _, _, line, missing, hasError, children⟩ =>
      if kind = .error || missing then some line
      else if hasError then firstErrorLineIn? children
      else none

def firstErrorLineIn? : List Node → Option Nat
  | [] => none
  | n :: ns =>
      match firstErrorLine? n with
      | some line => some line
      | none => firstErrorLineIn? ns

end

end Node

end DispatchGen.Syntax

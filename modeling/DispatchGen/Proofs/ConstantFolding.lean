/-
DispatchGen/Proofs/ConstantFolding.lean

Which expressions fold, to what, and what is said of the others.

`Constant n leaves` derives an expression from literals: a string, a template without
substitutions, parentheses around one expression, and a sum of two.  It collects the texts of the
literals from left to right and nothing else, so groups, parentheses and comments leave no trace
in it.  Folding succeeds exactly on these expressions, and its value is read off the leaves
(`fold_eq_ok_iff`).

A fault is always about the expression inside the outermost parentheses (`Inside`), whatever goes
wrong further down: parentheses pass it on as it is, and a sum replaces the fault of an operand by
one of its own (`fold_eq_error`).
-/
import DispatchGen.Literal

namespace DispatchGen

namespace Syntax.Node

mutual

/-- What holds of a node as soon as it holds of its children holds of all nodes. -/
theorem induct {P : Node → Prop} (step : ∀ n : Node, (∀ m ∈ n.children, P m) → P n) :
    (n : Node) → P n
  | ⟨kind, field, text, line, missing, hasError, children⟩ =>
    step ⟨kind, field, text, line, missing, hasError, children⟩ (inductAll step children)
termination_by structural n => n

theorem inductAll {P : Node → Prop} (step : ∀ n : Node, (∀ m ∈ n.children, P m) → P n) :
    (ns : List Node) → ∀ m ∈ ns, P m
  | [] => fun _ hm => nomatch hm
  | n :: ns => List.forall_mem_cons.mpr ⟨induct step n, inductAll step ns⟩
termination_by structural ns => ns

end

theorem mem_children_of_child? {n m : Node} {f : Field} (h : n.child? f = some m) :
    m ∈ n.children := List.mem_of_find?_eq_some h

theorem mem_children_of_contents {n m : Node} (h : n.contents = [m]) : m ∈ n.children := by
  have hm : m ∈ n.contents := h ▸ List.mem_cons_self
  exact (List.mem_filter.mp hm).1

end Syntax.Node

namespace Literal

open Syntax Text

variable {n inner left right : Node} {leaves : List String}

/-! ### Constant expressions -/

/-- The expressions that are built from literals, each with the texts of its literals from left
to right. -/
inductive Constant : Node → List String → Prop
  | string {n : Node} : n.kind = .string → Constant n [n.text]
  | template {n : Node} : n.kind = .templateString →
      (∀ child ∈ n.children, child.kind ≠ .templateSubstitution) → Constant n [n.text]
  | parentheses {n inner : Node} {leaves : List String} : n.kind = .parenthesizedExpression →
      n.contents = [inner] → Constant inner leaves → Constant n leaves
  | sum {n op left right : Node} {before after : List String} : n.kind = .binaryExpression →
      n.child? .operator = some op → op.kind = .token "+" →
      n.child? .left = some left → n.child? .right = some right →
      Constant left before → Constant right after → Constant n (before ++ after)

/-- The value that literals have together. -/
def valueOf (leaves : List String) : String := String.join (leaves.map unquote)

theorem valueOf_append (before after : List String) :
    valueOf (before ++ after) = valueOf before ++ valueOf after := by
  rw [valueOf, List.map_append, String.join_append]
  rfl

theorem valueOf_singleton (leaf : String) : valueOf [leaf] = unquote leaf := by
  simp [valueOf, String.join_cons]

/-! ### Folding, one kind of node at a time -/

theorem fold_string (h : n.kind = .string) : fold n = .ok (unquote n.text) := by
  obtain ⟨kind, field, text, line, missing, hasError, children⟩ := n
  cases h
  rfl

theorem fold_template (h : n.kind = .templateString) :
    fold n = if hasSubstitution n.children then .error (.interpolated n.text n.line)
      else .ok (unquote n.text) := by
  obtain ⟨kind, field, text, line, missing, hasError, children⟩ := n
  cases h
  rfl

/-- Parentheses pass on what is inside. -/
theorem fold_parentheses (h : n.kind = .parenthesizedExpression) (hinner : n.contents = [inner]) :
    fold n = fold inner := by
  obtain ⟨kind, field, text, line, missing, hasError, children⟩ := n
  cases h
  have hcontents : foldContents children = [fold inner] := by
    rw [foldContents_eq_map]
    exact congrArg (List.map fold) hinner
  rw [fold, hcontents]

/-- Parentheses around nothing, or around more than one expression. -/
theorem fold_parentheses_of_ne (h : n.kind = .parenthesizedExpression)
    (hinner : ∀ inner, n.contents ≠ [inner]) :
    fold n = .error (.unsupported n.kind n.text n.line) := by
  obtain ⟨kind, field, text, line, missing, hasError, children⟩ := n
  cases h
  rw [fold, foldContents_eq_map]
  split
  case h_1 value hvalue =>
    obtain ⟨inner, hcontents, -⟩ := List.map_eq_singleton_iff.mp hvalue
    exact absurd hcontents (hinner inner)
  case h_2 => rfl

theorem fold_binary (h : n.kind = .binaryExpression) (hleft : n.child? .left = some left)
    (hright : n.child? .right = some right) :
    fold n = if isPlus n.children then
        match fold left, fold right with
        | .ok a, .ok b => .ok (a ++ b)
        | _, _ => .error (.badConcatenation n.text n.line)
      else .error (.badConcatenation n.text n.line) := by
  obtain ⟨kind, field, text, line, missing, hasError, children⟩ := n
  cases h
  have hrole : ∀ f m, children.find? (·.field = some f) = some m →
      foldRole f children = some (fold m) := by
    intro f m hfound
    rw [foldRole_eq_map, hfound]
    rfl
  have hfirst := hrole .left left hleft
  have hsecond := hrole .right right hright
  rw [fold]
  split
  case h_1 a b ha hb =>
    rw [hfirst] at ha
    rw [hsecond] at hb
    cases ha
    cases hb
    rfl
  case h_2 hnone => exact (hnone _ _ hfirst hsecond).elim

theorem fold_binary_of_none (h : n.kind = .binaryExpression)
    (hmissing : n.child? .left = none ∨ n.child? .right = none) :
    fold n = .error (.unsupported n.kind n.text n.line) := by
  obtain ⟨kind, field, text, line, missing, hasError, children⟩ := n
  cases h
  have hrole : foldRole .left children = none ∨ foldRole .right children = none := by
    rw [foldRole_eq_map, foldRole_eq_map, Option.map_eq_none_iff, Option.map_eq_none_iff]
    exact hmissing
  rw [fold]
  split
  case h_1 left right hleft hright =>
    rw [hleft, hright] at hrole
    exact absurd hrole (by simp)
  case h_2 => rfl

/-- The kinds of node that an expression can fold by. -/
def isFoldable : NodeKind → Bool
  | .string | .templateString | .parenthesizedExpression | .binaryExpression => true
  | _ => false

theorem fold_of_not_foldable (h : isFoldable n.kind = false) :
    fold n = .error (.unsupported n.kind n.text n.line) := by
  obtain ⟨kind, field, text, line, missing, hasError, children⟩ := n
  unfold fold
  split <;> first | rfl | cases h

/-! ### What folds -/

theorem isPlus_iff {children : List Node} :
    isPlus children = true ↔
      ∃ op, children.find? (·.field = some .operator) = some op ∧ op.kind = .token "+" := by
  unfold isPlus
  split
  case h_1 op hop => simp [hop]
  case h_2 hnone => simp [hnone]

theorem hasSubstitution_eq_false_iff {children : List Node} :
    hasSubstitution children = false ↔ ∀ child ∈ children, child.kind ≠ .templateSubstitution := by
  simp [hasSubstitution]

/-- A constant expression folds to the value of its literals. -/
theorem Constant.fold_eq (h : Constant n leaves) : fold n = .ok (valueOf leaves) := by
  induction h with
  | string hkind => rw [fold_string hkind, valueOf_singleton]
  | template hkind hnone =>
    rw [fold_template hkind, hasSubstitution_eq_false_iff.mpr hnone, valueOf_singleton]
    rfl
  | parentheses hkind hinner _ ih => rw [fold_parentheses hkind hinner, ih]
  | sum hkind hop hplus hleft hright _ _ ihleft ihright =>
    rw [fold_binary hkind hleft hright, if_pos (isPlus_iff.mpr ⟨_, hop, hplus⟩), ihleft, ihright,
      valueOf_append]

/-- Only constant expressions fold. -/
theorem exists_constant_of_fold (n : Node) :
    ∀ value, fold n = .ok value → ∃ leaves, Constant n leaves := by
  induction n using Node.induct with
  | step n ih =>
    intro value hfold
    cases hkind : n.kind with
    | string => exact ⟨_, .string hkind⟩
    | templateString =>
      rw [fold_template hkind] at hfold
      split at hfold
      case isTrue => cases hfold
      case isFalse hnone =>
        exact ⟨_, .template hkind (hasSubstitution_eq_false_iff.mp (by simpa using hnone))⟩
    | parenthesizedExpression =>
      by_cases hone : ∃ inner, n.contents = [inner]
      case pos =>
        obtain ⟨inner, hinner⟩ := hone
        rw [fold_parentheses hkind hinner] at hfold
        obtain ⟨leaves, hleaves⟩ := ih inner (Node.mem_children_of_contents hinner) value hfold
        exact ⟨leaves, .parentheses hkind hinner hleaves⟩
      case neg =>
        rw [fold_parentheses_of_ne hkind fun inner hinner => hone ⟨inner, hinner⟩] at hfold
        cases hfold
    | binaryExpression =>
      cases hleft : n.child? .left with
      | none =>
        rw [fold_binary_of_none hkind (.inl hleft)] at hfold
        cases hfold
      | some left =>
        cases hright : n.child? .right with
        | none =>
          rw [fold_binary_of_none hkind (.inr hright)] at hfold
          cases hfold
        | some right =>
          rw [fold_binary hkind hleft hright] at hfold
          split at hfold
          case isFalse => cases hfold
          case isTrue hplus =>
            -- both operands fold, or else the sum would not
            split at hfold
            case h_2 => cases hfold
            case h_1 a b ha hb =>
              obtain ⟨op, hop, hop'⟩ := isPlus_iff.mp hplus
              obtain ⟨before, hbefore⟩ := ih left (Node.mem_children_of_child? hleft) a ha
              obtain ⟨after, hafter⟩ := ih right (Node.mem_children_of_child? hright) b hb
              exact ⟨_, .sum hkind hop hop' hleft hright hbefore hafter⟩
    | _ =>
      rw [fold_of_not_foldable (by rw [hkind]; rfl)] at hfold
      cases hfold

/-- Folding succeeds on constant expressions alone, with the value of their literals. -/
theorem fold_eq_ok_iff {value : String} :
    fold n = .ok value ↔ ∃ leaves, Constant n leaves ∧ value = valueOf leaves := by
  constructor
  · intro hfold
    obtain ⟨leaves, hleaves⟩ := exists_constant_of_fold n value hfold
    rw [hleaves.fold_eq] at hfold
    exact ⟨leaves, hleaves, (Except.ok.inj hfold).symm⟩
  · rintro ⟨leaves, hleaves, rfl⟩
    exact hleaves.fold_eq

/-! ### What is wrong with the others -/

/-- The second node is the first without the parentheses around it. -/
inductive Inside : Node → Node → Prop
  | bare {n : Node} : (∀ inner, n.kind = .parenthesizedExpression → n.contents ≠ [inner]) →
      Inside n n
  | parentheses {n inner core : Node} : n.kind = .parenthesizedExpression →
      n.contents = [inner] → Inside inner core → Inside n core

/-- Why an expression that stands in no parentheses does not fold: its kind, its text and its
line decide. -/
def faultOf (core : Node) : Fault :=
  match core.kind with
  | .templateString => .interpolated core.text core.line
  | .binaryExpression =>
      if (core.child? .left).isSome && (core.child? .right).isSome then
        .badConcatenation core.text core.line
      else .unsupported core.kind core.text core.line
  | _ => .unsupported core.kind core.text core.line

/-- Parentheses come off as long as there is one expression inside, and change nothing. -/
theorem exists_inside (n : Node) : ∃ core, Inside n core ∧ fold n = fold core := by
  induction n using Node.induct with
  | step n ih =>
    by_cases hone : n.kind = .parenthesizedExpression ∧ ∃ inner, n.contents = [inner]
    case pos =>
      obtain ⟨hkind, inner, hinner⟩ := hone
      obtain ⟨core, hcore, hfold⟩ := ih inner (Node.mem_children_of_contents hinner)
      exact ⟨core, .parentheses hkind hinner hcore, (fold_parentheses hkind hinner).trans hfold⟩
    case neg =>
      exact ⟨n, .bare fun inner hkind hinner => hone ⟨hkind, inner, hinner⟩, rfl⟩

theorem Inside.isBare {core : Node} (h : Inside n core) :
    ∀ inner, core.kind = .parenthesizedExpression → core.contents ≠ [inner] := by
  induction h with
  | bare h => exact h
  | parentheses _ _ _ ih => exact ih

/-- The fault of an expression that stands in no parentheses. -/
theorem fold_eq_error {fault : Fault}
    (hbare : ∀ inner, n.kind = .parenthesizedExpression → n.contents ≠ [inner])
    (h : fold n = .error fault) : fault = faultOf n := by
  unfold faultOf
  cases hkind : n.kind with
  | string =>
    rw [fold_string hkind] at h
    cases h
  | templateString =>
    rw [fold_template hkind] at h
    split at h
    case isTrue =>
      cases h
      rfl
    case isFalse => cases h
  | parenthesizedExpression =>
    rw [fold_parentheses_of_ne hkind fun inner => hbare inner hkind] at h
    cases h
    rw [hkind]
  | binaryExpression =>
    cases hleft : n.child? .left with
    | none =>
      rw [fold_binary_of_none hkind (.inl hleft)] at h
      cases h
      rw [hkind]
      rfl
    | some left =>
      cases hright : n.child? .right with
      | none =>
        rw [fold_binary_of_none hkind (.inr hright)] at h
        cases h
        rw [hkind]
        rfl
      | some right =>
        -- whatever the fault of an operand is, the sum has its own
        rw [fold_binary hkind hleft hright] at h
        split at h
        case isTrue =>
          split at h
          case h_1 => cases h
          case h_2 =>
            cases h
            rfl
        case isFalse =>
          cases h
          rfl
  | _ =>
    rw [fold_of_not_foldable (by rw [hkind]; rfl)] at h
    cases h
    rw [hkind]

/-! ### Main statement -/

/-- **What folds, and to what.**  An expression folds exactly if it is derived from literals, and
then to what its literals stand for, one after another; so two such expressions with literals of
the same values fold to the same, however they are grouped, parenthesized or commented.  Where an
expression does not fold, the fault is decided by what stands inside the parentheses around it:
a template has substitutions; a binary expression with both operands is reported as a whole, with
its own text and line; anything else is of a kind that is not supported. -/
theorem fold_iff_constant (n : Node) :
    (∀ value, fold n = .ok value ↔ ∃ leaves, Constant n leaves ∧ value = valueOf leaves) ∧
    (∀ m leaves leaves', Constant n leaves → Constant m leaves' →
      leaves.map unquote = leaves'.map unquote → fold n = fold m) ∧
    ∃ core, Inside n core ∧ ∀ fault, fold n = .error fault → fault = faultOf core := by
  refine ⟨fun value => fold_eq_ok_iff, ?_, ?_⟩
  · intro m leaves leaves' hn hm hsame
    rw [hn.fold_eq, hm.fold_eq, valueOf, valueOf, hsame]
  · obtain ⟨core, hcore, hfold⟩ := exists_inside n
    refine ⟨core, hcore, fun fault hfault => ?_⟩
    exact fold_eq_error hcore.isBare (hfold ▸ hfault)

/-- An expression without children. -/
def leaf (kind : NodeKind) (text : String) : Node := { kind, text, line := 1 }

/-- A sum. -/
def sumOf (a b : Node) : Node where
  kind := .binaryExpression
  text := a.text ++ " + " ++ b.text
  line := 1
  children := [a.as .left, (leaf (.token "+") "+").as .operator, b.as .right]

/-- An expression in parentheses, behind a comment. -/
def inParentheses (n : Node) : Node where
  kind := .parenthesizedExpression
  text := "(/* */ " ++ n.text ++ ")"
  line := 1
  children := [leaf (.token "(") "(", leaf .comment "/* */", n, leaf (.token ")") ")"]

/-- Three literals, the last two in parentheses. -/
def groupedRight : Node :=
  sumOf (leaf .string "'/a'")
    (inParentheses (sumOf (leaf .string "'/b'") (leaf .templateString "`c`")))

/-- Three literals, the first two in parentheses. -/
def groupedLeft : Node :=
  sumOf (inParentheses (sumOf (leaf .string "\"/a\"") (leaf .string "'/b'")))
    (leaf .string "'c'")

/-- A sum with a name in the place of a literal. -/
def unfoldable : Node := inParentheses (sumOf (leaf .string "'/a'") (leaf .identifier "b"))

/-- Literals fold to one value however they are grouped and quoted; a sum that does not fold is
reported as it stands in the parentheses. -/
theorem fold_iff_constant_grouped :
    fold groupedRight = fold groupedLeft ∧ fold groupedRight = .ok "/a/bc" ∧
      ∀ fault, fold unfoldable = .error fault → fault = .badConcatenation "'/a' + b" 1 := by
  have hright : Constant groupedRight (["'/a'"] ++ (["'/b'"] ++ ["`c`"])) :=
    .sum rfl rfl rfl rfl rfl (.string rfl)
      (.parentheses rfl rfl
        (.sum rfl rfl rfl rfl rfl (.string rfl) (.template rfl (by simp [leaf, Node.as]))))
  have hleft : Constant groupedLeft ((["\"/a\""] ++ ["'/b'"]) ++ ["'c'"]) :=
    .sum rfl rfl rfl rfl rfl
      (.parentheses rfl rfl (.sum rfl rfl rfl rfl rfl (.string rfl) (.string rfl))) (.string rfl)
  obtain ⟨hvalue, hsame, -⟩ := fold_iff_constant groupedRight
  obtain ⟨-, -, core, hcore, hfault⟩ := fold_iff_constant unfoldable
  refine ⟨hsame _ _ _ hright hleft (by decide +kernel), ?_, fun fault h => ?_⟩
  · exact (hvalue _).mpr ⟨_, hright, by decide +kernel⟩
  · have hsum : core = sumOf (leaf .string "'/a'") (leaf .identifier "b") := by
      cases hcore with
      | bare h => exact absurd rfl (h _ rfl)
      | parentheses _ hinner hcore =>
        cases hinner
        cases hcore with
        | bare => rfl
        | parentheses hkind => cases hkind
    rw [hfault fault h, hsum]
    rfl

end Literal

end DispatchGen

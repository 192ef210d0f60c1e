/-
DispatchGen/Proofs/ThinnedTree.lean

Syntax trees without some of their decorators.

`Thinned p n n'` says that `n'` is `n` without some decorators that are idle for the pipeline
`p`: each stands where its marker, if it is one, means nothing to the pipeline, and there is
neither a class declaration nor a syntax error in it.  All other nodes stay as they are, with
their text and their line.

What is looked up in a tree is never an idle decorator, so the same is found in a thinned one
(`ThinnedAll.filter`): the constants that its expressions fold to (`fold_of_thinned`), its
markers (`marker?_of_thinned`), and the line of its first error.
-/
import DispatchGen.Extract.Survey
import DispatchGen.Proofs.Stops
import Mathlib.Data.List.Forall2

namespace DispatchGen.Extract

open Syntax Literal

/-! ### Idle decorators -/

/-- Neither a class declaration nor a syntax error. -/
def isHarmless (n : Node) : Bool := !declaresClass n.kind && n.kind != .error && !n.missing

/-- Whether all children of a node are operands: the expression of a decorator or between
parentheses, and arguments.  No rule of the grammar puts a decorator there. -/
def holdsOperands (parent : Node) : Bool :=
  parent.kind = .decorator || parent.kind = .parenthesizedExpression ||
    parent.field = some .arguments

/-- Whether the decorators of a node belong to a class, which it declares or exports. -/
def decoratesClass (parent : Node) : Bool :=
  declaresClass parent.kind ||
    parent.kind = .exportStatement &&
      parent.children.any fun n => n.isContent && declaresClass n.kind

/-- Whether the first of some class members that is no decorator is a method. -/
def methodNext (members : List Node) : Bool :=
  (members.find? fun n => n.isContent && n.kind != .decorator).any (·.kind = .methodDefinition)

/-- Whether a decorator among the children of a node, with `after` behind it, belongs to a
method: it is a child of the method, or precedes it in a class body. -/
def decoratesMethod (parent : Node) (after : List Node) : Bool :=
  parent.kind = .methodDefinition || parent.field = some .body && methodNext after

/-- Whether a marker means something to the pipeline where it is on a class. -/
def marksClass (p : Pipeline) (m : Marker) : Bool :=
  match p, m.kind with
  | .http, .controller | .http, .basePath | .queue, .consumer => true
  | _, _ => false

/-- A decorator among the children of a node, with `after` behind it, that means nothing to
the pipeline. -/
structure Idle (p : Pipeline) (parent n : Node) (after : List Node) : Prop where
  decorator : n.kind = .decorator
  roleless : n.field = none
  harmless : n.everywhere isHarmless = true
  placed : holdsOperands parent = false
  onClass : decoratesClass parent = true → (marker? n).any (marksClass p) = false
  onMethod : decoratesMethod parent after = true → (marker? n).any (concerns p) = false

instance (p : Pipeline) (parent n : Node) (after : List Node) :
    Decidable (Idle p parent n after) :=
  decidable_of_iff
    ((n.kind = .decorator ∧ n.field = none ∧ n.everywhere isHarmless = true) ∧
      holdsOperands parent = false ∧
      (decoratesClass parent = true → (marker? n).any (marksClass p) = false) ∧
      (decoratesMethod parent after = true → (marker? n).any (concerns p) = false))
    ⟨fun ⟨⟨h₁, h₂, h₃⟩, h₄, h₅, h₆⟩ => ⟨h₁, h₂, h₃, h₄, h₅, h₆⟩,
      fun ⟨h₁, h₂, h₃, h₄, h₅, h₆⟩ => ⟨⟨h₁, h₂, h₃⟩, h₄, h₅, h₆⟩⟩

mutual

/-- The second node is the first without some of its idle decorators. -/
inductive Thinned (p : Pipeline) : Node → Node → Prop
  | node {kind : NodeKind} {field : Option Field} {text : String} {line : Nat}
      {missing hasError : Bool} {children children' : List Node} :
      ThinnedAll p ⟨kind, field, text, line, missing, hasError, children⟩ children children' →
      Thinned p ⟨kind, field, text, line, missing, hasError, children⟩
        ⟨kind, field, text, line, missing, hasError, children'⟩

/-- The second list is the first, of children of `parent`, without some idle decorators. -/
inductive ThinnedAll (p : Pipeline) : Node → List Node → List Node → Prop
  | nil {parent : Node} : ThinnedAll p parent [] []
  | keep {parent n n' : Node} {ns ns' : List Node} :
      Thinned p n n' → ThinnedAll p parent ns ns' → ThinnedAll p parent (n :: ns) (n' :: ns')
  | drop {parent n : Node} {ns ns' : List Node} :
      Idle p parent n ns → ThinnedAll p parent ns ns' → ThinnedAll p parent (n :: ns) ns'

end

mutual

/-- A tree without any idle decorator. -/
def thin (p : Pipeline) : Node → Node
  | ⟨kind, field, text, line, missing, hasError, children⟩ =>
      ⟨kind, field, text, line, missing, hasError,
        thinAll p ⟨kind, field, text, line, missing, hasError, children⟩ children⟩
termination_by structural n => n

def thinAll (p : Pipeline) (parent : Node) : List Node → List Node
  | [] => []
  | n :: ns =>
      if Idle p parent n ns then thinAll p parent ns else thin p n :: thinAll p parent ns
termination_by structural ns => ns

end

mutual

/-- A tree of which every idle decorator is dropped is thinned. -/
theorem thinned_thin (p : Pipeline) : (n : Node) → Thinned p n (thin p n)
  | ⟨kind, field, text, line, missing, hasError, children⟩ => by
    rw [thin]
    exact .node (thinnedAll_thinAll p _ children)
termination_by structural n => n

theorem thinnedAll_thinAll (p : Pipeline) (parent : Node) :
    (ns : List Node) → ThinnedAll p parent ns (thinAll p parent ns)
  | [] => .nil
  | n :: ns => by
    rw [thinAll]
    split
    case isTrue hidle => exact .drop hidle (thinnedAll_thinAll p parent ns)
    case isFalse => exact .keep (thinned_thin p n) (thinnedAll_thinAll p parent ns)
termination_by structural ns => ns

end

section Lookup

variable {p : Pipeline} {parent n n' : Node} {ns ns' : List Node}

/-- What a thinned node has in common with the node. -/
structure SameHead (n n' : Node) : Prop where
  kind : n'.kind = n.kind
  field : n'.field = n.field
  text : n'.text = n.text
  line : n'.line = n.line

/-- Thinning changes nothing of a node but its children. -/
theorem Thinned.head (h : Thinned p n n') : SameHead n n' := by
  cases h
  exact ⟨rfl, rfl, rfl, rfl⟩

theorem Thinned.children (h : Thinned p n n') : ThinnedAll p n n.children n'.children := by
  cases h
  assumption

theorem Thinned.isContent (h : Thinned p n n') : n'.isContent = n.isContent := by
  rw [Node.isContent, Node.isContent, h.head.kind]

theorem Idle.isContent {after : List Node} (h : Idle p parent n after) : n.isContent = true := by
  rw [Node.isContent, h.decorator]
  rfl

/-! ### Looking up -/

/-- What holds of no idle decorator holds of the same children. -/
theorem ThinnedAll.filter {check : Node → Bool} (h : ThinnedAll p parent ns ns')
    (hkeep : ∀ n n', Thinned p n n' → check n' = check n)
    (hdrop : ∀ n after, Idle p parent n after → check n = false) :
    List.Forall₂ (Thinned p) (ns.filter check) (ns'.filter check) := by
  induction ns generalizing ns' with
  | nil =>
    cases h
    exact .nil
  | cons n ns ih =>
    cases h with
    | keep hn hns =>
      rw [List.filter_cons, List.filter_cons, hkeep _ _ hn]
      split
      · exact .cons hn (ih hns)
      · exact ih hns
    | drop hidle hns =>
      rw [List.filter_cons_of_neg (by rw [hdrop _ _ hidle]; exact Bool.false_ne_true)]
      exact ih hns

theorem rel_head? {α : Type} {R : α → α → Prop} {xs ys : List α} (h : List.Forall₂ R xs ys) :
    Option.Rel R xs.head? ys.head? := by
  cases h with
  | nil => exact .none
  | cons h _ => exact .some h

theorem rel_iff {α : Type} {R : α → α → Prop} {x y : Option α} :
    Option.Rel R x y ↔ x = none ∧ y = none ∨ ∃ a b, x = some a ∧ y = some b ∧ R a b := by
  constructor
  · rintro (h | _)
    · exact .inr ⟨_, _, rfl, rfl, h⟩
    · exact .inl ⟨rfl, rfl⟩
  · rintro (⟨rfl, rfl⟩ | ⟨a, b, rfl, rfl, h⟩)
    · exact .none
    · exact .some h

/-- A search that no idle decorator answers finds the thinned node. -/
theorem ThinnedAll.find? {check : Node → Bool} (h : ThinnedAll p parent ns ns')
    (hkeep : ∀ n n', Thinned p n n' → check n' = check n)
    (hdrop : ∀ n after, Idle p parent n after → check n = false) :
    Option.Rel (Thinned p) (ns.find? check) (ns'.find? check) := by
  rw [← List.head?_filter, ← List.head?_filter]
  exact rel_head? (h.filter hkeep hdrop)

/-- An idle decorator plays no role. -/
theorem ThinnedAll.inRole (h : ThinnedAll p parent ns ns') (f : Field) :
    Option.Rel (Thinned p) (ns.find? (·.field = some f)) (ns'.find? (·.field = some f)) :=
  h.find? (fun _ _ hn => by rw [hn.head.field]) fun _ _ hidle => by
    rw [hidle.roleless]
    rfl

/-- The child in a field is thinned, for no idle decorator stands in a field. -/
theorem Thinned.child? (h : Thinned p n n') (f : Field) :
    Option.Rel (Thinned p) (n.child? f) (n'.child? f) :=
  h.children.inRole f

/-- The contents are the same where no decorator can stand. -/
theorem Thinned.contents (h : Thinned p n n') (hoperands : holdsOperands n = true) :
    List.Forall₂ (Thinned p) n.contents n'.contents :=
  h.children.filter (fun _ _ hn => hn.isContent) fun _ _ hidle =>
    Bool.noConfusion (hoperands.symm.trans hidle.placed)

/-- A check that no idle decorator passes comes out the same. -/
theorem ThinnedAll.any {check : Node → Bool} (h : ThinnedAll p parent ns ns')
    (hkeep : ∀ n n', Thinned p n n' → check n' = check n)
    (hdrop : ∀ n after, Idle p parent n after → check n = false) :
    ns'.any check = ns.any check := by
  rw [← List.isSome_find?, ← List.isSome_find?]
  rcases rel_iff.mp (h.find? hkeep hdrop) with ⟨hnone, hnone'⟩ | ⟨_, _, hsome, hsome', -⟩
  · rw [hnone, hnone']
  · rw [hsome, hsome']
    rfl

/-! ### Constants -/

theorem hasSubstitution_of_thinned (h : ThinnedAll p parent ns ns') :
    hasSubstitution ns' = hasSubstitution ns :=
  h.any (fun _ _ hn => by rw [hn.head.kind]) fun _ _ hidle => by
    rw [hidle.decorator]
    rfl

theorem isPlus_of_thinned (h : ThinnedAll p parent ns ns') : isPlus ns' = isPlus ns := by
  unfold isPlus
  rcases rel_iff.mp (h.inRole .operator) with ⟨hnone, hnone'⟩ | ⟨op, op', hop, hop', hthinned⟩
  · rw [hnone, hnone']
  · simp only [hop, hop', hthinned.head.kind]

mutual

/-- An expression folds to what it did. -/
theorem fold_of_thinned : (n : Node) → {n' : Node} → Thinned p n n' → fold n' = fold n
  | ⟨kind, field, text, line, missing, hasError, children⟩, _, .node h => by
    have hrole := fun f => foldRole_of_thinned f children h
    unfold fold
    split
    case h_2 => rw [hasSubstitution_of_thinned h]
    case h_3 => rw [foldContents_of_thinned children h rfl]
    case h_4 => rw [hrole .left, hrole .right, isPlus_of_thinned h]
    all_goals rfl
termination_by structural n => n

/-- Operands fold the same, since there is no decorator among them. -/
theorem foldContents_of_thinned {parent : Node} :
    (ns : List Node) → {ns' : List Node} → ThinnedAll p parent ns ns' →
      holdsOperands parent = true → foldContents ns' = foldContents ns
  | [], _, .nil, _ => rfl
  | n :: ns, _, .keep hn hns, hoperands => by
    rw [foldContents, foldContents, hn.isContent, fold_of_thinned n hn,
      foldContents_of_thinned ns hns hoperands]
  | n :: ns, _, .drop hidle hns, hoperands => by
    cases hoperands.symm.trans hidle.placed
termination_by structural ns => ns

/-- What stands in a field folds the same. -/
theorem foldRole_of_thinned {parent : Node} (f : Field) :
    (ns : List Node) → {ns' : List Node} → ThinnedAll p parent ns ns' →
      foldRole f ns' = foldRole f ns
  | [], _, .nil => rfl
  | n :: ns, _, .keep hn hns => by
    rw [foldRole, foldRole, hn.head.field, fold_of_thinned n hn, foldRole_of_thinned f ns hns]
  | n :: ns, _, .drop hidle hns => by
    rw [foldRole, hidle.roleless, if_neg nofun, foldRole_of_thinned f ns hns]
termination_by structural ns => ns

end

/-- A property of an object has its value still. -/
theorem property?_of_thinned (h : Thinned p n n') (key : String) :
    Option.Rel (Thinned p) (property? n key) (property? n' key) := by
  have hpair : ∀ m m', Thinned p m m' →
      (m'.isContent && isPairOf key m') = (m.isContent && isPairOf key m) := by
    intro m m' hm
    rw [hm.isContent, isPairOf, isPairOf, hm.head.kind]
    rcases rel_iff.mp (hm.child? .key) with ⟨hnone, hnone'⟩ | ⟨k, k', hk, hk', hthinned⟩
    · rw [hnone, hnone']
    · have hkey : keyText k' = keyText k := by
        rw [keyText, keyText, hthinned.head.kind, hthinned.head.text]
      simp only [hk, hk', hkey]
  have hdrop : ∀ m after, Idle p n m after → (m.isContent && isPairOf key m) = false := by
    intro m after hidle
    rw [isPairOf, hidle.decorator]
    exact Bool.and_false _
  have hfound := rel_iff.mp (h.children.find? hpair hdrop)
  have hcontents : ∀ m : Node, m.contents.find? (isPairOf key)
      = m.children.find? fun m => m.isContent && isPairOf key m := by
    intro m
    rw [Node.contents, List.find?_filter]
    simp only [Bool.decide_and, Bool.decide_eq_true]
  rw [property?, property?, hcontents, hcontents]
  rcases hfound with ⟨hnone, hnone'⟩ | ⟨m, m', hm, hm', hthinned⟩
  · simp only [hnone, hnone']
    exact .none
  · simp only [hm, hm']
    exact hthinned.child? .value

/-! ### Markers -/

/-- The same marker, but for decorators in its arguments. -/
structure SameMarker (p : Pipeline) (m m' : Marker) : Prop where
  kind : m'.kind = m.kind
  name : m'.name = m.name
  line : m'.line = m.line
  args : List.Forall₂ (Thinned p) m.args m'.args

/-- Both have a first argument, or neither has any. -/
theorem SameMarker.args_cases {m m' : Marker} (h : SameMarker p m m') :
    m.args = [] ∧ m'.args = [] ∨
      ∃ a a' rest rest', m.args = a :: rest ∧ m'.args = a' :: rest' ∧ Thinned p a a' := by
  have hargs := h.args
  revert hargs
  generalize m.args = args
  generalize m'.args = args'
  rintro (_ | ⟨ha, -⟩)
  · exact .inl ⟨rfl, rfl⟩
  · exact .inr ⟨_, _, _, _, rfl, rfl, ha⟩

theorem calleeName?_of_thinned (h : Thinned p n n') : calleeName? n' = calleeName? n := by
  unfold calleeName?
  rw [h.head.kind, h.head.text]
  rcases rel_iff.mp (h.child? .property) with ⟨hnone, hnone'⟩ | ⟨q, q', hq, hq', hthinned⟩
  · rw [hnone, hnone']
  · rw [hq, hq', Option.map_some, Option.map_some, hthinned.head.text]

theorem args_of_thinned (h : Thinned p n n') :
    List.Forall₂ (Thinned p)
      (match n.child? .arguments with
        | some list => list.contents
        | none => [])
      (match n'.child? .arguments with
        | some list => list.contents
        | none => []) := by
  rcases rel_iff.mp (h.child? .arguments) with ⟨hnone, hnone'⟩ | ⟨list, list', hl, hl', hthinned⟩
  · rw [hnone, hnone']
    exact .nil
  · have hrole : list.field = some .arguments := by simpa using List.find?_some hl
    rw [hl, hl']
    exact hthinned.contents (by simp [holdsOperands, hrole])

/-- A decorator calls the same name with thinned arguments. -/
theorem decoratorCall?_of_thinned (h : Thinned p n n') (hkind : n.kind = .decorator) :
    Option.Rel (fun x y => y.1 = x.1 ∧ List.Forall₂ (Thinned p) x.2 y.2)
      (decoratorCall? n) (decoratorCall? n') := by
  have hcontents := h.contents (by simp [holdsOperands, hkind])
  unfold decoratorCall?
  revert hcontents
  generalize n.contents = contents
  generalize n'.contents = contents'
  rintro (_ | ⟨he, -⟩)
  · exact .none
  case cons e e' _ _ =>
    dsimp only
    rw [he.head.kind]
    split
    · rcases rel_iff.mp (he.child? .function) with ⟨hnone, hnone'⟩ | ⟨f, f', hf, hf', hthinned⟩
      · rw [hnone, hnone']
        exact .none
      · rw [hf, hf']
        simp only [Option.bind_eq_bind, Option.bind_some, calleeName?_of_thinned hthinned]
        cases calleeName? f with
        | none => exact .none
        | some name => exact .some ⟨rfl, args_of_thinned he⟩
    · rw [calleeName?_of_thinned he]
      cases calleeName? e with
      | none => exact .none
      | some name => exact .some ⟨rfl, .nil⟩

/-- A decorator is the same marker with thinned arguments, or none. -/
theorem marker?_of_thinned (h : Thinned p n n') (hkind : n.kind = .decorator) :
    Option.Rel (SameMarker p) (marker? n) (marker? n') := by
  unfold marker?
  rcases rel_iff.mp (decoratorCall?_of_thinned h hkind) with
    ⟨hnone, hnone'⟩ | ⟨⟨name, args⟩, ⟨name', args'⟩, hcall, hcall', hname, hargs⟩
  · rw [hnone, hnone']
    exact .none
  · rw [hcall, hcall']
    cases hname
    simp only [Option.bind_eq_bind, Option.bind_some]
    cases MarkerKind.ofName? name with
    | none => exact .none
    | some kind => exact .some ⟨rfl, rfl, h.head.line, hargs⟩

/-! ### Syntax errors -/

mutual

/-- There is no syntax error in what is harmless. -/
theorem firstErrorLine?_of_harmless :
    (n : Node) → n.everywhere isHarmless = true → n.firstErrorLine? = none
  | ⟨kind, field, text, line, missing, hasError, children⟩, h => by
    obtain ⟨hn, hchildren⟩ := Node.everywhere_iff.mp h
    rw [Node.firstErrorLine?, firstErrorLineIn?_of_harmless children hchildren]
    simp [isHarmless] at hn
    simp [hn]
termination_by structural n => n

theorem firstErrorLineIn?_of_harmless :
    (ns : List Node) → Node.everywhereIn isHarmless ns = true → Node.firstErrorLineIn? ns = none
  | [], _ => rfl
  | n :: ns, h => by
    rw [Node.everywhereIn, Bool.and_eq_true] at h
    rw [Node.firstErrorLineIn?, firstErrorLine?_of_harmless n h.1]
    exact firstErrorLineIn?_of_harmless ns h.2
termination_by structural ns => ns

end

mutual

/-- The first error stays where it was. -/
theorem firstErrorLine?_of_thinned :
    (n : Node) → {n' : Node} → Thinned p n n' → n'.firstErrorLine? = n.firstErrorLine?
  | ⟨kind, field, text, line, missing, hasError, children⟩, _, .node h => by
    rw [Node.firstErrorLine?, Node.firstErrorLine?, firstErrorLineIn?_of_thinned children h]
termination_by structural n => n

/-- The first syntax error is where it was, since idle decorators have none. -/
theorem firstErrorLineIn?_of_thinned {parent : Node} :
    (ns : List Node) → {ns' : List Node} → ThinnedAll p parent ns ns' →
      Node.firstErrorLineIn? ns' = Node.firstErrorLineIn? ns
  | [], _, .nil => rfl
  | n :: ns, _, .keep hn hns => by
    rw [Node.firstErrorLineIn?, Node.firstErrorLineIn?, firstErrorLine?_of_thinned n hn,
      firstErrorLineIn?_of_thinned ns hns]
  | n :: ns, _, .drop hidle hns => by
    rw [Node.firstErrorLineIn?, firstErrorLine?_of_harmless n hidle.harmless]
    exact firstErrorLineIn?_of_thinned ns hns
termination_by structural ns => ns

end

end Lookup

end DispatchGen.Extract

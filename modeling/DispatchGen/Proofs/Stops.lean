/-
DispatchGen/Proofs/Stops.lean

Where the walk over a syntax tree stops, and what it finds there.

The walk stops at the classes it enters and at the methods of these classes.
`stops` lists the stops of a tree in the order of the walk, each with the
address of its node, and knows nothing of markers.  What the walk finds at a stop is said
by `Stop.findings` from that stop alone: the class with what is attached to it,
and for a method its own node and the decorators that precede it.  The findings
of the tree are those of its stops, one after another (`survey_eq_flatMap`), so
everything that travels through the walk, the context of a class and the
decorators that wait for a method, shows in a stop or not at all.

The decorators of a method are told by position (`decoratorsBefore`): those that
stand between the member before it and the method itself.
-/
import DispatchGen.Proofs.ClassWalk

namespace DispatchGen

namespace Syntax

/-- The indices of the children that lead down to a node. -/
abbrev Address := List Nat

/-- The node at an address below `n`. -/
def Node.at? (n : Node) : Address → Option Node
  | [] => some n
  | i :: rest => (n.children[i]?).bind fun c => c.at? rest

mutual

/-- Whether a check succeeds at every node of a tree. -/
def Node.everywhere (check : Node → Bool) : Node → Bool
  | ⟨kind, field, text, line, missing, hasError, children⟩ =>
      check ⟨kind, field, text, line, missing, hasError, children⟩ &&
        everywhereIn check children
termination_by structural n => n

/-- Whether a check succeeds at every node of every tree in a list. -/
def Node.everywhereIn (check : Node → Bool) : List Node → Bool
  | [] => true
  | n :: ns => everywhere check n && everywhereIn check ns
termination_by structural ns => ns

end

namespace Node

theorem everywhere_iff {check : Node → Bool} {n : Node} :
    n.everywhere check = true ↔ check n = true ∧ everywhereIn check n.children = true := by
  obtain ⟨kind, field, text, line, missing, hasError, children⟩ := n
  rw [everywhere, Bool.and_eq_true]

theorem everywhere_of_mem {check : Node → Bool} {n : Node} {ns : List Node}
    (h : everywhereIn check ns = true) (hn : n ∈ ns) : n.everywhere check = true := by
  induction ns with
  | nil => cases hn
  | cons m ns ih =>
    rw [everywhereIn, Bool.and_eq_true] at h
    rcases List.mem_cons.mp hn with rfl | hn
    · exact h.1
    · exact ih h.2 hn

/-- What holds everywhere in a tree holds at each of its addresses. -/
theorem check_of_at? {check : Node → Bool} {n m : Node} {a : Address}
    (h : n.everywhere check = true) (hm : n.at? a = some m) : check m = true := by
  induction a generalizing n with
  | nil =>
    rw [← Option.some.inj hm]
    exact (everywhere_iff.mp h).1
  | cons i rest ih =>
    obtain ⟨c, hc, hm⟩ := Option.bind_eq_some_iff.mp hm
    exact ih (everywhere_of_mem (everywhere_iff.mp h).2 (List.mem_of_getElem? hc)) hm

end Node

end Syntax

namespace Extract

open Syntax

/-! ### Stops -/

/-- A class that the walk enters. -/
structure ClassAt where
  address : Address
  site : ClassSite

/-- A method definition, with the decorators that are attached to it. -/
structure MethodAt where
  address : Address
  decorators : List Node
  node : Node

inductive Stop where
  /-- A class. -/
  | enter (c : ClassAt)
  /-- A method of a class. -/
  | meet (c : ClassAt) (m : MethodAt)

namespace Stop

/-- The class that a stop belongs to. -/
def owner : Stop → ClassAt
  | enter c => c
  | meet c _ => c

def address : Stop → Address
  | enter c => c.address
  | meet _ m => m.address

def node : Stop → Node
  | enter c => c.site.node
  | meet _ m => m.node

end Stop

/-- The decorators at the end of a row of members. -/
def decoratorsBefore (members : List Node) : List Node :=
  ((members.filter Node.isContent).reverse.takeWhile (·.kind = .decorator)).reverse

/-- The method that a member of a class body is, `i` being its index in the body. -/
def methodAt? (here : Address) (body : Node) (i : Nat) (n : Node) : Option MethodAt :=
  if n.isContent && n.kind = .methodDefinition then
    some ⟨here ++ [i], decoratorsBefore (body.children.take i) ++ decoratorsOf n.children, n⟩
  else none

mutual

/-- The stops at or below a node at the address `here`, a child of `parent`. -/
def stops (here : Address) (parent : Option Node) : Node → List Stop
  | ⟨kind, field, text, line, missing, hasError, children⟩ =>
      let node : Node := ⟨kind, field, text, line, missing, hasError, children⟩
      if declaresClass kind then
        match children.find? (·.field = some .name) with
        | none => []
        | some name => .enter ⟨here, parent, node, name⟩ ::
            stopsInClass ⟨here, parent, node, name⟩ 0 children
      else stopsAmong here node 0 children
termination_by structural n => n

/-- The stops among the children of `parent` from the index `i` on. -/
def stopsAmong (here : Address) (parent : Node) (i : Nat) : List Node → List Stop
  | [] => []
  | n :: ns =>
      (if n.isContent then stops (here ++ [i]) (some parent) n else []) ++
        stopsAmong here parent (i + 1) ns
termination_by structural ns => ns

/-- The stops in the body among a class's children from the index `i` on. -/
def stopsInClass (c : ClassAt) (i : Nat) : List Node → List Stop
  | [] => []
  | n :: ns =>
      if n.field = some .body then stopsInBody c (c.address ++ [i]) n
      else stopsInClass c (i + 1) ns
termination_by structural ns => ns

/-- The stops in the body of a class. -/
def stopsInBody (c : ClassAt) (here : Address) : Node → List Stop
  | ⟨kind, field, text, line, missing, hasError, members⟩ =>
      stopsOfMembers c here ⟨kind, field, text, line, missing, hasError, members⟩ 0 members
termination_by structural n => n

/-- The stops among the members of `body` from the index `i` on. -/
def stopsOfMembers (c : ClassAt) (here : Address) (body : Node) (i : Nat) : List Node → List Stop
  | [] => []
  | n :: ns =>
      (match methodAt? here body i n with
        | some m => .meet c m :: stopsInMethod m.address n
        | none =>
            if n.isContent && n.kind ≠ .decorator then stops (here ++ [i]) (some body) n
            else []) ++
      stopsOfMembers c here body (i + 1) ns
termination_by structural ns => ns

/-- The stops in the body of a method. -/
def stopsInMethod (here : Address) : Node → List Stop
  | ⟨kind, field, text, line, missing, hasError, children⟩ =>
      stopsInMethodBody here ⟨kind, field, text, line, missing, hasError, children⟩ 0 children
termination_by structural n => n

/-- The stops in the body among the children of `method` from the index `i` on. -/
def stopsInMethodBody (here : Address) (method : Node) (i : Nat) : List Node → List Stop
  | [] => []
  | n :: ns =>
      if n.field = some .body then stops (here ++ [i]) (some method) n
      else stopsInMethodBody here method (i + 1) ns
termination_by structural ns => ns

end

/-- The stops of the walk over a tree. -/
def stopsOf (root : Node) : List Stop := stops [] none root

/-! ### What is found at a stop -/

/-- What a class establishes for its methods, and what it contributes itself. -/
def ClassSite.survey (p : Pipeline) (s : ClassSite) : Option Context × List Finding :=
  classFindings p s.name.text (attachedBy s.parent) s.node.children

/-- The context of a class for a pipeline, if it has one. -/
def ClassSite.context? (p : Pipeline) (s : ClassSite) : Option Context := (s.survey p).1

/-- The findings of a method of a class. -/
def MethodAt.findings (p : Pipeline) (s : ClassSite) (m : MethodAt) : List Finding :=
  match s.context? p with
  | some context => methodFindings p context m.decorators m.node.children
  | none => []

def Stop.findings (p : Pipeline) : Stop → List Finding
  | enter c => (c.site.survey p).2
  | meet c m => m.findings p c.site

/-! ### Decorators that wait for a method -/

theorem decoratorsBefore_concat_of_not_content {ns : List Node} {n : Node} (h : ¬ n.isContent) :
    decoratorsBefore (ns ++ [n]) = decoratorsBefore ns := by
  simp [decoratorsBefore, h]

theorem decoratorsBefore_concat_decorator {ns : List Node} {n : Node} (hcontent : n.isContent)
    (h : n.kind = .decorator) : decoratorsBefore (ns ++ [n]) = decoratorsBefore ns ++ [n] := by
  simp [decoratorsBefore, hcontent, h]

theorem decoratorsBefore_concat_other {ns : List Node} {n : Node} (hcontent : n.isContent)
    (h : n.kind ≠ .decorator) : decoratorsBefore (ns ++ [n]) = [] := by
  simp [decoratorsBefore, hcontent, h]

/-- A row of members up to its next one. -/
theorem take_succ_of_drop {ms ns : List Node} {i : Nat} {n : Node} (h : ms.drop i = n :: ns) :
    ms.take (i + 1) = ms.take i ++ [n] := by
  have hn : ms[i]? = some n := by
    rw [← Nat.add_zero i, ← List.getElem?_drop, h]
    rfl
  rw [List.take_add_one, hn]
  rfl

theorem drop_succ_of_drop {ms ns : List Node} {i : Nat} {n : Node} (h : ms.drop i = n :: ns) :
    ms.drop (i + 1) = ns := by
  rw [← List.drop_drop, h]
  rfl

/-! ### The walk stop by stop -/

mutual

/-- The survey of a node finds what its stops find, in order. -/
theorem survey_eq_flatMap (p : Pipeline) (here : Address) (parent : Option Node) :
    (n : Node) → survey p (attachedBy parent) n = (stops here parent n).flatMap (·.findings p)
  | ⟨kind, field, text, line, missing, hasError, children⟩ => by
    rw [survey, stops]
    split
    · cases children.find? (·.field = some .name) with
      | none => rfl
      | some name =>
        exact congrArg (_ ++ ·) (surveyClassBody_eq_flatMap p
          ⟨here, parent, ⟨kind, field, text, line, missing, hasError, children⟩, name⟩ 0 children)
    · exact surveyAll_eq_flatMap p here ⟨kind, field, text, line, missing, hasError, children⟩ 0
        children
termination_by structural n => n

theorem surveyAll_eq_flatMap (p : Pipeline) (here : Address) (parent : Node) (i : Nat) :
    (ns : List Node) → surveyAll p (attachedBy (some parent)) ns
      = (stopsAmong here parent i ns).flatMap (·.findings p)
  | [] => rfl
  | n :: ns => by
    rw [surveyAll, stopsAmong, List.flatMap_append, ← surveyAll_eq_flatMap p here parent (i + 1) ns]
    split
    · rw [survey_eq_flatMap p (here ++ [i]) (some parent) n]
    · rfl
termination_by structural ns => ns

theorem surveyClassBody_eq_flatMap (p : Pipeline) (c : ClassAt) (i : Nat) :
    (ns : List Node) → surveyClassBody p (c.site.context? p) ns
      = (stopsInClass c i ns).flatMap (·.findings p)
  | [] => rfl
  | n :: ns => by
    rw [surveyClassBody, stopsInClass]
    split
    · exact surveyBody_eq_flatMap p c (c.address ++ [i]) n
    · exact surveyClassBody_eq_flatMap p c (i + 1) ns
termination_by structural ns => ns

theorem surveyBody_eq_flatMap (p : Pipeline) (c : ClassAt) (here : Address) :
    (n : Node) → surveyBody p (c.site.context? p) n
      = (stopsInBody c here n).flatMap (·.findings p)
  | ⟨kind, field, text, line, missing, hasError, members⟩ => by
    rw [surveyBody, stopsInBody]
    exact surveyMembers_eq_flatMap p c here ⟨kind, field, text, line, missing, hasError, members⟩ 0
      members rfl
termination_by structural n => n

/-- The decorators that wait are those at the end of the members so far. -/
theorem surveyMembers_eq_flatMap (p : Pipeline) (c : ClassAt) (here : Address) (body : Node)
    (i : Nat) :
    (ns : List Node) → body.children.drop i = ns →
      surveyMembers p (c.site.context? p) (attachedBy (some body))
          (decoratorsBefore (body.children.take i)) ns
        = (stopsOfMembers c here body i ns).flatMap (·.findings p)
  | [], _ => rfl
  | n :: ns, hdrop => by
    -- what is pending at a member are the decorators right before it in the body
    have hrest := surveyMembers_eq_flatMap p c here body (i + 1) ns (drop_succ_of_drop hdrop)
    rw [take_succ_of_drop hdrop] at hrest
    rw [surveyMembers, stopsOfMembers, List.flatMap_append, ← hrest]
    by_cases hcontent : n.isContent
    case neg => simp [methodAt?, hcontent, decoratorsBefore_concat_of_not_content hcontent]
    by_cases hdecorator : n.kind = .decorator
    · simp [methodAt?, hcontent, hdecorator, decoratorsBefore_concat_decorator hcontent hdecorator]
    · rw [decoratorsBefore_concat_other hcontent hdecorator]
      by_cases hmethod : n.kind = .methodDefinition
      · have hfound := surveyMethod_eq_flatMap p c (here ++ [i])
          (decoratorsBefore (body.children.take i)) n hmethod
        simp [methodAt?, hcontent, hmethod, hfound]
      · simpa [methodAt?, hcontent, hdecorator, hmethod]
          using survey_eq_flatMap p (here ++ [i]) (some body) n
termination_by structural ns => ns

theorem surveyMethod_eq_flatMap (p : Pipeline) (c : ClassAt) (here : Address)
    (pending : List Node) :
    (n : Node) → n.kind = .methodDefinition →
      surveyMethod p (c.site.context? p) pending n
        = (Stop.meet c ⟨here, pending ++ decoratorsOf n.children, n⟩).findings p ++
            (stopsInMethod here n).flatMap (·.findings p)
  | ⟨kind, field, text, line, missing, hasError, children⟩, hkind => by
    have hbody := surveyMethodBody_eq_flatMap p here
      ⟨kind, field, text, line, missing, hasError, children⟩ hkind 0 children
    rw [stopsInMethod, ← hbody]
    rfl
termination_by structural n => n

theorem surveyMethodBody_eq_flatMap (p : Pipeline) (here : Address) (method : Node)
    (hkind : method.kind = .methodDefinition) (i : Nat) :
    (ns : List Node) → surveyMethodBody p ns
      = (stopsInMethodBody here method i ns).flatMap (·.findings p)
  | [] => rfl
  | n :: ns => by
    rw [surveyMethodBody, stopsInMethodBody]
    split
    · -- a method hands nothing down to what stands in its body
      rw [← attachedBy_method hkind]
      exact survey_eq_flatMap p (here ++ [i]) (some method) n
    · exact surveyMethodBody_eq_flatMap p here method hkind (i + 1) ns
termination_by structural ns => ns

end

end Extract

end DispatchGen

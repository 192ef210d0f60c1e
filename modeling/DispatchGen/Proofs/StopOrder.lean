/-
DispatchGen/Proofs/StopOrder.lean

The stops of a walk stand in document order, each where it belongs.

Addresses are compared as lists of numbers, and that is the order in which a
document is read: a node comes before all that is in it, and that before the
next child.  The walk goes through the tree in this order and never comes back
(`Follows`), it stops at nodes of the tree only, and it meets a method exactly
if the method is one of the members of a class that it has entered
(`Coherent`).  `coherent_stops` proves this by the mutual induction of the walk.

Since a list in strict order is told by its members, the stops that
belong to one class are the class and its methods, in order, wherever the class
stands (`filter_owner_stopsOf`).
-/
import DispatchGen.Proofs.Stops
import Mathlib.Data.List.Lex
import Mathlib.Data.List.Pairwise
import Mathlib.Data.List.Sort

namespace DispatchGen.Extract

open Syntax

/-! ### The methods of a class -/

/-- The body of a class, with its index among the children. -/
def ClassSite.bodyAt? (s : ClassSite) : Option (Node × Nat) :=
  s.node.children.zipIdx.find? (·.1.field = some .body)

/-- The methods among the members of a class body at the address `here`. -/
def methodsAmong (here : Address) (body : Node) : List MethodAt :=
  body.children.zipIdx.filterMap fun (n, i) => methodAt? here body i n

/-- The methods of a class. -/
def ClassAt.methods (c : ClassAt) : List MethodAt :=
  match c.site.bodyAt? with
  | some (body, i) => methodsAmong (c.address ++ [i]) body
  | none => []

/-- The methods of a body are among its children. -/
theorem mem_methodsAmong {here : Address} {body : Node} {m : MethodAt} :
    m ∈ methodsAmong here body ↔
      ∃ i n, body.children[i]? = some n ∧ methodAt? here body i n = some m := by
  simp only [methodsAmong, List.mem_filterMap, Prod.exists, List.mk_mem_zipIdx_iff_getElem?]
  exact ⟨fun ⟨n, i, h⟩ => ⟨i, n, h⟩, fun ⟨i, n, h⟩ => ⟨n, i, h⟩⟩

/-- A child of a body is a method with the decorators before it and those inside it. -/
theorem methodAt?_eq_some {here : Address} {body : Node} {i : Nat} {n : Node} {m : MethodAt} :
    methodAt? here body i n = some m ↔
      n.isContent = true ∧ n.kind = .methodDefinition ∧
        m = ⟨here ++ [i],
          decoratorsBefore (body.children.take i) ++ decoratorsOf n.children, n⟩ := by
  unfold methodAt?
  split
  case isTrue h =>
    simp only [Bool.and_eq_true, decide_eq_true_eq] at h
    simp only [h.1, h.2, true_and, Option.some.injEq]
    exact eq_comm
  case isFalse h =>
    simp only [Bool.and_eq_true, decide_eq_true_eq, not_and] at h
    simp only [reduceCtorEq, false_iff, not_and]
    exact fun hcontent hkind => absurd hkind (h hcontent)

/-! ### Document order -/

/-- A node comes before what is below it. -/
theorem address_lt_below (a : Address) (i : Nat) (rest : Address) : a < a ++ i :: rest := by
  have h : a ++ [] < a ++ i :: rest := List.append_left_lt (List.nil_lt_cons i rest)
  rwa [List.append_nil] at h

/-- What is below an earlier child comes first. -/
theorem address_lt_of_index_lt (a : Address) {i j : Nat} (h : i < j) (x y : Address) :
    a ++ i :: x < a ++ j :: y :=
  List.append_left_lt (List.cons_lt_cons_iff.mpr (.inl h))

/-- What follows a node is below it, or else follows all that is below it. -/
theorem below_or_lt_of_address_lt {a b : Address} (h : a < b) :
    (∃ i rest, b = a ++ i :: rest) ∨ ∀ x y, a ++ x < b ++ y := by
  induction a generalizing b with
  | nil =>
    cases b with
    | nil => exact absurd h (List.not_lt_nil _)
    | cons i rest => exact .inl ⟨i, rest, rfl⟩
  | cons i a ih =>
    cases b with
    | nil => exact absurd h (List.not_lt_nil _)
    | cons j b =>
      rcases List.cons_lt_cons_iff.mp h with hij | ⟨rfl, hab⟩
      · exact .inr fun x y => List.cons_lt_cons_iff.mpr (.inl hij)
      · rcases ih hab with ⟨k, rest, rfl⟩ | hlt
        · exact .inl ⟨k, rest, rfl⟩
        · exact .inr fun x y => List.cons_lt_cons_iff.mpr (.inr ⟨rfl, hlt x y⟩)

namespace Stop

/-- What is not below one child is not below the node at all. -/
def Follows (s t : Stop) : Prop :=
  s.address < t.address ∧
    ∀ i rest, t.address = s.address ++ i :: rest →
      ∃ b, s.node.children[i]? = some b ∧ b.field = some .body

/-- The stop is below a child of the node `n` at `here` for which `Q` holds. -/
def Under (Q : Nat → Node → Prop) (here : Address) (n : Node) (s : Stop) : Prop :=
  ∃ i child rest, Q i child ∧ n.children[i]? = some child ∧
    s.address = here ++ i :: rest ∧ child.at? rest = some s.node

/-- The stop is at the node `n` at `here` or below it. -/
def Within (here : Address) (n : Node) (s : Stop) : Prop :=
  ∃ rest, s.address = here ++ rest ∧ n.at? rest = some s.node

variable {here : Address} {n child : Node} {i : Nat} {s t : Stop} {Q R : Nat → Node → Prop}

theorem Under.imp (h : s.Under Q here n) (hQ : ∀ i child, Q i child → R i child) :
    s.Under R here n := by
  obtain ⟨i, child, rest, hq, hrest⟩ := h
  exact ⟨i, child, rest, hQ i child hq, hrest⟩

theorem Under.within (h : s.Under Q here n) : s.Within here n := by
  obtain ⟨i, child, rest, -, hchild, haddress, hat⟩ := h
  exact ⟨i :: rest, haddress, by rw [Node.at?, hchild]; exact hat⟩

/-- A stop within a child is under the node. -/
theorem Within.under (h : s.Within (here ++ [i]) child) (hchild : n.children[i]? = some child)
    (hQ : Q i child) : s.Under Q here n := by
  obtain ⟨rest, haddress, hat⟩ := h
  exact ⟨i, child, rest, hQ, hchild, by simpa using haddress, hat⟩

/-- Stops below different children follow one another as the children do. -/
theorem follows_of_lt (hs : s.Under (fun j _ => j ≤ i) here n)
    (ht : t.Under (fun j _ => i < j) here n) : s.Follows t := by
  obtain ⟨j, _, x, hj, -, haddress, -⟩ := hs
  obtain ⟨k, _, y, hk, -, haddress', -⟩ := ht
  have hlt : j < k := Nat.lt_of_le_of_lt hj hk
  refine ⟨?_, fun l rest hbelow => ?_⟩
  · rw [haddress, haddress']
    exact address_lt_of_index_lt here hlt x y
  · -- nothing below the child `k` is below the child `j`
    rw [haddress, haddress', List.append_assoc, List.append_cancel_left_eq] at hbelow
    have hhead : k = j := (List.cons.inj hbelow).1
    exact absurd hhead.symm hlt.ne

/-- What is below the body of a stop follows it. -/
theorem follows_of_body (hself : s.address = here)
    (ht : t.Under (fun _ b => b.field = some .body) here s.node) : s.Follows t := by
  obtain ⟨i, b, rest, hbody, hchild, haddress, -⟩ := ht
  refine ⟨?_, fun j rest' hbelow => ?_⟩
  · rw [hself, haddress]
    exact address_lt_below here i rest
  · rw [hself, haddress, List.append_cancel_left_eq] at hbelow
    have hindex : i = j := (List.cons.inj hbelow).1
    exact ⟨b, hindex ▸ hchild, hbody⟩

end Stop

/-! ### Coherence -/

/-- What all stops of a walk have in common, where the walk is in the class
`outer`, if in any: they are in document order; a method belongs to a class that
was entered, and all methods of such a class are met; and a class is a named
child of its parent. -/
structure Coherent (outer : Option ClassAt) (l : List Stop) : Prop where
  ordered : l.Pairwise Stop.Follows
  meets : ∀ c m, Stop.meet c m ∈ l → m ∈ c.methods ∧ (.enter c ∈ l ∨ outer = some c)
  enters : ∀ c, Stop.enter c ∈ l → ∀ m ∈ c.methods, Stop.meet c m ∈ l
  named : ∀ c, Stop.enter c ∈ l →
    declaresClass c.site.node.kind = true ∧
    c.site.node.children.find? (·.field = some .name) = some c.site.name ∧
    ∀ parent, c.site.parent = some parent → c.site.node ∈ parent.children

variable {outer : Option ClassAt} {here : Address} {n : Node}

theorem Coherent.nil : Coherent outer [] where
  ordered := .nil
  meets _ _ h := by cases h
  enters _ h := by cases h
  named _ h := by cases h

/-- Stops are coherent one after another, if the latter follow the former. -/
theorem Coherent.append {l r : List Stop} (hl : Coherent outer l) (hr : Coherent outer r)
    (hfollow : ∀ s ∈ l, ∀ t ∈ r, s.Follows t) : Coherent outer (l ++ r) where
  ordered := List.pairwise_append.mpr ⟨hl.ordered, hr.ordered, hfollow⟩
  meets c m h := by
    rcases List.mem_append.mp h with h | h
    · obtain ⟨hm, howner⟩ := hl.meets c m h
      exact ⟨hm, howner.imp_left (List.mem_append_left _)⟩
    · obtain ⟨hm, howner⟩ := hr.meets c m h
      exact ⟨hm, howner.imp_left (List.mem_append_right _)⟩
  enters c h m hm := by
    rcases List.mem_append.mp h with h | h
    · exact List.mem_append_left _ (hl.enters c h m hm)
    · exact List.mem_append_right _ (hr.enters c h m hm)
  named c h := (List.mem_append.mp h).elim (hl.named c) (hr.named c)

/-- A walk outside of any class is one inside of any. -/
theorem Coherent.inside {l : List Stop} (h : Coherent none l) : Coherent outer l where
  ordered := h.ordered
  meets c m hm := by
    obtain ⟨hmethod, howner⟩ := h.meets c m hm
    exact ⟨hmethod, .inl (howner.resolve_right (by simp))⟩
  enters := h.enters
  named := h.named

/-- The stops inside a class are coherent with entering it, if each of its methods is met. -/
theorem Coherent.enter {c : ClassAt} {l : List Stop} (h : Coherent (some c) l)
    (hfollow : ∀ s ∈ l, (Stop.enter c).Follows s) (hmethods : ∀ m ∈ c.methods, Stop.meet c m ∈ l)
    (hnamed : declaresClass c.site.node.kind = true ∧
      c.site.node.children.find? (·.field = some .name) = some c.site.name ∧
      ∀ parent, c.site.parent = some parent → c.site.node ∈ parent.children) :
    Coherent none (.enter c :: l) where
  ordered := List.pairwise_cons.mpr ⟨hfollow, h.ordered⟩
  meets c' m hm := by
    have hm : Stop.meet c' m ∈ l := (List.mem_cons.mp hm).resolve_left (by simp)
    obtain ⟨hmethod, howner⟩ := h.meets c' m hm
    -- the owner that was still missing is the class that is entered here
    refine ⟨hmethod, .inl ?_⟩
    rcases howner with howner | howner
    · exact List.mem_cons_of_mem _ howner
    · rw [Option.some.inj howner]
      exact List.mem_cons_self
  enters c' hc' m hm := by
    rcases List.mem_cons.mp hc' with hself | hc'
    · rw [Stop.enter.inj hself] at hm ⊢
      exact List.mem_cons_of_mem _ (hmethods m hm)
    · exact List.mem_cons_of_mem _ (h.enters c' hc' m hm)
  named c' hc' := by
    rcases List.mem_cons.mp hc' with hself | hc'
    · rw [Stop.enter.inj hself]
      exact hnamed
    · exact h.named c' hc'

theorem Coherent.meet {c : ClassAt} {m : MethodAt} {l : List Stop} (h : Coherent none l)
    (hm : m ∈ c.methods) (hfollow : ∀ s ∈ l, (Stop.meet c m).Follows s) :
    Coherent (some c) (.meet c m :: l) where
  ordered := List.pairwise_cons.mpr ⟨hfollow, h.ordered⟩
  meets c' m' hm' := by
    rcases List.mem_cons.mp hm' with hself | hm'
    · obtain ⟨hc, hmethod⟩ := Stop.meet.inj hself
      rw [hc, hmethod]
      exact ⟨hm, .inr rfl⟩
    · obtain ⟨hmethod, howner⟩ := h.inside.meets c' m' hm'
      exact ⟨hmethod, howner.imp_left (List.mem_cons_of_mem _)⟩
  enters c' hc' m' hm' := by
    have hc' : Stop.enter c' ∈ l := (List.mem_cons.mp hc').resolve_left (by simp)
    exact List.mem_cons_of_mem _ (h.enters c' hc' m' hm')
  named c' hc' := h.named c' ((List.mem_cons.mp hc').resolve_left (by simp))

/-! ### The walk -/

theorem getElem?_of_drop {ms ns : List Node} {i : Nat} {n : Node} (h : ms.drop i = n :: ns) :
    ms[i]? = some n := by
  rw [← Nat.add_zero i, ← List.getElem?_drop, h]
  rfl

theorem mem_children {parent n : Node} {i : Nat} (h : parent.children[i]? = some n) (q : Node)
    (hq : some parent = some q) : n ∈ q.children :=
  Option.some.inj hq ▸ List.mem_of_getElem? h

/-- The stops below a child come before those below the children after it. -/
theorem Coherent.cons {child : Node} {i : Nat} {l r : List Stop}
    (hchild : n.children[i]? = some child)
    (hl : Coherent outer l ∧ ∀ s ∈ l, s.Within (here ++ [i]) child)
    (hr : Coherent outer r ∧ ∀ s ∈ r, s.Under (fun j _ => i + 1 ≤ j) here n) :
    Coherent outer (l ++ r) ∧ ∀ s ∈ l ++ r, s.Under (fun j _ => i ≤ j) here n := by
  refine ⟨hl.1.append hr.1 fun s hs t ht => ?_, fun s hs => ?_⟩
  · exact Stop.follows_of_lt ((hl.2 s hs).under hchild (Nat.le_refl i)) (hr.2 t ht)
  · rcases List.mem_append.mp hs with hs | hs
    · exact (hl.2 s hs).under hchild (Nat.le_refl i)
    · exact (hr.2 s hs).imp fun j _ hj => Nat.le_of_succ_le hj

/-- A member of a class body that is one of its methods is met. -/
theorem meet_mem_stopsOfMembers {c : ClassAt} {body : Node} {m : MethodAt} {ns : List Node}
    {i j : Nat} (hj : ns[j]? = some m.node) (hm : methodAt? here body (i + j) m.node = some m) :
    Stop.meet c m ∈ stopsOfMembers c here body i ns := by
  induction ns generalizing i j with
  | nil => simp at hj
  | cons n ns ih =>
    rw [stopsOfMembers]
    cases j with
    | zero =>
      have hn : n = m.node := by simpa using hj
      rw [Nat.add_zero] at hm
      rw [hn, hm]
      exact List.mem_append_left _ List.mem_cons_self
    | succ j =>
      refine List.mem_append_right _ (ih (j := j) (by simpa using hj) ?_)
      rw [Nat.add_assoc, Nat.add_comm 1 j]
      exact hm

/-- The methods of a body are met in it. -/
theorem meet_mem_stopsInBody {c : ClassAt} {m : MethodAt} {body : Node}
    (hm : m ∈ methodsAmong here body) : Stop.meet c m ∈ stopsInBody c here body := by
  obtain ⟨i, n, hi, hmethod⟩ := mem_methodsAmong.mp hm
  obtain ⟨-, -, rfl⟩ := methodAt?_eq_some.mp hmethod
  cases body
  rw [stopsInBody]
  exact meet_mem_stopsOfMembers hi (by rw [Nat.zero_add]; exact hmethod)

/-- The methods of a class are met in its body. -/
theorem meet_mem_stopsInClass {c : ClassAt} {m : MethodAt} {ns : List Node} {i : Nat}
    (hbody : c.site.bodyAt? = (ns.zipIdx i).find? (·.1.field = some .body))
    (hm : m ∈ c.methods) : Stop.meet c m ∈ stopsInClass c i ns := by
  induction ns generalizing i with
  | nil =>
    simp only [ClassAt.methods, hbody] at hm
    cases hm
  | cons n ns ih =>
    rw [stopsInClass]
    split
    case isTrue hfield =>
      have hself : c.site.bodyAt? = some (n, i) := by simp [hbody, hfield]
      simp only [ClassAt.methods, hself] at hm
      exact meet_mem_stopsInBody hm
    case isFalse hfield => exact ih (by simp [hbody, hfield])

mutual

theorem coherent_stops (here : Address) (parent : Option Node) :
    (n : Node) → (∀ q, parent = some q → n ∈ q.children) →
      Coherent none (stops here parent n) ∧ ∀ s ∈ stops here parent n, s.Within here n
  | ⟨kind, field, text, line, missing, hasError, children⟩, hparent => by
    rw [stops]
    split
    case isTrue hkind =>
      cases hname : children.find? (·.field = some .name) with
      | none => exact ⟨.nil, fun s hs => by cases hs⟩
      | some name =>
        let c : ClassAt :=
          ⟨here, parent, ⟨kind, field, text, line, missing, hasError, children⟩, name⟩
        obtain ⟨hinner, hunder⟩ := coherent_stopsInClass c 0 children rfl rfl
        refine ⟨hinner.enter (fun s hs => Stop.follows_of_body rfl (hunder s hs))
          (fun m hm => meet_mem_stopsInClass rfl hm) ⟨hkind, hname, hparent⟩, fun s hs => ?_⟩
        rcases List.mem_cons.mp hs with rfl | hs
        · exact ⟨[], (List.append_nil here).symm, rfl⟩
        · exact (hunder s hs).within
    case isFalse =>
      obtain ⟨hinner, hunder⟩ := coherent_stopsAmong here
        ⟨kind, field, text, line, missing, hasError, children⟩ 0 children rfl
      exact ⟨hinner, fun s hs => (hunder s hs).within⟩
termination_by structural n => n

theorem coherent_stopsAmong (here : Address) (parent : Node) (i : Nat) :
    (ns : List Node) → parent.children.drop i = ns →
      Coherent none (stopsAmong here parent i ns) ∧
        ∀ s ∈ stopsAmong here parent i ns, s.Under (fun j _ => i ≤ j) here parent
  | [], _ => ⟨.nil, fun s hs => by cases hs⟩
  | n :: ns, hdrop => by
    have hn := getElem?_of_drop hdrop
    have hrest := coherent_stopsAmong here parent (i + 1) ns (drop_succ_of_drop hdrop)
    rw [stopsAmong]
    split
    · exact Coherent.cons hn (coherent_stops (here ++ [i]) (some parent) n (mem_children hn)) hrest
    · exact Coherent.cons hn ⟨.nil, fun s hs => by cases hs⟩ hrest
termination_by structural ns => ns

theorem coherent_stopsInClass (c : ClassAt) (i : Nat) :
    (ns : List Node) → c.site.node.children.drop i = ns →
      c.site.bodyAt? = (ns.zipIdx i).find? (·.1.field = some .body) →
      Coherent (some c) (stopsInClass c i ns) ∧
        ∀ s ∈ stopsInClass c i ns,
          s.Under (fun _ b => b.field = some .body) c.address c.site.node
  | [], _, _ => ⟨.nil, fun s hs => by cases hs⟩
  | n :: ns, hdrop, hbody => by
    rw [stopsInClass]
    split
    case isTrue hfield =>
      have hself : c.site.bodyAt? = some (n, i) := by simp [hbody, hfield]
      -- none of the children before this one is a body
      have hmethods : c.methods = methodsAmong (c.address ++ [i]) n := by
        simp only [ClassAt.methods, hself]
      obtain ⟨hinner, hwithin⟩ := coherent_stopsInBody c (c.address ++ [i]) n hmethods
      exact ⟨hinner, fun s hs => (hwithin s hs).under (getElem?_of_drop hdrop) hfield⟩
    case isFalse hfield =>
      exact coherent_stopsInClass c (i + 1) ns (drop_succ_of_drop hdrop) (by simp [hbody, hfield])
termination_by structural ns => ns

theorem coherent_stopsInBody (c : ClassAt) (here : Address) :
    (n : Node) → c.methods = methodsAmong here n →
      Coherent (some c) (stopsInBody c here n) ∧ ∀ s ∈ stopsInBody c here n, s.Within here n
  | ⟨kind, field, text, line, missing, hasError, members⟩, hmethods => by
    rw [stopsInBody]
    obtain ⟨hinner, hunder⟩ := coherent_stopsOfMembers c here
      ⟨kind, field, text, line, missing, hasError, members⟩ 0 hmethods members rfl
    exact ⟨hinner, fun s hs => (hunder s hs).within⟩
termination_by structural n => n

theorem coherent_stopsOfMembers (c : ClassAt) (here : Address) (body : Node) (i : Nat)
    (hmethods : c.methods = methodsAmong here body) :
    (ns : List Node) → body.children.drop i = ns →
      Coherent (some c) (stopsOfMembers c here body i ns) ∧
        ∀ s ∈ stopsOfMembers c here body i ns, s.Under (fun j _ => i ≤ j) here body
  | [], _ => ⟨.nil, fun s hs => by cases hs⟩
  | n :: ns, hdrop => by
    have hn := getElem?_of_drop hdrop
    have hrest := coherent_stopsOfMembers c here body (i + 1) hmethods ns (drop_succ_of_drop hdrop)
    rw [stopsOfMembers]
    cases hm : methodAt? here body i n with
    | some m =>
      -- a method, and what is in its body
      have hmem : m ∈ c.methods := by
        rw [hmethods]
        exact mem_methodsAmong.mpr ⟨i, n, hn, hm⟩
      obtain ⟨-, -, rfl⟩ := methodAt?_eq_some.mp hm
      obtain ⟨hinner, hunder⟩ := coherent_stopsInMethod (here ++ [i]) n
      refine Coherent.cons hn ⟨hinner.meet hmem fun s hs => ?_, fun s hs => ?_⟩ hrest
      · exact Stop.follows_of_body rfl (hunder s hs)
      · rcases List.mem_cons.mp hs with rfl | hs
        · exact ⟨[], (List.append_nil _).symm, rfl⟩
        · exact (hunder s hs).within
    | none =>
      simp only
      split
      · obtain ⟨hinner, hwithin⟩ := coherent_stops (here ++ [i]) (some body) n (mem_children hn)
        exact Coherent.cons hn ⟨hinner.inside, hwithin⟩ hrest
      · exact Coherent.cons hn ⟨.nil, fun s hs => by cases hs⟩ hrest
termination_by structural ns => ns

theorem coherent_stopsInMethod (here : Address) :
    (n : Node) → Coherent none (stopsInMethod here n) ∧
      ∀ s ∈ stopsInMethod here n, s.Under (fun _ b => b.field = some .body) here n
  | ⟨kind, field, text, line, missing, hasError, children⟩ => by
    rw [stopsInMethod]
    exact coherent_stopsInMethodBody here
      ⟨kind, field, text, line, missing, hasError, children⟩ 0 children rfl
termination_by structural n => n

theorem coherent_stopsInMethodBody (here : Address) (method : Node) (i : Nat) :
    (ns : List Node) → method.children.drop i = ns →
      Coherent none (stopsInMethodBody here method i ns) ∧
        ∀ s ∈ stopsInMethodBody here method i ns,
          s.Under (fun _ b => b.field = some .body) here method
  | [], _ => ⟨.nil, fun s hs => by cases hs⟩
  | n :: ns, hdrop => by
    rw [stopsInMethodBody]
    split
    case isTrue hfield =>
      have hn := getElem?_of_drop hdrop
      obtain ⟨hinner, hwithin⟩ := coherent_stops (here ++ [i]) (some method) n (mem_children hn)
      exact ⟨hinner, fun s hs => (hwithin s hs).under hn hfield⟩
    case isFalse =>
      exact coherent_stopsInMethodBody here method (i + 1) ns (drop_succ_of_drop hdrop)
termination_by structural ns => ns

end

/-! ### The stops of a tree -/

/-- The stops of a file are coherent. -/
theorem coherent_stopsOf (root : Node) : Coherent none (stopsOf root) :=
  (coherent_stops [] none root (by simp)).1

/-- The stops of a tree are at nodes of it. -/
theorem at?_of_mem_stopsOf {root : Node} {s : Stop} (h : s ∈ stopsOf root) :
    root.at? s.address = some s.node := by
  obtain ⟨rest, haddress, hat⟩ := (coherent_stops [] none root (by simp)).2 s h
  rw [haddress]
  exact hat

/-- The stops of a tree are in document order. -/
theorem stopsOf_ordered (root : Node) :
    (stopsOf root).Pairwise fun s t => s.address < t.address :=
  (coherent_stopsOf root).ordered.imp fun h => h.1

/-- The walk stops once at a node. -/
theorem eq_of_address_eq {root : Node} {s t : Stop} (hs : s ∈ stopsOf root)
    (ht : t ∈ stopsOf root) (h : s.address = t.address) : s = t := by
  let R : Stop → Stop → Prop := fun s t => s.address = t.address → s = t
  have hsymm : Std.Symm R := ⟨fun s t hst h => (hst h.symm).symm⟩
  have hapart : (stopsOf root).Pairwise R :=
    (stopsOf_ordered root).imp fun hlt heq => absurd heq hlt.ne
  exact hapart.forall_of_forall (fun _ _ _ => rfl) hs ht h

/-- Each stop belongs to a class that the walk enters. -/
theorem enter_owner_mem {root : Node} {s : Stop} (h : s ∈ stopsOf root) :
    Stop.enter s.owner ∈ stopsOf root := by
  cases s with
  | enter c => exact h
  | meet c m => exact ((coherent_stopsOf root).meets c m h).2.resolve_right (by simp)

/-! ### The stops of one class -/

/-- The methods of a body are in the order of their addresses. -/
theorem methodsAmong_ordered (here : Address) (body : Node) :
    (methodsAmong here body).Pairwise fun m m' => m.address < m'.address := by
  have hindices : body.children.zipIdx.Pairwise fun x y => x.2 < y.2 := by
    have h := List.pairwise_lt_range' (s := 0) (n := body.children.length)
    rw [← List.zipIdx_map_snd, List.pairwise_map] at h
    exact h
  refine List.pairwise_filterMap.mpr (hindices.imp ?_)
  rintro ⟨n, i⟩ ⟨n', i'⟩ hlt m hm m' hm'
  obtain ⟨-, -, rfl⟩ := methodAt?_eq_some.mp hm
  obtain ⟨-, -, rfl⟩ := methodAt?_eq_some.mp hm'
  exact address_lt_of_index_lt here hlt [] []

theorem ClassAt.methods_ordered (c : ClassAt) :
    c.methods.Pairwise fun m m' => m.address < m'.address := by
  unfold ClassAt.methods
  split
  · exact methodsAmong_ordered _ _
  · exact .nil

/-- A class comes before its methods. -/
theorem ClassAt.address_lt_of_mem {c : ClassAt} {m : MethodAt} (h : m ∈ c.methods) :
    c.address < m.address := by
  unfold ClassAt.methods at h
  split at h
  case h_1 body i _ =>
    obtain ⟨j, n, -, hm⟩ := mem_methodsAmong.mp h
    obtain ⟨-, -, rfl⟩ := methodAt?_eq_some.mp hm
    simpa using address_lt_below c.address i [j]
  case h_2 => cases h

/-- The stops that belong to a class are the class itself and then its methods. -/
theorem filter_owner_stopsOf {root : Node} {c : ClassAt} (h : .enter c ∈ stopsOf root) :
    (stopsOf root).filter (·.owner.address = c.address)
      = .enter c :: c.methods.map (.meet c) := by
  let R : Stop → Stop → Prop := fun s t => s.address < t.address
  have hirrefl : Std.Irrefl R := ⟨fun s => lt_irrefl s.address⟩
  have hantisymm : Std.Antisymm R := ⟨fun _ _ hst hts => absurd hst (lt_asymm hts)⟩
  -- both lists are in document order, so they need to agree on their members only
  refine List.Pairwise.eq_of_mem_iff (r := R) ((stopsOf_ordered root).filter _) ?_ fun s => ?_
  · refine List.pairwise_cons.mpr ⟨fun s hs => ?_, List.pairwise_map.mpr c.methods_ordered⟩
    obtain ⟨m, hm, rfl⟩ := List.mem_map.mp hs
    exact ClassAt.address_lt_of_mem hm
  · rw [List.mem_filter, decide_eq_true_eq, List.mem_cons, List.mem_map]
    constructor
    · rintro ⟨hs, howner⟩
      have hc := eq_of_address_eq (enter_owner_mem hs) h howner
      cases s with
      | enter c' => exact .inl hc
      | meet c' m =>
        rw [← Stop.enter.inj hc]
        exact .inr ⟨m, ((coherent_stopsOf root).meets c' m hs).1, rfl⟩
    · rintro (rfl | ⟨m, hm, rfl⟩)
      · exact ⟨h, rfl⟩
      · exact ⟨(coherent_stopsOf root).enters c h m hm, rfl⟩

end DispatchGen.Extract

/-
DispatchGen/Proofs/RecordNames.lean

Where the names in a record come from.

A record has two names that end up in code as they stand: that of a class, which is the text of
whatever node is in the role of its name, and that of a method, which is taken only from an
identifier (`recordsIn_findings`).  In the grammar of TypeScript the name of a class is an
identifier too, and no identifier has a line terminator in it; a tree in which that is so has its
names on one line (`NamesOnOneLine`), and then the records have (`namesOnOneLine_ofFiles`).
-/
import DispatchGen.Proofs.Assembly
import DispatchGen.Proofs.MarkerAccount
import DispatchGen.Proofs.ModuleLines

namespace DispatchGen

open Syntax Extract

/-! ### Trees with names on one line -/

namespace Syntax.Node

/-- If a node has a name that can end up in a record, because the node declares a class or the
name is an identifier, the name is on one line. -/
def isNamedOnOneLine (n : Node) : Bool :=
  (n.child? .name).all fun name =>
    !(declaresClass n.kind || name.kind = .propertyIdentifier) || decide (OneLine name.text)

/-- All names in a tree that can end up in a record are on one line. -/
def NamesOnOneLine (root : Node) : Prop := root.everywhere isNamedOnOneLine = true

instance (root : Node) : Decidable root.NamesOnOneLine :=
  inferInstanceAs (Decidable (_ = true))

theorem NamesOnOneLine.oneLine {root n name : Node} (h : root.NamesOnOneLine) {a : Address}
    (hn : root.at? a = some n) (hname : n.child? .name = some name)
    (hkind : declaresClass n.kind = true ∨ name.kind = .propertyIdentifier) :
    OneLine name.text := by
  have hcheck := check_of_at? h hn
  rw [isNamedOnOneLine, hname] at hcheck
  rcases hkind with hkind | hkind
  · simpa [hkind] using hcheck
  · simpa [hkind] using hcheck

end Syntax.Node

namespace Extract

/-! ### The records of a method -/

theorem Handled.recordsIn_eq {context : Context} {method : String} {line : Nat} {m : Marker}
    {fs : List Finding} (h : Handled context method line m fs) :
    recordsIn fs = (m.record? context method line).toList := by
  rcases h with ⟨r, hr, hrecords, -⟩ | ⟨hr, hrecords, -⟩
  · rw [hr, hrecords]
    rfl
  · rw [hr, hrecords]
    rfl

/-- The records of a method are what its markers declare, in their order, or none; it has some
only if its name is an identifier. -/
theorem recordsIn_findings (p : Pipeline) (s : ClassSite) (m : MethodAt) :
    recordsIn (m.findings p s) = [] ∨
      ∃ context name, s.context? p = some context ∧ m.node.child? .name = some name ∧
        name.kind = .propertyIdentifier ∧
        recordsIn (m.findings p s)
          = (m.markers p).filterMap (·.record? context name.text name.line) := by
  rw [MethodAt.findings]
  cases hcontext : s.context? p with
  | none => exact .inl rfl
  | some context =>
    cases hname : m.node.child? .name with
    | none =>
      have hsilent := methodFindings_of_no_name p context m hname
      exact .inl ((congrArg recordsIn hsilent).trans (recordsIn_ignoredOf _))
    | some name =>
      have haccount := accounted_methodFindings p context m hname
      by_cases hnone : m.markers p = []
      · exact .inl (haccount.unmarked hnone).1
      by_cases hkind : name.kind = .propertyIdentifier
      case neg => exact .inl (haccount.unnameable hnone hkind).1
      cases hmodifier : modifierOf? m.node.children with
      | some modifier =>
        exact .inl (haccount.unbindable hnone hkind (by rw [hmodifier]; rfl)).1
      | none =>
        obtain ⟨part, hrecords, -, hhandled⟩ := haccount.bound hkind hmodifier
        refine .inr ⟨context, name, rfl, rfl, hkind, ?_⟩
        rw [hrecords, List.filterMap_eq_flatMap_toList]
        exact List.flatMap_congr fun mark hmark => (hhandled mark hmark).recordsIn_eq

/-- The methods that the walk meets are nodes of the tree. -/
theorem at?_of_mem_methodsOf {root : Node} {x : ClassAt × MethodAt} (hx : x ∈ methodsOf root) :
    root.at? x.2.address = some x.2.node := by
  obtain ⟨hc, hm⟩ := mem_methodsOf.mp hx
  exact at?_of_mem_stopsOf ((coherent_stopsOf root).enters x.1 hc x.2 hm)

/-! ### Names of records -/

/-- The names in a record: its class and its method. -/
def Finding.names : Finding → List String
  | route _ _ handler controller _ => [controller, handler]
  | task _ method consumer _ _ => [consumer, method]
  | _ => []

theorem names_of_record? {context : Context} {method : String} {line : Nat} {m : Marker}
    {f : Finding} (h : m.record? context method line = some f) :
    f.names = [context.className, method] := by
  unfold Marker.record? at h
  split at h
  · obtain ⟨path, -, rfl⟩ := Option.map_eq_some_iff.mp h
    rfl
  · obtain ⟨queue, -, rfl⟩ := Option.map_eq_some_iff.mp h
    rfl
  · cases h

theorem className_of_context? {p : Pipeline} {s : ClassSite} {context : Context}
    (h : s.context? p = some context) : context.className = s.name.text := by
  obtain ⟨hname, -⟩ := classFindings_spec p s
  rw [ClassSite.context?, ClassSite.survey] at h
  rw [h] at hname
  split at hname
  · exact Option.some.inj hname
  · cases hname

variable {p : Pipeline} {root : Node}

/-- The names in a record that the walk finds are names of nodes. -/
theorem oneLine_of_mem_recordsIn (h : root.NamesOnOneLine) {x : ClassAt × MethodAt}
    (hx : x ∈ methodsOf root) {f : Finding} (hf : f ∈ recordsIn (x.2.findings p x.1.site)) :
    ∀ name ∈ f.names, OneLine name := by
  rcases recordsIn_findings p x.1.site x.2 with
    hnone | ⟨context, name, hcontext, hname, hkind, hall⟩
  · rw [hnone] at hf
    cases hf
  · rw [hall] at hf
    obtain ⟨mark, -, hf⟩ := List.mem_filterMap.mp hf
    have henter := (mem_methodsOf.mp hx).1
    obtain ⟨hclass, hsite, -⟩ := (coherent_stopsOf root).named x.1 henter
    have hcontroller : OneLine context.className := by
      rw [className_of_context? hcontext]
      exact h.oneLine (at?_of_mem_stopsOf henter) hsite (.inl hclass)
    have hmethod : OneLine name.text :=
      h.oneLine (at?_of_mem_methodsOf hx) hname (.inr hkind)
    rw [names_of_record? hf]
    exact List.forall_mem_cons.mpr ⟨hcontroller, List.forall_mem_singleton.mpr hmethod⟩

/-- So are the names in what is made of the records. -/
theorem oneLine_of_mem_extract {α : Type} {f : Finding → Option α} {namesOf : α → List String}
    (hf : ∀ g : Finding, g.record? = none → f g = none)
    (hnames : ∀ g a, f g = some a → namesOf a = g.names) (h : root.NamesOnOneLine) {a : α}
    (ha : a ∈ (findings p root).filterMap f) : ∀ name ∈ namesOf a, OneLine name := by
  rw [filterMap_findings hf] at ha
  obtain ⟨x, hx, ha⟩ := List.mem_flatMap.mp ha
  obtain ⟨g, hg, hga⟩ := List.mem_filterMap.mp ha
  rw [hnames g a hga]
  exact oneLine_of_mem_recordsIn h hx hg

end Extract

/-- Where the trees have their names on one line, so have the records of their table. -/
theorem Table.namesOnOneLine_ofFiles {p : Pipeline} {files : List (Path × Node)}
    (h : ∀ file ∈ files, file.2.NamesOnOneLine) (q : Pipeline) :
    (ofFiles p files).NamesOnOneLine q := by
  intro name hname
  cases q with
  | http =>
    rw [splicedNames, ofFiles, routes_ofFacts, List.flatMap_map] at hname
    obtain ⟨r, hr, hname⟩ := List.mem_flatMap.mp hname
    obtain ⟨⟨module, root⟩, hfile, hr⟩ := List.mem_flatMap.mp hr
    refine oneLine_of_mem_extract (route?_of_record? module) (fun g r hg => ?_) (h _ hfile) hr
      name hname
    cases g <;> cases hg
    rfl
  | queue =>
    rw [splicedNames, ofFiles, tasks_ofFacts, List.flatMap_map] at hname
    obtain ⟨k, hk, hname⟩ := List.mem_flatMap.mp hname
    obtain ⟨⟨module, root⟩, hfile, hk⟩ := List.mem_flatMap.mp hk
    refine oneLine_of_mem_extract (task?_of_record? module) (fun g k hg => ?_) (h _ hfile) hk
      name hname
    cases g <;> cases hg
    rfl

end DispatchGen

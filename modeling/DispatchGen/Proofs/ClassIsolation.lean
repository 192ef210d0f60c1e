/-
DispatchGen/Proofs/ClassIsolation.lean

What a class contributes depends on the class alone.

The contribution of a class to a tree is what is found at the stops that belong
to it (`contribution`): the class itself, the warnings about its markers, and
the records and warnings of its methods.  These stops are the class and its
methods wherever the class stands, and what is found at them is said by the
class node and by the decorators attached to it (`contribution_eq`), so nothing
that encloses a class or stands beside it has a say in its contribution.  To
stand alone a class needs no more than the export statement it is written in
(`ClassSite.alone`).

Main statement: `class_context_isolated`.
-/
import DispatchGen.Grammar.File
import DispatchGen.Proofs.StopOrder

namespace DispatchGen.Extract

open Syntax

/-! ### Top-level declarations -/

/-- A file is surveyed statement by statement. -/
theorem survey_program (p : Pipeline) {root : Node} (h : root.kind = .program) :
    survey p {} root = surveyAll p {} root.children := by
  obtain ⟨kind, field, text, line, missing, hasError, children⟩ := root
  cases h
  rw [survey]
  rfl

/-- The issues about markers: all but the one about syntax errors. -/
def markerIssues (f : Facts) : List Issue := f.issues.filter (·.kind ≠ "parse_error")

theorem syntaxFindings_filterMap {α : Type} {f : Finding → Option α}
    (h : ∀ w, f (.warning w) = none) (root : Node) : (syntaxFindings root).filterMap f = [] := by
  unfold syntaxFindings
  split <;> simp [h]

theorem filter_syntaxFindings (module : Path) (root : Node) :
    ((syntaxFindings root).filterMap (·.issue? module)).filter (·.kind ≠ "parse_error") = [] := by
  unfold syntaxFindings
  split
  · rfl
  · rfl

/-- The facts of a tree, apart from its syntax errors, are those of the walk. -/
theorem extract_survey (p : Pipeline) (module : Path) (root : Node) :
    (extract p module root).classes = (survey p {} root).filterMap (·.class? module) ∧
    (extract p module root).routes = (survey p {} root).filterMap (·.route? module) ∧
    (extract p module root).tasks = (survey p {} root).filterMap (·.task? module) ∧
    markerIssues (extract p module root)
      = ((survey p {} root).filterMap (·.issue? module)).filter (·.kind ≠ "parse_error") := by
  simp only [extract, Facts.ofFindings, findings, markerIssues, List.filterMap_append,
    List.filter_append]
  rw [syntaxFindings_filterMap (f := (·.class? module)) (fun _ => rfl),
    syntaxFindings_filterMap (f := (·.route? module)) (fun _ => rfl),
    syntaxFindings_filterMap (f := (·.task? module)) (fun _ => rfl), filter_syntaxFindings]
  exact ⟨rfl, rfl, rfl, rfl⟩

/-- Where the walk finds the same, the facts are the same but for syntax errors. -/
theorem extract_of_survey_eq {p : Pipeline} (module : Path) {root root' : Node}
    (h : survey p {} root' = survey p {} root) :
    (extract p module root').classes = (extract p module root).classes ∧
    (extract p module root').routes = (extract p module root).routes ∧
    (extract p module root').tasks = (extract p module root).tasks ∧
    markerIssues (extract p module root') = markerIssues (extract p module root) := by
  obtain ⟨hclasses, hroutes, htasks, hissues⟩ := extract_survey p module root
  obtain ⟨hclasses', hroutes', htasks', hissues'⟩ := extract_survey p module root'
  rw [h] at hclasses' hroutes' htasks' hissues'
  exact ⟨hclasses'.trans hclasses.symm, hroutes'.trans hroutes.symm, htasks'.trans htasks.symm,
    hissues'.trans hissues.symm⟩

/-! ### The contribution of a class -/

/-- What is found at the stops that belong to the class at an address. -/
def contribution (p : Pipeline) (root : Node) (a : Address) : List Finding :=
  ((stopsOf root).filter (·.owner.address = a)).flatMap (·.findings p)

/-- A class contributes what is found at it and at its methods. -/
theorem contribution_of_mem {p : Pipeline} {root : Node} {c : ClassAt}
    (h : .enter c ∈ stopsOf root) :
    contribution p root c.address
      = (c.site.survey p).2 ++ c.methods.flatMap (·.findings p c.site) := by
  rw [contribution, filter_owner_stopsOf h, List.flatMap_cons, List.flatMap_map]
  rfl

/-- The methods of a class body are the same at any address. -/
theorem map_methodsAmong {α : Type} (f : List Node → Node → α) (here : Address) (body : Node) :
    (methodsAmong here body).map (fun m => f m.decorators m.node)
      = (methodsAmong [] body).map (fun m => f m.decorators m.node) := by
  simp only [methodsAmong, List.map_filterMap]
  congr 1
  funext p
  simp only [methodAt?]
  split <;> rfl

theorem map_methods {α : Type} (f : List Node → Node → α) {c c' : ClassAt}
    (h : c.site.node = c'.site.node) :
    c.methods.map (fun m => f m.decorators m.node)
      = c'.methods.map (fun m => f m.decorators m.node) := by
  have hbody : c.site.bodyAt? = c'.site.bodyAt? := by rw [ClassSite.bodyAt?, h]; rfl
  simp only [ClassAt.methods, hbody]
  cases c'.site.bodyAt? with
  | none => rfl
  | some found =>
    obtain ⟨body, i⟩ := found
    exact (map_methodsAmong f _ body).trans (map_methodsAmong f _ body).symm

/-- Two classes with the same attached decorators, under the same form of export. -/
structure SameClass (s t : ClassSite) : Prop where
  node : s.node = t.node
  decorators : s.decorators = t.decorators
  isDefaultExport : s.isDefaultExport = t.isDefaultExport

theorem SameClass.attachedBy_eq {s t : ClassSite} (h : SameClass s t) :
    attachedBy s.parent = attachedBy t.parent := by
  have hdecorators := h.decorators
  rw [← attachedBy_decorators, ← attachedBy_decorators, h.node, List.append_left_inj]
    at hdecorators
  have hdefault := h.isDefaultExport
  rw [← attachedBy_isDefault, ← attachedBy_isDefault] at hdefault
  cases hs : attachedBy s.parent
  cases ht : attachedBy t.parent
  simp_all

/-- The same class is surveyed alike in two trees. -/
theorem SameClass.survey_eq {c c' : ClassAt} {root root' : Node} (p : Pipeline)
    (hc : .enter c ∈ stopsOf root) (hc' : .enter c' ∈ stopsOf root')
    (h : SameClass c.site c'.site) : c.site.survey p = c'.site.survey p := by
  obtain ⟨-, hname, -⟩ := (coherent_stopsOf root).named c hc
  obtain ⟨-, hname', -⟩ := (coherent_stopsOf root').named c' hc'
  rw [h.node, hname'] at hname
  rw [ClassSite.survey, ClassSite.survey, h.attachedBy_eq, h.node, Option.some.inj hname]

/-- A class contributes the same wherever it stands. -/
theorem contribution_eq {c c' : ClassAt} {root root' : Node} (p : Pipeline)
    (hc : .enter c ∈ stopsOf root) (hc' : .enter c' ∈ stopsOf root')
    (h : SameClass c.site c'.site) :
    contribution p root c.address = contribution p root' c'.address := by
  have hsurvey := h.survey_eq p hc hc'
  have hfindings : ∀ m : MethodAt, m.findings p c.site = m.findings p c'.site := by
    intro m
    rw [MethodAt.findings, MethodAt.findings, ClassSite.context?, ClassSite.context?, hsurvey]
  have hmethods := map_methods (fun ds n => MethodAt.findings p c'.site ⟨[], ds, n⟩) h.node
  rw [contribution_of_mem hc, contribution_of_mem hc', hsurvey, List.flatMap_congr
    fun m _ => hfindings m, List.flatMap_def, List.flatMap_def]
  exact congrArg (_ ++ List.flatten ·) hmethods

/-! ### Standing alone -/

/-- The export statement that a class is written in, or else the class. -/
def ClassSite.declaration (s : ClassSite) : Node :=
  match s.parent with
  | some parent => if parent.kind = .exportStatement then parent else s.node
  | none => s.node

/-- A file in which the class stands alone. -/
def ClassSite.alone (s : ClassSite) : Node :=
  { kind := .program, line := 1, children := [s.declaration] }

theorem mem_stopsAmong {here : Address} {parent n : Node} {ns : List Node} {i j : Nat} {s : Stop}
    (hn : ns[j]? = some n) (hcontent : n.isContent)
    (hs : s ∈ stops (here ++ [i + j]) (some parent) n) : s ∈ stopsAmong here parent i ns := by
  induction ns generalizing i j with
  | nil => simp at hn
  | cons m ns ih =>
    rw [stopsAmong, List.mem_append]
    cases j with
    | zero =>
      have hm : m = n := by simpa using hn
      rw [hm, if_pos hcontent]
      exact .inl hs
    | succ j =>
      refine .inr (ih (j := j) (by simpa using hn) ?_)
      rw [Nat.add_assoc, Nat.add_comm 1 j]
      exact hs

/-- A node hands its stops on to the tree above it, if that is no class. -/
theorem mem_stops_of_child {here : Address} {parent : Option Node} {n child : Node} {i : Nat}
    {s : Stop} (hkind : declaresClass n.kind = false) (hchild : n.children[i]? = some child)
    (hcontent : child.isContent) (hs : s ∈ stops (here ++ [i]) (some n) child) :
    s ∈ stops here parent n := by
  obtain ⟨kind, field, text, line, missing, hasError, children⟩ := n
  rw [stops, if_neg (by simpa using hkind)]
  exact mem_stopsAmong hchild hcontent (by rwa [Nat.zero_add])

theorem isContent_of_declaresClass {n : Node} (h : declaresClass n.kind = true) :
    n.isContent = true := by
  simp only [declaresClass, Bool.or_eq_true, decide_eq_true_eq] at h
  rcases h with h | h <;> simp [Node.isContent, h, NodeKind.isNamed]

/-- A named class that is surveyed is entered. -/
theorem enter_mem_stops {here : Address} {parent : Option Node} {n name : Node}
    (hkind : declaresClass n.kind = true)
    (hname : n.children.find? (·.field = some .name) = some name) :
    .enter ⟨here, parent, n, name⟩ ∈ stops here parent n := by
  obtain ⟨kind, field, text, line, missing, hasError, children⟩ := n
  rw [stops, if_pos hkind]
  simp only at hname
  rw [hname]
  exact List.mem_cons_self

theorem decorators_of_not_export {s : ClassSite}
    (h : ∀ parent, s.parent = some parent → parent.kind ≠ .exportStatement) :
    s.decorators = decoratorsOf s.node.children ∧ s.isDefaultExport = false := by
  obtain ⟨parent, node, name⟩ := s
  cases parent with
  | none => exact ⟨rfl, rfl⟩
  | some q => simp [ClassSite.decorators, ClassSite.isDefaultExport, h q rfl]

/-- A class is entered where it stands alone. -/
theorem exists_alone {root : Node} {c : ClassAt} (h : .enter c ∈ stopsOf root) :
    ∃ c' : ClassAt, .enter c' ∈ stopsOf c.site.alone ∧ SameClass c.site c'.site := by
  obtain ⟨hkind, hname, hparent⟩ := (coherent_stopsOf root).named c h
  obtain ⟨address, parent, node, name⟩ := c
  have hcontent := isContent_of_declaresClass hkind
  by_cases hexport : ∃ q, parent = some q ∧ q.kind = .exportStatement
  case pos =>
    -- the export statement comes along, with the class in it
    obtain ⟨q, rfl, hq⟩ := hexport
    obtain ⟨i, hi⟩ := List.mem_iff_getElem?.mp (hparent q rfl)
    have halone : ClassSite.alone ⟨some q, node, name⟩
        = { kind := .program, line := 1, children := [q] } := by
      simp [ClassSite.alone, ClassSite.declaration, hq]
    refine ⟨⟨[0, i], some q, node, name⟩, ?_, rfl, rfl, rfl⟩
    rw [halone]
    have hfirst : ([q] : List Node)[0]? = some q := rfl
    refine mem_stops_of_child rfl hfirst (by simp [Node.isContent, hq, NodeKind.isNamed]) ?_
    exact mem_stops_of_child (by simp [declaresClass, hq]) hi hcontent
      (enter_mem_stops hkind hname)
  case neg =>
    let alone : Node := { kind := .program, line := 1, children := [node] }
    have halone : ClassSite.alone ⟨parent, node, name⟩ = alone := by
      cases parent with
      | none => rfl
      | some q =>
        have hq : q.kind ≠ .exportStatement := fun hq => hexport ⟨q, rfl, hq⟩
        simp [ClassSite.alone, ClassSite.declaration, hq, alone]
    have hbefore := decorators_of_not_export (s := ⟨parent, node, name⟩)
      fun q hq hkind => hexport ⟨q, hq, hkind⟩
    have hafter := decorators_of_not_export (s := ⟨some alone, node, name⟩) (by
      rintro q hq hkind
      rw [← Option.some.inj hq] at hkind
      cases hkind)
    refine ⟨⟨[0], some alone, node, name⟩, ?_, rfl, hbefore.1.trans hafter.1.symm,
      hbefore.2.trans hafter.2.symm⟩
    rw [halone]
    have hfirst : ([node] : List Node)[0]? = some node := rfl
    exact mem_stops_of_child rfl hfirst hcontent (enter_mem_stops hkind hname)

/-! ### Main statement -/

/-- **The context of a class never leaves it.**  The facts of a file are those of
its top-level declarations, one after another, wherever the file is split.  All
that is found in a file is found at a stop of some class that the walk enters.
And what such a class contributes is what it contributes where it stands alone,
with the decorators attached to it; in any two files in which a class with the
same decorators stands, it has the same context and contributes the same,
whatever encloses it or stands beside it. -/
theorem class_context_isolated (p : Pipeline) (module : Path) :
    (∀ root left right : Node, root.kind = .program → left.kind = .program →
      right.kind = .program → root.children = left.children ++ right.children →
      (extract p module root).classes
        = (extract p module left).classes ++ (extract p module right).classes ∧
      (extract p module root).routes
        = (extract p module left).routes ++ (extract p module right).routes ∧
      (extract p module root).tasks
        = (extract p module left).tasks ++ (extract p module right).tasks ∧
      markerIssues (extract p module root)
        = markerIssues (extract p module left) ++ markerIssues (extract p module right)) ∧
    (∀ root : Node, extract p module root
        = .ofFindings module
            (syntaxFindings root ++ (stopsOf root).flatMap (·.findings p)) ∧
      ∀ s ∈ stopsOf root, .enter s.owner ∈ stopsOf root) ∧
    (∀ (root : Node) (c : ClassAt), .enter c ∈ stopsOf root →
      ∃ c' : ClassAt, .enter c' ∈ stopsOf c.site.alone ∧ SameClass c.site c'.site ∧
        contribution p root c.address = contribution p c.site.alone c'.address) ∧
    ∀ (root root' : Node) (c c' : ClassAt), .enter c ∈ stopsOf root → .enter c' ∈ stopsOf root' →
      SameClass c.site c'.site →
      c.site.context? p = c'.site.context? p ∧
        contribution p root c.address = contribution p root' c'.address := by
  refine ⟨fun root left right hroot hleft hright hchildren => ?split, fun root => ⟨?_, ?_⟩,
    fun root c hc => ?alone, fun root root' c c' hc hc' hsame => ?isolated⟩
  case split =>
    obtain ⟨hclasses, hroutes, htasks, hissues⟩ := extract_survey p module root
    obtain ⟨hclasses₁, hroutes₁, htasks₁, hissues₁⟩ := extract_survey p module left
    obtain ⟨hclasses₂, hroutes₂, htasks₂, hissues₂⟩ := extract_survey p module right
    have hsurvey : survey p {} root = survey p {} left ++ survey p {} right := by
      rw [survey_program p hroot, survey_program p hleft, survey_program p hright, hchildren,
        surveyAll_append]
    rw [hsurvey, List.filterMap_append] at hclasses hroutes htasks hissues
    rw [List.filter_append] at hissues
    exact ⟨by rw [hclasses, hclasses₁, hclasses₂], by rw [hroutes, hroutes₁, hroutes₂],
      by rw [htasks, htasks₁, htasks₂], by rw [hissues, hissues₁, hissues₂]⟩
  · have hwalk : survey p {} root = (stopsOf root).flatMap (·.findings p) :=
      survey_eq_flatMap p [] none root
    rw [extract, findings, hwalk]
  · exact fun s hs => enter_owner_mem hs
  case alone =>
    obtain ⟨c', hc', hsame⟩ := exists_alone hc
    exact ⟨c', hc', hsame, contribution_eq p hc hc' hsame⟩
  case isolated =>
    refine ⟨?_, contribution_eq p hc hc' hsame⟩
    rw [ClassSite.context?, ClassSite.context?, hsame.survey_eq p hc hc']

/-- Two controllers, one with a third in a method. -/
def nestedControllers : Node :=
  Grammar.read .typeScript <|
    "@Controller('a') class A \x7b @Get('/b') b() \x7b " ++
    "@Controller('c') class C \x7b @Get('/d') d() \x7b\x7d \x7d \x7d \x7d\n" ++
    "@Controller('e') export default class E \x7b @Put('/f') f() \x7b\x7d \x7d"

/-- The nested class has no part in the prefix of the class around it, and the
file is the sum of its two declarations. -/
theorem class_context_isolated_nested :
    (∃ c c' : ClassAt, .enter c ∈ stopsOf nestedControllers ∧
      .enter c' ∈ stopsOf c.site.alone ∧ SameClass c.site c'.site ∧
      contribution .http nestedControllers c.address
        = [.marked "C" false, .route .get "/c/d" "d" "C" 1] ∧
      contribution .http c.site.alone c'.address
        = [.marked "C" false, .route .get "/c/d" "d" "C" 1] ∧
      c'.site.context? .http = some ⟨"C", "c", ""⟩) ∧
    (extract .http ⟨"m.ts"⟩ nestedControllers).routes
      = (extract .http ⟨"m.ts"⟩
          { nestedControllers with children := nestedControllers.children.take 1 }).routes ++
        (extract .http ⟨"m.ts"⟩
          { nestedControllers with children := nestedControllers.children.drop 1 }).routes ∧
    (extract .http ⟨"m.ts"⟩ nestedControllers).routes.map (·.pattern)
      = ["/a/b", "/c/d", "/e/f"] := by
  obtain ⟨hsplit, -, halone, hisolated⟩ := class_context_isolated .http ⟨"m.ts"⟩
  have hread : nestedControllers.kind = .program ∧
      (stopsOf nestedControllers).any (fun s => s.owner.address = [0, 3, 2, 2, 1] ∧
        s.owner.site.context? .http = some ⟨"C", "c", ""⟩) = true ∧
      contribution .http nestedControllers [0, 3, 2, 2, 1]
        = [.marked "C" false, .route .get "/c/d" "d" "C" 1] ∧
      (extract .http ⟨"m.ts"⟩ nestedControllers).routes.map (·.pattern)
        = ["/a/b", "/c/d", "/e/f"] := by decide +kernel
  obtain ⟨hprogram, hinner, hfound, hpatterns⟩ := hread
  refine ⟨?_, ?_, hpatterns⟩
  · obtain ⟨s, hs, hwhich⟩ := List.any_eq_true.mp hinner
    obtain ⟨haddress, hcontext⟩ := of_decide_eq_true hwhich
    rw [← haddress] at hfound
    have hc := enter_owner_mem hs
    obtain ⟨c', hc', hsame, hequal⟩ := halone nestedControllers s.owner hc
    have hboth := hisolated _ _ s.owner c' hc hc' hsame
    exact ⟨s.owner, c', hc, hc', hsame, hfound, hequal ▸ hfound, hboth.1 ▸ hcontext⟩
  · have hfirst := fun (n : Node) (hn : n.kind = .program) =>
      hsplit n { n with children := n.children.take 1 } { n with children := n.children.drop 1 }
        hn hn hn (List.take_append_drop 1 n.children).symm
    exact (hfirst nestedControllers hprogram).2.1

end DispatchGen.Extract

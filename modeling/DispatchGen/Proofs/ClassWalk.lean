/-
DispatchGen/Proofs/ClassWalk.lean

The classes that a walk over a syntax tree comes upon, and the records it finds
for them.

`classSites` lists the named class declarations of a tree in document order,
each with the node it is a child of; it goes where the walk goes and reports
nothing else.  What the walk makes of these sites is said by `Reports`: it reports a
class exactly for the sites whose own markers make it one of the pipeline's, as a
default export exactly for those written as `export default class`, and every
record it finds belongs to the pipeline and to a class that it reports as well.
For a class is reported before its body is entered, and a method is looked at
only with the context of the class it is a member of.

`reports_survey` proves it by the mutual induction of the walk, one theorem for
each of its functions.
-/
import DispatchGen.Extract.Facts
import Mathlib.Tactic.SplitIfs

namespace DispatchGen.Extract

open Syntax

/-! ### Class declarations in document order -/

/-- A named class declaration and the node it is a child of. -/
structure ClassSite where
  parent : Option Node
  node : Node
  name : Node

/-- The marker by which a class says that it is one of a pipeline's. -/
def establishing : Pipeline → MarkerKind
  | .http => .controller
  | .queue => .consumer

/-- Whether a class's markers establish a context: the pipeline's is among them,
and the first of those has an argument. -/
def establishes (pipeline : Pipeline) (markers : List Marker) : Bool :=
  (markers.find? (·.kind = establishing pipeline)).any (!·.args.isEmpty)

namespace ClassSite

/-- Whether the class is written as `export default class`. -/
def isDefaultExport (s : ClassSite) : Bool :=
  s.parent.any fun n => n.kind = .exportStatement && n.children.any (·.kind = .token "default")

/-- The decorators of the class, with those before `export` first. -/
def decorators (s : ClassSite) : List Node :=
  (match s.parent with
    | some n => if n.kind = .exportStatement then decoratorsOf n.children else []
    | none => []) ++
  decoratorsOf s.node.children

/-- Whether the class is one of a pipeline's. -/
def isMarked (pipeline : Pipeline) (s : ClassSite) : Bool :=
  establishes pipeline (s.decorators.filterMap marker?)

/-- The class as it is declared in `module`. -/
def declaredIn (module : Path) (s : ClassSite) : MarkedClass :=
  ⟨s.name.text, module, s.isDefaultExport⟩

end ClassSite

mutual

/-- The class declarations at or below a node that is a child of `parent`. -/
def classSites (parent : Option Node) : Node → List ClassSite
  | ⟨kind, field, text, line, missing, hasError, children⟩ =>
      let node : Node := ⟨kind, field, text, line, missing, hasError, children⟩
      if declaresClass kind then
        match children.find? (·.field = some .name) with
        | none => []
        | some name => ⟨parent, node, name⟩ :: sitesInClass children
      else sitesAmong node children
termination_by structural n => n

/-- The class declarations among the children of `parent`. -/
def sitesAmong (parent : Node) : List Node → List ClassSite
  | [] => []
  | n :: ns =>
      if n.isContent then classSites (some parent) n ++ sitesAmong parent ns
      else sitesAmong parent ns
termination_by structural ns => ns

/-- The class declarations in the body among a class's children. -/
def sitesInClass : List Node → List ClassSite
  | [] => []
  | n :: ns => if n.field = some .body then sitesInBody n else sitesInClass ns
termination_by structural ns => ns

/-- The class declarations in a class body. -/
def sitesInBody : Node → List ClassSite
  | ⟨kind, field, text, line, missing, hasError, members⟩ =>
      sitesOfMembers ⟨kind, field, text, line, missing, hasError, members⟩ members
termination_by structural n => n

/-- The class declarations among the members of `body`. -/
def sitesOfMembers (body : Node) : List Node → List ClassSite
  | [] => []
  | n :: ns =>
      if !n.isContent || n.kind = .decorator then sitesOfMembers body ns
      else if n.kind = .methodDefinition then sitesInMethod n ++ sitesOfMembers body ns
      else classSites (some body) n ++ sitesOfMembers body ns
termination_by structural ns => ns

/-- The class declarations in a method. -/
def sitesInMethod : Node → List ClassSite
  | ⟨kind, field, text, line, missing, hasError, children⟩ =>
      sitesInMethodBody ⟨kind, field, text, line, missing, hasError, children⟩ children
termination_by structural n => n

/-- The class declarations in the body among the children of `method`. -/
def sitesInMethodBody (method : Node) : List Node → List ClassSite
  | [] => []
  | n :: ns =>
      if n.field = some .body then classSites (some method) n else sitesInMethodBody method ns
termination_by structural ns => ns

end

/-- What a node hands to its children, where the root of a tree has no parent. -/
def attachedBy : Option Node → Attached
  | none => {}
  | some n => attachedOf n.kind n.children

/-- What a parent hands on tells whether its class is the default export. -/
theorem attachedBy_isDefault (s : ClassSite) :
    (attachedBy s.parent).isDefault = s.isDefaultExport := by
  obtain ⟨parent, node, name⟩ := s
  cases parent with
  | none => rfl
  | some n =>
    by_cases h : n.kind = .exportStatement <;>
      simp [attachedBy, attachedOf, ClassSite.isDefaultExport, h]

/-- What a parent hands on, with what is inside the class, are all its decorators. -/
theorem attachedBy_decorators (s : ClassSite) :
    (attachedBy s.parent).decorators ++ decoratorsOf s.node.children = s.decorators := by
  obtain ⟨parent, node, name⟩ := s
  cases parent with
  | none => rfl
  | some n =>
    by_cases h : n.kind = .exportStatement <;>
      simp [attachedBy, attachedOf, ClassSite.decorators, h]

/-- A method hands nothing on. -/
theorem attachedBy_method {n : Node} (h : n.kind = .methodDefinition) :
    attachedBy (some n) = {} := by
  simp [attachedBy, attachedOf, h]

/-! ### Notes and records -/

/-- A finding that adds nothing to a table but an issue. -/
def Finding.IsNote : Finding → Prop
  | warning _ => True
  | ignored _ => True
  | _ => False

/-- The pipeline and the class of a finding that is a record. -/
def Finding.record? : Finding → Option (Pipeline × String)
  | route _ _ _ controller _ => some (.http, controller)
  | task _ _ consumer _ _ => some (.queue, consumer)
  | _ => none

theorem Finding.IsNote.class? {f : Finding} (h : f.IsNote) (module : Path) :
    f.class? module = none := by
  cases f <;> first | rfl | exact h.elim

theorem Finding.IsNote.record? {f : Finding} (h : f.IsNote) : f.record? = none := by
  cases f <;> first | rfl | exact h.elim

/-- A finding that is a record declares no class. -/
theorem class?_eq_none_of_record {f : Finding} {r : Pipeline × String} (h : f.record? = some r)
    (module : Path) :
    f.class? module = none := by
  cases f <;> first | rfl | cases h

/-- A warning is a note. -/
theorem isNote_warnAt (line : Nat) (site : String) (cause : Cause) :
    (warnAt line site cause).IsNote :=
  trivial

theorem isNote_of_mem_ignoredOf {ds : List Node} {f : Finding} (h : f ∈ ignoredOf ds) :
    f.IsNote := by
  obtain ⟨_, _, rfl⟩ := List.mem_map.mp h
  trivial

theorem isNote_of_mem_foldPath {site : String} {argument : Node} {f : Finding}
    (h : f ∈ (foldPath site argument).2) : f.IsNote := by
  unfold foldPath at h
  split at h
  · cases h
  · rw [List.mem_singleton.mp h]
    trivial

theorem isNote_of_mem_basePathOf {name : String} {ms : List Marker} {f : Finding}
    (h : f ∈ (basePathOf name ms).2) : f.IsNote := by
  unfold basePathOf at h
  split at h
  · cases h
  · split at h
    · exact isNote_of_mem_foldPath h
    · rw [List.mem_singleton.mp h]
      trivial

/-! ### One class -/

/-- What `contextOf` does: it establishes a context, under the name of the class,
if the markers do. -/
theorem contextOf_spec (p : Pipeline) (name : String) (ms : List Marker) :
    (contextOf p name ms).1.map (·.className) = (if establishes p ms then some name else none) ∧
    ∀ f ∈ (contextOf p name ms).2, f.IsNote := by
  cases p with
  | http =>
    have hkind : establishing .http = .controller := rfl
    rw [establishes, hkind]
    simp only [contextOf]
    cases hm : ms.find? (·.kind = .controller) with
    | none => simp
    | some m =>
      cases hargs : m.args with
      | nil => simp [hargs, isNote_warnAt]
      | cons argument rest =>
        -- a path that cannot be folded is noted, and the context is there all the same
        refine ⟨by simp [hargs], fun f hf => ?_⟩
        simp only [hargs, List.mem_append] at hf
        rcases hf with hf | hf
        · exact isNote_of_mem_foldPath hf
        · exact isNote_of_mem_basePathOf hf
  | queue =>
    have hkind : establishing .queue = .consumer := rfl
    rw [establishes, hkind]
    simp only [contextOf]
    cases hm : ms.find? (·.kind = .consumer) with
    | none => simp
    | some m => cases hargs : m.args <;> simp [hargs, isNote_warnAt]

/-- The findings of a class itself: notes, and the class if it has a context. -/
theorem classFindings_spec (p : Pipeline) (s : ClassSite) :
    (classFindings p s.name.text (attachedBy s.parent) s.node.children).1.map (·.className)
      = (if s.isMarked p then some s.name.text else none) ∧
    ∃ notes : List Finding, (∀ f ∈ notes, f.IsNote) ∧
      (classFindings p s.name.text (attachedBy s.parent) s.node.children).2
        = notes ++ (if s.isMarked p then [.marked s.name.text s.isDefaultExport] else []) := by
  obtain ⟨hcontext, hnotes⟩ := contextOf_spec p s.name.text (s.decorators.filterMap marker?)
  simp only [classFindings, attachedBy_decorators, attachedBy_isDefault]
  rw [← ClassSite.isMarked] at hcontext
  generalize contextOf p s.name.text (s.decorators.filterMap marker?) = found at hcontext hnotes ⊢
  obtain ⟨context, warnings⟩ := found
  refine ⟨hcontext, ignoredOf s.decorators ++ warnings, fun f hf => ?_, ?_⟩
  · rcases List.mem_append.mp hf with hf | hf
    · exact isNote_of_mem_ignoredOf hf
    · exact hnotes f hf
  · cases context <;> split_ifs at hcontext ⊢ <;> first | rfl | cases hcontext

/-! ### One method -/

/-- What a method marker of the router gives is a note or a record of its class. -/
theorem record_of_mem_routeOf {context : Context} {method : String} {line : Nat} {m : Marker}
    {verb : Verb} {f : Finding} (h : f ∈ routeOf context method line m verb) :
    f.IsNote ∨ f.record? = some (.http, context.className) := by
  unfold routeOf at h
  split at h
  · rw [List.mem_singleton.mp h]
    exact .inl trivial
  · rcases List.mem_append.mp h with h | h
    · exact .inl (isNote_of_mem_foldPath h)
    · rw [List.mem_singleton.mp h]
      exact .inr rfl

/-- What a consumer marker gives is a note or a record of its class. -/
theorem record_of_mem_taskOf {context : Context} {method : String} {line : Nat} {m : Marker}
    {f : Finding} (h : f ∈ taskOf context method line m) :
    f.IsNote ∨ f.record? = some (.queue, context.className) := by
  have hwarn : ∀ {cause : Cause} {site : String}, f ∈ [warnAt line site cause] →
      f.IsNote ∨ f.record? = some (.queue, context.className) := by
    intro cause site hf
    rw [List.mem_singleton.mp hf]
    exact .inl trivial
  unfold taskOf at h
  -- no options, no channel, a channel that cannot be folded, an empty one
  split at h
  · exact hwarn h
  · split at h
    · exact hwarn h
    · split at h
      · exact hwarn h
      · split at h
        · exact hwarn h
        · rcases List.mem_append.mp h with h | h
          · -- what is said about the batch option
            split at h
            · cases h
            · split at h
              · cases h
              · exact hwarn h
          · rw [List.mem_singleton.mp h]
            exact .inr rfl

/-- A marker that concerns a pipeline makes records of that pipeline only, and of
the class whose context it is read in. -/
theorem record_of_mem_recordOf {p : Pipeline} {context : Context} {method : String} {line : Nat}
    {m : Marker} {f : Finding} (hm : concerns p m) (h : f ∈ recordOf context method line m) :
    f.IsNote ∨ f.record? = some (p, context.className) := by
  unfold recordOf at h
  split at h
  case h_1 verb hkind =>
    cases p with
    | http => exact record_of_mem_routeOf h
    | queue => simp [concerns, hkind] at hm
  case h_2 hkind =>
    cases p with
    | http => simp [concerns, hkind] at hm
    | queue => exact record_of_mem_taskOf h
  case h_3 => cases h

/-- What a method gives is a note or a record of the class it is in. -/
theorem record_of_mem_methodFindings {p : Pipeline} {context : Context} {ds cs : List Node}
    {f : Finding} (h : f ∈ methodFindings p context ds cs) :
    f.IsNote ∨ f.record? = some (p, context.className) := by
  unfold methodFindings at h
  rcases List.mem_append.mp h with h | h
  · exact .inl (isNote_of_mem_ignoredOf h)
  · have hconcern : ∀ m ∈ (ds.filterMap marker?).filter (concerns p), concerns p m = true :=
      fun m hm => (List.mem_filter.mp hm).2
    generalize (ds.filterMap marker?).filter (concerns p) = ms at h hconcern
    split at h
    · cases h
    · split at h
      · cases h
      · simp only at h
        -- a method that cannot be bound is noted instead of its markers
        split at h
        · rw [List.mem_singleton.mp h]
          exact .inl trivial
        · split at h
          · rw [List.mem_singleton.mp h]
            exact .inl trivial
          · obtain ⟨m, hm, hf⟩ := List.mem_flatMap.mp h
            exact record_of_mem_recordOf (hconcern m hm) hf

/-! ### The walk -/

/-- What the walk over some nodes reports, where `sites` are the class
declarations there: the classes that the sites make, and records of these or of
the class whose context was handed down. -/
structure Reports (p : Pipeline) (module : Path) (context : Option Context) (fs : List Finding)
    (sites : List ClassSite) : Prop where
  classes : fs.filterMap (·.class? module)
    = (sites.filter (·.isMarked p)).map (·.declaredIn module)
  records : ∀ f ∈ fs, ∀ q name, f.record? = some (q, name) →
    q = p ∧ (context.map (·.className) = some name ∨
      ∃ c ∈ fs.filterMap (·.class? module), c.name = name)

variable {p : Pipeline} {module : Path} {context : Option Context}

theorem Reports.of_notes {fs : List Finding} (h : ∀ f ∈ fs, f.IsNote) :
    Reports p module context fs [] where
  classes := List.filterMap_eq_nil_iff.mpr fun f hf => (h f hf).class? module
  records f hf q name hrecord := by
    rw [(h f hf).record?] at hrecord
    cases hrecord

theorem Reports.nil : Reports p module context [] [] := .of_notes (by simp)

/-- Findings and classes that stand one after another are reported one after another. -/
theorem Reports.append {fs gs : List Finding} {ss ts : List ClassSite}
    (hf : Reports p module context fs ss) (hg : Reports p module context gs ts) :
    Reports p module context (fs ++ gs) (ss ++ ts) where
  classes := by
    rw [List.filterMap_append, List.filter_append, List.map_append, hf.classes, hg.classes]
  records f hmem q name hrecord := by
    rw [List.filterMap_append]
    rcases List.mem_append.mp hmem with hmem | hmem
    · obtain ⟨hq, hname⟩ := hf.records f hmem q name hrecord
      exact ⟨hq, hname.imp_right fun ⟨c, hc, h⟩ => ⟨c, List.mem_append_left _ hc, h⟩⟩
    · obtain ⟨hq, hname⟩ := hg.records f hmem q name hrecord
      exact ⟨hq, hname.imp_right fun ⟨c, hc, h⟩ => ⟨c, List.mem_append_right _ hc, h⟩⟩

/-- What is reported without a context is reported in any. -/
theorem Reports.within {fs : List Finding} {ss : List ClassSite}
    (h : Reports p module none fs ss) : Reports p module context fs ss where
  classes := h.classes
  records f hf q name hrecord := by
    obtain ⟨hq, hname⟩ := h.records f hf q name hrecord
    exact ⟨hq, .inr (hname.resolve_left (by simp))⟩

/-- A method reports records of its class, and no class. -/
theorem Reports.method (context : Context) (ds cs : List Node) :
    Reports p module (some context) (methodFindings p context ds cs) [] where
  classes := by
    refine List.filterMap_eq_nil_iff.mpr fun f hf => ?_
    rcases record_of_mem_methodFindings hf with hnote | hrecord
    · exact hnote.class? module
    · exact class?_eq_none_of_record hrecord module
  records f hf q name hrecord := by
    rcases record_of_mem_methodFindings hf with hnote | howner
    · rw [hnote.record?] at hrecord
      cases hrecord
    · rw [howner] at hrecord
      cases hrecord
      exact ⟨rfl, .inl rfl⟩

/-- A class accounts for the records of its body that are not accounted for
there: it is reported itself if it has the context that they are read in. -/
theorem Reports.class (s : ClassSite) {fs : List Finding} {ss : List ClassSite}
    (h : Reports p module
      (classFindings p s.name.text (attachedBy s.parent) s.node.children).1 fs ss) :
    Reports p module none
      ((classFindings p s.name.text (attachedBy s.parent) s.node.children).2 ++ fs) (s :: ss) := by
  obtain ⟨hcontext, notes, hnotes, hself⟩ := classFindings_spec p s
  have hnone : notes.filterMap (·.class? module) = [] :=
    List.filterMap_eq_nil_iff.mpr fun f hf => (hnotes f hf).class? module
  have hclasses : ((classFindings p s.name.text (attachedBy s.parent) s.node.children).2
      ++ fs).filterMap (·.class? module)
        = ((s :: ss).filter (·.isMarked p)).map (·.declaredIn module) := by
    rw [List.filterMap_append, hself, List.filterMap_append, hnone, h.classes]
    by_cases hmarked : s.isMarked p <;>
      simp [ClassSite.declaredIn, Finding.class?, hmarked]
  refine ⟨hclasses, fun f hf q name hrecord => ?_⟩
  rcases List.mem_append.mp hf with hf | hf
  · -- the findings of the class itself are no records
    rw [hself] at hf
    rcases List.mem_append.mp hf with hf | hf
    · rw [(hnotes f hf).record?] at hrecord
      cases hrecord
    · split at hf
      · rw [List.mem_singleton.mp hf] at hrecord
        cases hrecord
      · cases hf
  · obtain ⟨hq, hname⟩ := h.records f hf q name hrecord
    refine ⟨hq, .inr ?_⟩
    rcases hname with hname | ⟨c, hc, hname⟩
    · -- a record of the context handed down: the class is marked, and so reported
      rw [hcontext] at hname
      split at hname
      case isTrue hmarked =>
        cases hname
        rw [hclasses]
        exact ⟨s.declaredIn module, by simp [hmarked], rfl⟩
      case isFalse => cases hname
    · exact ⟨c, by rw [List.filterMap_append]; exact List.mem_append_right _ hc, hname⟩

mutual

theorem reports_survey (p : Pipeline) (module : Path) (parent : Option Node) :
    (n : Node) → Reports p module none (survey p (attachedBy parent) n) (classSites parent n)
  | ⟨kind, field, text, line, missing, hasError, children⟩ => by
    rw [survey, classSites]
    split
    · cases children.find? (·.field = some .name) with
      | none => exact .nil
      | some name =>
        exact Reports.class ⟨parent, ⟨kind, field, text, line, missing, hasError, children⟩, name⟩
          (reports_surveyClassBody p module _ children)
    · exact reports_surveyAll p module ⟨kind, field, text, line, missing, hasError, children⟩
        children
termination_by structural n => n

theorem reports_surveyAll (p : Pipeline) (module : Path) (parent : Node) :
    (ns : List Node) →
      Reports p module none (surveyAll p (attachedBy (some parent)) ns) (sitesAmong parent ns)
  | [] => .nil
  | n :: ns => by
    rw [surveyAll, sitesAmong]
    split
    · exact (reports_survey p module (some parent) n).append (reports_surveyAll p module parent ns)
    · exact reports_surveyAll p module parent ns
termination_by structural ns => ns

theorem reports_surveyClassBody (p : Pipeline) (module : Path) (context : Option Context) :
    (ns : List Node) → Reports p module context (surveyClassBody p context ns) (sitesInClass ns)
  | [] => .nil
  | n :: ns => by
    rw [surveyClassBody, sitesInClass]
    split
    · exact reports_surveyBody p module context n
    · exact reports_surveyClassBody p module context ns
termination_by structural ns => ns

theorem reports_surveyBody (p : Pipeline) (module : Path) (context : Option Context) :
    (n : Node) → Reports p module context (surveyBody p context n) (sitesInBody n)
  | ⟨kind, field, text, line, missing, hasError, members⟩ => by
    rw [surveyBody, sitesInBody]
    exact reports_surveyMembers p module context
      ⟨kind, field, text, line, missing, hasError, members⟩ [] members
termination_by structural n => n

theorem reports_surveyMembers (p : Pipeline) (module : Path) (context : Option Context)
    (body : Node) (pending : List Node) :
    (ns : List Node) →
      Reports p module context (surveyMembers p context (attachedBy (some body)) pending ns)
        (sitesOfMembers body ns)
  | [] => .nil
  | n :: ns => by
    rw [surveyMembers, sitesOfMembers]
    by_cases hcontent : n.isContent
    case neg => simpa [hcontent] using reports_surveyMembers p module context body pending ns
    by_cases hdecorator : n.kind = .decorator
    · -- kept for the member that follows
      simpa [hcontent, hdecorator]
        using reports_surveyMembers p module context body (pending ++ [n]) ns
    · have hrest := reports_surveyMembers p module context body [] ns
      by_cases hmethod : n.kind = .methodDefinition
      · simpa [hcontent, hmethod]
          using (reports_surveyMethod p module context pending n hmethod).append hrest
      · simpa [hcontent, hdecorator, hmethod]
          using (reports_survey p module (some body) n).within.append hrest
termination_by structural ns => ns

theorem reports_surveyMethod (p : Pipeline) (module : Path) (context : Option Context)
    (pending : List Node) :
    (n : Node) → n.kind = .methodDefinition →
      Reports p module context (surveyMethod p context pending n) (sitesInMethod n)
  | ⟨kind, field, text, line, missing, hasError, children⟩, hkind => by
    rw [sitesInMethod]
    have hbody : Reports p module context (surveyMethodBody p children)
        (sitesInMethodBody ⟨kind, field, text, line, missing, hasError, children⟩ children) :=
      (reports_surveyMethodBody p module _ hkind children).within
    cases context with
    | none =>
      rw [surveyMethod]
      exact hbody
    | some context =>
      rw [surveyMethod]
      exact (Reports.method context (pending ++ decoratorsOf children) children).append hbody
termination_by structural n => n

theorem reports_surveyMethodBody (p : Pipeline) (module : Path) (method : Node)
    (hkind : method.kind = .methodDefinition) :
    (ns : List Node) →
      Reports p module none (surveyMethodBody p ns) (sitesInMethodBody method ns)
  | [] => .nil
  | n :: ns => by
    rw [surveyMethodBody, sitesInMethodBody]
    split
    · -- the body is walked with nothing attached, as a method hands nothing down
      rw [← attachedBy_method hkind]
      exact reports_survey p module (some method) n
    · exact reports_surveyMethodBody p module method hkind ns
termination_by structural ns => ns

end

/-! ### The facts of a file -/

/-- What is said of a syntax error is a note. -/
theorem isNote_of_mem_syntaxFindings {root : Node} {f : Finding} (h : f ∈ syntaxFindings root) :
    f.IsNote := by
  unfold syntaxFindings at h
  split at h
  · rw [List.mem_singleton.mp h]
    trivial
  · cases h

theorem reports_findings (p : Pipeline) (module : Path) (root : Node) :
    Reports p module none (findings p root) (classSites none root) :=
  (Reports.of_notes fun _ => isNote_of_mem_syntaxFindings).append
    (reports_survey p module none root)

/-- The classes of a file are the marked ones, in the order of the tree. -/
theorem classes_extract (p : Pipeline) (module : Path) (root : Node) :
    (extract p module root).classes
      = ((classSites none root).filter (·.isMarked p)).map (·.declaredIn module) :=
  (reports_findings p module root).classes

/-- A route of a file is on a line of it, and its controller is a class of it. -/
theorem route_of_mem_extract {root : Node} {r : Route} (h : r ∈ (extract p module root).routes) :
    p = .http ∧ r.location.file = module ∧
      ∃ c ∈ (extract p module root).classes, c.name = r.controller := by
  obtain ⟨f, hf, hr⟩ := List.mem_filterMap.mp h
  cases f with
  | route verb pattern handler controller line =>
    cases hr
    obtain ⟨hp, hname⟩ := (reports_findings p module root).records _ hf _ _ rfl
    exact ⟨hp.symm, rfl, hname.resolve_left (by simp)⟩
  | _ => cases hr

/-- A task of a file is on a line of it, and its consumer is a class of it. -/
theorem task_of_mem_extract {root : Node} {t : Task} (h : t ∈ (extract p module root).tasks) :
    p = .queue ∧ t.location.file = module ∧
      ∃ c ∈ (extract p module root).classes, c.name = t.consumer := by
  obtain ⟨f, hf, ht⟩ := List.mem_filterMap.mp h
  cases f with
  | task queue method consumer isBatch line =>
    cases ht
    obtain ⟨hp, hname⟩ := (reports_findings p module root).records _ hf _ _ rfl
    exact ⟨hp.symm, rfl, hname.resolve_left (by simp)⟩
  | _ => cases ht

/-- Whatever an extraction complains about, it is no error. -/
theorem isError_of_mem_extract {root : Node} {i : Issue} (h : i ∈ (extract p module root).issues) :
    i.isError = false := by
  obtain ⟨f, _, hi⟩ := List.mem_filterMap.mp h
  cases f with
  | warning w =>
    cases hi
    rfl
  | _ => cases hi

end DispatchGen.Extract

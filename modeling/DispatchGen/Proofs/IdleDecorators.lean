/-
DispatchGen/Proofs/IdleDecorators.lean

What a pipeline finds does not depend on decorators that mean nothing to it.

The walk over a thinned tree stops where the walk over the tree does.  At a class it reads the
markers that make it one of the pipeline's, and at a method those that make records; idle
decorators are among neither, wherever they stand: before `export`, on the class, between the
members of its body, or in the method itself (`sameMarkers_of_thinned`, `surveyMembers_of_thinned`).
It may ignore fewer unknown decorators on its way, which no table sees (`reported`).

`survey_of_thinned` proves it by the mutual induction of the walk, one theorem for each of its
functions.

Main statement: `extract_of_thinned`.
-/
import DispatchGen.Grammar.File
import DispatchGen.Proofs.ThinnedTree

namespace DispatchGen.Extract

open Syntax Literal

/-! ### The findings that count -/

/-- Whether a table sees a finding. -/
def Finding.isReported : Finding → Bool
  | ignored _ => false
  | _ => true

/-- The findings that a table sees. -/
def reported (fs : List Finding) : List Finding := fs.filter Finding.isReported

theorem reported_append (fs gs : List Finding) :
    reported (fs ++ gs) = reported fs ++ reported gs :=
  List.filter_append ..

/-- A decorator that is ignored is not reported. -/
theorem reported_ignoredOf (ds : List Node) : reported (ignoredOf ds) = [] := by
  refine List.filter_eq_nil_iff.mpr fun f hf => ?_
  obtain ⟨_, _, rfl⟩ := List.mem_map.mp hf
  exact Bool.false_ne_true

/-- What is selected from findings is selected from the reported ones, if it leaves ignored
decorators out. -/
theorem filterMap_reported {α : Type} {f : Finding → Option α}
    (hf : ∀ decorator, f (.ignored decorator) = none) (fs : List Finding) :
    (reported fs).filterMap f = fs.filterMap f := by
  rw [reported, List.filterMap_filter]
  refine List.filterMap_congr fun finding _ => ?_
  cases finding with
  | ignored decorator => simp [Finding.isReported, hf]
  | _ => rfl

/-- The facts of a file are those of its reported findings. -/
theorem ofFindings_reported (module : Path) (fs : List Finding) :
    Facts.ofFindings module (reported fs) = Facts.ofFindings module fs := by
  unfold Facts.ofFindings
  congr 1 <;> exact filterMap_reported (fun _ => rfl) fs

/-! ### Markers in use -/

variable {p : Pipeline} {parent n n' : Node} {ns ns' ds ds' es es' : List Node}
  {used : Marker → Bool}

/-- Whether the markers in use among some decorators are the same. -/
def SameMarkers (p : Pipeline) (used : Marker → Bool) (ds ds' : List Node) : Prop :=
  List.Forall₂ (SameMarker p) ((ds.filterMap marker?).filter used)
    ((ds'.filterMap marker?).filter used)

namespace SameMarkers

theorem nil : SameMarkers p used [] [] := List.Forall₂.nil

theorem append (h : SameMarkers p used ds ds') (h' : SameMarkers p used es es') :
    SameMarkers p used (ds ++ es) (ds' ++ es') := by
  unfold SameMarkers
  rw [List.filterMap_append, List.filterMap_append, List.filter_append, List.filter_append]
  exact List.rel_append h h'

/-- A decorator that stays is the marker it was. -/
theorem of_thinned (hused : ∀ m m', SameMarker p m m' → used m' = used m) (h : Thinned p n n')
    (hkind : n.kind = .decorator) : SameMarkers p used [n] [n'] := by
  unfold SameMarkers
  rcases rel_iff.mp (marker?_of_thinned h hkind) with
    ⟨hnone, hnone'⟩ | ⟨m, m', hm, hm', hsame⟩
  · rw [List.filterMap_cons_none hnone, List.filterMap_cons_none hnone']
    exact .nil
  · rw [List.filterMap_cons_some hm, List.filterMap_cons_some hm', List.filterMap_nil,
      List.filter_singleton, List.filter_singleton, hused m m' hsame]
    cases used m with
    | true => exact .cons hsame .nil
    | false => exact .nil

/-- A decorator whose marker is not in use can be left out. -/
theorem of_unused (h : (marker? n).any used = false) : SameMarkers p used [n] [] := by
  unfold SameMarkers
  cases hm : marker? n with
  | none =>
    rw [List.filterMap_cons_none hm]
    exact .nil
  | some m =>
    rw [hm] at h
    rw [List.filterMap_cons_some hm, List.filterMap_nil, List.filter_singleton,
      show used m = false from h]
    exact .nil

end SameMarkers

theorem decoratorsOf_cons (n : Node) (ns : List Node) :
    decoratorsOf (n :: ns) = (if n.isContent ∧ n.kind = .decorator then [n] else []) ++
      decoratorsOf ns := by
  unfold decoratorsOf
  by_cases hcontent : n.isContent = true <;> by_cases hkind : n.kind = .decorator <;>
    simp [hcontent, hkind]

/-- The decorators of a node, where none that is idle has a marker in use. -/
theorem sameMarkers_of_thinned (hused : ∀ m m', SameMarker p m m' → used m' = used m)
    (hidle : ∀ n after, Idle p parent n after → (marker? n).any used = false)
    (h : ThinnedAll p parent ns ns') : SameMarkers p used (decoratorsOf ns) (decoratorsOf ns') := by
  induction ns generalizing ns' with
  | nil =>
    cases h
    exact .nil
  | cons n ns ih =>
    rw [decoratorsOf_cons]
    cases h with
    | keep hn hns =>
      rw [decoratorsOf_cons, hn.isContent, hn.head.kind]
      refine SameMarkers.append ?_ (ih hns)
      split
      case isTrue hdecorator => exact .of_thinned hused hn hdecorator.2
      case isFalse => exact .nil
    | drop hn hns =>
      rw [if_pos ⟨hn.isContent, hn.decorator⟩]
      exact (SameMarkers.of_unused (hidle _ _ hn)).append (ih hns)

theorem marksClass_of_sameMarker {m m' : Marker} (h : SameMarker p m m') :
    marksClass p m' = marksClass p m := by
  unfold marksClass
  rw [h.kind]

theorem concerns_of_sameMarker {m m' : Marker} (h : SameMarker p m m') :
    concerns p m' = concerns p m := by
  unfold concerns
  rw [h.kind]

/-! ### One class -/

section Class

variable {ms ms' : List Marker}

/-- The first marker of a kind that marks classes is the first among those that do. -/
theorem find?_marksClass {k : MarkerKind} (hk : ∀ m : Marker, m.kind = k → marksClass p m)
    (ms : List Marker) :
    (ms.filter (marksClass p)).find? (·.kind = k) = ms.find? (·.kind = k) := by
  rw [List.find?_filter]
  refine congrArg (List.find? · ms) (funext fun m => ?_)
  by_cases h : m.kind = k <;> simp [h, hk m]

/-- The first marker of a kind is the same. -/
theorem find?_of_sameMarkers (h : List.Forall₂ (SameMarker p) ms ms') (kind : MarkerKind) :
    Option.Rel (SameMarker p) (ms.find? (·.kind = kind)) (ms'.find? (·.kind = kind)) := by
  induction h with
  | nil => exact .none
  | @cons m m' ms ms' hm _ ih =>
    rw [List.find?_cons, List.find?_cons, hm.kind]
    split
    · exact .some hm
    · exact ih

/-- No idle decorator stands in an argument, so a path folds the same. -/
theorem foldPath_of_thinned (site : String) (h : Thinned p n n') :
    foldPath site n' = foldPath site n := by
  rw [foldPath, foldPath, fold_of_thinned n h]

/-- The base path of a class depends on its markers only. -/
theorem basePathOf_of_sameMarkers (name : String) (h : List.Forall₂ (SameMarker p) ms ms') :
    basePathOf name ms' = basePathOf name ms := by
  unfold basePathOf
  rcases rel_iff.mp (find?_of_sameMarkers h .basePath) with
    ⟨hnone, hnone'⟩ | ⟨m, m', hm, hm', hsame⟩
  · rw [hnone, hnone']
  · simp only [hm, hm', hsame.name, hsame.line]
    rcases hsame.args_cases with ⟨hargs, hargs'⟩ | ⟨a, a', _, _, hargs, hargs', ha⟩
    · rw [hargs, hargs']
    · rw [hargs, hargs']
      exact foldPath_of_thinned name ha

/-- The context of a class rests on markers in use alone. -/
theorem contextOf_filter (p : Pipeline) (name : String) (ms : List Marker) :
    contextOf p name (ms.filter (marksClass p)) = contextOf p name ms := by
  cases p with
  | http =>
    have hcontroller := find?_marksClass (p := .http) (k := .controller)
      (fun m hm => by simp [marksClass, hm]) ms
    have hbase := find?_marksClass (p := .http) (k := .basePath)
      (fun m hm => by simp [marksClass, hm]) ms
    simp only [contextOf, basePathOf, hcontroller, hbase]
  | queue =>
    have hconsumer := find?_marksClass (p := .queue) (k := .consumer)
      (fun m hm => by simp [marksClass, hm]) ms
    simp only [contextOf, hconsumer]

theorem contextOf_of_forall₂ (name : String) (h : List.Forall₂ (SameMarker p) ms ms') :
    contextOf p name ms' = contextOf p name ms := by
  cases p with
  | http =>
    simp only [contextOf, basePathOf_of_sameMarkers name h]
    rcases rel_iff.mp (find?_of_sameMarkers h .controller) with
      ⟨hnone, hnone'⟩ | ⟨m, m', hm, hm', hsame⟩
    · rw [hnone, hnone']
    · simp only [hm, hm', hsame.name, hsame.line]
      rcases hsame.args_cases with ⟨hargs, hargs'⟩ | ⟨a, a', _, _, hargs, hargs', ha⟩
      · rw [hargs, hargs']
      · simp only [hargs, hargs', foldPath_of_thinned name ha]
  | queue =>
    simp only [contextOf]
    rcases rel_iff.mp (find?_of_sameMarkers h .consumer) with
      ⟨hnone, hnone'⟩ | ⟨m, m', hm, hm', hsame⟩
    · rw [hnone, hnone']
    · simp only [hm, hm', hsame.name, hsame.line]
      rcases hsame.args_cases with ⟨hargs, hargs'⟩ | ⟨_, _, _, _, hargs, hargs', -⟩
      · rw [hargs, hargs']
      · rw [hargs, hargs']
        rfl

/-- A class has the context that its markers in use give it. -/
theorem contextOf_of_sameMarkers (name : String) (h : SameMarkers p (marksClass p) ds ds') :
    contextOf p name (ds'.filterMap marker?) = contextOf p name (ds.filterMap marker?) := by
  rw [← contextOf_filter, contextOf_of_forall₂ name h, contextOf_filter]

/-- What is handed to a class is the same, as far as the class makes use of it. -/
structure SameAttached (p : Pipeline) (attached attached' : Attached) : Prop where
  decorators : SameMarkers p (marksClass p) attached.decorators attached'.decorators
  isDefault : attached'.isDefault = attached.isDefault

/-- A class without its idle decorators has the same context and reports the same. -/
theorem classFindings_of_thinned {attached attached' : Attached} (name : String)
    (hattached : SameAttached p attached attached') (h : ThinnedAll p parent ns ns')
    (hclass : declaresClass parent.kind = true) :
    (classFindings p name attached' ns').1 = (classFindings p name attached ns).1 ∧
      reported (classFindings p name attached' ns').2
        = reported (classFindings p name attached ns).2 := by
  have hdecorators : SameMarkers p (marksClass p) (decoratorsOf ns) (decoratorsOf ns') :=
    sameMarkers_of_thinned (fun _ _ => marksClass_of_sameMarker)
      (fun _ _ hidle => hidle.onClass (by rw [decoratesClass, hclass]; rfl)) h
  have hcontext := contextOf_of_sameMarkers name (hattached.decorators.append hdecorators)
  simp only [classFindings, hcontext, hattached.isDefault, reported_append, reported_ignoredOf,
    and_self]

end Class

/-! ### One method -/

section Method

variable {context : Context} {method : String} {line : Nat} {m m' : Marker} {ms ms' : List Marker}

theorem routeOf_of_sameMarker (h : SameMarker p m m') (verb : Verb) :
    routeOf context method line m' verb = routeOf context method line m verb := by
  unfold routeOf
  rw [h.name]
  rcases h.args_cases with ⟨hargs, hargs'⟩ | ⟨a, a', _, _, hargs, hargs', ha⟩
  · rw [hargs, hargs']
  · simp only [hargs, hargs', foldPath_of_thinned _ ha]

theorem taskOf_of_sameMarker (h : SameMarker p m m') :
    taskOf context method line m' = taskOf context method line m := by
  unfold taskOf
  rw [h.name]
  rcases h.args_cases with ⟨hargs, hargs'⟩ | ⟨a, a', _, _, hargs, hargs', ha⟩
  · rw [hargs, hargs']
  simp only [hargs, hargs', List.head?_cons, Option.filter_some, ha.head.kind]
  by_cases hobject : a.kind = .object
  case neg => simp only [hobject, decide_false, Bool.false_eq_true, if_false]
  simp only [hobject, decide_true, if_true]
  rcases rel_iff.mp (property?_of_thinned ha "channel") with
    ⟨hnone, hnone'⟩ | ⟨channel, channel', hchannel, hchannel', hthinned⟩
  · rw [hnone, hnone']
  · simp only [hchannel, hchannel', fold_of_thinned channel hthinned]
    rcases rel_iff.mp (property?_of_thinned ha "batch") with
      ⟨hnone, hnone'⟩ | ⟨value, value', hvalue, hvalue', hsame⟩
    · rw [hnone, hnone']
    · have hboolean : boolean? value' = boolean? value := by
        rw [boolean?, boolean?, hsame.head.kind]
      simp only [hvalue, hvalue', hboolean, hsame.head.text]

/-- The record of a method depends on its marker only. -/
theorem recordOf_of_sameMarker (h : SameMarker p m m') :
    recordOf context method line m' = recordOf context method line m := by
  rw [recordOf, recordOf, h.kind]
  split
  · exact routeOf_of_sameMarker h _
  · exact taskOf_of_sameMarker h
  · rfl

/-- A decorator does not make a method unbindable. -/
theorem modifierOf?_of_thinned (h : ThinnedAll p parent ns ns') :
    modifierOf? ns' = modifierOf? ns := by
  unfold modifierOf?
  induction ns generalizing ns' with
  | nil =>
    cases h
    rfl
  | cons n ns ih =>
    cases h with
    | keep hn hns => rw [List.findSome?_cons, List.findSome?_cons, hn.head.kind, ih hns]
    | drop hn hns =>
      rw [List.findSome?_cons, hn.decorator]
      exact ih hns

/-- A method without its idle decorators reports the same. -/
theorem methodFindings_of_thinned (hds : SameMarkers p (concerns p) ds ds')
    (h : ThinnedAll p parent ns ns') :
    reported (methodFindings p context ds' ns') = reported (methodFindings p context ds ns) := by
  rw [methodFindings, methodFindings, reported_append, reported_append, reported_ignoredOf,
    reported_ignoredOf]
  refine congrArg reported ?_
  unfold SameMarkers at hds
  revert hds
  generalize (ds.filterMap marker?).filter (concerns p) = ms
  generalize (ds'.filterMap marker?).filter (concerns p) = ms'
  intro hms
  have hrecords : ∀ method line, ms'.flatMap (recordOf context method line)
      = ms.flatMap (recordOf context method line) := by
    intro method line
    induction hms with
    | nil => rfl
    | cons hm _ ih => rw [List.flatMap_cons, List.flatMap_cons, recordOf_of_sameMarker hm, ih]
  cases hms with
  | nil => rfl
  | cons hm hms =>
    dsimp only
    rcases rel_iff.mp (h.inRole .name) with ⟨hnone, hnone'⟩ | ⟨name, name', hname, hname', hsame⟩
    · rw [hnone, hnone']
    · simp only [hname, hname', hsame.head.text, hsame.head.kind, hsame.head.line,
        modifierOf?_of_thinned h, hrecords]

end Method

/-! ### The walk -/

mutual

/-- There is nothing to find where no class is declared. -/
theorem survey_of_harmless (p : Pipeline) (attached : Attached) :
    (n : Node) → n.everywhere isHarmless = true → survey p attached n = []
  | ⟨kind, field, text, line, missing, hasError, children⟩, h => by
    obtain ⟨hn, hchildren⟩ := Node.everywhere_iff.mp h
    have hclass : declaresClass kind = false := by
      simp only [isHarmless, Bool.and_eq_true, Bool.not_eq_true'] at hn
      exact hn.1.1
    rw [survey, hclass]
    exact surveyAll_of_harmless p _ children hchildren
termination_by structural n => n

/-- Nothing is found in nodes that hold no class and no error. -/
theorem surveyAll_of_harmless (p : Pipeline) (attached : Attached) :
    (ns : List Node) → Node.everywhereIn isHarmless ns = true → surveyAll p attached ns = []
  | [], _ => rfl
  | n :: ns, h => by
    rw [Node.everywhereIn, Bool.and_eq_true] at h
    rw [surveyAll, survey_of_harmless p attached n h.1, surveyAll_of_harmless p attached ns h.2]
    exact ite_self []
termination_by structural ns => ns

end

/-- Whether there is a class declaration among nodes. -/
def HasClass (ns : List Node) : Prop := ∃ n ∈ ns, n.isContent = true ∧ declaresClass n.kind = true

/-- A class is handed the same by the node that it is a child of. -/
theorem sameAttached_of_thinned (h : Thinned p n n') (hclass : HasClass n.children) :
    SameAttached p (attachedOf n.kind n.children) (attachedOf n'.kind n'.children) := by
  rw [h.head.kind, attachedOf, attachedOf]
  split
  case isFalse => exact ⟨.nil, rfl⟩
  case isTrue hexport =>
    have hdecorates : decoratesClass n = true := by
      obtain ⟨c, hc, hcontent, hdeclares⟩ := hclass
      simp only [decoratesClass, hexport, Bool.or_eq_true, Bool.and_eq_true, List.any_eq_true]
      exact .inr ⟨rfl, c, hc, hcontent, hdeclares⟩
    constructor
    · exact sameMarkers_of_thinned (fun _ _ => marksClass_of_sameMarker)
        (fun _ _ hidle => hidle.onClass hdecorates) h.children
    · exact h.children.any (fun _ _ hn => by rw [hn.head.kind]) fun _ _ hidle => by
        rw [hidle.decorator]
        rfl

mutual

theorem survey_of_thinned {attached attached' : Attached} :
    (n : Node) → {n' : Node} → Thinned p n n' →
      (declaresClass n.kind = true → SameAttached p attached attached') →
        reported (survey p attached' n') = reported (survey p attached n)
  | ⟨kind, field, text, line, missing, hasError, children⟩, _, .node h, hattached => by
    rw [survey, survey]
    split
    case isTrue hclass =>
      rcases rel_iff.mp (h.inRole .name) with
        ⟨hnone, hnone'⟩ | ⟨name, name', hname, hname', hsame⟩
      · rw [hnone, hnone']
      · obtain ⟨hcontext, hfindings⟩ :=
          classFindings_of_thinned name.text (hattached hclass) h hclass
        simp only [hname, hname', hsame.head.text, reported_append, hcontext, hfindings,
          surveyClassBody_of_thinned children h]
    case isFalse =>
      exact surveyAll_of_thinned children h (sameAttached_of_thinned (.node h))
termination_by structural n => n

theorem surveyAll_of_thinned {parent : Node} {attached attached' : Attached} :
    (ns : List Node) → {ns' : List Node} → ThinnedAll p parent ns ns' →
      (HasClass ns → SameAttached p attached attached') →
        reported (surveyAll p attached' ns') = reported (surveyAll p attached ns)
  | [], _, .nil, _ => rfl
  | n :: ns, _, .keep hn hns, hattached => by
    have hrest := surveyAll_of_thinned ns hns fun ⟨m, hm, hclass⟩ =>
      hattached ⟨m, List.mem_cons_of_mem n hm, hclass⟩
    rw [surveyAll, surveyAll, hn.isContent]
    split
    case isTrue hcontent =>
      rw [reported_append, reported_append, hrest, survey_of_thinned n hn fun hclass =>
        hattached ⟨n, List.mem_cons_self, hcontent, hclass⟩]
    case isFalse => exact hrest
  | n :: ns, _, .drop hidle hns, hattached => by
    have hrest := surveyAll_of_thinned ns hns fun ⟨m, hm, hclass⟩ =>
      hattached ⟨m, List.mem_cons_of_mem n hm, hclass⟩
    rw [surveyAll, if_pos hidle.isContent, survey_of_harmless p attached n hidle.harmless]
    exact hrest
termination_by structural ns => ns

theorem surveyClassBody_of_thinned {parent : Node} {context : Option Context} :
    (ns : List Node) → {ns' : List Node} → ThinnedAll p parent ns ns' →
      reported (surveyClassBody p context ns') = reported (surveyClassBody p context ns)
  | [], _, .nil => rfl
  | n :: ns, _, .keep hn hns => by
    rw [surveyClassBody, surveyClassBody, hn.head.field]
    split
    case isTrue hbody => exact surveyBody_of_thinned n hn hbody
    case isFalse => exact surveyClassBody_of_thinned ns hns
  | n :: ns, _, .drop hidle hns => by
    rw [surveyClassBody, hidle.roleless, if_neg nofun]
    exact surveyClassBody_of_thinned ns hns
termination_by structural ns => ns

theorem surveyBody_of_thinned {context : Option Context} :
    (n : Node) → {n' : Node} → Thinned p n n' → n.field = some .body →
      reported (surveyBody p context n') = reported (surveyBody p context n)
  | ⟨kind, field, text, line, missing, hasError, members⟩, _, .node h, hbody => by
    rw [surveyBody, surveyBody]
    exact surveyMembers_of_thinned members h hbody (sameAttached_of_thinned (.node h))
      fun _ => .nil
termination_by structural n => n

/-- The decorators that wait for a method are the same as far as the method makes use of them. -/
theorem surveyMembers_of_thinned {body : Node} {context : Option Context}
    {attached attached' : Attached} :
    (ns : List Node) → {ns' : List Node} → {pending pending' : List Node} →
      ThinnedAll p body ns ns' → body.field = some .body →
      (HasClass ns → SameAttached p attached attached') →
      (methodNext ns = true → SameMarkers p (concerns p) pending pending') →
        reported (surveyMembers p context attached' pending' ns')
          = reported (surveyMembers p context attached pending ns)
  | [], _, _, _, .nil, _, _, _ => rfl
  | n :: ns, _, pending, pending', .keep hn hns, hbody, hattached, hpending => by
    have hrest : HasClass ns → SameAttached p attached attached' := fun ⟨m, hm, hclass⟩ =>
      hattached ⟨m, List.mem_cons_of_mem n hm, hclass⟩
    rw [surveyMembers, surveyMembers, hn.isContent, hn.head.kind]
    by_cases hcontent : n.isContent = true
    case neg =>
      have hnext : methodNext (n :: ns) = methodNext ns := by simp [methodNext, hcontent]
      simpa only [hcontent, Bool.not_false, if_true] using
        surveyMembers_of_thinned ns hns hbody hrest (hnext ▸ hpending)
    by_cases hdecorator : n.kind = .decorator
    · have hnext : methodNext (n :: ns) = methodNext ns := by simp [methodNext, hdecorator]
      have hone : SameMarkers p (concerns p) [n] _ :=
        .of_thinned (fun _ _ => concerns_of_sameMarker) hn hdecorator
      simpa [hcontent, hdecorator] using
        surveyMembers_of_thinned ns hns hbody hrest fun h => (hpending (hnext ▸ h)).append hone
    · -- any other member uses up the decorators before it, or drops them
      have hmembers := @surveyMembers_of_thinned body context attached attached' ns _ [] [] hns
        hbody hrest fun _ => .nil
      by_cases hmethod : n.kind = .methodDefinition
      · have hnext : methodNext (n :: ns) = true := by
          simp [methodNext, hcontent, hmethod]
        simp [hcontent, hmethod, reported_append, hmembers,
          surveyMethod_of_thinned n hn hmethod (hpending hnext)]
      · have hsurvey := survey_of_thinned n hn fun hclass =>
          hattached ⟨n, List.mem_cons_self, hcontent, hclass⟩
        simp [hcontent, hdecorator, hmethod, reported_append, hmembers, hsurvey]
  | n :: ns, _, pending, pending', .drop hidle hns, hbody, hattached, hpending => by
    have hnext : methodNext (n :: ns) = methodNext ns := by
      simp [methodNext, hidle.decorator]
    rw [surveyMembers, hidle.isContent, hidle.decorator]
    refine surveyMembers_of_thinned ns hns hbody (fun ⟨m, hm, hclass⟩ =>
      hattached ⟨m, List.mem_cons_of_mem n hm, hclass⟩) fun h => ?_
    -- a decorator that waits for a method is idle only if the method makes no use of it
    have hunused := hidle.onMethod (by simp [decoratesMethod, hbody, h])
    rw [← List.append_nil pending']
    exact (hpending (hnext ▸ h)).append (.of_unused hunused)
termination_by structural ns => ns

theorem surveyMethod_of_thinned {context : Option Context} {pending pending' : List Node} :
    (n : Node) → {n' : Node} → Thinned p n n' → n.kind = .methodDefinition →
      SameMarkers p (concerns p) pending pending' →
        reported (surveyMethod p context pending' n') = reported (surveyMethod p context pending n)
  | ⟨kind, field, text, line, missing, hasError, children⟩, _, .node h, hmethod, hpending => by
    have hdecorators : SameMarkers p (concerns p) (decoratorsOf children) _ :=
      sameMarkers_of_thinned (fun _ _ => concerns_of_sameMarker)
        (fun _ _ hidle => hidle.onMethod (by simp [decoratesMethod, show kind = _ from hmethod])) h
    cases context with
    | none =>
      rw [surveyMethod, surveyMethod]
      exact surveyMethodBody_of_thinned children h
    | some context =>
      rw [surveyMethod, surveyMethod, reported_append, reported_append,
        methodFindings_of_thinned (hpending.append hdecorators) h,
        surveyMethodBody_of_thinned children h]
termination_by structural n => n

theorem surveyMethodBody_of_thinned {parent : Node} :
    (ns : List Node) → {ns' : List Node} → ThinnedAll p parent ns ns' →
      reported (surveyMethodBody p ns') = reported (surveyMethodBody p ns)
  | [], _, .nil => rfl
  | n :: ns, _, .keep hn hns => by
    rw [surveyMethodBody, surveyMethodBody, hn.head.field]
    split
    · exact survey_of_thinned n hn fun _ => ⟨.nil, rfl⟩
    · exact surveyMethodBody_of_thinned ns hns
  | n :: ns, _, .drop hidle hns => by
    rw [surveyMethodBody, hidle.roleless, if_neg nofun]
    exact surveyMethodBody_of_thinned ns hns
termination_by structural ns => ns

end

/-! ### Main statement -/

/-- A file without its idle decorators reports the same. -/
theorem findings_of_thinned (h : Thinned p n n') :
    reported (findings p n') = reported (findings p n) := by
  have hsyntax : syntaxFindings n' = syntaxFindings n := by
    rw [syntaxFindings, syntaxFindings, firstErrorLine?_of_thinned n h]
    cases h
    rfl
  rw [findings, findings, reported_append, reported_append, hsyntax,
    survey_of_thinned n h fun _ => ⟨.nil, rfl⟩]

/-- **The pipelines do not interfere.**  A file has the same classes, routes, tasks and issues
without any decorators that mean nothing to the pipeline: those that are no markers which the
pipeline uses where they stand, and in which neither a class is declared nor a syntax error
occurs.  No routes come of a file for the queues, and no tasks for the router. -/
theorem extract_of_thinned (module : Path) :
    (∀ p root root', Thinned p root root' → extract p module root' = extract p module root) ∧
    ∀ root, (extract .http module root).tasks = [] ∧ (extract .queue module root).routes = [] := by
  refine ⟨fun p root root' h => ?thinned, fun root => ⟨?tasks, ?routes⟩⟩
  case thinned =>
    rw [extract, extract, ← ofFindings_reported, findings_of_thinned h, ofFindings_reported]
  case tasks =>
    refine List.eq_nil_iff_forall_not_mem.mpr fun t ht => ?_
    cases (task_of_mem_extract ht).1
  case routes =>
    refine List.eq_nil_iff_forall_not_mem.mpr fun r hr => ?_
    cases (route_of_mem_extract hr).1

/-- A class and a method with markers of both pipelines, and with decorators of neither. -/
def decorated : Node :=
  Grammar.read .typeScript
    "@Injectable() @Controller('a') class A \x7b @Log @Get('/b') @Consumer(\x7b\x7d) c() \x7b\x7d \x7d"

/-- Without the decorators that are not the router's own, the route is the same. -/
theorem extract_of_thinned_decorated :
    ∃ root', Thinned .http decorated root' ∧
      (∃ inUse : Marker → Bool, inUse = (fun m => marksClass .http m || concerns .http m) ∧
        decorated.everywhere (fun n => n.kind != .decorator || (marker? n).any inUse) = false ∧
        root'.everywhere (fun n => n.kind != .decorator || (marker? n).any inUse) = true) ∧
      extract .http ⟨"a.ts"⟩ root' = extract .http ⟨"a.ts"⟩ decorated ∧
      (extract .http ⟨"a.ts"⟩ root').routes
        = [⟨.get, "/a/b", "c", "A", ⟨⟨"a.ts"⟩, 1⟩⟩] := by
  have hthinned := thinned_thin .http decorated
  have hsame := (extract_of_thinned ⟨"a.ts"⟩).1 .http _ _ hthinned
  refine ⟨_, hthinned, ⟨_, rfl, by decide +kernel, by decide +kernel⟩, hsame, ?_⟩
  rw [hsame]
  decide +kernel

end DispatchGen.Extract

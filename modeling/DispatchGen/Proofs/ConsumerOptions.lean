/-
DispatchGen/Proofs/ConsumerOptions.lean

A consumer is found the same whatever else is in its options.

`Retouched .outside root root'` says that `root'` is `root` with edits of the options of any
number of consumer markers on methods, as `EditedOptions` has them.  The source texts of all nodes
around an edited object may differ; a node that is read for its text, such as the name of a class or
of a method, is not around one.  Which nodes may differ depends on where the walk stands, so the
relation has a `Position`.

A class of the queues reads of a marker whether it has arguments (`outline`), and a method
what comes of it (`SameOutcome`).  Neither notices an edit, and so the walk finds the same
(`survey_of_retouched`), by the mutual induction of its functions.  An edit may also move what
follows it to other lines: up to lines the same is found again (`survey_relabel`).

Main statement: `consumer_options_independent`.
-/
import DispatchGen.Proofs.ClassIsolation
import DispatchGen.Proofs.IdleDecorators
import DispatchGen.Proofs.ObjectEdits
import DispatchGen.Proofs.Relabelling

namespace DispatchGen.Extract

open Syntax Literal

/-! ### Edited decorators -/

/-- What a node has in common with one in which only texts and error marks differ. -/
structure SameFrame (n n' : Node) : Prop where
  kind : n'.kind = n.kind
  field : n'.field = n.field
  line : n'.line = n.line

/-- The second decorator is the first consumer marker with an edited object among its arguments. -/
structure EditedDecorator (d d' : Node) : Prop where
  frame : SameFrame d d'
  kind : d.kind = .decorator
  call : ∃ before options options' after,
    decoratorCall? d = some ("Consumer", before ++ options :: after) ∧
    decoratorCall? d' = some ("Consumer", before ++ options' :: after) ∧
    EditedOptions options options'

/-- The name of a decorator, and whether it has no arguments. -/
def callOutline? (d : Node) : Option (String × Bool) :=
  (decoratorCall? d).map fun c => (c.1, c.2.isEmpty)

/-- The same decorator as far as a class of the queues reads it. -/
structure ReadAlike (d d' : Node) : Prop where
  line : d'.line = d.line
  call : callOutline? d' = callOutline? d

/-- Where the walk stands. -/
inductive Position where
  | outside
  /-- At a child of a class. -/
  | inClass
  /-- At a member of a class. -/
  | member
  /-- At a child of a method. -/
  | inMethod

/-- The second node is the first with edited options of consumer markers on methods. -/
inductive Retouched : Position → Node → Node → Prop
  | same {position : Position} {n : Node} : Retouched position n n
  /-- A decorator may have a class in its arguments, and is read by the class it is exported
  with. -/
  | around {n n' : Node} : SameFrame n n' → declaresClass n.kind = false →
      (n.kind = .decorator → callOutline? n' = callOutline? n) →
      List.Forall₂ (Retouched .outside) n.children n'.children → Retouched .outside n n'
  | ofClass {n n' : Node} : SameFrame n n' → declaresClass n.kind = true →
      List.Forall₂ (Retouched .inClass) n.children n'.children → Retouched .outside n n'
  | body {n n' : Node} : SameFrame n n' → n.field = some .body → n.kind ≠ .decorator →
      List.Forall₂ (Retouched .member) n.children n'.children → Retouched .inClass n n'
  /-- A decorator that precedes its method. -/
  | decorator {d d' : Node} : EditedDecorator d d' → Retouched .member d d'
  | method {n n' : Node} : SameFrame n n' → n.kind = .methodDefinition →
      List.Forall₂ (Retouched .inMethod) n.children n'.children → Retouched .member n n'
  | member {n n' : Node} : n.kind ≠ .decorator → n.kind ≠ .methodDefinition →
      Retouched .outside n n' → Retouched .member n n'
  /-- A decorator that the method itself has. -/
  | ownDecorator {d d' : Node} : EditedDecorator d d' → d.field = none → Retouched .inMethod d d'
  | methodBody {n n' : Node} : n.field = some .body → n.kind ≠ .decorator →
      Retouched .outside n n' → Retouched .inMethod n n'

variable {position : Position} {n n' d d' : Node} {ns ns' ds ds' : List Node}

theorem SameFrame.refl (n : Node) : SameFrame n n := ⟨rfl, rfl, rfl⟩

theorem SameFrame.isContent (h : SameFrame n n') : n'.isContent = n.isContent := by
  rw [Node.isContent, Node.isContent, h.kind]

/-- Outside of classes a node keeps its frame. -/
theorem Retouched.frame_outside (h : Retouched .outside n n') : SameFrame n n' := by
  cases h with
  | same => exact .refl n
  | around frame | ofClass frame => exact frame

/-- Wherever it stands, a node keeps its frame. -/
theorem Retouched.frame (h : Retouched position n n') : SameFrame n n' := by
  cases h with
  | same => exact .refl n
  | around frame | ofClass frame | body frame | method frame => exact frame
  | decorator hedited | ownDecorator hedited => exact hedited.frame
  | member _ _ h | methodBody _ _ h => exact h.frame_outside

theorem retouchedAll_refl (ns : List Node) : List.Forall₂ (Retouched position) ns ns :=
  List.forall₂_same.mpr fun _ _ => .same

/-! ### What is read of a decorator -/

theorem ReadAlike.refl (d : Node) : ReadAlike d d := ⟨rfl, rfl⟩

/-- An edit of options shows in nothing that is asked of a class decorator. -/
theorem EditedDecorator.readAlike (h : EditedDecorator d d') : ReadAlike d d' := by
  obtain ⟨before, _, _, after, hcall, hcall', -⟩ := h.call
  refine ⟨h.frame.line, ?_⟩
  rw [callOutline?, callOutline?, hcall, hcall']
  cases before <;> rfl

/-- What a class of the queues reads of a marker. -/
def outline (m : Marker) : MarkerKind × String × Nat × Bool :=
  (m.kind, m.name, m.line, m.args.isEmpty)

theorem ReadAlike.outline_eq (h : ReadAlike d d') :
    (marker? d').map outline = (marker? d).map outline := by
  have hmarker : ∀ d : Node, (marker? d).map outline
      = (callOutline? d).bind fun c =>
          (MarkerKind.ofName? c.1).map fun kind => (kind, c.1, d.line, c.2) := by
    intro d
    unfold marker? callOutline?
    cases decoratorCall? d with
    | none => rfl
    | some call =>
      simp only [Option.bind_eq_bind, Option.bind_some, Option.map_some]
      cases MarkerKind.ofName? call.1 <;> rfl
  rw [hmarker, hmarker, h.call, h.line]

theorem ReadAlike.unknownName?_eq (h : ReadAlike d d') :
    unknownName? d' = unknownName? d := by
  have hname : ∀ d : Node, unknownName? d = (callOutline? d).bind fun c =>
      if (MarkerKind.ofName? c.1).isSome then none else some c.1 := by
    intro d
    unfold unknownName? callOutline?
    cases decoratorCall? d <;> rfl
  rw [hname, hname, h.call]

/-- What is the same of related nodes is collected the same. -/
theorem filterMap_of_forall₂ {α : Type} {R : Node → Node → Prop} {f : Node → Option α}
    (h : List.Forall₂ R ds ds') (hf : ∀ d d', R d d' → f d' = f d) :
    ds'.filterMap f = ds.filterMap f := by
  induction h with
  | nil => rfl
  | cons hd _ ih => rw [List.filterMap_cons, List.filterMap_cons, hf _ _ hd, ih]

/-- Decorators that read alike are ignored alike. -/
theorem ignoredOf_of_readAlike (h : List.Forall₂ ReadAlike ds ds') :
    ignoredOf ds' = ignoredOf ds := by
  rw [ignoredOf, ignoredOf, filterMap_of_forall₂ h fun _ _ hd => hd.unknownName?_eq]

/-! ### One class -/

/-- The context of a class depends on the outlines of its markers only. -/
theorem contextOf_of_outline {name : String} {ms ms' : List Marker}
    (h : ms'.map outline = ms.map outline) :
    contextOf .queue name ms' = contextOf .queue name ms := by
  have hfirst : ∀ ms : List Marker, (ms.find? (·.kind = .consumer)).map outline
      = (ms.map outline).find? (·.1 = .consumer) := by
    intro ms
    rw [List.find?_map]
    rfl
  have hsame := hfirst ms'
  rw [h, ← hfirst ms] at hsame
  unfold contextOf
  cases hm : ms.find? (·.kind = .consumer) with
  | none =>
    rw [hm, Option.map_none, Option.map_eq_none_iff] at hsame
    simp only [hsame]
  | some m =>
    rw [hm, Option.map_some] at hsame
    obtain ⟨m', hm', houtline⟩ := Option.map_eq_some_iff.mp hsame
    simp only [outline, Prod.mk.injEq] at houtline
    obtain ⟨-, hname, hline, hargs⟩ := houtline
    simp only [hm', hname, hline, hargs]

/-- What is handed to a class, as far as a class of the queues reads it. -/
structure HandedAlike (attached attached' : Attached) : Prop where
  decorators : List.Forall₂ ReadAlike attached.decorators attached'.decorators
  isDefault : attached'.isDefault = attached.isDefault

theorem HandedAlike.refl (attached : Attached) : HandedAlike attached attached :=
  ⟨List.forall₂_same.mpr fun d _ => .refl d, rfl⟩

/-- A class whose decorators read alike gives the same findings. -/
theorem classFindings_of_handedAlike {attached attached' : Attached} (name : String)
    (h : HandedAlike attached attached') (hdecorators : decoratorsOf ns' = decoratorsOf ns) :
    classFindings .queue name attached' ns' = classFindings .queue name attached ns := by
  have hread : List.Forall₂ ReadAlike (attached.decorators ++ decoratorsOf ns)
      (attached'.decorators ++ decoratorsOf ns') := by
    rw [hdecorators]
    exact List.rel_append h.decorators (HandedAlike.refl ⟨decoratorsOf ns, false⟩).decorators
  have hmarkers := filterMap_of_forall₂ hread fun _ _ hd => hd.outline_eq
  rw [← List.map_filterMap, ← List.map_filterMap] at hmarkers
  simp only [classFindings, ignoredOf_of_readAlike hread, contextOf_of_outline hmarkers,
    h.isDefault]

/-- Related children have related decorators. -/
theorem forall₂_decoratorsOf {R S : Node → Node → Prop} (h : List.Forall₂ R ns ns')
    (hframe : ∀ n n', R n n' → SameFrame n n')
    (hdecorator : ∀ n n', R n n' → n.kind = .decorator → S n n') :
    List.Forall₂ S (decoratorsOf ns) (decoratorsOf ns') := by
  induction h with
  | nil => exact .nil
  | cons hn _ ih =>
    rw [decoratorsOf_cons, decoratorsOf_cons, (hframe _ _ hn).isContent, (hframe _ _ hn).kind]
    refine List.rel_append ?_ ih
    split
    case isTrue hkind => exact .cons (hdecorator _ _ hn hkind.2) .nil
    case isFalse => exact .nil

/-- Retouched siblings hand on decorators that read alike. -/
theorem handedAlike_attachedOf (kind : NodeKind)
    (h : List.Forall₂ (Retouched position) ns ns')
    (hread : ∀ n n', Retouched position n n' → n.kind = .decorator → ReadAlike n n') :
    HandedAlike (attachedOf kind ns) (attachedOf kind ns') := by
  have hdefault : ns'.any (·.kind = .token "default") = ns.any (·.kind = .token "default") := by
    induction h with
    | nil => rfl
    | cons hn _ ih => rw [List.any_cons, List.any_cons, hn.frame.kind, ih]
  unfold attachedOf
  split
  case isTrue => exact ⟨forall₂_decoratorsOf h (fun _ _ => Retouched.frame) hread, hdefault⟩
  case isFalse => exact .refl _

/-! ### One method -/

/-- The markers mean the same to the pipelines, and the same comes of them on a method. -/
structure SameOutcome (m m' : Marker) : Prop where
  kind : m'.kind = m.kind
  record : ∀ context method line, recordOf context method line m' = recordOf context method line m

/-- Markers of one outcome concern the same pipelines. -/
theorem SameOutcome.concerns_eq {m m' : Marker} (h : SameOutcome m m') (p : Pipeline) :
    concerns p m' = concerns p m := by
  unfold concerns
  rw [h.kind]

/-- The same decorator but for edited options. -/
def MaybeEdited (d d' : Node) : Prop := d' = d ∨ EditedDecorator d d'

/-- Both are consumer markers with the same outcome. -/
theorem EditedDecorator.outcome (h : EditedDecorator d d') :
    ∃ m m', marker? d = some m ∧ marker? d' = some m' ∧ m.kind = .consumer ∧ SameOutcome m m' := by
  obtain ⟨before, options, options', after, hcall, hcall', hedited⟩ := h.call
  refine ⟨⟨.consumer, "Consumer", before ++ options :: after, d.line⟩,
    ⟨.consumer, "Consumer", before ++ options' :: after, d'.line⟩, ?_, ?_, rfl, rfl, ?_⟩
  · unfold marker?
    rw [hcall]
    rfl
  · unfold marker?
    rw [hcall']
    rfl
  · intro context method line
    show taskOf context method line _ = taskOf context method line _
    cases before with
    | nil => exact taskOf_of_edited (by rfl) (by rfl) (by rfl) hedited context method line
    -- only the first argument is looked at
    | cons first before => rfl

/-- A decorator that may have been edited is a marker of the same outcome, or none. -/
theorem MaybeEdited.outcome (h : MaybeEdited d d') :
    Option.Rel SameOutcome (marker? d) (marker? d') := by
  rcases h with rfl | h
  · cases marker? d' with
    | none => exact .none
    | some m => exact .some ⟨rfl, fun _ _ _ => rfl⟩
  · obtain ⟨m, m', hm, hm', -, houtcome⟩ := h.outcome
    rw [hm, hm']
    exact .some houtcome

theorem MaybeEdited.readAlike (h : MaybeEdited d d') : ReadAlike d d' := by
  rcases h with rfl | h
  · exact .refl _
  · exact h.readAlike

/-- No edit makes a method bindable or takes that away. -/
theorem modifierOf?_of_retouched (h : List.Forall₂ (Retouched position) ns ns') :
    modifierOf? ns' = modifierOf? ns := by
  unfold modifierOf?
  induction h with
  | nil => rfl
  | cons hn _ ih => rw [List.findSome?_cons, List.findSome?_cons, hn.frame.kind, ih]

/-- A method whose decorators may have been edited gives the same findings. -/
theorem methodFindings_of_edited {context : Context} (hds : List.Forall₂ MaybeEdited ds ds')
    (hmodifier : modifierOf? ns' = modifierOf? ns)
    (hname : ns'.find? (·.field = some .name) = ns.find? (·.field = some .name)) :
    methodFindings .queue context ds' ns' = methodFindings .queue context ds ns := by
  have hmarkers : List.Forall₂ SameOutcome ((ds.filterMap marker?).filter (concerns .queue))
      ((ds'.filterMap marker?).filter (concerns .queue)) := by
    refine List.rel_filter ?_ (List.rel_filterMap (fun _ _ hd => hd.outcome) hds)
    intro m m' hm
    show concerns .queue m = true ↔ concerns .queue m' = true
    rw [hm.concerns_eq]
  have hread : List.Forall₂ ReadAlike ds ds' := hds.imp fun _ _ => MaybeEdited.readAlike
  rw [methodFindings, methodFindings, ignoredOf_of_readAlike hread, hmodifier, hname]
  revert hmarkers
  generalize (ds.filterMap marker?).filter (concerns .queue) = ms
  generalize (ds'.filterMap marker?).filter (concerns .queue) = ms'
  intro hms
  have hrecords : ∀ method line, ms'.flatMap (recordOf context method line)
      = ms.flatMap (recordOf context method line) := by
    intro method line
    induction hms with
    | nil => rfl
    | cons hm _ ih => rw [List.flatMap_cons, List.flatMap_cons, hm.record, ih]
  cases hms with
  | nil => rfl
  | cons hm hms => simp only [hrecords]

/-! ### The walk -/

/-- What the walk needs to know of a node outside any class body. -/
structure SameOutside (n n' : Node) : Prop where
  frame : SameFrame n n'
  read : n.kind = .decorator → ReadAlike n n'
  around : declaresClass n.kind = false →
    List.Forall₂ (Retouched .outside) n.children n'.children
  ofClass : declaresClass n.kind = true →
    List.Forall₂ (Retouched .inClass) n.children n'.children

theorem Retouched.outside (h : Retouched .outside n n') : SameOutside n n' := by
  cases h with
  | same =>
    exact ⟨.refl n, fun _ => .refl n, fun _ => retouchedAll_refl _, fun _ => retouchedAll_refl _⟩
  | around frame hclass hcall hchildren =>
    exact ⟨frame, fun hkind => ⟨frame.line, hcall hkind⟩, fun _ => hchildren,
      fun h => Bool.noConfusion (hclass.symm.trans h)⟩
  | ofClass frame hclass hchildren =>
    refine ⟨frame, ?_, fun h => Bool.noConfusion (h.symm.trans hclass), fun _ => hchildren⟩
    intro hkind
    rw [hkind] at hclass
    cases hclass

/-- A child of a class is the same or its body. -/
theorem Retouched.inClass (h : Retouched .inClass n n') :
    n' = n ∨ n.field = some .body ∧ n.kind ≠ .decorator ∧
      List.Forall₂ (Retouched .member) n.children n'.children := by
  cases h with
  | same => exact .inl rfl
  | body frame hbody hkind hchildren => exact .inr ⟨hbody, hkind, hchildren⟩

/-- What the walk needs to know of a member of a class. -/
structure SameMember (n n' : Node) : Prop where
  decorator : n.kind = .decorator → MaybeEdited n n'
  method : n.kind = .methodDefinition →
    List.Forall₂ (Retouched .inMethod) n.children n'.children
  other : n.kind ≠ .decorator → n.kind ≠ .methodDefinition → Retouched .outside n n'

theorem Retouched.sameMember (h : Retouched .member n n') : SameMember n n' := by
  cases h with
  | same => exact ⟨fun _ => .inl rfl, fun _ => retouchedAll_refl _, fun _ _ => .same⟩
  | decorator hedited =>
    refine ⟨fun _ => .inr hedited, ?_, fun h => absurd hedited.kind h⟩
    intro hmethod
    cases hedited.kind.symm.trans hmethod
  | method frame hmethod hchildren =>
    refine ⟨?_, fun _ => hchildren, fun _ h => absurd hmethod h⟩
    intro hdecorator
    cases hdecorator.symm.trans hmethod
  | member hdecorator hmethod h =>
    exact ⟨fun h => absurd h hdecorator, fun h => absurd h hmethod, fun _ _ => h⟩

/-- What the walk needs to know of a child of a method. -/
structure SameInMethod (n n' : Node) : Prop where
  decorator : n.kind = .decorator → MaybeEdited n n'
  body : n.field = some .body → Retouched .outside n n'
  other : n' = n ∨ n.kind = .decorator ∧ n.field = none ∨ n.field = some .body

theorem Retouched.sameInMethod (h : Retouched .inMethod n n') : SameInMethod n n' := by
  cases h with
  | same => exact ⟨fun _ => .inl rfl, fun _ => .same, .inl rfl⟩
  | ownDecorator hedited hrole =>
    refine ⟨fun _ => .inr hedited, ?_, .inr (.inl ⟨hedited.kind, hrole⟩)⟩
    intro hbody
    cases hrole.symm.trans hbody
  | methodBody hbody hkind h =>
    exact ⟨fun h => absurd h hkind, fun _ => h, .inr (.inr hbody)⟩

/-- The name of a class or a method is the same. -/
theorem find?_name_of_retouched (h : List.Forall₂ (Retouched position) ns ns')
    (hsame : ∀ n n', Retouched position n n' → n' = n ∨ n.field ≠ some .name) :
    ns'.find? (·.field = some .name) = ns.find? (·.field = some .name) := by
  induction h with
  | nil => rfl
  | cons hn _ ih =>
    rw [List.find?_cons, List.find?_cons, ih]
    rcases hsame _ _ hn with rfl | hfield
    · rfl
    · rw [hn.frame.field, decide_eq_false hfield]

/-- A class keeps its name. -/
theorem name_of_inClass (h : List.Forall₂ (Retouched .inClass) ns ns') :
    ns'.find? (·.field = some .name) = ns.find? (·.field = some .name) := by
  apply find?_name_of_retouched h
  intro n n' hn
  rcases hn.inClass with hsame | ⟨hbody, -, -⟩
  · exact .inl hsame
  · rw [hbody]
    exact .inr nofun

/-- The decorators inside a class node are not edited. -/
theorem decoratorsOf_of_inClass (h : List.Forall₂ (Retouched .inClass) ns ns') :
    decoratorsOf ns' = decoratorsOf ns := by
  have hsame : List.Forall₂ (· = ·) (decoratorsOf ns) (decoratorsOf ns') := by
    apply forall₂_decoratorsOf h fun _ _ => Retouched.frame
    intro n n' hn hkind
    rcases hn.inClass with hsame | ⟨-, hother, -⟩
    · exact hsame.symm
    · exact absurd hkind hother
  rw [List.forall₂_eq_eq_eq] at hsame
  exact hsame.symm

/-- A method keeps its name. -/
theorem name_of_inMethod (h : List.Forall₂ (Retouched .inMethod) ns ns') :
    ns'.find? (·.field = some .name) = ns.find? (·.field = some .name) := by
  apply find?_name_of_retouched h
  intro n n' hn
  rcases hn.sameInMethod.other with hsame | ⟨-, hrole⟩ | hbody
  · exact .inl hsame
  · rw [hrole]
    exact .inr nofun
  · rw [hbody]
    exact .inr nofun

mutual

theorem survey_of_retouched {attached attached' : Attached} :
    (n : Node) → {n' : Node} → Retouched .outside n n' → HandedAlike attached attached' →
      survey .queue attached' n' = survey .queue attached n
  | ⟨kind, field, text, line, missing, hasError, children⟩,
    ⟨kind', field', text', line', missing', hasError', children'⟩, h, hattached => by
    obtain ⟨⟨hkind, -, -⟩, -, haround, hclass⟩ := h.outside
    obtain rfl : kind' = kind := hkind
    rw [survey, survey]
    split
    case isTrue hdeclares =>
      have hchildren := hclass hdeclares
      rw [name_of_inClass hchildren]
      cases children.find? (·.field = some .name) with
      | none => rfl
      | some name =>
        simp only [classFindings_of_handedAlike name.text hattached
          (decoratorsOf_of_inClass hchildren), surveyClassBody_of_retouched children hchildren]
    case isFalse hdeclares =>
      have hchildren := haround (Bool.eq_false_iff.mpr hdeclares)
      exact surveyAll_of_retouched children hchildren
        (handedAlike_attachedOf kind' hchildren fun _ _ hn => hn.outside.read)
termination_by structural n => n

theorem surveyAll_of_retouched {attached attached' : Attached} :
    (ns : List Node) → {ns' : List Node} → List.Forall₂ (Retouched .outside) ns ns' →
      HandedAlike attached attached' →
        surveyAll .queue attached' ns' = surveyAll .queue attached ns
  | [], _, .nil, _ => rfl
  | n :: ns, _, .cons hn hns, hattached => by
    rw [surveyAll, surveyAll, hn.frame.isContent, survey_of_retouched n hn hattached,
      surveyAll_of_retouched ns hns hattached]
termination_by structural ns => ns

theorem surveyClassBody_of_retouched {context : Option Context} :
    (ns : List Node) → {ns' : List Node} → List.Forall₂ (Retouched .inClass) ns ns' →
      surveyClassBody .queue context ns' = surveyClassBody .queue context ns
  | [], _, .nil => rfl
  | n :: ns, _, .cons hn hns => by
    rw [surveyClassBody, surveyClassBody, hn.frame.field, surveyBody_of_retouched n hn,
      surveyClassBody_of_retouched ns hns]
termination_by structural ns => ns

theorem surveyBody_of_retouched {context : Option Context} :
    (n : Node) → {n' : Node} → Retouched .inClass n n' →
      surveyBody .queue context n' = surveyBody .queue context n
  | ⟨kind, field, text, line, missing, hasError, members⟩,
    ⟨kind', field', text', line', missing', hasError', members'⟩, h => by
    have hkind : kind' = kind := h.frame.kind
    rcases h.inClass with hsame | ⟨-, -, hmembers⟩
    · rw [hsame]
    · rw [surveyBody, surveyBody, hkind]
      apply surveyMembers_of_retouched members hmembers _ .nil
      apply handedAlike_attachedOf kind hmembers
      intro n n' hn hdecorator
      exact (hn.sameMember.decorator hdecorator).readAlike
termination_by structural n => n

/-- The decorators that wait for a method are the same, but for edited options. -/
theorem surveyMembers_of_retouched {context : Option Context} {attached attached' : Attached} :
    (ns : List Node) → {ns' pending pending' : List Node} →
      List.Forall₂ (Retouched .member) ns ns' → HandedAlike attached attached' →
      List.Forall₂ MaybeEdited pending pending' →
        surveyMembers .queue context attached' pending' ns'
          = surveyMembers .queue context attached pending ns
  | [], _, _, _, .nil, _, _ => rfl
  | n :: ns, _, pending, pending', .cons hn hns, hattached, hpending => by
    have hdrop := @surveyMembers_of_retouched context _ _ ns _ _ _ hns hattached .nil
    rw [surveyMembers, surveyMembers, hn.frame.isContent, hn.frame.kind, hdrop]
    split
    · exact surveyMembers_of_retouched ns hns hattached hpending
    · split
      case isTrue hdecorator =>
        have hone := hn.sameMember.decorator hdecorator
        exact surveyMembers_of_retouched ns hns hattached
          (List.rel_append hpending (.cons hone .nil))
      case isFalse hdecorator =>
        split
        case isTrue hmethod =>
          rw [surveyMethod_of_retouched n (hn.sameMember.method hmethod) hpending]
        case isFalse hmethod =>
          rw [survey_of_retouched n (hn.sameMember.other hdecorator hmethod) hattached]
termination_by structural ns => ns

theorem surveyMethod_of_retouched {context : Option Context} {pending pending' : List Node} :
    (n : Node) → {n' : Node} → List.Forall₂ (Retouched .inMethod) n.children n'.children →
      List.Forall₂ MaybeEdited pending pending' →
        surveyMethod .queue context pending' n' = surveyMethod .queue context pending n
  | ⟨kind, field, text, line, missing, hasError, children⟩,
    ⟨kind', field', text', line', missing', hasError', children'⟩, h, hpending => by
    have hdecorators : List.Forall₂ MaybeEdited (decoratorsOf children) (decoratorsOf children') :=
      forall₂_decoratorsOf h (fun _ _ => Retouched.frame) fun _ _ hn => hn.sameInMethod.decorator
    have hbody := surveyMethodBody_of_retouched children h
    cases context with
    | none =>
      rw [surveyMethod, surveyMethod]
      exact hbody
    | some context =>
      rw [surveyMethod, surveyMethod, hbody, methodFindings_of_edited
        (List.rel_append hpending hdecorators) (modifierOf?_of_retouched h) (name_of_inMethod h)]
termination_by structural n => n

theorem surveyMethodBody_of_retouched :
    (ns : List Node) → {ns' : List Node} → List.Forall₂ (Retouched .inMethod) ns ns' →
      surveyMethodBody .queue ns' = surveyMethodBody .queue ns
  | [], _, .nil => rfl
  | n :: ns, _, .cons hn hns => by
    rw [surveyMethodBody, surveyMethodBody, hn.frame.field, surveyMethodBody_of_retouched ns hns]
    split
    case isTrue hbody => exact survey_of_retouched n (hn.sameInMethod.body hbody) (.refl {})
    case isFalse => rfl
termination_by structural ns => ns

end

/-! ### Main statement -/

/-- The findings of a retouched file that was laid out anew are the same but for their lines. -/
theorem survey_of_relabel {place place' : Nat → Nat} {mark mark' : Bool → Bool} {root root' : Node}
    (h : Retouched .outside (root.relabel place mark) (root'.relabel place' mark')) :
    (survey .queue {} root').map (·.renumber place')
      = (survey .queue {} root).map (·.renumber place) := by
  have hroot : survey .queue {} (root.relabel place mark)
      = (survey .queue {} root).map (·.renumber place) := survey_relabel .queue {} root
  have hroot' : survey .queue {} (root'.relabel place' mark')
      = (survey .queue {} root').map (·.renumber place') := survey_relabel .queue {} root'
  rw [← hroot, ← hroot']
  exact survey_of_retouched _ h (.refl {})

/-- **The options of a consumer are read independently of the rest of the object.**  There is a
task exactly if the first pair under `channel` has a constant text that is not empty, and it is a
batch task if the first pair under `batch` says so.  Edits that touch no option leave what comes of
the marker: the task or none, its queue and batch flag, and the warnings.  So a file with edited
options on any of its methods has the same classes, routes, tasks and issues about markers.  Where
edits move nodes to other lines or change what is marked as an error, the walk finds the same up to
lines. -/
theorem consumer_options_independent :
    (∀ (m : Marker) (options : Node) (rest : List Node), m.args = options :: rest →
      options.kind = .object → ∀ context method line queue isBatch,
      (.task queue method context.className isBatch line ∈ taskOf context method line m ↔
        (valueUnder "channel" options.children).map fold = some (.ok queue) ∧ queue ≠ "" ∧
          isBatch = ((valueUnder "batch" options.children).bind boolean?).getD false)) ∧
    (∀ d d', EditedDecorator d d' → ∃ m m', marker? d = some m ∧ marker? d' = some m' ∧
      m.kind = .consumer ∧ m'.kind = .consumer ∧
      ∀ context method line, taskOf context method line m' = taskOf context method line m) ∧
    (∀ module root root', Retouched .outside root root' →
      (extract .queue module root').classes = (extract .queue module root).classes ∧
      (extract .queue module root').routes = (extract .queue module root).routes ∧
      (extract .queue module root').tasks = (extract .queue module root).tasks ∧
      markerIssues (extract .queue module root') = markerIssues (extract .queue module root)) ∧
    ∀ (place place' : Nat → Nat) (mark mark' : Bool → Bool) (root root' : Node),
      Retouched .outside (root.relabel place mark) (root'.relabel place' mark') →
        (survey .queue {} root').map (·.renumber place')
          = (survey .queue {} root).map (·.renumber place) := by
  refine ⟨fun m options rest => task_mem_taskOf_iff, fun d d' h => ?marker,
    fun module root root' h => ?file, fun place place' mark mark' root root' => survey_of_relabel⟩
  case marker =>
    obtain ⟨m, m', hm, hm', hkind, hsame⟩ := h.outcome
    have hkind' : m'.kind = .consumer := hsame.kind.trans hkind
    refine ⟨m, m', hm, hm', hkind, hkind', fun context method line => ?_⟩
    have hrecord := hsame.record context method line
    unfold recordOf at hrecord
    rw [hkind, hkind'] at hrecord
    exact hrecord
  case file =>
    apply extract_of_survey_eq
    exact survey_of_retouched root h (.refl {})

/-- The marker `@Consumer(argument)`. -/
def consumerMarker (argument : Node) : Node :=
  { kind := .decorator, line := 1, children := [
    { kind := .token "@", line := 1 },
    { kind := .callExpression, line := 1, children := [
      { kind := .identifier, field := some .function, text := "Consumer", line := 1 },
      { kind := .other "arguments", field := some .arguments, line := 1, children := [
        { kind := .token "(", line := 1 }, argument, { kind := .token ")", line := 1 }] }] }] }

/-- A consumer with one method, whose marker has these options. -/
def consumerClass (line : Nat) (options : Node) : Node :=
  { kind := .program, line := 1, children := [
    { kind := .classDeclaration, line := 1, children := [
      consumerMarker { kind := .string, text := "'g'", line := 1 },
      { kind := .token "class", line := 1 },
      { kind := .other "type_identifier", field := some .name, text := "A", line := 1 },
      { kind := .classBody, field := some .body, line := 1, children := [
        consumerMarker options,
        { kind := .methodDefinition, line, children := [
          { kind := .propertyIdentifier, field := some .name, text := "h", line },
          { kind := .other "statement_block", field := some .body, line }] }] }] }] }

/-- A property of an object. -/
def pairNode (line : Nat) (key value : Node) : Node :=
  { kind := .pair, line, children := [key.as .key, { kind := .token ":", line }, value.as .value] }

def channelPair (line : Nat) (key : Node) : Node :=
  pairNode line key { kind := .string, text := "'q'", line }

def batchPair (line : Nat) : Node :=
  pairNode line { kind := .propertyIdentifier, text := "batch", line }
    { kind := .trueLiteral, line }

def plainKey (line : Nat) : Node := { kind := .propertyIdentifier, text := "channel", line }

def quotedKey (line : Nat) : Node := { kind := .string, text := "'channel'", line }

def objectNode (children : List Node) : Node := { kind := .object, line := 1, children }

def comma : Node := { kind := .token ",", line := 1 }

def spreadNode : Node := { kind := .spreadElement, text := "...base", line := 1 }

/-- The object with the channel and then the batch flag. -/
def plainOptions : Node := objectNode [channelPair 1 (plainKey 1), comma, batchPair 1]

/-- The same behind a spread, the other way round and with a quoted key, and over two lines. -/
def reworkedOptions (line : Nat) : Node :=
  objectNode [spreadNode, comma, batchPair line, comma, channelPair line (quotedKey line)]

theorem editedOptions_reworked : EditedOptions plainOptions (reworkedOptions 1) := by
  refine ⟨rfl, rfl, ?_⟩
  have hcomma : Edit optionKeys ([] ++ plainOptions.children)
      ([] ++ comma :: plainOptions.children) := .insert (by decide)
  have hspread : Edit optionKeys ([] ++ comma :: plainOptions.children)
      ([] ++ spreadNode :: comma :: plainOptions.children) := .insert (by decide)
  have hexchange : Edit optionKeys
      ([spreadNode, comma] ++ channelPair 1 (plainKey 1) :: ([comma] ++ batchPair 1 :: []))
      ([spreadNode, comma] ++ batchPair 1 :: ([comma] ++ channelPair 1 (plainKey 1) :: [])) :=
    .exchange rfl rfl (by decide) (by decide)
  have hquote : Edit optionKeys
      ([spreadNode, comma, batchPair 1, comma] ++ channelPair 1 (plainKey 1) :: [])
      ([spreadNode, comma, batchPair 1, comma] ++ channelPair 1 (quotedKey 1) :: []) :=
    .quote ⟨rfl, rfl, ⟨_, _, '\'', rfl, rfl, nofun, rfl, rfl, rfl⟩, rfl⟩
  exact (((Relation.ReflTransGen.single hcomma).tail hspread).tail hexchange).tail hquote

theorem editedDecorator_consumerMarker {options options' : Node}
    (h : EditedOptions options options') :
    EditedDecorator (consumerMarker options) (consumerMarker options') := by
  have hcall : ∀ o : Node, o.kind = .object →
      decoratorCall? (consumerMarker o) = some ("Consumer", [o]) := by
    intro o ho
    have hcontent : o.isContent = true := by
      rw [Node.isContent, ho]
      rfl
    show some ("Consumer", List.filter Node.isContent [_, o, _]) = _
    rw [List.filter_cons_of_neg Bool.false_ne_true, List.filter_cons_of_pos hcontent]
    rfl
  exact ⟨⟨rfl, rfl, rfl⟩, rfl, [], options, options', [], hcall _ h.kind, hcall _ h.kind', h⟩

theorem retouched_consumerClass {options options' : Node} (line : Nat)
    (h : EditedOptions options options') :
    Retouched .outside (consumerClass line options) (consumerClass line options') := by
  have hmarker : Retouched .member (consumerMarker options) (consumerMarker options') :=
    .decorator (editedDecorator_consumerMarker h)
  refine .around ⟨rfl, rfl, rfl⟩ rfl nofun (.cons ?_ .nil)
  refine .ofClass ⟨rfl, rfl, rfl⟩ rfl (.cons .same (.cons .same (.cons .same (.cons ?_ .nil))))
  exact .body ⟨rfl, rfl, rfl⟩ rfl nofun (.cons hmarker (.cons .same .nil))

/-- The task is the same after the options were reworked, and on its new line if the method was
moved by it.  Without a channel there is none. -/
theorem consumer_options_independent_reworked :
    (∀ queue isBatch, .task queue "h" "A" isBatch 1 ∉ taskOf ⟨"A", "", ""⟩ "h" 1
      ⟨.consumer, "Consumer", [objectNode [spreadNode, comma, batchPair 1]], 1⟩) ∧
    EditedDecorator (consumerMarker plainOptions) (consumerMarker (reworkedOptions 1)) ∧
    (extract .queue ⟨"a.ts"⟩ (consumerClass 1 plainOptions)).tasks
      = [⟨"q", "h", "A", true, ⟨⟨"a.ts"⟩, 1⟩⟩] ∧
    (extract .queue ⟨"a.ts"⟩ (consumerClass 1 (reworkedOptions 1))).tasks
      = [⟨"q", "h", "A", true, ⟨⟨"a.ts"⟩, 1⟩⟩] ∧
    (∃ m', marker? (consumerMarker (reworkedOptions 1)) = some m' ∧
      taskOf ⟨"A", "", ""⟩ "h" 1 m' = [.task "q" "h" "A" true 1]) ∧
    (survey .queue {} (consumerClass 2 (reworkedOptions 2))).map (·.renumber fun _ => 1)
      = [.marked "A" false, .task "q" "h" "A" true 1] := by
  have hmarker := editedDecorator_consumerMarker editedOptions_reworked
  have hretouched := retouched_consumerClass 1 editedOptions_reworked
  have hread : (extract .queue ⟨"a.ts"⟩ (consumerClass 1 plainOptions)).tasks
        = [⟨"q", "h", "A", true, ⟨⟨"a.ts"⟩, 1⟩⟩] ∧
      ((marker? (consumerMarker plainOptions)).map (taskOf ⟨"A", "", ""⟩ "h" 1))
        = some [.task "q" "h" "A" true 1] ∧
      (survey .queue {} (consumerClass 1 plainOptions)).map (·.renumber fun _ => 1)
        = [.marked "A" false, .task "q" "h" "A" true 1] := by decide +kernel
  obtain ⟨htasks, houtcome, hfound⟩ := hread
  obtain ⟨htask, hone, hfile, hlines⟩ := consumer_options_independent
  refine ⟨?_, hmarker, htasks, ?_, ?_, ?_⟩
  · intro queue isBatch hmem
    obtain ⟨hchannel, -, -⟩ := (htask _ _ [] rfl rfl ⟨"A", "", ""⟩ "h" 1 queue isBatch).mp hmem
    cases hchannel
  · rw [(hfile ⟨"a.ts"⟩ _ _ hretouched).2.2.1]
    exact htasks
  · obtain ⟨m, m', hm, hm', -, -, hsame⟩ := hone _ _ hmarker
    refine ⟨m', hm', ?_⟩
    rw [hm, Option.map_some] at houtcome
    rw [hsame]
    exact Option.some.inj houtcome
  · rw [← hfound]
    exact hlines (fun _ => 1) (fun _ => 1) id id _ (consumerClass 2 (reworkedOptions 2)) hretouched

end DispatchGen.Extract

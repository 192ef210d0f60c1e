/-
DispatchGen/Proofs/MarkerAccount.lean

Every marker on a method is accounted for.

A marker that concerns the pipeline ends in one of two ways: in the record it
declares (`record?`), or in one warning that says why there is none (`Skipped`).
Where a part of a record cannot be read, a default stands in for it and one more
warning says so (`isDefaulted`).  `handled_recordOf` goes through the arguments
a marker may have.  A method that cannot be bound takes its markers with it and
leaves one warning (`accounted_methodFindings`).  As the walk stops at every
method of the classes that it enters and nothing but a method makes records,
this accounts for the records of a file.

Only a method without a name would be passed over in silence; the grammar has none.

Main statement: `markers_accounted_for`.
-/
import DispatchGen.Grammar.File
import DispatchGen.Proofs.StopOrder

namespace DispatchGen

open Syntax Literal Extract

/-! ### What a marker declares -/

namespace Marker

/-- The options of a consumer marker: its first argument, if that is an object
literal. -/
def options? (m : Marker) : Option Node := m.args.head?.filter (·.kind = .object)

/-- The queue that a consumer marker names: a channel that folds to a text which
is not empty. -/
def queue? (m : Marker) : Option String := do
  let options ← m.options?
  let channel ← property? options "channel"
  (fold channel).toOption.filter (· ≠ "")

/-- Whether the options of a consumer marker ask for batches by a literal. -/
def isBatch (m : Marker) : Bool :=
  (m.options?.bind (property? · "batch")).bind boolean? = some true

/-- The record that a marker declares on a method of a class.  A path that does
not fold counts as empty, and a batch option that is no literal as false. -/
def record? (context : Context) (method : String) (line : Nat) (m : Marker) : Option Finding :=
  match m.kind with
  | .route verb => m.args.head?.map fun path =>
      .route verb (Route.joinPattern
          [context.prefixPath, context.basePath, (fold path).toOption.getD ""])
        method context.className line
  | .consumer => m.queue?.map fun queue => .task queue method context.className m.isBatch line
  | _ => none

/-- Whether a default stands in for a part of what the marker declares. -/
def isDefaulted (m : Marker) : Bool :=
  match m.kind with
  | .route _ => m.args.head?.any fun path => (fold path).toOption.isNone
  | .consumer => (m.options?.bind (property? · "batch")).any fun value => (boolean? value).isNone
  | _ => false

/-- Why a marker on the method `site` declares nothing. -/
inductive Skipped (site : String) (m : Marker) : Cause → Prop
  | path {verb : Verb} : m.kind = .route verb → m.args = [] →
      Skipped site m (.routeWithoutPath m.name site)
  | options : m.kind = .consumer → m.options? = none →
      Skipped site m (.taskWithoutOptions m.name site)
  | channel {options : Node} : m.kind = .consumer → m.options? = some options →
      property? options "channel" = none → Skipped site m (.taskWithoutChannel m.name site)
  | unfoldable {options channel : Node} {fault : Fault} : m.kind = .consumer →
      m.options? = some options → property? options "channel" = some channel →
      fold channel = .error fault → Skipped site m (.unfoldableChannel site fault)
  | empty {options channel : Node} : m.kind = .consumer →
      m.options? = some options → property? options "channel" = some channel →
      fold channel = .ok "" → Skipped site m (.emptyChannel m.name site)

end Marker

namespace Extract

/-- The records among findings. -/
def recordsIn (fs : List Finding) : List Finding := fs.filter (·.record?.isSome)

def Finding.warning? : Finding → Option Warning
  | warning w => some w
  | _ => none

/-- The warnings among findings. -/
def warningsIn (fs : List Finding) : List Warning := fs.filterMap Finding.warning?

/-- Whether a cause says that a default stands in for what cannot be read. -/
def Cause.IsDefault : Cause → Prop
  | .unfoldablePath _ => True
  | .oddBatch _ _ => True
  | _ => False

@[simp] theorem recordsIn_append (fs gs : List Finding) :
    recordsIn (fs ++ gs) = recordsIn fs ++ recordsIn gs := List.filter_append _ _

@[simp] theorem warningsIn_append (fs gs : List Finding) :
    warningsIn (fs ++ gs) = warningsIn fs ++ warningsIn gs := List.filterMap_append

theorem recordsIn_of_notes {fs : List Finding} (h : ∀ f ∈ fs, f.IsNote) : recordsIn fs = [] := by
  refine List.filter_eq_nil_iff.mpr fun f hf => ?_
  rw [(h f hf).record?]
  exact Bool.false_ne_true

/-! ### One marker -/

/-- What becomes of a marker: its record and a warning for each default in it, or
one warning that says why there is none. -/
def Handled (context : Context) (method : String) (line : Nat) (m : Marker)
    (fs : List Finding) : Prop :=
  (∃ r, m.record? context method line = some r ∧ recordsIn fs = [r] ∧
    (warningsIn fs).length = (if m.isDefaulted then 1 else 0) ∧
    ∀ w ∈ warningsIn fs, w.cause.IsDefault) ∨
  m.record? context method line = none ∧ recordsIn fs = [] ∧
    ∃ w, warningsIn fs = [w] ∧ m.Skipped (context.className ++ "." ++ method) w.cause

/-- A marker that is skipped leaves its one warning. -/
theorem handled_of_skipped {context : Context} {method : String} {line : Nat} {m : Marker}
    {cause : Cause} (h : m.Skipped (context.className ++ "." ++ method) cause) :
    Handled context method line m [warnAt line (context.className ++ "." ++ method) cause] := by
  refine .inr ⟨?_, rfl, ⟨_, _, _⟩, rfl, h⟩
  cases h with
  | path hkind hargs => simp [Marker.record?, hkind, hargs]
  | options hkind hoptions => simp [Marker.record?, Marker.queue?, hkind, hoptions]
  | channel hkind hoptions hchannel =>
    simp [Marker.record?, Marker.queue?, hkind, hoptions, hchannel]
  | unfoldable hkind hoptions hchannel hfold =>
    simp [Marker.record?, Marker.queue?, hkind, hoptions, hchannel, hfold, Except.toOption]
  | empty hkind hoptions hchannel hfold =>
    simp [Marker.record?, Marker.queue?, hkind, hoptions, hchannel, hfold, Except.toOption]

/-- A marker of a route is handled. -/
theorem handled_routeOf (context : Context) (method : String) (line : Nat) {m : Marker}
    {verb : Verb} (hkind : m.kind = .route verb) :
    Handled context method line m (routeOf context method line m verb) := by
  unfold routeOf
  cases hargs : m.args with
  | nil => exact handled_of_skipped (.path hkind hargs)
  | cons path rest =>
    refine .inl ⟨_, by rw [Marker.record?, hkind, hargs]; rfl, ?_⟩
    simp only [foldPath, Marker.isDefaulted, hkind, hargs]
    -- a path that does not fold leaves a warning in front of the record
    cases hfold : fold path with
    | ok value =>
      simp [recordsIn, warningsIn, Finding.record?, Finding.warning?, Except.toOption, hfold]
    | error fault =>
      simp [recordsIn, warningsIn, Finding.record?, Finding.warning?, Except.toOption, hfold,
        warnAt, Cause.IsDefault]

/-- A consumer marker is handled. -/
theorem handled_taskOf (context : Context) (method : String) (line : Nat) {m : Marker}
    (hkind : m.kind = .consumer) :
    Handled context method line m (taskOf context method line m) := by
  unfold taskOf
  rw [← Marker.options?]
  cases hoptions : m.options? with
  | none => exact handled_of_skipped (.options hkind hoptions)
  | some options =>
    cases hchannel : property? options "channel" with
    | none =>
      simp only [hchannel]
      exact handled_of_skipped (.channel hkind hoptions hchannel)
    | some channel =>
      cases hfold : fold channel with
      | error fault =>
        simp only [hchannel, hfold]
        exact handled_of_skipped (.unfoldable hkind hoptions hchannel hfold)
      | ok queue =>
        simp only [hchannel, hfold]
        split
        case isTrue hempty =>
          exact handled_of_skipped (.empty hkind hoptions hchannel (hempty ▸ hfold))
        case isFalse hqueue =>
          have hrecord : m.record? context method line
              = some (.task queue method context.className m.isBatch line) := by
            simp [Marker.record?, Marker.queue?, hkind, hoptions, hchannel, hfold,
              Except.toOption, hqueue]
          refine .inl ⟨_, hrecord, ?_⟩
          simp only [Marker.isDefaulted, Marker.isBatch, hkind, hoptions, Option.bind_some]
          -- the batch option is absent, a literal, or something else
          cases hbatch : property? options "batch" with
          | none => simp [recordsIn, warningsIn, Finding.record?, Finding.warning?]
          | some value =>
            cases hvalue : boolean? value with
            | some b =>
              simp [recordsIn, warningsIn, Finding.record?, Finding.warning?, hvalue]
            | none =>
              simp [recordsIn, warningsIn, Finding.record?, Finding.warning?, hvalue, warnAt,
                Cause.IsDefault]

/-- A marker that concerns the pipeline makes its record or says why not. -/
theorem handled_recordOf {p : Pipeline} {m : Marker} (hm : concerns p m) (context : Context)
    (method : String) (line : Nat) :
    Handled context method line m (recordOf context method line m) := by
  unfold recordOf
  split
  case h_1 verb hkind => exact handled_routeOf context method line hkind
  case h_2 hkind => exact handled_taskOf context method line hkind
  case h_3 hroute hconsumer =>
    -- no other marker concerns a pipeline
    unfold concerns at hm
    split at hm
    case h_1 verb hkind => exact absurd hkind (hroute verb)
    case h_2 hkind => exact absurd hkind hconsumer
    case h_3 => cases hm

/-! ### One method -/

/-- The markers of a method that concern a pipeline, in the order of its decorators. -/
def MethodAt.markers (p : Pipeline) (m : MethodAt) : List Marker :=
  (m.decorators.filterMap marker?).filter (concerns p)

/-- What becomes of the markers of a method with a name. -/
structure Accounted (p : Pipeline) (context : Context) (m : MethodAt) (name : Node)
    (fs : List Finding) : Prop where
  /-- Without a marker nothing is found. -/
  unmarked : m.markers p = [] → recordsIn fs = [] ∧ warningsIn fs = []
  /-- A name that is no plain identifier. -/
  unnameable : m.markers p ≠ [] → name.kind ≠ .propertyIdentifier →
    recordsIn fs = [] ∧ ∃ w, warningsIn fs = [w] ∧ w.cause.kind = "method_name"
  /-- A static method, a getter or a setter. -/
  unbindable : m.markers p ≠ [] → name.kind = .propertyIdentifier →
    (modifierOf? m.node.children).isSome →
    recordsIn fs = [] ∧ ∃ w, warningsIn fs = [w] ∧ w.cause.kind = "method_kind"
  /-- Any other method: each marker in turn. -/
  bound : name.kind = .propertyIdentifier → modifierOf? m.node.children = none →
    ∃ part : Marker → List Finding,
      recordsIn fs = (m.markers p).flatMap (recordsIn ∘ part) ∧
      warningsIn fs = (m.markers p).flatMap (warningsIn ∘ part) ∧
      ∀ mark ∈ m.markers p, Handled context name.text name.line mark (part mark)

theorem recordsIn_flatMap {α : Type} (f : α → List Finding) (xs : List α) :
    recordsIn (xs.flatMap f) = xs.flatMap (recordsIn ∘ f) := List.filter_flatMap

theorem warningsIn_flatMap {α : Type} (f : α → List Finding) (xs : List α) :
    warningsIn (xs.flatMap f) = xs.flatMap (warningsIn ∘ f) := List.filterMap_flatMap

theorem recordsIn_ignoredOf (ds : List Node) : recordsIn (ignoredOf ds) = [] :=
  recordsIn_of_notes fun _ => isNote_of_mem_ignoredOf

theorem warningsIn_ignoredOf (ds : List Node) : warningsIn (ignoredOf ds) = [] := by
  refine List.filterMap_eq_nil_iff.mpr fun f hf => ?_
  obtain ⟨_, _, rfl⟩ := List.mem_map.mp hf
  rfl

/-- What `methodFindings` does for a method with a name, apart from the
decorators that it ignores. -/
theorem methodFindings_of_name (p : Pipeline) (context : Context) (m : MethodAt) {name : Node}
    (hname : m.node.children.find? (·.field = some .name) = some name) :
    methodFindings p context m.decorators m.node.children = ignoredOf m.decorators ++
      if m.markers p = [] then []
      else if name.kind ≠ .propertyIdentifier then
        [warnAt name.line (context.className ++ "." ++ name.text)
          (.unbindableName name.text context.className)]
      else
        match modifierOf? m.node.children with
        | some modifier => [warnAt name.line (context.className ++ "." ++ name.text)
            (.unbindableKind modifier name.text context.className)]
        | none => (m.markers p).flatMap (recordOf context name.text name.line) := by
  rw [methodFindings, ← MethodAt.markers]
  cases m.markers p with
  | nil => rfl
  | cons mark marks =>
    rw [if_neg (List.cons_ne_nil mark marks)]
    by_cases hkind : name.kind = .propertyIdentifier
    case neg => simp [hname, hkind]
    cases modifierOf? m.node.children with
    | none => simp [hname, hkind]
    | some modifier => simp [hname, hkind]

/-- Of a method without a name only the unknown decorators are told. -/
theorem methodFindings_of_no_name (p : Pipeline) (context : Context) (m : MethodAt)
    (hname : m.node.child? .name = none) :
    methodFindings p context m.decorators m.node.children = ignoredOf m.decorators := by
  rw [Node.child?] at hname
  rw [methodFindings, hname]
  split <;> exact List.append_nil _

/-- The findings of a method account for each of its markers. -/
theorem accounted_methodFindings (p : Pipeline) (context : Context) (m : MethodAt) {name : Node}
    (hname : m.node.children.find? (·.field = some .name) = some name) :
    Accounted p context m name (methodFindings p context m.decorators m.node.children) := by
  rw [methodFindings_of_name p context m hname]
  -- the decorators that are ignored count neither as records nor as warnings
  have hignored := recordsIn_ignoredOf m.decorators
  have hsilent := warningsIn_ignoredOf m.decorators
  refine ⟨fun hnone => ?unmarked, fun hsome hkind => ?unnameable,
    fun hsome hkind hmodifier => ?unbindable, fun hkind hmodifier => ?bound⟩
  case unmarked => simp [hnone, hignored, hsilent]
  case unnameable =>
    rw [if_neg hsome, if_pos hkind, recordsIn_append, warningsIn_append, hignored, hsilent]
    exact ⟨rfl, _, rfl, rfl⟩
  case unbindable =>
    obtain ⟨modifier, hmodifier⟩ := Option.isSome_iff_exists.mp hmodifier
    rw [if_neg hsome, if_neg (not_not.mpr hkind), hmodifier, recordsIn_append, warningsIn_append,
      hignored, hsilent]
    exact ⟨rfl, _, rfl, rfl⟩
  case bound =>
    refine ⟨recordOf context name.text name.line, ?_, ?_, fun mark hmark => ?_⟩
    · rw [recordsIn_append, hignored, List.nil_append, ← recordsIn_flatMap]
      by_cases hnone : m.markers p = [] <;> simp [hnone, hkind, hmodifier]
    · rw [warningsIn_append, hsilent, List.nil_append, ← warningsIn_flatMap]
      by_cases hnone : m.markers p = [] <;> simp [hnone, hkind, hmodifier]
    · exact handled_recordOf (List.mem_filter.mp hmark).2 context name.text name.line

/-! ### The methods of a file -/

/-- The methods that the walk meets, each with its class. -/
def methodsOf (root : Node) : List (ClassAt × MethodAt) :=
  (stopsOf root).filterMap fun
    | .meet c m => some (c, m)
    | .enter _ => none

/-- The methods of a file are those of the classes that are entered. -/
theorem mem_methodsOf {root : Node} {c : ClassAt} {m : MethodAt} :
    (c, m) ∈ methodsOf root ↔ .enter c ∈ stopsOf root ∧ m ∈ c.methods := by
  have hmet : (c, m) ∈ methodsOf root ↔ .meet c m ∈ stopsOf root := by
    rw [methodsOf, List.mem_filterMap]
    constructor
    · rintro ⟨s, hs, hwhich⟩
      cases s with
      | enter c' => cases hwhich
      | meet c' m' => cases hwhich; exact hs
    · exact fun h => ⟨_, h, rfl⟩
  rw [hmet]
  constructor
  · exact fun h => ⟨enter_owner_mem h, ((coherent_stopsOf root).meets c m h).1⟩
  · exact fun ⟨hc, hm⟩ => (coherent_stopsOf root).enters c hc m hm

/-- Methods come in the order of the walk. -/
theorem methodsOf_follow (root : Node) :
    (methodsOf root).Pairwise fun x y => (Stop.meet x.1 x.2).Follows (.meet y.1 y.2) := by
  refine List.pairwise_filterMap.mpr ((coherent_stopsOf root).ordered.imp ?_)
  intro s t hfollows x hx y hy
  cases s with
  | enter c => cases hx
  | meet c m =>
    cases t with
    | enter c' => cases hy
    | meet c' m' => cases hx; cases hy; exact hfollows

/-- Each method is met once, in document order. -/
theorem methodsOf_ordered (root : Node) :
    (methodsOf root).Pairwise fun x y => x.2.address < y.2.address :=
  (methodsOf_follow root).imp fun h => h.1

theorem ClassAt.kind_of_mem_methods {c : ClassAt} {m : MethodAt} (h : m ∈ c.methods) :
    m.node.kind = .methodDefinition := by
  unfold ClassAt.methods at h
  split at h
  case h_1 =>
    obtain ⟨_, _, -, hm⟩ := mem_methodsAmong.mp h
    obtain ⟨-, hkind, rfl⟩ := methodAt?_eq_some.mp hm
    exact hkind
  case h_2 => cases h

/-! ### The records of a file -/

/-- A class makes no records of its own. -/
theorem recordsIn_survey (p : Pipeline) (s : ClassSite) : recordsIn (s.survey p).2 = [] := by
  obtain ⟨-, notes, hnotes, hself⟩ := classFindings_spec p s
  rw [ClassSite.survey, hself, recordsIn_append, recordsIn_of_notes hnotes]
  split <;> rfl

/-- The records of a file are those of its methods. -/
theorem recordsIn_stopsOf (p : Pipeline) (root : Node) :
    recordsIn ((stopsOf root).flatMap (·.findings p))
      = (methodsOf root).flatMap fun x => recordsIn (x.2.findings p x.1.site) := by
  rw [recordsIn_flatMap, methodsOf]
  induction stopsOf root with
  | nil => rfl
  | cons s rest ih =>
    rw [List.flatMap_cons, ih]
    cases s with
    | enter c => simp [Stop.findings, recordsIn_survey]
    | meet c m => rfl

/-- What is selected from findings is selected from the records, if notes give nothing. -/
theorem filterMap_recordsIn {α : Type} {f : Finding → Option α}
    (h : ∀ g : Finding, g.record? = none → f g = none) (fs : List Finding) :
    (recordsIn fs).filterMap f = fs.filterMap f := by
  rw [recordsIn, List.filterMap_filter]
  refine List.filterMap_congr fun g _ => ?_
  cases hg : g.record? with
  | none => simp [h g hg]
  | some _ => rfl

theorem route?_of_record? (module : Path) (g : Finding) (h : g.record? = none) :
    g.route? module = none := by
  cases g <;> first | rfl | cases h

theorem task?_of_record? (module : Path) (g : Finding) (h : g.record? = none) :
    g.task? module = none := by
  cases g <;> first | rfl | cases h

theorem map_warningsIn (module : Path) (fs : List Finding) :
    (warningsIn fs).map (·.issue module) = fs.filterMap (·.issue? module) := by
  rw [warningsIn, List.map_filterMap]
  refine List.filterMap_congr fun g _ => ?_
  cases g <;> rfl

/-- The records of a file, read off its methods one after another. -/
theorem filterMap_findings {α : Type} {f : Finding → Option α}
    (h : ∀ g : Finding, g.record? = none → f g = none) (p : Pipeline) (root : Node) :
    (findings p root).filterMap f
      = (methodsOf root).flatMap fun x => (recordsIn (x.2.findings p x.1.site)).filterMap f := by
  have hwalk : survey p {} root = (stopsOf root).flatMap (·.findings p) :=
    survey_eq_flatMap p [] none root
  have hsyntax : recordsIn (syntaxFindings root) = [] := by
    refine recordsIn_of_notes fun g hg => ?_
    unfold syntaxFindings at hg
    split at hg
    · rw [List.mem_singleton.mp hg]
      trivial
    · cases hg
  rw [← filterMap_recordsIn h, findings, recordsIn_append, hsyntax, List.nil_append, hwalk,
    recordsIn_stopsOf, List.filterMap_flatMap]

/-- **No marker is lost and no record is invented.**  Let each method definition
of a tree have a name.  The records of the tree are those of the methods that
the walk meets, one method after another; these are the methods of the classes
that it enters, each once and in document order.  The issues are the one about
syntax errors, if any, and one for each warning at a stop.  A method of a class
without a context leaves nothing, and in a class with a context each marker of a
method is accounted for. -/
theorem markers_accounted_for (p : Pipeline) (module : Path) (root : Node)
    (hnamed : ∀ a m, root.at? a = some m → m.kind = .methodDefinition →
      (m.child? .name).isSome = true) :
    ((∀ c m, (c, m) ∈ methodsOf root ↔ .enter c ∈ stopsOf root ∧ m ∈ c.methods) ∧
      (methodsOf root).Pairwise fun x y => x.2.address < y.2.address) ∧
    ((extract p module root).routes = (methodsOf root).flatMap (fun x =>
        (recordsIn (x.2.findings p x.1.site)).filterMap (·.route? module)) ∧
      (extract p module root).tasks = (methodsOf root).flatMap (fun x =>
        (recordsIn (x.2.findings p x.1.site)).filterMap (·.task? module)) ∧
      (extract p module root).issues = (syntaxFindings root).filterMap (·.issue? module) ++
        (stopsOf root).flatMap (fun s => (warningsIn (s.findings p)).map (·.issue module))) ∧
    ∀ c, .enter c ∈ stopsOf root → ∀ m ∈ c.methods,
      (c.site.context? p = none → m.findings p c.site = []) ∧
      ∀ context, c.site.context? p = some context →
        context.className = c.site.name.text ∧
        ∃ name, m.node.child? .name = some name ∧
          Accounted p context m name (m.findings p c.site) := by
  refine ⟨⟨fun c m => mem_methodsOf, methodsOf_ordered root⟩,
    ⟨filterMap_findings (route?_of_record? module) p root,
      filterMap_findings (task?_of_record? module) p root, ?issues⟩, fun c hc m hm => ?method⟩
  case issues =>
    have hwalk : survey p {} root = (stopsOf root).flatMap (·.findings p) :=
      survey_eq_flatMap p [] none root
    simp only [extract, Facts.ofFindings, findings, hwalk, List.filterMap_append,
      List.filterMap_flatMap, map_warningsIn]
  case method =>
    refine ⟨fun hnone => by rw [MethodAt.findings, hnone], fun context hcontext => ⟨?_, ?_⟩⟩
    · obtain ⟨hclass, -⟩ := classFindings_spec p c.site
      rw [← ClassSite.survey, ← ClassSite.context?, hcontext, Option.map_some] at hclass
      split at hclass
      · exact Option.some.inj hclass
      · cases hclass
    · have hmeet : .meet c m ∈ stopsOf root := (coherent_stopsOf root).enters c hc m hm
      obtain ⟨name, hname⟩ := Option.isSome_iff_exists.mp
        (hnamed _ _ (at?_of_mem_stopsOf hmeet) (ClassAt.kind_of_mem_methods hm))
      refine ⟨name, hname, ?_⟩
      rw [MethodAt.findings, hcontext]
      exact accounted_methodFindings p context m hname

/-- A controller with a method for every fate of a marker. -/
def carelessController : Node :=
  Grammar.read .typeScript <|
    "@Controller('/a') class A \x7b plain() \x7b\x7d\n" ++
    "@Get('/b') @Post(path) @Put() list() \x7b\x7d\n" ++
    "@Delete('/c') static drop() \x7b\x7d\n" ++
    "@Get('/d') 'quoted'() \x7b\x7d \x7d"

/-- Of three markers on one method the first two are kept, one of them with the
empty path; each of the others leaves its warning. -/
theorem markers_accounted_for_careless :
    (∀ a m, carelessController.at? a = some m → m.kind = .methodDefinition →
      (m.child? .name).isSome = true) ∧
    (extract .http ⟨"m.ts"⟩ carelessController).routes.map (fun r => (r.verb, r.pattern))
      = [(.get, "/a/b"), (.post, "/a")] ∧
    (extract .http ⟨"m.ts"⟩ carelessController).issues.map (·.kind)
      = ["literal_unsupported", "marker_arguments", "method_kind", "method_name"] ∧
    ∃ c m context name, (c, m) ∈ methodsOf carelessController ∧
      (m.markers .http).map (·.name) = ["Get", "Post", "Put"] ∧
      c.site.context? .http = some context ∧ m.node.child? .name = some name ∧
      Accounted .http context m name (m.findings .http c.site) := by
  have hread : carelessController.everywhere
        (fun n => n.kind ≠ .methodDefinition || (n.child? .name).isSome) = true ∧
      (extract .http ⟨"m.ts"⟩ carelessController).routes.map (fun r => (r.verb, r.pattern))
        = [(.get, "/a/b"), (.post, "/a")] ∧
      (extract .http ⟨"m.ts"⟩ carelessController).issues.map (·.kind)
        = ["literal_unsupported", "marker_arguments", "method_kind", "method_name"] ∧
      (methodsOf carelessController).any (fun x =>
        (x.2.markers .http).map (·.name) = ["Get", "Post", "Put"] &&
          (x.1.site.context? .http).isSome) = true := by decide +kernel
  obtain ⟨hnames, hroutes, hissues, hmarked⟩ := hread
  have hnamed : ∀ a m, carelessController.at? a = some m → m.kind = .methodDefinition →
      (m.child? .name).isSome = true := by
    intro a m hm hkind
    simpa [hkind] using Node.check_of_at? hnames hm
  obtain ⟨⟨hmem, -⟩, -, haccount⟩ :=
    markers_accounted_for .http ⟨"m.ts"⟩ carelessController hnamed
  obtain ⟨⟨c, m⟩, hcm, hwhich⟩ := List.any_eq_true.mp hmarked
  simp only [Bool.and_eq_true, decide_eq_true_eq] at hwhich
  obtain ⟨hmarkers, hcontext⟩ := hwhich
  obtain ⟨context, hcontext⟩ := Option.isSome_iff_exists.mp hcontext
  obtain ⟨hc, hm⟩ := (hmem c m).mp hcm
  obtain ⟨-, name, hname, haccounted⟩ := (haccount c hc m hm).2 context hcontext
  exact ⟨hnamed, hroutes, hissues, c, m, context, name, hcm, hmarkers, hcontext, hname,
    haccounted⟩

end Extract

end DispatchGen

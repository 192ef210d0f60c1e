/-
DispatchGen/Extract/Survey.lean

The walk over one file's tree.

`survey` turns a tree into the list of its findings in document order: marked
classes, routes, tasks, warnings, and the unknown decorators met on the way.
Nothing is remembered between two nodes except what is handed down: an export
statement hands its own decorators to the class it exports, and a class hands
its context to its methods.  Entering a class builds that context from the
class's own markers alone, so neither a sibling nor an enclosing class has a say
in it.  The findings of a list of nodes are the findings of each, one after
another (`surveyAll_append`).
-/
import DispatchGen.Extract.Warning
import DispatchGen.Marker
import DispatchGen.Route.Pattern

namespace DispatchGen.Extract

open Syntax Literal

/-- One thing the walk comes upon. -/
inductive Finding where
  | marked (name : String) (isDefault : Bool)
  | route (verb : Verb) (pattern handler controller : String) (line : Nat)
  | task (queue method consumer : String) (isBatch : Bool) (line : Nat)
  | warning (w : Warning)
  /-- A decorator outside the marker set. -/
  | ignored (decorator : String)
deriving DecidableEq, Repr

/-- What a class's own markers say about its methods. -/
structure Context where
  className : String
  /-- The path of `@Controller`; empty for consumers. -/
  prefixPath : String
  /-- The path of `@BasePath`; empty without one. -/
  basePath : String
deriving DecidableEq, Repr

/-- What an export statement hands to the class it exports. -/
structure Attached where
  decorators : List Node := []
  isDefault : Bool := false

/-- The decorators among a node's children. -/
def decoratorsOf (children : List Node) : List Node :=
  (children.filter Node.isContent).filter (·.kind = .decorator)

/-- What the children of a node receive from it. -/
def attachedOf (kind : NodeKind) (children : List Node) : Attached :=
  if kind = .exportStatement then
    { decorators := decoratorsOf children
      isDefault := children.any (·.kind = .token "default") }
  else {}

/-- The findings for decorators that are no markers. -/
def ignoredOf (decorators : List Node) : List Finding :=
  (decorators.filterMap unknownName?).map .ignored

/-- A finding that warns about a site. -/
def warnAt (line : Nat) (site : String) (cause : Cause) : Finding :=
  .warning ⟨line, some site, cause⟩

/-- A path argument's value, or the empty text and a warning. -/
def foldPath (site : String) (argument : Node) : String × List Finding :=
  match fold argument with
  | .ok value => (value, [])
  | .error fault => ("", [warnAt fault.line site (.unfoldablePath fault)])

/-! ### Class context -/

/-- The path of the class's `@BasePath`, if it has one. -/
def basePathOf (name : String) (markers : List Marker) : String × List Finding :=
  match markers.find? (·.kind = .basePath) with
  | none => ("", [])
  | some m =>
      match m.args with
      | argument :: _ => foldPath name argument
      | [] => ("", [warnAt m.line name (.basePathWithoutPath m.name name)])

/-- The context of a class for one pipeline, if its markers establish one. -/
def contextOf (pipeline : Pipeline) (name : String) (markers : List Marker) :
    Option Context × List Finding :=
  match pipeline with
  | .http =>
      match markers.find? (·.kind = .controller) with
      | none => (none, [])
      | some m =>
          match m.args with
          | [] => (none, [warnAt m.line name (.controllerWithoutPath m.name name)])
          | argument :: _ =>
              let (prefixPath, first) := foldPath name argument
              let (basePath, second) := basePathOf name markers
              (some ⟨name, prefixPath, basePath⟩, first ++ second)
  | .queue =>
      match markers.find? (·.kind = .consumer) with
      | none => (none, [])
      | some m =>
          if m.args.isEmpty then
            (none, [warnAt m.line name (.consumerWithoutGroup m.name name)])
          else (some ⟨name, "", ""⟩, [])

/-! ### Methods -/

/-- Whether a marker on a method concerns the pipeline. -/
def concerns (pipeline : Pipeline) (m : Marker) : Bool :=
  match pipeline, m.kind with
  | .http, .route _ => true
  | .queue, .consumer => true
  | _, _ => false

/-- The first keyword of a method that makes it unbindable. -/
def modifierOf? (children : List Node) : Option Modifier :=
  children.findSome? fun n =>
    match n.kind with
    | .token text =>
        if text.startsWith "static" then some .static
        else if text = "get" then some .getter
        else if text = "set" then some .setter
        else none
    | _ => none

/-- The findings of a verb marker on a bindable method. -/
def routeOf (context : Context) (method : String) (line : Nat) (m : Marker) (verb : Verb) :
    List Finding :=
  let site := context.className ++ "." ++ method
  match m.args with
  | [] => [warnAt line site (.routeWithoutPath m.name site)]
  | argument :: _ =>
      let (path, warnings) := foldPath site argument
      warnings ++
        [.route verb (Route.joinPattern [context.prefixPath, context.basePath, path]) method
          context.className line]

/-- The findings of a consumer marker on a bindable method. -/
def taskOf (context : Context) (method : String) (line : Nat) (m : Marker) : List Finding :=
  let site := context.className ++ "." ++ method
  let warn := fun cause => [warnAt line site cause]
  match m.args.head?.filter (·.kind = .object) with
  | none => warn (.taskWithoutOptions m.name site)
  | some options =>
      match property? options "channel" with
      | none => warn (.taskWithoutChannel m.name site)
      | some channel =>
          match fold channel with
          | .error fault => warn (.unfoldableChannel site fault)
          | .ok queue =>
              if queue = "" then warn (.emptyChannel m.name site)
              else
                let (isBatch, warnings) :=
                  match property? options "batch" with
                  | none => (false, [])
                  | some value =>
                      match boolean? value with
                      | some b => (b, [])
                      | none => (false, warn (.oddBatch site value.text))
                warnings ++ [.task queue method context.className isBatch line]

/-- The findings of one marker on a bindable method. -/
def recordOf (context : Context) (method : String) (line : Nat) (m : Marker) : List Finding :=
  match m.kind with
  | .route verb => routeOf context method line m verb
  | .consumer => taskOf context method line m
  | _ => []

/-- The findings of a method of a class with context: none at all without a
marker of the pipeline, one warning if the method cannot be bound, and else
those of each marker in turn. -/
def methodFindings (pipeline : Pipeline) (context : Context) (decorators children : List Node) :
    List Finding :=
  ignoredOf decorators ++
    match (decorators.filterMap marker?).filter (concerns pipeline) with
    | [] => []
    | markers =>
        match children.find? (·.field = some .name) with
        | none => []
        | some name =>
            let method := name.text
            let site := context.className ++ "." ++ method
            if name.kind != .propertyIdentifier then
              [warnAt name.line site (.unbindableName method context.className)]
            else
              match modifierOf? children with
              | some modifier =>
                  [warnAt name.line site (.unbindableKind modifier method context.className)]
              | none => markers.flatMap (recordOf context method name.line)

/-! ### The walk -/

/-- Whether a node declares a class. -/
def declaresClass (kind : NodeKind) : Bool :=
  kind = .classDeclaration || kind = .abstractClassDeclaration

/-- What a class contributes before its body: the decorators it ignores, the
warnings about its markers, and itself if it has a context. -/
def classFindings (pipeline : Pipeline) (name : String) (attached : Attached)
    (children : List Node) : Option Context × List Finding :=
  let decorators := attached.decorators ++ decoratorsOf children
  let (context, warnings) := contextOf pipeline name (decorators.filterMap marker?)
  let self := match context with
    | some _ => [.marked name attached.isDefault]
    | none => []
  (context, ignoredOf decorators ++ warnings ++ self)

mutual

/-- The findings of a node outside of any class body. -/
def survey (pipeline : Pipeline) (attached : Attached) : Node → List Finding
  | ⟨kind, _, _, _, _, _, children⟩ =>
      if declaresClass kind then
        match children.find? (·.field = some .name) with
        | none => []
        | some name =>
            let (context, findings) := classFindings pipeline name.text attached children
            findings ++ surveyClassBody pipeline context children
      else surveyAll pipeline (attachedOf kind children) children
termination_by structural n => n

/-- The findings of nodes one after another. -/
def surveyAll (pipeline : Pipeline) (attached : Attached) : List Node → List Finding
  | [] => []
  | n :: ns =>
      if n.isContent then survey pipeline attached n ++ surveyAll pipeline attached ns
      else surveyAll pipeline attached ns
termination_by structural ns => ns

/-- The findings of the body among a class's children. -/
def surveyClassBody (pipeline : Pipeline) (context : Option Context) : List Node → List Finding
  | [] => []
  | n :: ns =>
      if n.field = some .body then surveyBody pipeline context n
      else surveyClassBody pipeline context ns
termination_by structural ns => ns

/-- The findings of a class body. -/
def surveyBody (pipeline : Pipeline) (context : Option Context) : Node → List Finding
  | ⟨kind, _, _, _, _, _, members⟩ =>
      surveyMembers pipeline context (attachedOf kind members) [] members
termination_by structural n => n

/-- The findings of class members, where the decorators `pending` precede the
first of them.  A method uses them up; any other member drops them. -/
def surveyMembers (pipeline : Pipeline) (context : Option Context) (attached : Attached)
    (pending : List Node) : List Node → List Finding
  | [] => []
  | n :: ns =>
      if !n.isContent then surveyMembers pipeline context attached pending ns
      else if n.kind = .decorator then
        surveyMembers pipeline context attached (pending ++ [n]) ns
      else if n.kind = .methodDefinition then
        surveyMethod pipeline context pending n ++ surveyMembers pipeline context attached [] ns
      else survey pipeline attached n ++ surveyMembers pipeline context attached [] ns
termination_by structural ns => ns

/-- The findings of a method that the decorators `pending` precede, and then
those of its body. -/
def surveyMethod (pipeline : Pipeline) (context : Option Context) (pending : List Node) :
    Node → List Finding
  | ⟨_, _, _, _, _, _, children⟩ =>
      (match context with
        | some context =>
            methodFindings pipeline context (pending ++ decoratorsOf children) children
        | none => []) ++
      surveyMethodBody pipeline children
termination_by structural n => n

/-- The findings of the body among a method's children; classes in it start
without context. -/
def surveyMethodBody (pipeline : Pipeline) : List Node → List Finding
  | [] => []
  | n :: ns =>
      if n.field = some .body then survey pipeline {} n else surveyMethodBody pipeline ns
termination_by structural ns => ns

end

theorem surveyAll_append (pipeline : Pipeline) (attached : Attached) (ms ns : List Node) :
    surveyAll pipeline attached (ms ++ ns)
      = surveyAll pipeline attached ms ++ surveyAll pipeline attached ns := by
  induction ms with
  | nil => simp [surveyAll]
  | cons m ms ih => by_cases h : m.isContent <;> simp [surveyAll, h, ih]

end DispatchGen.Extract

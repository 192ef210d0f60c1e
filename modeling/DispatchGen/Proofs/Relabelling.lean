/-
DispatchGen/Proofs/Relabelling.lean

Syntax trees with other line numbers and other error marks.

`Node.relabel place mark` replaces every line of a tree by `place` and every error mark by `mark`,
and keeps the rest.  The walk consults no mark, and a line only to report it.  So it finds the same
in the relabelled tree, with the reported lines replaced in the same way: constants
(`fold_relabel`), properties of an object (`property?_relabel`), markers (`marker?_relabel`), and in
the end all its findings (`survey_relabel`), by the mutual induction of the walk.

With `place` constant this compares trees up to their lines, and with `place` the identity up to
their error marks (`survey_unflagged`).
-/
import DispatchGen.Extract.Survey

namespace DispatchGen

/-! ### Trees -/

namespace Syntax.Node

mutual

/-- A tree with its lines replaced by `place` and its error marks by `mark`. -/
def relabel (place : Nat → Nat) (mark : Bool → Bool) : Node → Node
  | ⟨kind, field, text, line, missing, hasError, children⟩ =>
      ⟨kind, field, text, place line, missing, mark hasError, relabelAll place mark children⟩
termination_by structural n => n

def relabelAll (place : Nat → Nat) (mark : Bool → Bool) : List Node → List Node
  | [] => []
  | n :: ns => relabel place mark n :: relabelAll place mark ns
termination_by structural ns => ns

end

/-- A tree without its error marks. -/
def unflagged (n : Node) : Node := n.relabel id fun _ => false

variable {place : Nat → Nat} {mark : Bool → Bool}

/-- Nodes beside each other are relabelled one by one. -/
theorem relabelAll_eq_map (ns : List Node) :
    relabelAll place mark ns = ns.map (relabel place mark) := by
  induction ns with
  | nil => rfl
  | cons n ns ih => rw [relabelAll, ih, List.map_cons]

mutual

/-- Relabelling twice relabels by what is composed of the two. -/
theorem relabel_relabel (place' : Nat → Nat) (mark' : Bool → Bool) :
    (n : Node) →
      (n.relabel place mark).relabel place' mark' = n.relabel (place' ∘ place) (mark' ∘ mark)
  | ⟨kind, field, text, line, missing, hasError, children⟩ => by
    rw [relabel, relabel, relabel, relabelAll_relabelAll place' mark' children]
    rfl
termination_by structural n => n

theorem relabelAll_relabelAll (place' : Nat → Nat) (mark' : Bool → Bool) :
    (ns : List Node) → relabelAll place' mark' (relabelAll place mark ns)
      = relabelAll (place' ∘ place) (mark' ∘ mark) ns
  | [] => rfl
  | n :: ns => by
    rw [relabelAll, relabelAll, relabelAll, relabel_relabel place' mark' n,
      relabelAll_relabelAll place' mark' ns]
termination_by structural ns => ns

end

/-- Trees with other marks are the same without any. -/
theorem unflagged_relabel (n : Node) : (n.relabel id mark).unflagged = n.unflagged :=
  relabel_relabel id (fun _ => false) n

@[simp] theorem kind_relabel (n : Node) : (n.relabel place mark).kind = n.kind := by cases n; rfl

@[simp] theorem field_relabel (n : Node) : (n.relabel place mark).field = n.field := by cases n; rfl

@[simp] theorem text_relabel (n : Node) : (n.relabel place mark).text = n.text := by cases n; rfl

@[simp] theorem line_relabel (n : Node) : (n.relabel place mark).line = place n.line := by
  cases n; rfl

@[simp] theorem children_relabel (n : Node) :
    (n.relabel place mark).children = n.children.map (relabel place mark) := by
  cases n
  exact relabelAll_eq_map _

@[simp] theorem isContent_relabel (n : Node) : (n.relabel place mark).isContent = n.isContent := by
  rw [isContent, isContent, kind_relabel]

/-- A check that sees neither lines nor marks selects the same nodes. -/
theorem filter_relabel {check : Node → Bool} (h : ∀ n, check (n.relabel place mark) = check n)
    (ns : List Node) :
    (ns.map (relabel place mark)).filter check = (ns.filter check).map (relabel place mark) := by
  rw [List.filter_map]
  exact congrArg (fun c => (ns.filter c).map (relabel place mark)) (funext h)

/-- A search that asks nothing of labels finds what it found before, relabelled. -/
theorem find?_relabel {check : Node → Bool} (h : ∀ n, check (n.relabel place mark) = check n)
    (ns : List Node) :
    (ns.map (relabel place mark)).find? check = (ns.find? check).map (relabel place mark) := by
  rw [List.find?_map]
  exact congrArg (fun c => (ns.find? c).map (relabel place mark)) (funext h)

/-- A check that asks nothing of labels comes out the same. -/
theorem any_relabel {check : Node → Bool} (h : ∀ n, check (n.relabel place mark) = check n)
    (ns : List Node) : (ns.map (relabel place mark)).any check = ns.any check := by
  rw [List.any_map]
  exact congrArg (ns.any ·) (funext h)

theorem find?_field_relabel (f : Field) (ns : List Node) :
    (ns.map (relabel place mark)).find? (·.field = some f)
      = (ns.find? (·.field = some f)).map (relabel place mark) := by
  apply find?_relabel
  intro n
  rw [field_relabel]

/-- The child in a field is the one that was there, relabelled. -/
theorem child?_relabel (n : Node) (f : Field) :
    (n.relabel place mark).child? f = (n.child? f).map (relabel place mark) := by
  rw [child?, children_relabel]
  exact find?_field_relabel f n.children

theorem contents_relabel (n : Node) :
    (n.relabel place mark).contents = n.contents.map (relabel place mark) := by
  rw [contents, children_relabel]
  exact filter_relabel isContent_relabel n.children

end Syntax.Node

open Syntax

variable {place : Nat → Nat} {mark : Bool → Bool}

/-! ### Constants and options -/

namespace Literal

/-- A fault on another line. -/
def Fault.renumber (place : Nat → Nat) : Fault → Fault
  | unsupported kind text line => unsupported kind text (place line)
  | interpolated text line => interpolated text (place line)
  | badConcatenation text line => badConcatenation text (place line)

@[simp] theorem Fault.line_renumber (fault : Fault) :
    (fault.renumber place).line = place fault.line := by
  cases fault <;> rfl

theorem hasSubstitution_relabel (ns : List Node) :
    hasSubstitution (ns.map (Node.relabel place mark)) = hasSubstitution ns := by
  apply Node.any_relabel
  intro n
  rw [Node.kind_relabel]

theorem isPlus_relabel (ns : List Node) :
    isPlus (ns.map (Node.relabel place mark)) = isPlus ns := by
  unfold isPlus
  rw [Node.find?_field_relabel]
  cases ns.find? (·.field = some .operator) with
  | none => rfl
  | some op =>
    show decide ((op.relabel place mark).kind = _) = decide (op.kind = _)
    rw [Node.kind_relabel]

mutual

/-- An expression folds to what it did, or fails for the same reason. -/
theorem fold_relabel :
    (n : Node) → fold (n.relabel place mark) = (fold n).mapError (·.renumber place)
  | ⟨kind, field, text, line, missing, hasError, children⟩ => by
    have hrole := fun f => foldRole_relabel f children
    have hcontents := foldContents_relabel children
    rw [Node.relabel, Node.relabelAll_eq_map]
    unfold fold
    split
    case h_2 =>
      rw [hasSubstitution_relabel]
      split <;> rfl
    case h_3 =>
      rw [hcontents]
      rcases foldContents children with - | ⟨value, - | ⟨_, _⟩⟩
      · rfl
      · rfl
      · rfl
    case h_4 =>
      rw [hrole .left, hrole .right, isPlus_relabel]
      rcases foldRole .left children with - | a | a <;>
        rcases foldRole .right children with - | b | b <;>
          cases isPlus children <;> rfl
    all_goals rfl
termination_by structural n => n

/-- The pieces of a text fold to the same value, or to the same fault on its new line. -/
theorem foldContents_relabel :
    (ns : List Node) → foldContents (ns.map (Node.relabel place mark))
      = (foldContents ns).map (·.mapError (·.renumber place))
  | [] => rfl
  | n :: ns => by
    rw [List.map_cons, foldContents, foldContents, Node.isContent_relabel, fold_relabel n,
      foldContents_relabel ns]
    split <;> rfl
termination_by structural ns => ns

/-- What stands in a field folds to the same value, or to the same fault on its new line. -/
theorem foldRole_relabel (f : Field) :
    (ns : List Node) → foldRole f (ns.map (Node.relabel place mark))
      = (foldRole f ns).map (·.mapError (·.renumber place))
  | [] => rfl
  | n :: ns => by
    rw [List.map_cons, foldRole, foldRole, Node.field_relabel, fold_relabel n,
      foldRole_relabel f ns]
    split <;> rfl
termination_by structural ns => ns

end

theorem boolean?_relabel (n : Node) : boolean? (n.relabel place mark) = boolean? n := by
  rw [boolean?, boolean?, Node.kind_relabel]

theorem isPairOf_relabel (key : String) (n : Node) :
    isPairOf key (n.relabel place mark) = isPairOf key n := by
  rw [isPairOf, isPairOf, Node.kind_relabel, Node.child?_relabel]
  cases n.child? .key with
  | none => rfl
  | some k =>
    show (_ && decide (keyText (k.relabel place mark) = key)) = (_ && decide (keyText k = key))
    rw [keyText, keyText, Node.kind_relabel, Node.text_relabel]

/-- An object has the same properties, relabelled. -/
theorem property?_relabel (object : Node) (key : String) :
    property? (object.relabel place mark) key
      = (property? object key).map (Node.relabel place mark) := by
  rw [property?, property?, Node.contents_relabel, Node.find?_relabel (isPairOf_relabel key)]
  cases object.contents.find? (isPairOf key) with
  | none => rfl
  | some pair => exact Node.child?_relabel pair .value

end Literal

/-! ### Markers -/

/-- A marker with its arguments and its line replaced. -/
def Marker.relabel (place : Nat → Nat) (mark : Bool → Bool) (m : Marker) : Marker :=
  { m with args := m.args.map (Node.relabel place mark), line := place m.line }

theorem calleeName?_relabel (n : Node) : calleeName? (n.relabel place mark) = calleeName? n := by
  rw [calleeName?, calleeName?, Node.kind_relabel, Node.text_relabel, Node.child?_relabel,
    Option.map_map]
  simp only [Function.comp_def, Node.text_relabel]

/-- A decorator calls the same name with the same arguments, relabelled. -/
theorem decoratorCall?_relabel (d : Node) :
    decoratorCall? (d.relabel place mark)
      = (decoratorCall? d).map fun c => (c.1, c.2.map (Node.relabel place mark)) := by
  unfold decoratorCall?
  rw [Node.contents_relabel]
  cases d.contents with
  | nil => rfl
  | cons e rest =>
    simp only [List.map_cons, Node.kind_relabel, Node.child?_relabel]
    split
    · cases e.child? .function with
      | none => rfl
      | some f =>
        simp only [Option.map_some, Option.bind_eq_bind, Option.bind_some, calleeName?_relabel]
        cases calleeName? f with
        | none => rfl
        | some name =>
          cases e.child? .arguments with
          | none => rfl
          | some list => simp [Node.contents_relabel]
    · rw [calleeName?_relabel]
      cases calleeName? e <;> rfl

/-- A decorator is the same marker, on its new line. -/
theorem marker?_relabel (d : Node) :
    marker? (d.relabel place mark) = (marker? d).map (Marker.relabel place mark) := by
  unfold marker?
  rw [decoratorCall?_relabel]
  cases decoratorCall? d with
  | none => rfl
  | some call =>
    obtain ⟨name, args⟩ := call
    simp only [Option.map_some, Option.bind_eq_bind, Option.bind_some]
    cases MarkerKind.ofName? name with
    | none => rfl
    | some kind => simp [Marker.relabel]

theorem unknownName?_relabel (d : Node) : unknownName? (d.relabel place mark) = unknownName? d := by
  unfold unknownName?
  rw [decoratorCall?_relabel]
  cases decoratorCall? d <;> rfl

theorem filterMap_marker?_relabel (ds : List Node) :
    (ds.map (Node.relabel place mark)).filterMap marker?
      = (ds.filterMap marker?).map (Marker.relabel place mark) := by
  rw [List.filterMap_map, List.map_filterMap]
  exact congrArg (List.filterMap · ds) (funext marker?_relabel)

namespace Extract

open Literal

/-! ### Findings -/

def Cause.renumber (place : Nat → Nat) : Cause → Cause
  | unfoldablePath fault => unfoldablePath (fault.renumber place)
  | unfoldableChannel site fault => unfoldableChannel site (fault.renumber place)
  | cause => cause

def Warning.renumber (place : Nat → Nat) (w : Warning) : Warning :=
  { w with line := place w.line, cause := w.cause.renumber place }

/-- A finding on other lines. -/
def Finding.renumber (place : Nat → Nat) : Finding → Finding
  | route verb pattern handler controller line =>
      route verb pattern handler controller (place line)
  | task queue method consumer isBatch line => task queue method consumer isBatch (place line)
  | warning w => warning (w.renumber place)
  | finding => finding

/-- Lines that stay where they are change no finding. -/
theorem Finding.renumber_id (f : Finding) : f.renumber id = f := by
  have hfault : ∀ fault : Fault, fault.renumber id = fault := by
    intro fault
    cases fault <;> rfl
  cases f with
  | warning w =>
    obtain ⟨line, site, cause⟩ := w
    cases cause <;> simp [Finding.renumber, Warning.renumber, Cause.renumber, hfault]
  | _ => rfl

/-- What is ignored is told without a line. -/
theorem map_renumber_ignoredOf (ds : List Node) :
    (ignoredOf ds).map (·.renumber place) = ignoredOf ds := by
  rw [ignoredOf, List.map_map]
  rfl

/-- The same decorators are ignored. -/
theorem ignoredOf_relabel (ds : List Node) :
    ignoredOf (ds.map (Node.relabel place mark)) = (ignoredOf ds).map (·.renumber place) := by
  rw [map_renumber_ignoredOf, ignoredOf, ignoredOf, List.filterMap_map]
  exact congrArg (fun c => (ds.filterMap c).map Finding.ignored) (funext unknownName?_relabel)

/-- A path argument comes to the same path, with its warnings on their new lines. -/
theorem foldPath_relabel (site : String) (argument : Node) :
    foldPath site (argument.relabel place mark)
      = ((foldPath site argument).1, (foldPath site argument).2.map (·.renumber place)) := by
  rw [foldPath, foldPath, fold_relabel]
  cases fold argument with
  | ok value => rfl
  | error fault =>
    show (_, [warnAt (fault.renumber place).line _ _]) = _
    rw [Fault.line_renumber]
    rfl

theorem find?_marker_relabel (kind : MarkerKind) (ms : List Marker) :
    (ms.map (Marker.relabel place mark)).find? (·.kind = kind)
      = (ms.find? (·.kind = kind)).map (Marker.relabel place mark) := by
  rw [List.find?_map]
  rfl

/-- A class has the same base path, with its warnings on their new lines. -/
theorem basePathOf_relabel (name : String) (ms : List Marker) :
    basePathOf name (ms.map (Marker.relabel place mark))
      = ((basePathOf name ms).1, (basePathOf name ms).2.map (·.renumber place)) := by
  unfold basePathOf
  rw [find?_marker_relabel]
  cases ms.find? (·.kind = .basePath) with
  | none => rfl
  | some m =>
    simp only [Option.map_some, Marker.relabel]
    cases m.args with
    | nil => rfl
    | cons argument rest => exact foldPath_relabel name argument

/-- A class has the same context, with its warnings on their new lines. -/
theorem contextOf_relabel (p : Pipeline) (name : String) (ms : List Marker) :
    contextOf p name (ms.map (Marker.relabel place mark))
      = ((contextOf p name ms).1, (contextOf p name ms).2.map (·.renumber place)) := by
  cases p with
  | http =>
    simp only [contextOf, find?_marker_relabel]
    cases ms.find? (·.kind = .controller) with
    | none => rfl
    | some m =>
      simp only [Option.map_some, Marker.relabel]
      cases m.args with
      | nil => rfl
      | cons argument rest =>
        simp only [List.map_cons, foldPath_relabel, basePathOf_relabel, List.map_append]
  | queue =>
    simp only [contextOf, find?_marker_relabel]
    cases ms.find? (·.kind = .consumer) with
    | none => rfl
    | some m =>
      simp only [Option.map_some, Marker.relabel, List.isEmpty_map]
      split <;> rfl

/-! ### Methods -/

section Method

variable {context : Context} {method : String} {line : Nat}

/-- A marker of a method gives the same route, on its new line. -/
theorem routeOf_relabel (m : Marker) (verb : Verb) :
    routeOf context method (place line) (m.relabel place mark) verb
      = (routeOf context method line m verb).map (·.renumber place) := by
  unfold routeOf
  simp only [Marker.relabel]
  cases m.args with
  | nil => rfl
  | cons argument rest =>
    simp only [List.map_cons, foldPath_relabel, List.map_append]
    rfl

/-- A marker of a method gives the same task, on its new line. -/
theorem taskOf_relabel (m : Marker) :
    taskOf context method (place line) (m.relabel place mark)
      = (taskOf context method line m).map (·.renumber place) := by
  have hoptions : (m.relabel place mark).args.head?.filter (·.kind = .object)
      = (m.args.head?.filter (·.kind = .object)).map (Node.relabel place mark) := by
    simp only [Marker.relabel, List.head?_map]
    cases m.args.head? with
    | none => rfl
    | some argument =>
      simp only [Option.map_some, Option.filter_some, Node.kind_relabel]
      split <;> rfl
  unfold taskOf
  rw [hoptions]
  cases m.args.head?.filter (·.kind = .object) with
  | none => rfl
  | some options =>
    simp only [Option.map_some, property?_relabel]
    cases property? options "channel" with
    | none => rfl
    | some channel =>
      simp only [Option.map_some, fold_relabel]
      cases fold channel with
      | error fault => rfl
      | ok queue =>
        have hvalue : (Except.ok queue).mapError (fun fault : Fault => fault.renumber place)
            = .ok queue := rfl
        simp only [hvalue]
        split
        · rfl
        · cases property? options "batch" with
          | none => rfl
          | some value =>
            simp only [Option.map_some, boolean?_relabel, Node.text_relabel]
            cases boolean? value <;> rfl

theorem recordOf_relabel (m : Marker) :
    recordOf context method (place line) (m.relabel place mark)
      = (recordOf context method line m).map (·.renumber place) := by
  unfold recordOf
  rw [show (m.relabel place mark).kind = m.kind from rfl]
  split
  · exact routeOf_relabel m _
  · exact taskOf_relabel m
  · rfl

theorem modifierOf?_relabel (ns : List Node) :
    modifierOf? (ns.map (Node.relabel place mark)) = modifierOf? ns := by
  unfold modifierOf?
  rw [List.findSome?_map]
  refine congrArg (List.findSome? · ns) (funext fun n => ?_)
  rw [Function.comp_apply, Node.kind_relabel]

/-- A method gives the same findings, on their new lines. -/
theorem methodFindings_relabel (p : Pipeline) (context : Context) (ds ns : List Node) :
    methodFindings p context (ds.map (Node.relabel place mark)) (ns.map (Node.relabel place mark))
      = (methodFindings p context ds ns).map (·.renumber place) := by
  have hmarkers : ((ds.map (Node.relabel place mark)).filterMap marker?).filter (concerns p)
      = ((ds.filterMap marker?).filter (concerns p)).map (Marker.relabel place mark) := by
    rw [filterMap_marker?_relabel, List.filter_map]
    rfl
  unfold methodFindings
  rw [hmarkers, ignoredOf_relabel, List.map_append, Node.find?_field_relabel]
  refine congrArg _ ?_
  cases (ds.filterMap marker?).filter (concerns p) with
  | nil => rfl
  | cons m ms =>
    simp only [List.map_cons]
    cases ns.find? (·.field = some .name) with
    | none => rfl
    | some name =>
      simp only [Option.map_some, Node.kind_relabel, Node.text_relabel, Node.line_relabel,
        modifierOf?_relabel]
      split
      · rfl
      · cases modifierOf? ns with
        | some modifier => rfl
        | none =>
          show (List.map _ (m :: ms)).flatMap _ = _
          rw [List.flatMap_map, List.map_flatMap]
          exact congrArg (List.flatMap · (m :: ms)) (funext recordOf_relabel)

end Method

/-! ### The walk -/

def Attached.relabel (place : Nat → Nat) (mark : Bool → Bool) (a : Attached) : Attached :=
  { a with decorators := a.decorators.map (Node.relabel place mark) }

theorem decoratorsOf_relabel (ns : List Node) :
    decoratorsOf (ns.map (Node.relabel place mark))
      = (decoratorsOf ns).map (Node.relabel place mark) := by
  rw [decoratorsOf, Node.filter_relabel Node.isContent_relabel]
  apply Node.filter_relabel
  intro n
  rw [Node.kind_relabel]

/-- The same decorators are handed on, relabelled. -/
theorem attachedOf_relabel (kind : NodeKind) (ns : List Node) :
    attachedOf kind (ns.map (Node.relabel place mark))
      = (attachedOf kind ns).relabel place mark := by
  have hdefault : (ns.map (Node.relabel place mark)).any (·.kind = .token "default")
      = ns.any (·.kind = .token "default") := by
    apply Node.any_relabel
    intro n
    rw [Node.kind_relabel]
  rw [attachedOf, attachedOf, decoratorsOf_relabel, hdefault]
  split <;> rfl

/-- A class gives the same context and findings, on their new lines. -/
theorem classFindings_relabel (p : Pipeline) (name : String) (attached : Attached)
    (ns : List Node) :
    classFindings p name (attached.relabel place mark) (ns.map (Node.relabel place mark))
      = ((classFindings p name attached ns).1,
          (classFindings p name attached ns).2.map (·.renumber place)) := by
  have hdecorators : (attached.relabel place mark).decorators
        ++ decoratorsOf (ns.map (Node.relabel place mark))
      = (attached.decorators ++ decoratorsOf ns).map (Node.relabel place mark) := by
    rw [decoratorsOf_relabel, List.map_append]
    rfl
  unfold classFindings
  rw [hdecorators]
  dsimp only
  rw [filterMap_marker?_relabel, ignoredOf_relabel, contextOf_relabel]
  generalize contextOf p name ((attached.decorators ++ decoratorsOf ns).filterMap marker?) = found
  obtain ⟨context, warnings⟩ := found
  cases context with
  | none => simp only [List.map_append, List.map_nil]
  | some context =>
    simp only [List.map_append]
    rfl

mutual

/-- The findings in a relabelled tree are those in the tree, on other lines. -/
theorem survey_relabel (p : Pipeline) (attached : Attached) :
    (n : Node) → survey p (attached.relabel place mark) (n.relabel place mark)
      = (survey p attached n).map (·.renumber place)
  | ⟨kind, field, text, line, missing, hasError, children⟩ => by
    have hbody := fun context => surveyClassBody_relabel p context children
    have hchildren := surveyAll_relabel p (attachedOf kind children) children
    rw [Node.relabel, Node.relabelAll_eq_map, survey, survey, Node.find?_field_relabel]
    split
    · cases children.find? (·.field = some .name) with
      | none => rfl
      | some name =>
        simp only [Option.map_some, Node.text_relabel, classFindings_relabel, hbody,
          List.map_append]
    · rw [attachedOf_relabel]
      exact hchildren
termination_by structural n => n

theorem surveyAll_relabel (p : Pipeline) (attached : Attached) :
    (ns : List Node) →
      surveyAll p (attached.relabel place mark) (ns.map (Node.relabel place mark))
        = (surveyAll p attached ns).map (·.renumber place)
  | [] => rfl
  | n :: ns => by
    rw [List.map_cons, surveyAll, surveyAll, Node.isContent_relabel, survey_relabel p attached n,
      surveyAll_relabel p attached ns]
    split
    · rw [List.map_append]
    · rfl
termination_by structural ns => ns

theorem surveyClassBody_relabel (p : Pipeline) (context : Option Context) :
    (ns : List Node) → surveyClassBody p context (ns.map (Node.relabel place mark))
      = (surveyClassBody p context ns).map (·.renumber place)
  | [] => rfl
  | n :: ns => by
    rw [List.map_cons, surveyClassBody, surveyClassBody, Node.field_relabel,
      surveyBody_relabel p context n, surveyClassBody_relabel p context ns]
    split <;> rfl
termination_by structural ns => ns

theorem surveyBody_relabel (p : Pipeline) (context : Option Context) :
    (n : Node) → surveyBody p context (n.relabel place mark)
      = (surveyBody p context n).map (·.renumber place)
  | ⟨kind, field, text, line, missing, hasError, members⟩ => by
    have hmembers := surveyMembers_relabel p context (attachedOf kind members) [] members
    rw [Node.relabel, Node.relabelAll_eq_map, surveyBody, surveyBody, attachedOf_relabel]
    exact hmembers
termination_by structural n => n

theorem surveyMembers_relabel (p : Pipeline) (context : Option Context) (attached : Attached)
    (pending : List Node) :
    (ns : List Node) →
      surveyMembers p context (attached.relabel place mark)
          (pending.map (Node.relabel place mark)) (ns.map (Node.relabel place mark))
        = (surveyMembers p context attached pending ns).map (·.renumber place)
  | [] => rfl
  | n :: ns => by
    have hskip := surveyMembers_relabel p context attached pending ns
    have hkeep := surveyMembers_relabel p context attached (pending ++ [n]) ns
    have hdrop := surveyMembers_relabel p context attached [] ns
    rw [List.map_append] at hkeep
    rw [List.map_cons, surveyMembers, surveyMembers, Node.isContent_relabel, Node.kind_relabel,
      survey_relabel p attached n, surveyMethod_relabel p context pending n]
    split
    · exact hskip
    · split
      · exact hkeep
      · -- any other member uses up the decorators before it, or drops them
        rw [List.map_nil] at hdrop
        rw [hdrop]
        split <;> rw [List.map_append]
termination_by structural ns => ns

theorem surveyMethod_relabel (p : Pipeline) (context : Option Context) (pending : List Node) :
    (n : Node) →
      surveyMethod p context (pending.map (Node.relabel place mark)) (n.relabel place mark)
        = (surveyMethod p context pending n).map (·.renumber place)
  | ⟨kind, field, text, line, missing, hasError, children⟩ => by
    have hbody := surveyMethodBody_relabel p children
    rw [Node.relabel, Node.relabelAll_eq_map]
    cases context with
    | none =>
      rw [surveyMethod, surveyMethod]
      exact hbody
    | some context =>
      rw [surveyMethod, surveyMethod, hbody, List.map_append, decoratorsOf_relabel,
        ← List.map_append, methodFindings_relabel]
termination_by structural n => n

theorem surveyMethodBody_relabel (p : Pipeline) :
    (ns : List Node) → surveyMethodBody p (ns.map (Node.relabel place mark))
      = (surveyMethodBody p ns).map (·.renumber place)
  | [] => rfl
  | n :: ns => by
    rw [List.map_cons, surveyMethodBody, surveyMethodBody, Node.field_relabel,
      surveyMethodBody_relabel p ns]
    split
    · exact survey_relabel p {} n
    · rfl
termination_by structural ns => ns

end

/-- The walk consults no error mark. -/
theorem survey_unflagged (p : Pipeline) (root : Node) :
    survey p {} root.unflagged = survey p {} root := by
  have hwalk : survey p {} root.unflagged = (survey p {} root).map (·.renumber id) :=
    survey_relabel p {} root
  rw [hwalk, funext Finding.renumber_id, List.map_id']

end Extract

end DispatchGen

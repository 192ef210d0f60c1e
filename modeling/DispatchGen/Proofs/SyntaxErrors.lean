/-
DispatchGen/Proofs/SyntaxErrors.lean

The report of the syntax errors of a file.

The search for the first error turns back at every node that bears no error mark.  Where the marks
tell the truth (`MarksErrors`), nothing is lost by that: behind a node without a mark there is no
error, and so the search ends where a search through all nodes in document order ends
(`firstErrorLine?_eq`).  In particular it finds an error wherever there is one to report, and the
line that would stand in for one is never taken.

No other issue of a file is about its syntax (`noSyntaxWarning_survey`), and what the walk
finds does not depend on the marks at all.

Main statement: `syntax_errors_reported`.
-/
import DispatchGen.Grammar.File
import DispatchGen.Proofs.ClassIsolation
import DispatchGen.Proofs.Relabelling

namespace DispatchGen

/-! ### Errors in a tree -/

namespace Syntax.Node

/-- Whether a node is a syntax error: text that fits no rule, or a token that is missing. -/
def isSyntaxError (n : Node) : Bool := n.kind = .error || n.missing

mutual

/-- The nodes of a tree in document order, punctuation included, each before what is in it. -/
def preorder : Node → List Node
  | ⟨kind, field, text, line, missing, hasError, children⟩ =>
      ⟨kind, field, text, line, missing, hasError, children⟩ :: preorderAll children
termination_by structural n => n

def preorderAll : List Node → List Node
  | [] => []
  | n :: ns => preorder n ++ preorderAll ns
termination_by structural ns => ns

end

/-- The marks of a tree tell the truth: a node is marked exactly if it is a syntax error or there
is one below it. -/
def MarksErrors (root : Node) : Prop :=
  ∀ n ∈ root.preorder, n.hasError = true ↔ ∃ m ∈ n.preorder, m.isSyntaxError = true

instance (root : Node) : Decidable root.MarksErrors :=
  inferInstanceAs (Decidable (∀ n ∈ root.preorder, _))

/-- A node comes before what is below it. -/
theorem preorder_eq (n : Node) : n.preorder = n :: preorderAll n.children := by
  cases n
  rw [preorder]

theorem mem_preorder_self (n : Node) : n ∈ n.preorder := by
  rw [preorder_eq]
  exact List.mem_cons_self

/-- What is listed for siblings is listed for one of them. -/
theorem mem_preorderAll {m : Node} {ns : List Node} :
    m ∈ preorderAll ns ↔ ∃ n ∈ ns, m ∈ n.preorder := by
  induction ns with
  | nil => simp [preorderAll]
  | cons n ns ih => rw [preorderAll, List.mem_append, ih, List.exists_mem_cons_iff]

/-- Errors are marked in each part of a tree if they are in the whole. -/
theorem MarksErrors.child {root n : Node} (h : root.MarksErrors) (hn : n ∈ root.children) :
    n.MarksErrors := by
  intro m hm
  apply h
  rw [preorder_eq]
  exact List.mem_cons_of_mem _ (mem_preorderAll.mpr ⟨n, hn, hm⟩)

/-- A tree is marked exactly if there is an error in it. -/
theorem MarksErrors.hasError_iff {root : Node} (h : root.MarksErrors) :
    root.hasError = true ↔ (root.preorder.find? isSyntaxError).isSome = true := by
  rw [List.find?_isSome]
  exact h root (mem_preorder_self root)

mutual

/-- The search that turns back at unmarked nodes finds the first error of all. -/
theorem firstErrorLine?_eq :
    (n : Node) → n.MarksErrors →
      n.firstErrorLine? = (n.preorder.find? isSyntaxError).map (·.line)
  | ⟨kind, field, text, line, missing, hasError, children⟩, h => by
    have hbelow := firstErrorLineIn?_eq children fun n hn => h.child hn
    have hmarked : hasError = true ↔ _ := h.hasError_iff
    rw [firstErrorLine?]
    split
    case isTrue hself =>
      have hself : isSyntaxError ⟨kind, field, text, line, missing, hasError, children⟩ = true := by
        simpa [isSyntaxError] using hself
      rw [preorder, List.find?_cons_of_pos hself, Option.map_some]
    case isFalse hself =>
      have hself : ¬ isSyntaxError ⟨kind, field, text, line, missing, hasError, children⟩ := by
        simpa [isSyntaxError] using hself
      rw [preorder, List.find?_cons_of_neg hself] at hmarked ⊢
      split
      case isTrue => exact hbelow
      case isFalse hunmarked =>
        -- nothing is lost by turning back
        have hnone := Option.not_isSome_iff_eq_none.mp (mt hmarked.mpr hunmarked)
        rw [hnone, Option.map_none]
termination_by structural n => n

/-- The first error below siblings is the first that is listed for them. -/
theorem firstErrorLineIn?_eq :
    (ns : List Node) → (∀ n ∈ ns, n.MarksErrors) →
      firstErrorLineIn? ns = ((preorderAll ns).find? isSyntaxError).map (·.line)
  | [], _ => rfl
  | n :: ns, h => by
    have hrest := firstErrorLineIn?_eq ns fun m hm => h m (List.mem_cons_of_mem n hm)
    rw [firstErrorLineIn?, preorderAll, List.find?_append,
      firstErrorLine?_eq n (h n List.mem_cons_self), hrest]
    cases n.preorder.find? isSyntaxError <;> rfl
termination_by structural ns => ns

end

/-- Where there is an error to report, the search finds its line. -/
theorem MarksErrors.isSome_firstErrorLine? {root : Node} (h : root.MarksErrors)
    (hmarked : root.hasError = true) : root.firstErrorLine?.isSome = true := by
  rw [firstErrorLine?_eq root h, Option.isSome_map]
  exact h.hasError_iff.mp hmarked

end Syntax.Node

namespace Extract

open Syntax Literal

/-! ### All other issues -/

/-- Whether a finding says that the file does not parse. -/
def Finding.isSyntaxWarning : Finding → Bool
  | warning w => w.cause = .syntaxErrors
  | _ => false

/-- None of some findings is about syntax errors. -/
def NoSyntaxWarning (fs : List Finding) : Prop := ∀ f ∈ fs, f.isSyntaxWarning = false

namespace NoSyntaxWarning

theorem nil : NoSyntaxWarning [] := by
  intro f hf
  cases hf

theorem append {fs gs : List Finding} (hf : NoSyntaxWarning fs) (hg : NoSyntaxWarning gs) :
    NoSyntaxWarning (fs ++ gs) := by
  intro f h
  rcases List.mem_append.mp h with h | h
  · exact hf f h
  · exact hg f h

theorem single {f : Finding} (h : f.isSyntaxWarning = false) : NoSyntaxWarning [f] := by
  intro g hg
  rw [List.mem_singleton.mp hg]
  exact h

/-- Issues about anything else bear another name. -/
theorem kind_ne {fs : List Finding} (h : NoSyntaxWarning fs) {module : Path} {i : Issue}
    (hi : i ∈ fs.filterMap (·.issue? module)) : i.kind ≠ "parse_error" := by
  obtain ⟨f, hf, hissue⟩ := List.mem_filterMap.mp hi
  cases f with
  | warning w =>
    cases hissue
    have hcause : decide (w.cause = .syntaxErrors) = false := h _ hf
    obtain ⟨line, site, cause⟩ := w
    show cause.kind ≠ _
    cases cause with
    | syntaxErrors => cases hcause
    | _ => simp [Cause.kind]
  | _ => cases hissue

end NoSyntaxWarning

theorem noSyntaxWarning_ignoredOf (ds : List Node) : NoSyntaxWarning (ignoredOf ds) := by
  intro f hf
  obtain ⟨_, _, rfl⟩ := List.mem_map.mp hf
  rfl

/-- A path argument gives no syntax warning. -/
theorem noSyntaxWarning_foldPath (site : String) (argument : Node) :
    NoSyntaxWarning (foldPath site argument).2 := by
  unfold foldPath
  cases fold argument with
  | ok value => exact .nil
  | error fault => exact .single rfl

/-- Base paths give no syntax warning. -/
theorem noSyntaxWarning_basePathOf (name : String) (ms : List Marker) :
    NoSyntaxWarning (basePathOf name ms).2 := by
  unfold basePathOf
  split
  · exact .nil
  · split
    · exact noSyntaxWarning_foldPath name _
    · exact .single rfl

theorem noSyntaxWarning_contextOf (p : Pipeline) (name : String) (ms : List Marker) :
    NoSyntaxWarning (contextOf p name ms).2 := by
  unfold contextOf
  split
  · split
    · exact .nil
    · split
      · exact .single rfl
      · exact (noSyntaxWarning_foldPath name _).append (noSyntaxWarning_basePathOf name ms)
  · split
    · exact .nil
    · split
      · exact .single rfl
      · exact .nil

/-- A class gives no syntax warning. -/
theorem noSyntaxWarning_classFindings (p : Pipeline) (name : String) (attached : Attached)
    (ns : List Node) :
    NoSyntaxWarning (classFindings p name attached ns).2 := by
  refine ((noSyntaxWarning_ignoredOf _).append (noSyntaxWarning_contextOf p name _)).append ?_
  split
  · exact .single rfl
  · exact .nil

theorem noSyntaxWarning_routeOf (context : Context) (method : String) (line : Nat) (m : Marker)
    (verb : Verb) :
    NoSyntaxWarning (routeOf context method line m verb) := by
  unfold routeOf
  split
  · exact .single rfl
  · exact (noSyntaxWarning_foldPath _ _).append (.single rfl)

theorem noSyntaxWarning_taskOf (context : Context) (method : String) (line : Nat) (m : Marker) :
    NoSyntaxWarning (taskOf context method line m) := by
  unfold taskOf
  -- no options, no channel, a channel that cannot be folded, an empty one
  split
  · exact .single rfl
  · split
    · exact .single rfl
    · split
      · exact .single rfl
      · split
        · exact .single rfl
        · refine .append ?_ (.single rfl)
          -- what is said about the batch option
          split
          · exact .nil
          · split
            · exact .nil
            · exact .single rfl

/-- A marker gives no syntax warning. -/
theorem noSyntaxWarning_recordOf (context : Context) (method : String) (line : Nat) (m : Marker) :
    NoSyntaxWarning (recordOf context method line m) := by
  unfold recordOf
  split
  · exact noSyntaxWarning_routeOf context method line m _
  · exact noSyntaxWarning_taskOf context method line m
  · exact .nil

/-- A method gives no syntax warning. -/
theorem noSyntaxWarning_methodFindings (p : Pipeline) (context : Context) (ds ns : List Node) :
    NoSyntaxWarning (methodFindings p context ds ns) := by
  refine (noSyntaxWarning_ignoredOf ds).append ?_
  split
  · exact .nil
  · split
    · exact .nil
    · dsimp only
      split
      · exact .single rfl
      · split
        · exact .single rfl
        · intro f hf
          obtain ⟨m, -, hf⟩ := List.mem_flatMap.mp hf
          exact noSyntaxWarning_recordOf context _ _ m f hf

/-- No stop of the walk gives a syntax warning. -/
theorem noSyntaxWarning_stop (p : Pipeline) (s : Stop) : NoSyntaxWarning (s.findings p) := by
  cases s with
  | enter c => exact noSyntaxWarning_classFindings p _ _ _
  | meet c m =>
    show NoSyntaxWarning (m.findings p c.site)
    unfold MethodAt.findings
    split
    · exact noSyntaxWarning_methodFindings p _ _ _
    · exact .nil

/-- The walk says nothing about syntax errors. -/
theorem noSyntaxWarning_survey (p : Pipeline) (root : Node) :
    NoSyntaxWarning (survey p {} root) := by
  intro f hf
  have hwalk : survey p {} root = (stopsOf root).flatMap (·.findings p) :=
    survey_eq_flatMap p [] none root
  rw [hwalk] at hf
  obtain ⟨s, -, hf⟩ := List.mem_flatMap.mp hf
  exact noSyntaxWarning_stop p s f hf

/-! ### Main statement -/

/-- The issue about the syntax errors of `module`. -/
def parseError (module : Path) (line : Nat) : Issue where
  location := module.text ++ ":" ++ toString line
  severity := .warning
  kind := "parse_error"
  message := "file contains syntax errors; markers near the error may be missed"

/-- A file has one issue for its first syntax error, if it has one. -/
theorem issues_syntaxFindings (module : Path) {root : Node} (h : root.MarksErrors) :
    (syntaxFindings root).filterMap (·.issue? module)
      = ((root.preorder.find? Node.isSyntaxError).map
          fun n => parseError module n.line).toList := by
  unfold syntaxFindings
  rw [Node.firstErrorLine?_eq root h]
  have hmarked := h.hasError_iff
  cases hfound : root.preorder.find? Node.isSyntaxError with
  | none =>
    have hunmarked : ¬ root.hasError = true := by
      intro hflag
      rw [hfound] at hmarked
      cases hmarked.mp hflag
    rw [if_neg hunmarked]
    rfl
  | some n =>
    rw [hfound] at hmarked
    rw [if_pos (hmarked.mpr rfl)]
    show [Warning.issue module ⟨n.line, none, .syntaxErrors⟩] = [parseError module n.line]
    simp only [Warning.issue, parseError, String.append_empty]
    rfl

/-- **Syntax errors are reported once and at the right place.**  Let the marks of a tree tell the
truth.  If there is a syntax error in the tree, the first issue of the file is about it, at the
line of the first error in document order, punctuation included; else there is none.  No other
issue is about syntax.  Where the tree is marked the search finds a line, so none is made up.
Whatever the marks say, the classes, the routes, the tasks and the issues about markers are the
same. -/
theorem syntax_errors_reported (p : Pipeline) (module : Path) (root : Node) :
    (root.MarksErrors →
      (∃ others, (extract p module root).issues
          = ((root.preorder.find? Node.isSyntaxError).map
              fun n => parseError module n.line).toList ++ others ∧
        ∀ i ∈ others, i.kind ≠ "parse_error") ∧
      (root.hasError = true → root.firstErrorLine?.isSome = true)) ∧
    ∀ root' : Node, root'.unflagged = root.unflagged →
      (extract p module root').classes = (extract p module root).classes ∧
      (extract p module root').routes = (extract p module root).routes ∧
      (extract p module root').tasks = (extract p module root).tasks ∧
      markerIssues (extract p module root') = markerIssues (extract p module root) := by
  refine ⟨fun h => ⟨?reported, h.isSome_firstErrorLine?⟩, fun root' h => ?unflagged⟩
  case reported =>
    refine ⟨(survey p {} root).filterMap (·.issue? module), ?_, ?_⟩
    · rw [← issues_syntaxFindings module h, ← List.filterMap_append]
      rfl
    · intro i hi
      exact (noSyntaxWarning_survey p root).kind_ne hi
  case unflagged =>
    apply extract_of_survey_eq
    rw [← survey_unflagged, h, survey_unflagged]

/-- A consumer, a statement that does not parse, and a class that is never closed. -/
def brokenSource : Node :=
  Grammar.read .typeScript <|
    "@Consumer('g') class A \x7b\n  @Consumer(\x7b channel: 'q' \x7d) b() \x7b\x7d\n\x7d\n" ++
    "let x = ;\nclass B \x7b"

/-- Of two errors the first is reported, at its line, and the task before it is kept. -/
theorem syntax_errors_reported_broken :
    brokenSource.MarksErrors ∧
    (brokenSource.preorder.filter Node.isSyntaxError).map (fun n => (n.line, n.missing))
      = [(4, false), (5, true)] ∧
    (∃ others, (extract .queue ⟨"a.ts"⟩ brokenSource).issues
        = parseError ⟨"a.ts"⟩ 4 :: others ∧ ∀ i ∈ others, i.kind ≠ "parse_error") ∧
    (extract .queue ⟨"a.ts"⟩ brokenSource.unflagged).tasks
      = [⟨"q", "b", "A", false, ⟨⟨"a.ts"⟩, 2⟩⟩] := by
  have hread : brokenSource.MarksErrors ∧
      (brokenSource.preorder.filter Node.isSyntaxError).map (fun n => (n.line, n.missing))
        = [(4, false), (5, true)] ∧
      (brokenSource.preorder.find? Node.isSyntaxError).map (·.line) = some 4 ∧
      (extract .queue ⟨"a.ts"⟩ brokenSource).tasks
        = [⟨"q", "b", "A", false, ⟨⟨"a.ts"⟩, 2⟩⟩] := by decide +kernel
  obtain ⟨hmarks, herrors, hfirst, htasks⟩ := hread
  obtain ⟨hreported, hsame⟩ := syntax_errors_reported .queue ⟨"a.ts"⟩ brokenSource
  obtain ⟨⟨others, hissues, hothers⟩, -⟩ := hreported hmarks
  refine ⟨hmarks, herrors, ⟨others, ?_, hothers⟩, ?_⟩
  · obtain ⟨n, hn, hline⟩ := Option.map_eq_some_iff.mp hfirst
    rw [hissues, hn, Option.map_some, hline]
    rfl
  · rw [(hsame brokenSource.unflagged (Node.unflagged_relabel brokenSource)).2.2.1]
    exact htasks

end Extract

end DispatchGen

/-
DispatchGen/Proofs/LintVerdict.lean

Diagnostics and generation come to one verdict.

A run that reports diagnostics collects the tables of its targets first and looks for errors
in all of them; a run that generates builds each table on its own and refuses it if it has
errors.  Both look with `lint`, so what a target is refused for (`conflictsOf`) is what is
reported about it (`errors_of_tableOf`), and a target without a table is refused for nothing.
The text of a report is said as a whole (`printedReport`): what is printed of it has each error
once, all of them before the first warning.

Main statement: `lint_agrees_with_prepare`.
-/
import DispatchGen.Command.Program
import DispatchGen.Proofs.PreparedTable
import Mathlib.Algebra.GroupWithZero.Nat

namespace DispatchGen

open Grammar (Reader)

/-! ### Reports -/

namespace Report

variable {α β : Type}

theorem bind_assoc {γ : Type} (r : Report α) (f : α → Report β) (g : β → Report γ) :
    r >>= f >>= g = r >>= fun a => f a >>= g := by
  cases hr : r.result with
  | error e =>
    rw [bind_of_error hr, bind_of_error hr]
    exact bind_of_error rfl g
  | ok a =>
    rw [bind_of_ok hr, bind_of_ok hr]
    cases hf : (f a).result with
    | error e =>
      rw [bind_of_error hf]
      exact bind_of_error rfl g
    | ok b =>
      rw [bind_of_ok hf]
      refine (bind_of_ok rfl g).trans ?_
      rw [List.append_assoc]

instance : LawfulMonad Report := LawfulMonad.mk' _
  (fun ⟨result, effects⟩ => by cases result <;> simp [Functor.map])
  (fun _ _ => rfl) bind_assoc

/-- Prints nothing, whatever else it tells. -/
def Silent (r : Report α) : Prop := ∀ text, Effect.print text ∉ r.effects

theorem silent_pure (a : α) : (pure a : Report α).Silent := fun _ => List.not_mem_nil

/-- A report prints nothing if neither of its parts does. -/
theorem Silent.bind {r : Report α} {f : α → Report β} (hr : r.Silent)
    (hf : ∀ a, r.result = .ok a → (f a).Silent) : (r >>= f).Silent := by
  intro text
  cases hresult : r.result with
  | error e =>
    rw [bind_of_error hresult]
    exact hr text
  | ok a =>
    rw [bind_of_ok hresult, List.mem_append, not_or]
    exact ⟨hr text, hf a hresult text⟩

/-- One item after another, each of which succeeds and prints nothing. -/
theorem mapM_eq {f : α → Report β} {value : α → β} {items : List α}
    (h : ∀ x ∈ items, (f x).result = .ok (value x) ∧ (f x).Silent) :
    (items.mapM f).result = .ok (items.map value) ∧ (items.mapM f).Silent := by
  induction items with
  | nil => exact ⟨rfl, silent_pure []⟩
  | cons x items ih =>
    obtain ⟨hvalue, hsilent⟩ := h x List.mem_cons_self
    obtain ⟨hvalues, hsilents⟩ := ih fun y hy => h y (List.mem_cons_of_mem x hy)
    rw [List.mapM_cons]
    refine ⟨?_, hsilent.bind fun _ _ => hsilents.bind fun _ _ => silent_pure _⟩
    rw [bind_of_ok hvalue, bind_of_ok hvalues]
    rfl

/-- A loop that tells something of each item tells it in order. -/
theorem forIn_tell (effect : α → Effect) (items : List α) :
    (forIn items PUnit.unit fun item _ => do
      Report.tell (effect item)
      pure (ForInStep.yield PUnit.unit)) = (⟨.ok PUnit.unit, items.map effect⟩ : Report PUnit) := by
  induction items with
  | nil => rfl
  | cons item items ih =>
    rw [List.forIn_cons]
    refine (bind_of_ok rfl _).trans ?_
    simp only [ih]
    rfl

end Report

namespace Run

variable {σ α β : Type}

theorem current_bind (f : σ → Run σ α) (s : σ) : (current >>= f) s = f s s := rfl

theorem lift_bind_lift (r : Report α) (f : α → Report β) (s : σ) :
    ((monadLift r : Run σ α) >>= fun a => monadLift (f a)) s = (s, r >>= f) := by
  simp only [bind, monadLift, MonadLift.monadLift]
  cases r.result <;> rfl

end Run

namespace Project

/-! ### What building a table tells -/

/-- A survey tells its events to the log. -/
theorem silent_survey (target : Pipeline) (module : Path) (tree : Syntax.Node) :
    (survey target module tree).Silent := by
  intro text hprint
  obtain ⟨event, -, hevent⟩ := List.mem_map.mp hprint
  cases hevent

theorem silent_absorbVisit [Reader] (d : Disk) (target : Pipeline) (root : Path) (t : Table)
    (v : Visit) : (absorbVisit d target root t v).Silent := by
  cases v with
  | output file =>
    intro text hprint
    simp [absorbVisit, Report.tell, bind, pure] at hprint
  | unlisted directory fault => exact fun _ => List.not_mem_nil
  | source file =>
    rw [absorbVisit]
    cases d.readText file with
    | error fault => exact fun _ => List.not_mem_nil
    | ok text =>
      dsimp only
      cases Reader.tree? (Grammar.Dialect.ofPath file) text with
      | none => exact fun _ => List.not_mem_nil
      | some tree => exact (silent_survey target _ tree).bind fun _ _ => Report.silent_pure _

/-- Building a table prints nothing. -/
theorem silent_buildTable [Reader] (d : Disk) (target : Pipeline) (root : Path) (c : Config) :
    (buildTable d target root c).Silent := by
  rw [buildTable]
  cases scan d target (root.join (c.sourceDir target)) c (some (root.join (c.output target))) with
  | error e => exact fun _ => List.not_mem_nil
  | ok visits =>
    suffices h : ∀ t, (visits.foldlM (absorbVisit d target root) t).Silent from h {}
    induction visits with
    | nil => exact fun t => Report.silent_pure t
    | cons v visits ih =>
      intro t
      rw [List.foldlM_cons]
      exact (silent_absorbVisit d target root t v).bind fun t' _ => ih t'

end Project

namespace Command

open Emit Project

variable {d : Disk} {root : Path} {c : Config} {target : Pipeline}

/-! ### What a target is refused for -/

/-- The conflicts for which a target is refused; one that is switched off is not looked at. -/
def conflictsOf [Reader] (d : Disk) (root : Path) (c : Config) (target : Pipeline) : List Issue :=
  if c.isEnabled target then
    match (prepare d target root c).result with
    | .error (.conflicts _ errors) => errors
    | _ => []
  else []

/-- The table of a target can be built, or there is nothing to build it from. -/
def Surveyed [Reader] (d : Disk) (root : Path) (c : Config) (target : Pipeline) : Prop :=
  (∃ t, (buildTable d target root c).result = .ok t) ∨
    ∃ q directory, (buildTable d target root c).result = .error (.missingSourceDir q directory)

/-- A target without its source directory is surveyed. -/
theorem surveyed_of_missing [Reader] (h : d.isDirectory (root.join (c.sourceDir target)) = false) :
    Surveyed d root c target := by
  have hnone : d.directory? (root.join (c.sourceDir target)) = none := by
    rw [← Option.not_isSome_iff_eq_none]
    exact ne_true_of_eq_false h
  refine .inr ⟨target, root.join (c.sourceDir target), ?_⟩
  rw [buildTable, scan, hnone]
  rfl

/-- The table of a target, if it has one. -/
def tableOf [Reader] (d : Disk) (root : Path) (c : Config) (target : Pipeline) :
    Option (Pipeline × Table) :=
  if c.isEnabled target then (buildTable d target root c).result.toOption.map (target, ·) else none

/-- A surveyed target comes to its table, or to none, and prints nothing. -/
theorem tableOf?_eq [Reader] (h : c.isEnabled target = true → Surveyed d root c target) :
    (tableOf? d root c target).result = .ok (tableOf d root c target) ∧
      (tableOf? d root c target).Silent := by
  have hsilent := silent_buildTable d target root c
  unfold tableOf? tableOf
  split
  case isFalse => exact ⟨rfl, Report.silent_pure none⟩
  case isTrue henabled =>
    rcases h henabled with ⟨t, ht⟩ | ⟨q, directory, hmissing⟩
    · simp only [ht]
      exact ⟨rfl, hsilent⟩
    · simp only [hmissing]
      refine ⟨rfl, fun text hprint => ?_⟩
      rcases List.mem_append.mp hprint with hprint | hprint
      · exact hsilent text hprint
      · simp at hprint

/-- A surveyed target has conflicts exactly if its table is built and has diagnostics that are
errors. -/
theorem prepare_eq_conflicts_iff [Reader] (h : Surveyed d root c target) {q : Pipeline}
    {errors : List Issue} :
    (prepare d target root c).result = .error (.conflicts q errors) ↔
      q = target ∧ errors ≠ [] ∧ ∃ t, (buildTable d target root c).result = .ok t ∧
        errors = (lint t target).filter Issue.isError := by
  have hprepare : (prepare d target root c).result
      = (buildTable d target root c).result.bind (renderTable target root c) := by
    rw [result_prepare, result_buildTable]
    cases parseSources d target root c <;> rfl
  rw [hprepare]
  rcases h with ⟨t, ht⟩ | ⟨_, _, hmissing⟩
  · simp [ht, Except.bind, renderTable_eq_conflicts]
  · simp [hmissing, Except.bind]

/-- The errors found in a table are those that its target is refused for. -/
theorem errors_of_tableOf [Reader] (h : c.isEnabled target = true → Surveyed d root c target) :
    ((tableOf d root c target).toList.flatMap fun x => lint x.2 x.1).filter Issue.isError
      = conflictsOf d root c target := by
  unfold tableOf conflictsOf
  split
  case isFalse => rfl
  case isTrue henabled =>
    have hconflicts := @prepare_eq_conflicts_iff d root c target _ (h henabled)
    rcases h henabled with ⟨t, ht⟩ | ⟨_, _, hmissing⟩
    · simp only [ht, Except.toOption, Option.map_some, Option.toList_some, List.flatMap_singleton]
      split
      case h_1 q errors hrefused =>
        obtain ⟨-, -, t', ht', rfl⟩ := hconflicts.mp hrefused
        rw [ht] at ht'
        cases ht'
        rfl
      case h_2 hother =>
        by_contra hne
        exact hother target _ (hconflicts.mpr ⟨rfl, hne, t, ht, rfl⟩)
    · rw [hmissing]
      split
      case h_1 hrefused =>
        obtain ⟨-, -, t, ht, -⟩ := hconflicts.mp hrefused
        rw [hmissing] at ht
        cases ht
      case h_2 => rfl

/-- The warnings of a target's table; a target that has no table has none. -/
def warningsOf [Reader] (d : Disk) (root : Path) (c : Config) (target : Pipeline) : List Issue :=
  if c.isEnabled target then
    match (buildTable d target root c).result with
    | .ok t => (lint t target).filter (!·.isError)
    | .error _ => []
  else []

/-- The warnings of a target are those of its table. -/
theorem warnings_of_tableOf [Reader] (d : Disk) (root : Path) (c : Config) (target : Pipeline) :
    ((tableOf d root c target).toList.flatMap fun x => lint x.2 x.1).filter (!·.isError)
      = warningsOf d root c target := by
  unfold tableOf warningsOf
  split
  case isFalse => rfl
  case isTrue =>
    cases (buildTable d target root c).result with
    | error e => rfl
    | ok t =>
      simp only [Except.toOption, Option.map_some, Option.toList_some, List.flatMap_singleton]

/-- A surveyed target has diagnostics that are errors exactly if preparing it fails for conflicts.
-/
theorem conflictsOf_ne_nil_iff [Reader] (h : c.isEnabled target = true → Surveyed d root c target) :
    conflictsOf d root c target ≠ [] ↔ c.isEnabled target = true ∧
      ∃ errors, (prepare d target root c).result = .error (.conflicts target errors) := by
  unfold conflictsOf
  split
  case isFalse hdisabled => simp [hdisabled]
  case isTrue henabled =>
    split
    case h_1 q errors hrefused =>
      obtain ⟨rfl, hne, -⟩ := (prepare_eq_conflicts_iff (h henabled)).mp hrefused
      exact iff_of_true hne ⟨henabled, errors, hrefused⟩
    case h_2 hother =>
      refine iff_of_false (fun hne => hne rfl) ?_
      rintro ⟨-, errors, hrefused⟩
      exact hother target errors hrefused

/-! ### The tables of a run -/

variable {targets : List Pipeline}

/-- Surveyed targets come to their tables in order, and nothing is printed. -/
theorem collectTables_eq [Reader]
    (h : ∀ target ∈ targets, c.isEnabled target = true → Surveyed d root c target) :
    (collectTables d root c targets).result = .ok (targets.filterMap (tableOf d root c)) ∧
      (collectTables d root c targets).Silent := by
  obtain ⟨htables, hsilent⟩ := Report.mapM_eq fun target htarget =>
    tableOf?_eq (h target htarget)
  refine ⟨?_, hsilent.bind fun _ _ => Report.silent_pure _⟩
  rw [collectTables, Report.bind_of_ok htables, List.filterMap_map]
  rfl

/-- The errors in the tables of surveyed targets are those of the targets, in order. -/
theorem errors_of_tables [Reader]
    (h : ∀ target ∈ targets, c.isEnabled target = true → Surveyed d root c target) :
    ((targets.filterMap (tableOf d root c)).flatMap fun x => lint x.2 x.1).filter Issue.isError
      = targets.flatMap (conflictsOf d root c) := by
  rw [List.filterMap_eq_flatMap_toList, List.flatMap_assoc, List.filter_flatMap]
  exact List.flatMap_congr fun target htarget => errors_of_tableOf (h target htarget)

theorem warnings_of_tables [Reader] (d : Disk) (root : Path) (c : Config)
    (targets : List Pipeline) :
    ((targets.filterMap (tableOf d root c)).flatMap fun x => lint x.2 x.1).filter (!·.isError)
      = targets.flatMap (warningsOf d root c) := by
  rw [List.filterMap_eq_flatMap_toList, List.flatMap_assoc, List.filter_flatMap]
  exact List.flatMap_congr fun target _ => warnings_of_tableOf d root c target

/-! ### The report -/

/-- The diagnostics of tables that are shown. -/
def shownOf (errorsOnly : Bool) (tables : List (Pipeline × Table)) : List Issue :=
  let found := tables.flatMap fun (target, t) => lint t target
  if errorsOnly then found.filter Issue.isError else found

/-- All errors are shown. -/
theorem filter_shownOf (errorsOnly : Bool) (tables : List (Pipeline × Table)) :
    (shownOf errorsOnly tables).filter Issue.isError
      = (tables.flatMap fun x => lint x.2 x.1).filter Issue.isError := by
  cases errorsOnly with
  | false => rfl
  | true => exact List.filter_filter.trans (by simp only [Bool.and_self])

/-- The other diagnostics are shown unless only errors are asked for. -/
theorem warnings_shownOf (errorsOnly : Bool) (tables : List (Pipeline × Table)) :
    (shownOf errorsOnly tables).filter (!·.isError)
      = if errorsOnly then []
        else (tables.flatMap fun x => lint x.2 x.1).filter (!·.isError) := by
  cases errorsOnly with
  | false => rfl
  | true => exact List.filter_filter.trans (by simp)

/-- A lint prints the report of what it shows, and fails if it has to and there are errors. -/
theorem runLint_eq (failOnError errorsOnly : Bool) (tables : List (Pipeline × Table)) :
    runLint failOnError errorsOnly tables
      = ⟨if failOnError && !((shownOf errorsOnly tables).filter Issue.isError).isEmpty then
          .error (.lint ((shownOf errorsOnly tables).filter Issue.isError).length) else .ok (),
        (Issue.report (shownOf errorsOnly tables)).map printLine⟩ := by
  let shown := shownOf errorsOnly tables
  let errors := shown.filter Issue.isError
  let verdict : Report Unit :=
    if failOnError && !errors.isEmpty then throw (.lint errors.length) else pure ()
  have hlines := Report.forIn_tell printLine (Issue.report shown)
  have hrun : runLint failOnError errorsOnly tables
      = (⟨.ok ⟨⟩, (Issue.report shown).map printLine⟩ : Report PUnit) >>= fun _ => verdict :=
    congrArg (· >>= fun _ => verdict) hlines
  rw [hrun, Report.bind_of_ok rfl]
  change (⟨verdict.result, _ ++ verdict.effects⟩ : Report Unit) = _
  unfold verdict
  split
  · exact congrArg (Report.mk _) (List.append_nil _)
  · exact congrArg (Report.mk _) (List.append_nil _)

/-- A run that reports diagnostics does nothing else. -/
theorem execute_lint [Reader] {i : Invocation} {failOnError errorsOnly : Bool}
    (haction : i.action = .lint failOnError errorsOnly)
    (hload : loadConfig d i.config i.root = .ok c) :
    execute i d = (d, collectTables d i.root c i.targets >>= runLint failOnError errorsOnly) := by
  rw [execute, Run.current_bind]
  simp only [hload, haction]
  exact Run.lift_bind_lift _ _ d

/-- Lines that are printed after silence are all that is printed. -/
theorem stdoutOf_lines {told : List Effect} (htold : ∀ text, Effect.print text ∉ told)
    (lines : List String) :
    stdoutOf (told ++ lines.map printLine) = linesText lines := by
  induction told with
  | nil =>
    rw [List.nil_append, stdoutOf, List.filterMap_map, linesText]
    exact congrArg String.join (congrFun (List.filterMap_eq_map (f := (· ++ "\n"))) lines)
  | cons effect told ih =>
    have hlines := ih fun text htext => htold text (List.mem_cons_of_mem effect htext)
    cases effect with
    | print text => exact absurd List.mem_cons_self (htold text)
    | complain line => exact hlines
    | log event => exact hlines

/-! ### What is printed -/

/-- What is printed of an issue. -/
def printed (i : Issue) : String :=
  "   [" ++ i.kind ++ "] " ++ i.location ++ "\n" ++ "      " ++ i.message ++ "\n" ++
    (match i.suggestion with
      | some suggestion => "      💡 Suggestion: " ++ suggestion ++ "\n"
      | none => "")

/-- What is printed of several issues under a title: nothing, if there are none. -/
def printedGroup (title : String) (issues : List Issue) : String :=
  if issues = [] then "" else title ++ "\n" ++ String.join (issues.map printed) ++ "\n"

/-- What is printed in all: how many errors and warnings there are, then each error, then each
warning. -/
def printedReport (errors warnings : List Issue) : String :=
  if errors = [] ∧ warnings = [] then "✅ No lint issues found!\n"
  else
    "\n" ++ "📋 Lint Results:" ++ "\n" ++ "   " ++ toString errors.length ++ " error(s), " ++
      toString warnings.length ++ " warning(s)" ++ "\n" ++ "\n" ++
      printedGroup "❌ Errors (must fix):" errors ++
      printedGroup "⚠️  Warnings (should fix):" warnings

/-- The lines of an issue make up what is printed of it. -/
theorem linesText_reportLines (i : Issue) : linesText i.reportLines = printed i := by
  rw [Issue.reportLines, linesText_append, printed]
  cases i.suggestion with
  | none => simp only [linesText_cons, linesText_nil, String.append_assoc, String.append_empty]
  | some suggestion =>
    simp only [linesText_cons, linesText_nil, String.append_assoc, String.append_empty]

theorem linesText_flatMap_reportLines (issues : List Issue) :
    linesText (issues.flatMap Issue.reportLines) = String.join (issues.map printed) := by
  induction issues with
  | nil => rfl
  | cons i issues ih =>
    rw [List.flatMap_cons, linesText_append, linesText_reportLines, ih, List.map_cons,
      String.join_cons]

theorem linesText_groupLines (title : String) (issues : List Issue) :
    linesText (Issue.groupLines title issues) = printedGroup title issues := by
  cases issues with
  | nil => rfl
  | cons i issues =>
    have hlines : Issue.groupLines title (i :: issues)
        = [title] ++ (i :: issues).flatMap Issue.reportLines ++ [""] := rfl
    rw [hlines, linesText_append, linesText_append, linesText_flatMap_reportLines, printedGroup,
      if_neg (List.cons_ne_nil i issues)]
    simp [linesText, String.append_assoc]

/-- The report of issues shows the errors among them and then the others, each once and in
order. -/
theorem linesText_report (shown : List Issue) :
    linesText (Issue.report shown)
      = printedReport (shown.filter Issue.isError) (shown.filter (!·.isError)) := by
  cases shown with
  | nil => rfl
  | cons i issues =>
    have hsome : ¬((i :: issues).filter Issue.isError = [] ∧
        (i :: issues).filter (!·.isError) = []) := by
      rintro ⟨herrors, hwarnings⟩
      have herror := List.filter_eq_nil_iff.mp herrors i List.mem_cons_self
      have hwarning := List.filter_eq_nil_iff.mp hwarnings i List.mem_cons_self
      rw [Bool.not_eq_true] at herror
      exact hwarning (by rw [herror, Bool.not_false])
    rw [printedReport, if_neg hsome, Issue.report]
    simp only [List.isEmpty_cons, Bool.false_eq_true, if_false, linesText_append,
      linesText_groupLines, linesText_cons, linesText_nil, String.append_assoc, String.empty_append]

/-- How a run ends in which errors are fatal. -/
def endOf (errors : List Issue) : Except Failure Unit :=
  if errors.isEmpty then .ok () else .error (.lint errors.length)

theorem endOf_eq_error {errors : List Issue} {e : Failure} :
    endOf errors = .error e ↔ errors ≠ [] ∧ e = .lint errors.length := by
  cases errors with
  | nil => simp [endOf]
  | cons i errors => simp [endOf, eq_comm]

/-! ### Main statement -/

/-- **Diagnostics are fatal exactly where generation is refused.**  Take a run that reports
diagnostics and is to fail for errors, with or without the warnings, on a project of which
each target that is asked for and switched on has a table or no source directory.  It changes
nothing, and it fails if and only if one of these targets is refused for conflicts when its
module is prepared.  Then it reports how many conflicts there are in all.  What it prints is a
count of errors and warnings, then the conflicts of each target, in order and each once, and
then, unless only errors are asked for, the warnings of each target. -/
theorem lint_agrees_with_prepare [Reader] (d : Disk) (i : Invocation) (errorsOnly : Bool)
    (c : Config)
    (haction : i.action = .lint true errorsOnly)
    (hload : loadConfig d i.config i.root = .ok c)
    (hsurveyed : ∀ target ∈ i.targets, c.isEnabled target = true → Surveyed d i.root c target) :
    (execute i d).1 = d ∧
    ((∃ e, (execute i d).2.result = .error e) ↔
      ∃ target ∈ i.targets, c.isEnabled target = true ∧ ∃ errors,
        (prepare d target i.root c).result = .error (.conflicts target errors)) ∧
    (∀ e, (execute i d).2.result = .error e →
      e = .lint (i.targets.map fun target => (conflictsOf d i.root c target).length).sum) ∧
    stdoutOf (execute i d).2.effects
      = printedReport (i.targets.flatMap (conflictsOf d i.root c))
          (if errorsOnly then [] else i.targets.flatMap (warningsOf d i.root c)) := by
  let tables := i.targets.filterMap (tableOf d i.root c)
  let shown := shownOf errorsOnly tables
  obtain ⟨htables, hsilent⟩ := collectTables_eq hsurveyed
  have herrors : shown.filter Issue.isError = i.targets.flatMap (conflictsOf d i.root c) := by
    rw [filter_shownOf, errors_of_tables hsurveyed]
  have hwarnings : shown.filter (!·.isError)
      = if errorsOnly then [] else i.targets.flatMap (warningsOf d i.root c) := by
    rw [warnings_shownOf, warnings_of_tables]
  have hran : execute i d = (d, ⟨endOf (i.targets.flatMap (conflictsOf d i.root c)),
      (collectTables d i.root c i.targets).effects ++ (Issue.report shown).map printLine⟩) := by
    rw [execute_lint haction hload, Report.bind_of_ok htables, runLint_eq, herrors]
    cases i.targets.flatMap (conflictsOf d i.root c) <;> rfl
  rw [hran]
  refine ⟨rfl, ?fails, fun e he => ?number, ?printed⟩
  case fails =>
    have hsome : i.targets.flatMap (conflictsOf d i.root c) ≠ [] ↔
        ∃ target ∈ i.targets, conflictsOf d i.root c target ≠ [] := by
      rw [Ne, List.flatMap_eq_nil_iff]
      push Not
      rfl
    simp only [endOf_eq_error, exists_and_left, exists_eq, and_true, hsome]
    exact exists_congr fun target => and_congr_right fun htarget =>
      conflictsOf_ne_nil_iff (hsurveyed target htarget)
  case number => rw [(endOf_eq_error.mp he).2, List.length_flatMap]
  case printed => rw [stdoutOf_lines hsilent, linesText_report, herrors, hwarnings]

/-- A controller that has two routes of one key, and no consumers. -/
def clashing : Disk where
  root := [("src", .directory [("controllers", .directory [
    ("a.ts", .file
      "@Controller('a') class A \x7b @Get('/b') c() \x7b\x7d @Get('/b') d() \x7b\x7d \x7d".toUTF8)])])]

/-- The routes are in conflict, which is all that is printed, and the consumers are left out. -/
theorem lint_agrees_with_prepare_clashing :
    ∃ i : Invocation, i.targets = [.http, .queue] ∧
      (execute i clashing).2.result = .error (.lint 1) ∧
      (∃ errors, (prepare clashing .http i.root {}).result = .error (.conflicts .http errors)) ∧
      stdoutOf (execute i clashing).2.effects
        = "\n📋 Lint Results:\n   1 error(s), 0 warning(s)\n\n❌ Errors (must fix):\n" ++
          "   [duplicate_route] src/controllers/a.ts:1 A.d\n" ++
          "      GET /a/b is declared by both A.c (src/controllers/a.ts:1) and A.d " ++
          "(src/controllers/a.ts:1); the second handler is unreachable\n" ++
          "      💡 Suggestion: Change one of the paths or merge the handlers\n\n" := by
  let i : Invocation := { action := .lint true true }
  have hload : loadConfig clashing i.config i.root = .ok {} :=
    eq_ok_of_toOption (by decide +kernel)
  have hbuilt : Surveyed clashing i.root {} .http := by
    have htable : (buildTable clashing .http i.root {}).result.toOption.isSome = true := by
      decide +kernel
    obtain ⟨t, ht⟩ := Option.isSome_iff_exists.mp htable
    exact .inl ⟨t, eq_ok_of_toOption ht⟩
  have hmissing : Surveyed clashing i.root {} .queue := surveyed_of_missing (by decide +kernel)
  have hsurveyed : ∀ target ∈ i.targets, (({} : Config).isEnabled target = true) →
      Surveyed clashing i.root {} target := by
    intro target _ _
    cases target with
    | http => exact hbuilt
    | queue => exact hmissing
  -- the one conflict is that of the routes
  let conflict : Issue := {
    location := "src/controllers/a.ts:1 A.d"
    severity := .error
    kind := "duplicate_route"
    message := "GET /a/b is declared by both A.c (src/controllers/a.ts:1) and A.d " ++
      "(src/controllers/a.ts:1); the second handler is unreachable"
    suggestion := some "Change one of the paths or merge the handlers" }
  have hone : conflictsOf clashing i.root {} .http = [conflict] := by decide +kernel
  have hnone : conflictsOf clashing i.root {} .queue = [] := by decide +kernel
  have hconflicts := (conflictsOf_ne_nil_iff fun _ => hbuilt).mp
    (hone ▸ List.cons_ne_nil conflict [])
  obtain ⟨-, hfails, hnumber, hprinted⟩ :=
    lint_agrees_with_prepare clashing i true {} rfl hload hsurveyed
  obtain ⟨e, he⟩ := hfails.mpr ⟨.http, by decide, hconflicts⟩
  have htargets : i.targets = [.http, .queue] := rfl
  refine ⟨i, htargets, ?_, hconflicts.2, ?_⟩
  · rw [he, hnumber e he, htargets, List.map_cons, List.map_singleton, hone, hnone]
    rfl
  · rw [hprinted, htargets, List.flatMap_cons, List.flatMap_singleton, hone, hnone,
      List.append_nil, if_pos rfl]
    decide +kernel

end Command

end DispatchGen

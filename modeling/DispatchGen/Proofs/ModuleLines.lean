/-
DispatchGen/Proofs/ModuleLines.lean

The lines of a generated module.

A module is made line by line, and its text is that of its lines (`linesText`).  The text tells
the lines only if no line ends inside a line.  What a line splices into code is of three kinds:
quoted values, in which a line feed is escaped; names of the configuration, which are checked;
and the names of records, which are taken from the sources as they stand (`splicedNames`).  Only
of the last does the text depend on what the sources are read as: where they are each on one
line, so is every line of the module (`oneLine_of_routerModule`, `oneLine_of_dispatcherModule`).

A module starts with its imports and has no others (`exists_heading_of_render`): first those
that do not depend on the sources, then one for each class that a record refers to.
-/
import DispatchGen.Proofs.NameOrder
import DispatchGen.Proofs.Quotation
import DispatchGen.Proofs.Rendering

namespace DispatchGen

open Text

/-! ### Text on one line -/

/-- Text in which no line ends. -/
def OneLine (text : String) : Prop := '\n' ∉ text.toList

instance (text : String) : Decidable (OneLine text) :=
  inferInstanceAs (Decidable ('\n' ∉ text.toList))

@[simp] theorem oneLine_append {s t : String} : OneLine (s ++ t) ↔ OneLine s ∧ OneLine t := by
  simp [OneLine, not_or]

/-- A character that no binding name has is in none. -/
theorem notMem_of_isBindingName {name : String} {c : Char} (hname : isBindingName name = true)
    (hc : isBindingPart c = false) : c ∉ name.toList := by
  intro hmem
  have hpart : ∀ d ∈ name.toList, isBindingPart d = true := by
    unfold isBindingName at hname
    split at hname
    · cases hname
    case h_2 first rest hchars =>
      simp only [Bool.and_eq_true, List.all_eq_true] at hname
      have hfirst : isBindingPart first = true := by
        have hstart := hname.1
        simp only [isBindingStart, Bool.or_eq_true, decide_eq_true_eq] at hstart
        simp only [isBindingPart, Bool.or_eq_true, decide_eq_true_eq]
        exact .inl hstart
      rw [hchars, List.forall_mem_cons]
      exact ⟨hfirst, hname.2⟩
  rw [hpart c hmem] at hc
  cases hc

theorem oneLine_of_isBindingName {name : String} (h : isBindingName name = true) :
    OneLine name :=
  notMem_of_isBindingName h (by decide +kernel)

/-- A line feed is escaped between quotes. -/
theorem oneLine_quote (value : String) : OneLine (quote value) := by
  have hbody : '\n' ∉ value.toList.flatMap escapeChar := by
    simp only [List.mem_flatMap, not_exists, not_and]
    exact fun c _ => (escapeChar_escape c).feed_notMem
  simp [OneLine, toList_quote, hbody]

/-! ### The names of records -/

/-- The names in a record that stand in the code of its branch. -/
def Route.names (r : Route) : List String := [r.controller, r.handler]

def Task.names (k : Task) : List String := [k.consumer, k.method]

namespace Table

/-- The names in the records of a pipeline. -/
def splicedNames (t : Table) : Pipeline → List String
  | .http => t.routes.flatMap (·.names)
  | .queue => t.tasks.flatMap (·.names)

/-- No name of a record has a line feed in it. -/
def NamesOnOneLine (t : Table) (p : Pipeline) : Prop := ∀ name ∈ t.splicedNames p, OneLine name

variable {t : Table} {p : Pipeline}

theorem mem_splicedNames_of_mem_recordClasses {name : String} (h : name ∈ t.recordClasses p) :
    name ∈ t.splicedNames p := by
  cases p with
  | http =>
    obtain ⟨r, hr, rfl⟩ := List.mem_map.mp h
    exact List.mem_flatMap.mpr ⟨r, hr, List.mem_cons_self⟩
  | queue =>
    obtain ⟨k, hk, rfl⟩ := List.mem_map.mp h
    exact List.mem_flatMap.mpr ⟨k, hk, List.mem_cons_self⟩

theorem NamesOnOneLine.route (h : t.NamesOnOneLine .http) {r : Route} (hr : r ∈ t.routes) :
    OneLine r.controller ∧ OneLine r.handler := by
  constructor
  · exact h _ (List.mem_flatMap.mpr ⟨r, hr, by simp [Route.names]⟩)
  · exact h _ (List.mem_flatMap.mpr ⟨r, hr, by simp [Route.names]⟩)

theorem NamesOnOneLine.task (h : t.NamesOnOneLine .queue) {k : Task} (hk : k ∈ t.tasks) :
    OneLine k.consumer ∧ OneLine k.method := by
  constructor
  · exact h _ (List.mem_flatMap.mpr ⟨k, hk, by simp [Task.names]⟩)
  · exact h _ (List.mem_flatMap.mpr ⟨k, hk, by simp [Task.names]⟩)

end Table

namespace Emit

/-! ### Lines of a module -/

/-- What an import line binds, as it is written. -/
def ImportLine.binding (l : ImportLine) : String :=
  if l.isDefault then l.names else "\x7b " ++ l.names ++ " \x7d"

theorem ImportLine.text_eq (l : ImportLine) :
    l.text = "import " ++ l.binding ++ " from " ++ quote l.specifier ++ ";" := rfl

theorem ImportLine.oneLine_text {l : ImportLine} (h : OneLine l.names) : OneLine l.text := by
  have hquote := oneLine_quote l.specifier
  have hbinding : OneLine l.binding := by
    unfold binding
    split <;> simp +decide [h]
  simp +decide [text_eq, hquote, hbinding]

theorem oneLine_heading {imports : List ImportLine} (h : ∀ l ∈ imports, OneLine l.names) :
    ∀ l ∈ heading imports, OneLine l := by
  rw [heading, List.forall_mem_cons, List.forall_mem_map]
  exact ⟨by decide, fun l hl => ImportLine.oneLine_text (h l hl)⟩

theorem RouterModule.oneLine_routeLines {r : Route}
    (h : OneLine r.controller ∧ OneLine r.handler) : ∀ l ∈ routeLines r, OneLine l := by
  have hverb : OneLine r.verb.name := by cases r.verb <;> decide
  simp +decide [routeLines, h.1, h.2, hverb, oneLine_quote]

theorem DispatcherModule.oneLine_armLines {k : Task} (h : OneLine k.consumer ∧ OneLine k.method) :
    ∀ l ∈ armLines k, OneLine l := by
  obtain ⟨queue, method, consumer, isBatch, location⟩ := k
  cases isBatch <;> simp +decide [armLines, callLines, h.1, h.2, oneLine_quote]

theorem RouterModule.oneLine_lines {m : RouterModule} (himports : ∀ l ∈ m.imports, OneLine l.names)
    (hcontainer : OneLine m.containerType) (hmiddleware : ∀ name ∈ m.middleware, OneLine name)
    (hroutes : ∀ r ∈ m.routes, OneLine r.controller ∧ OneLine r.handler) :
    ∀ l ∈ m.lines, OneLine l := by
  have hgroup : ∀ ls : List String, (∀ l ∈ ls, OneLine l) → ∀ l ∈ group ls, OneLine l := by
    intro ls hls
    unfold group
    split
    · simp
    · exact List.forall_mem_cons.mpr ⟨by decide, hls⟩
  have hall : ∀ l ∈ m.middleware.map middlewareLine, OneLine l := by
    rw [List.forall_mem_map]
    intro name hname
    unfold middlewareLine
    rw [oneLine_append, oneLine_append]
    exact ⟨⟨by decide, hmiddleware name hname⟩, by decide⟩
  have hregistrations : ∀ l ∈ m.routes.flatMap routeLines, OneLine l := by
    rw [List.forall_mem_flatMap]
    exact fun r hr => oneLine_routeLines (hroutes r hr)
  simp only [lines, List.forall_mem_append]
  refine ⟨⟨⟨⟨oneLine_heading himports, ?_⟩, hgroup _ hall⟩, hgroup _ hregistrations⟩, ?_⟩
  · simp +decide [hcontainer]
  · simp +decide [oneLine_quote]

theorem DispatcherModule.oneLine_lines {m : DispatcherModule}
    (himports : ∀ l ∈ m.imports, OneLine l.names) (hcontainer : OneLine m.containerType)
    (henv : OneLine m.envType) (htasks : ∀ k ∈ m.tasks, OneLine k.consumer ∧ OneLine k.method) :
    ∀ l ∈ m.lines, OneLine l := by
  have harms : ∀ l ∈ m.tasks.flatMap armLines, OneLine l := by
    rw [List.forall_mem_flatMap]
    exact fun k hk => oneLine_armLines (htasks k hk)
  simp only [lines, List.forall_mem_append]
  refine ⟨⟨⟨oneLine_heading himports, ?_⟩, harms⟩, by decide⟩
  simp +decide [hcontainer, henv]

variable {t : Table} {c : Config} {root : Path}

theorem oneLine_of_classImports {p : Pipeline} {dir : Path} {classes : List ImportLine}
    (ht : t.NamesOnOneLine p) (h : classImports t p root dir = .ok classes) :
    ∀ l ∈ classes, OneLine l.names := by
  intro l hl
  refine ht _ (Table.mem_splicedNames_of_mem_recordClasses ?_)
  rw [← mem_sortedNames, ← Table.referenced, ← names_of_classImports h]
  exact List.mem_map_of_mem hl

theorem oneLine_of_routerModule {t : Table} {c : HttpTarget} {m : RouterModule}
    (ht : t.NamesOnOneLine .http) (h : routerModule t c root = .ok m) :
    ∀ l ∈ m.lines, OneLine l := by
  obtain ⟨hcontainer, hmiddleware, classes, hclasses, rfl⟩ := routerModule_eq_ok_iff.mp h
  have hcontainer := oneLine_of_isBindingName hcontainer
  have hmiddleware := fun w hw => oneLine_of_isBindingName (hmiddleware w hw)
  have hsupport : ∀ l ∈ routerSupport t c, OneLine l.names := by
    simp only [routerSupport, ImportLine.named, List.forall_mem_cons]
    refine ⟨?_, hcontainer, by simp⟩
    split <;> decide
  refine RouterModule.oneLine_lines ?imports hcontainer ?middleware fun r hr => ht.route hr
  case imports =>
    rw [List.forall_mem_append, List.forall_mem_append, List.forall_mem_map]
    exact ⟨⟨hsupport, hmiddleware⟩, oneLine_of_classImports ht hclasses⟩
  case middleware =>
    rw [List.forall_mem_map]
    exact hmiddleware

theorem oneLine_of_dispatcherModule {t : Table} {c : QueueTarget} {m : DispatcherModule}
    (ht : t.NamesOnOneLine .queue) (h : dispatcherModule t c root = .ok m) :
    ∀ l ∈ m.lines, OneLine l := by
  obtain ⟨hcontainer, henv, classes, hclasses, rfl⟩ := dispatcherModule_eq_ok_iff.mp h
  have hcontainer := oneLine_of_isBindingName hcontainer
  have henv := oneLine_of_isBindingName henv
  have hsupport : ∀ l ∈ dispatcherSupport c root, OneLine l.names := by
    simp only [dispatcherSupport, List.forall_mem_cons]
    refine ⟨hcontainer, ?_⟩
    split
    · exact List.forall_mem_singleton.mpr henv
    · simp
  refine DispatcherModule.oneLine_lines ?imports hcontainer henv fun k hk => ht.task hk
  case imports =>
    rw [List.forall_mem_append]
    exact ⟨hsupport, oneLine_of_classImports ht hclasses⟩

/-! ### The imports of a module -/

/-- The names that the imports ahead of the classes bind, import by import. -/
def supportNames (p : Pipeline) (c : Config) (t : Table) : List (List String) :=
  match p with
  | .http =>
      (if t.routes.isEmpty then ["Router"] else ["Router", "IRequest"]) ::
        [c.http.containerType] :: c.http.middleware.map fun m => [m.name]
  | .queue => [c.queue.containerType] :: (c.queue.envModule.map fun _ => [c.queue.envType]).toList

/-- Whether a line is an import. -/
def opensImport (line : String) : Bool := "import ".toList.isPrefixOf line.toList

/-- The lines behind the imports do not even start like one. -/
theorem opensImport_eq_false {line : String} (h : line.toList.head? ≠ some 'i') :
    opensImport line = false := by
  have himport : "import ".toList = ['i', 'm', 'p', 'o', 'r', 't', ' '] := by decide
  rw [opensImport, himport]
  cases hchars : line.toList with
  | nil => rfl
  | cons c cs =>
    rw [hchars, List.head?_cons, ne_eq, Option.some.injEq] at h
    simp [List.isPrefixOf, Ne.symm h]

/-- The imports of a router are the lines of its heading, and no others. -/
theorem RouterModule.exists_body (m : RouterModule) :
    ∃ body, m.lines = heading m.imports ++ body ∧ ∀ l ∈ body, opensImport l = false := by
  refine ⟨_, by rw [lines, List.append_assoc, List.append_assoc, List.append_assoc],
    fun l hl => opensImport_eq_false ?_⟩
  have hgroup : ∀ {ls : List String}, (∀ l ∈ ls, l.toList.head? ≠ some 'i') →
      ∀ l ∈ group ls, l.toList.head? ≠ some 'i' := by
    intro ls hls
    unfold group
    split
    · simp
    · exact List.forall_mem_cons.mpr ⟨by simp, hls⟩
  have hmiddleware : ∀ l ∈ m.middleware.map middlewareLine, l.toList.head? ≠ some 'i' := by
    rw [List.forall_mem_map]
    intro name _
    unfold middlewareLine
    simp
  have hroutes : ∀ l ∈ m.routes.flatMap routeLines, l.toList.head? ≠ some 'i' := by
    rw [List.forall_mem_flatMap]
    intro r _
    simp [routeLines]
  revert l
  simp only [List.forall_mem_append]
  exact ⟨by simp, hgroup hmiddleware, hgroup hroutes, by simp⟩

/-- The imports of a queue dispatcher are the lines of its heading, and no others. -/
theorem DispatcherModule.exists_body (m : DispatcherModule) :
    ∃ body, m.lines = heading m.imports ++ body ∧ ∀ l ∈ body, opensImport l = false := by
  refine ⟨_, by rw [lines, List.append_assoc, List.append_assoc],
    fun l hl => opensImport_eq_false ?_⟩
  have hcall : ∀ k, ∀ l ∈ callLines k, l.toList.head? ≠ some 'i' := by
    intro k
    unfold callLines
    split <;> simp
  have harms : ∀ l ∈ m.tasks.flatMap armLines, l.toList.head? ≠ some 'i' := by
    rw [List.forall_mem_flatMap]
    intro k _
    simp only [armLines, List.forall_mem_append]
    exact ⟨⟨by simp, hcall k⟩, by simp⟩
  revert l
  simp only [List.forall_mem_append]
  exact ⟨by simp, harms, by simp⟩

/-- A rendered text starts with its imports and has no others: those that bind what `supportNames`
says, and behind them those of the classes.  Where the names of the records are each on one line,
the lines are those of the text. -/
theorem exists_heading_of_render {p : Pipeline} {text : String} (h : render p t c root = .ok text) :
    ∃ support classes body,
      classImports t p root (outputDir root (c.output p)) = .ok classes ∧
      support.map (·.names) = (supportNames p c t).map (", ".intercalate) ∧
      (∀ l ∈ body, opensImport l = false) ∧
      text = linesText (heading (support ++ classes) ++ body) ∧
      (t.NamesOnOneLine p → ∀ l ∈ heading (support ++ classes) ++ body, OneLine l) := by
  cases p with
  | http =>
    obtain ⟨m, hm, rfl⟩ := render_http_eq_ok.mp h
    obtain ⟨body, hlines, hbody⟩ := m.exists_body
    have honeLine := fun ht : t.NamesOnOneLine .http => oneLine_of_routerModule ht hm
    obtain ⟨-, -, classes, hclasses, rfl⟩ := routerModule_eq_ok_iff.mp hm
    refine ⟨_, classes, body, hclasses, ?_, hbody, by rw [hlines], by rwa [hlines] at honeLine⟩
    have hrouter : (if t.routes.isEmpty then "Router" else "Router, IRequest")
        = ", ".intercalate (if t.routes.isEmpty then ["Router"] else ["Router", "IRequest"]) := by
      split <;> rfl
    have hsingle : ∀ name : String, ", ".intercalate [name] = name := fun _ => rfl
    simp only [supportNames, routerSupport, ImportLine.named, hrouter, List.map_cons, List.map_map,
      List.cons_append, List.nil_append, Function.comp_def, hsingle]
  | queue =>
    obtain ⟨m, hm, rfl⟩ := render_queue_eq_ok.mp h
    obtain ⟨body, hlines, hbody⟩ := m.exists_body
    have honeLine := fun ht : t.NamesOnOneLine .queue => oneLine_of_dispatcherModule ht hm
    obtain ⟨-, -, classes, hclasses, rfl⟩ := dispatcherModule_eq_ok_iff.mp hm
    refine ⟨_, classes, body, hclasses, ?_, hbody, by rw [hlines], by rwa [hlines] at honeLine⟩
    cases henv : c.queue.envModule <;>
      simp [supportNames, dispatcherSupport, ImportLine.named, henv]

end Emit

end DispatchGen

/-
DispatchGen/Proofs/Rendering.lean

When a table is rendered, and to which lines.

Rendering refuses a configured name that cannot be spliced into code, and a class
that no file declares; nothing else stops it (`render_eq_error`).  What it makes
is a module of the records of the table, whose imports end with those of the
classes (`routerModule_eq_ok`, `dispatcherModule_eq_ok`).
-/
import DispatchGen.Emit.Render
import DispatchGen.Proofs.Results

namespace DispatchGen

namespace Emit

/-! ### Refusals -/

theorem checkName_eq_error {role name : String} {e : RenderError}
    (h : checkName role name = .error e) : e = .invalidName role name := by
  unfold checkName at h
  split at h <;> cases h
  rfl

theorem middlewareImport_eq_error {root dir : Path} {m : Middleware} {e : RenderError}
    (h : middlewareImport root dir m = .error e) : e = .invalidName "middleware" m.name := by
  rw [middlewareImport, bind_eq_error] at h
  rcases h with h | ⟨_, _, h⟩
  · exact checkName_eq_error h
  · exact absurd h pure_ne_error

/-- A table whose classes all have an import is refused only for a name in the
configuration. -/
theorem render_eq_error {p : Pipeline} {t : Table} {c : Config} {root : Path} {e : RenderError}
    (hclasses : ∀ dir, ∃ classes, classImports t p root dir = .ok classes)
    (h : render p t c root = .error e) : ∃ role name, e = .invalidName role name := by
  -- the class imports are the only step that asks for a class
  have hnever : ∀ dir, classImports t p root dir ≠ .error e := by
    intro dir hdir
    obtain ⟨classes, hok⟩ := hclasses dir
    rw [hok] at hdir
    cases hdir
  cases p with
  | http =>
    have hmodule : routerModule t c.http root = .error e := map_eq_error.mp h
    simp only [routerModule, bind_eq_error, pure_ne_error, and_false, exists_false,
      or_false] at hmodule
    rcases hmodule with h | ⟨_, _, h | ⟨_, _, h⟩⟩
    · exact ⟨_, _, checkName_eq_error h⟩
    · obtain ⟨m, _, hm⟩ := exists_of_mapM_eq_error h
      exact ⟨_, _, middlewareImport_eq_error hm⟩
    · exact absurd h (hnever _)
  | queue =>
    have hmodule : dispatcherModule t c.queue root = .error e := map_eq_error.mp h
    simp only [dispatcherModule, bind_eq_error, pure_ne_error, and_false, exists_false,
      or_false] at hmodule
    rcases hmodule with h | ⟨_, _, h | ⟨_, _, h⟩⟩
    · exact ⟨_, _, checkName_eq_error h⟩
    · exact ⟨_, _, checkName_eq_error h⟩
    · exact absurd h (hnever _)

/-! ### Modules -/

theorem names_of_classImport {imports : Imports} {root dir : Path} {name : String} {l : ImportLine}
    (h : classImport imports root dir name = .ok l) : l.names = name := by
  unfold classImport at h
  split at h <;> cases h
  rfl

/-- There is one import for each class, in order of name. -/
theorem names_of_classImports {t : Table} {p : Pipeline} {root dir : Path}
    {classes : List ImportLine} (h : classImports t p root dir = .ok classes) :
    classes.map (·.names) = t.referenced p := by
  rw [classImports, mapM_eq_ok] at h
  generalize t.referenced p = names at h ⊢
  induction h with
  | nil => rfl
  | cons hl _ ih => rw [List.map_cons, names_of_classImport hl, ih]

/-- A router module has the routes of its table, and imports its classes. -/
theorem routerModule_eq_ok {t : Table} {c : HttpTarget} {root : Path} {m : RouterModule}
    (h : routerModule t c root = .ok m) :
    m.routes = t.routes ∧ ∃ support classes,
      classImports t .http root (outputDir root c.output) = .ok classes ∧
      m.imports = support ++ classes := by
  simp only [routerModule, bind_eq_ok, pure_eq_ok] at h
  obtain ⟨_, _, middleware, _, classes, hclasses, rfl⟩ := h
  exact ⟨rfl, _, classes, hclasses, rfl⟩

/-- A dispatcher module has the tasks of its table, and imports its classes. -/
theorem dispatcherModule_eq_ok {t : Table} {c : QueueTarget} {root : Path} {m : DispatcherModule}
    (h : dispatcherModule t c root = .ok m) :
    m.tasks = t.tasks ∧ ∃ support classes,
      classImports t .queue root (outputDir root c.output) = .ok classes ∧
      m.imports = support ++ classes := by
  simp only [dispatcherModule, bind_eq_ok, pure_eq_ok] at h
  obtain ⟨_, _, _, _, classes, hclasses, rfl⟩ := h
  exact ⟨rfl, _ :: _, classes, hclasses, rfl⟩

/-- The imports of a router that do not depend on the sources. -/
def routerSupport (t : Table) (c : HttpTarget) : List ImportLine := [
  .named (if t.routes.isEmpty then "Router" else "Router, IRequest") c.routerPackage,
  .named c.containerType c.containerPackage]

/-- The imports of a queue dispatcher that do not depend on the sources. -/
def dispatcherSupport (c : QueueTarget) (root : Path) : List ImportLine :=
  .named c.containerType c.containerPackage ::
    match c.envModule with
    | some module => [.named c.envType (specifierOf root (outputDir root c.output) module)]
    | none => []

theorem checkName_eq_ok {role name : String} {u : Unit} :
    checkName role name = .ok u ↔ Text.isBindingName name = true := by
  unfold checkName
  split <;> simp_all

theorem middlewareImport_eq_ok {root dir : Path} {m : Middleware} {l : ImportLine} :
    middlewareImport root dir m = .ok l ↔
      Text.isBindingName m.name = true ∧ l = .named m.name (specifierOf root dir m.path) := by
  simp only [middlewareImport, bind_eq_ok, checkName_eq_ok, pure_eq_ok]
  constructor
  · rintro ⟨_, hname, rfl⟩
    exact ⟨hname, rfl⟩
  · rintro ⟨hname, rfl⟩
    exact ⟨(), hname, rfl⟩

/-- The middleware is imported in the order of the configuration, if all of it can be named. -/
theorem mapM_middlewareImport_eq_ok {root dir : Path} {ms : List Middleware}
    {imports : List ImportLine} :
    ms.mapM (middlewareImport root dir) = .ok imports ↔
      (∀ m ∈ ms, Text.isBindingName m.name = true) ∧
        imports = ms.map fun m => .named m.name (specifierOf root dir m.path) := by
  induction ms generalizing imports with
  | nil =>
    rw [List.mapM_nil, pure_eq_ok, @eq_comm _ []]
    simp
  | cons m ms ih =>
    simp only [List.mapM_cons, bind_eq_ok, pure_eq_ok, middlewareImport_eq_ok, ih,
      List.forall_mem_cons, List.map_cons]
    constructor
    · rintro ⟨_, ⟨hm, rfl⟩, _, ⟨hms, rfl⟩, rfl⟩
      exact ⟨⟨hm, hms⟩, rfl⟩
    · rintro ⟨⟨hm, hms⟩, rfl⟩
      exact ⟨_, ⟨hm, rfl⟩, _, ⟨hms, rfl⟩, rfl⟩

/-- When a router module is made, and which one. -/
theorem routerModule_eq_ok_iff {t : Table} {c : HttpTarget} {root : Path} {m : RouterModule} :
    routerModule t c root = .ok m ↔
      Text.isBindingName c.containerType = true ∧
      (∀ w ∈ c.middleware, Text.isBindingName w.name = true) ∧
      ∃ classes, classImports t .http root (outputDir root c.output) = .ok classes ∧
        m = {
          imports := routerSupport t c ++ c.middleware.map (fun w =>
            .named w.name (specifierOf root (outputDir root c.output) w.path)) ++ classes
          containerType := c.containerType
          middleware := c.middleware.map (·.name)
          routes := t.routes
          healthPath := c.healthPath } := by
  simp only [routerModule, bind_eq_ok, pure_eq_ok, checkName_eq_ok, mapM_middlewareImport_eq_ok]
  constructor
  · rintro ⟨_, hcontainer, _, ⟨hmiddleware, rfl⟩, classes, hclasses, rfl⟩
    exact ⟨hcontainer, hmiddleware, classes, hclasses, rfl⟩
  · rintro ⟨hcontainer, hmiddleware, classes, hclasses, rfl⟩
    exact ⟨(), hcontainer, _, ⟨hmiddleware, rfl⟩, classes, hclasses, rfl⟩

/-- When a queue dispatcher is made, and which one. -/
theorem dispatcherModule_eq_ok_iff {t : Table} {c : QueueTarget} {root : Path}
    {m : DispatcherModule} :
    dispatcherModule t c root = .ok m ↔
      Text.isBindingName c.containerType = true ∧ Text.isBindingName c.envType = true ∧
      ∃ classes, classImports t .queue root (outputDir root c.output) = .ok classes ∧
        m = {
          imports := dispatcherSupport c root ++ classes
          containerType := c.containerType
          envType := c.envType
          tasks := t.tasks } := by
  simp only [dispatcherModule, bind_eq_ok, pure_eq_ok, checkName_eq_ok]
  constructor
  · rintro ⟨_, hcontainer, _, henv, classes, hclasses, rfl⟩
    exact ⟨hcontainer, henv, classes, hclasses, rfl⟩
  · rintro ⟨hcontainer, henv, classes, hclasses, rfl⟩
    exact ⟨(), hcontainer, (), henv, classes, hclasses, rfl⟩

/-- The text of a router is made of the lines of its module. -/
theorem render_http_eq_ok {t : Table} {c : Config} {root : Path} {text : String} :
    render .http t c root = .ok text ↔
      ∃ m, routerModule t c.http root = .ok m ∧ linesText m.lines = text :=
  map_eq_ok

/-- The text of a dispatcher is made of the lines of its module. -/
theorem render_queue_eq_ok {t : Table} {c : Config} {root : Path} {text : String} :
    render .queue t c root = .ok text ↔
      ∃ m, dispatcherModule t c.queue root = .ok m ∧ linesText m.lines = text :=
  map_eq_ok

theorem heading_append (support classes : List ImportLine) :
    heading (support ++ classes) = heading support ++ classes.map ImportLine.text := by
  simp [heading]

theorem RouterModule.heading_prefix (m : RouterModule) : heading m.imports <+: m.lines := by
  simp only [RouterModule.lines, List.append_assoc]
  exact List.prefix_append _ _

theorem DispatcherModule.heading_prefix (m : DispatcherModule) : heading m.imports <+: m.lines := by
  simp only [DispatcherModule.lines, List.append_assoc]
  exact List.prefix_append _ _

theorem mem_heading_of_mem {imports : List ImportLine} {l : ImportLine} (h : l ∈ imports) :
    l.text ∈ heading imports :=
  List.mem_cons_of_mem _ (List.mem_map_of_mem h)

/-- Every import of a router is a line of it. -/
theorem RouterModule.text_mem_lines {m : RouterModule} {l : ImportLine} (h : l ∈ m.imports) :
    l.text ∈ m.lines :=
  m.heading_prefix.subset (mem_heading_of_mem h)

/-- Every import of a dispatcher is a line of it. -/
theorem DispatcherModule.text_mem_lines {m : DispatcherModule} {l : ImportLine}
    (h : l ∈ m.imports) : l.text ∈ m.lines :=
  m.heading_prefix.subset (mem_heading_of_mem h)

theorem RouterModule.mem_group {line : String} {lines : List String} (h : line ∈ lines) :
    line ∈ group lines := by
  cases lines with
  | nil => cases h
  | cons l ls => exact .tail _ h

end Emit

end DispatchGen

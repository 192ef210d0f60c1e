/-
DispatchGen/Proofs/BranchOrder.lean

What the order of the records changes in a generated module.

Nothing but the order of the branches.  All that stands around them is made from the
configuration, the root and the imports of the classes, and these depend on which classes the
records refer to: the names are sorted and each is kept once (`sortedNames_congr`), and whether
there is a record at all, which a router asks for its first import and for the empty line
above its routes, can be told from the names as well.  So tables that refer to the same classes have
modules that differ in their records only (`routerModule_of_sameClasses`,
`dispatcherModule_of_sameClasses`), and a permutation is a case of this.

Main statement: `reorder_moves_branches`.
-/
import DispatchGen.Proofs.Dispatch
import Mathlib.Data.List.Sort

namespace DispatchGen

/-- Names are sorted to the same list whatever their order and however often they occur. -/
theorem sortedNames_congr {xs ys : List String} (h : ∀ name, name ∈ xs ↔ name ∈ ys) :
    sortedNames xs = sortedNames ys := by
  refine (pairwise_sortedNames xs).eq_of_mem_iff (pairwise_sortedNames ys) fun name => ?_
  rw [mem_sortedNames, mem_sortedNames, h]

namespace Table

/-- Two tables have the same import map, and their records refer to the same classes. -/
structure SameClasses (p : Pipeline) (t u : Table) : Prop where
  imports : u.imports = t.imports
  names : ∀ name, name ∈ u.recordClasses p ↔ name ∈ t.recordClasses p

/-- Two tables differ in the order of their records only. -/
structure Reordered (t u : Table) : Prop where
  imports : u.imports = t.imports
  routes : u.routes.Perm t.routes
  tasks : u.tasks.Perm t.tasks

variable {p : Pipeline} {t u : Table}

theorem SameClasses.refl (p : Pipeline) (t : Table) : t.SameClasses p t := ⟨rfl, fun _ => .rfl⟩

theorem Reordered.sameClasses (h : t.Reordered u) (p : Pipeline) : t.SameClasses p u := by
  refine ⟨h.imports, fun name => ?_⟩
  cases p with
  | http => exact (h.routes.map _).mem_iff
  | queue => exact (h.tasks.map _).mem_iff

theorem Reordered.blocks (h : t.Reordered u) (p : Pipeline) : (u.blocks p).Perm (t.blocks p) := by
  cases p with
  | http => exact h.routes.map _
  | queue => exact h.tasks.map _

theorem SameClasses.referenced (h : t.SameClasses p u) : u.referenced p = t.referenced p :=
  sortedNames_congr h.names

/-- Whether there are routes shows in the classes that they refer to. -/
theorem SameClasses.isEmpty_routes (h : t.SameClasses .http u) :
    u.routes.isEmpty = t.routes.isEmpty := by
  have hnone : ∀ v : Table, v.routes.isEmpty = true ↔ ∀ name, name ∉ v.recordClasses .http := by
    intro v
    rw [List.isEmpty_iff, ← List.eq_nil_iff_forall_not_mem, recordClasses, List.map_eq_nil_iff]
  rw [Bool.eq_iff_iff, hnone, hnone]
  exact forall_congr' fun name => not_congr (h.names name)

end Table

namespace Emit

open Table

/-! ### Modules that differ in their records -/

theorem classImports_of_sameClasses {p : Pipeline} {t u : Table} (h : t.SameClasses p u)
    (root dir : Path) : classImports u p root dir = classImports t p root dir := by
  rw [classImports, classImports, h.referenced, h.imports]

theorem routerModule_of_sameClasses {t u : Table} (h : t.SameClasses .http u) (c : HttpTarget)
    (root : Path) :
    routerModule u c root
      = (routerModule t c root).map fun m => { m with routes := u.routes } := by
  simp only [routerModule, classImports_of_sameClasses h, h.isEmpty_routes]
  cases checkName "container type" c.containerType with
  | error e => rfl
  | ok _ =>
    cases c.middleware.mapM (middlewareImport root (outputDir root c.output)) with
    | error e => rfl
    | ok _ => cases classImports t .http root (outputDir root c.output) <;> rfl

theorem dispatcherModule_of_sameClasses {t u : Table} (h : t.SameClasses .queue u)
    (c : QueueTarget) (root : Path) :
    dispatcherModule u c root
      = (dispatcherModule t c root).map fun m => { m with tasks := u.tasks } := by
  simp only [dispatcherModule, classImports_of_sameClasses h]
  cases checkName "container type" c.containerType with
  | error e => rfl
  | ok _ =>
    cases checkName "env type" c.envType with
    | error e => rfl
    | ok _ => cases classImports t .queue root (outputDir root c.output) <;> rfl

/-! ### The lines around the branches -/

/-- The lines of a router between its imports and its routes. -/
def RouterModule.head (m : RouterModule) : List String :=
  ["",
    "export function getRouter(container: " ++ m.containerType ++ ") \x7b",
    "  const router = Router();"] ++
  group (m.middleware.map middlewareLine) ++
  if m.routes.isEmpty then [] else [""]

/-- The lines of a router behind its routes. -/
def RouterModule.foot (m : RouterModule) : List String := ["",
  "  router.get(" ++ Text.quote m.healthPath ++ ", () => new Response('pong'));",
  "  router.all('*', () => new Response('Not Found', \x7b status: 404 \x7d));",
  "",
  "  return router;",
  "\x7d"]

/-- The routes of a router may be exchanged for others, if there are any. -/
theorem RouterModule.lines_withRoutes (m : RouterModule) {routes : List Route}
    (h : routes.isEmpty = m.routes.isEmpty) :
    ({ m with routes := routes } : RouterModule).lines
      = heading m.imports ++ m.head ++ (routes.map routeLines).flatten ++ m.foot := by
  have hgap : group (routes.flatMap routeLines)
      = (if m.routes.isEmpty then [] else [""]) ++ (routes.map routeLines).flatten := by
    rw [← h]
    cases routes <;> rfl
  rw [lines, hgap, head]
  simp only [List.append_assoc]
  rfl

/-- The lines of a queue dispatcher between its imports and its arms. -/
def DispatcherModule.head (m : DispatcherModule) : List String := ["",
  "export async function handleMessage(",
  "  container: " ++ m.containerType ++ ",",
  "  batch: MessageBatch<unknown>,",
  "  env: " ++ m.envType ++ ",",
  "  exec: ExecutionContext,",
  "): Promise<void> \x7b",
  "  switch (batch.queue) \x7b"]

/-- The lines of a queue dispatcher behind its arms. -/
def DispatcherModule.foot : List String := ["    default:",
  "      console.warn(`No consumer registered for queue $\x7bbatch.queue\x7d`);",
  "  \x7d",
  "\x7d"]

/-- The tasks of a queue dispatcher may be exchanged for others. -/
theorem DispatcherModule.lines_withTasks (m : DispatcherModule) (tasks : List Task) :
    ({ m with tasks := tasks } : DispatcherModule).lines
      = heading m.imports ++ m.head ++ (tasks.map armLines).flatten ++ foot := rfl

/-! ### Main statement -/

/-- All tables that refer to the same classes are refused alike, or they are rendered with the
same lines around their branches. -/
theorem exists_frame (p : Pipeline) (t : Table) (c : Config) (root : Path) :
    (∃ e, ∀ u, t.SameClasses p u → render p u c root = .error e) ∨
    ∃ support classes head below,
      classImports t p root (outputDir root (c.output p)) = .ok classes ∧
      ∀ u, t.SameClasses p u → render p u c root = .ok (linesText
        (heading (support ++ classes) ++ head ++ (u.blocks p).flatten ++ below)) := by
  cases p with
  | http =>
    cases hmodule : routerModule t c.http root with
    | error e =>
      refine .inl ⟨e, fun u hu => ?_⟩
      rw [render, routerModule_of_sameClasses hu, hmodule]
      rfl
    | ok m =>
      obtain ⟨hroutes, support, classes, hclasses, himports⟩ := routerModule_eq_ok hmodule
      refine .inr ⟨support, classes, m.head, m.foot, hclasses, fun u hu => ?_⟩
      have hlines := m.lines_withRoutes (hu.isEmpty_routes.trans (congrArg _ hroutes.symm))
      rw [render, routerModule_of_sameClasses hu, hmodule, ← himports]
      exact congrArg (fun ls => Except.ok (linesText ls)) hlines
  | queue =>
    cases hmodule : dispatcherModule t c.queue root with
    | error e =>
      refine .inl ⟨e, fun u hu => ?_⟩
      rw [render, dispatcherModule_of_sameClasses hu, hmodule]
      rfl
    | ok m =>
      obtain ⟨-, support, classes, hclasses, himports⟩ := dispatcherModule_eq_ok hmodule
      refine .inr ⟨support, classes, m.head, DispatcherModule.foot, hclasses, fun u hu => ?_⟩
      have hlines := m.lines_withTasks u.tasks
      rw [render, dispatcherModule_of_sameClasses hu, hmodule, ← himports]
      exact congrArg (fun ls => Except.ok (linesText ls)) hlines

/-- **Reordering the records only reorders the branches.**  All tables with the import map of a
given one whose records refer to the same classes, in any order and any number of times, have the
same imports of classes.  They are all refused, for the same cause, or all rendered: to the same
header and imports, the same opening of the function with the same middleware, one block of lines
for each record in the order of the records, and the same lines behind these.  A table that
differs in the order of its records is such a table, so it is rendered if the other is, and its
blocks are those of the other in another order. -/
theorem reorder_moves_branches (p : Pipeline) (t : Table) (c : Config) (root : Path) :
    (∀ u, t.Reordered u → t.SameClasses p u ∧ (u.blocks p).Perm (t.blocks p) ∧
      ((∃ text, render p u c root = .ok text) ↔ ∃ text, render p t c root = .ok text)) ∧
    (∀ u, t.SameClasses p u → ∀ dir, classImports u p root dir = classImports t p root dir) ∧
    ((∃ e, ∀ u, t.SameClasses p u → render p u c root = .error e) ∨
      ∃ support classes head below,
        classImports t p root (outputDir root (c.output p)) = .ok classes ∧
        ∀ u, t.SameClasses p u → render p u c root = .ok (linesText
          (heading (support ++ classes) ++ head ++ (u.blocks p).flatten ++ below))) := by
  have hframe := exists_frame p t c root
  refine ⟨fun u hu => ⟨hu.sameClasses p, hu.blocks p, ?_⟩,
    fun u hu dir => classImports_of_sameClasses hu root dir, hframe⟩
  rcases hframe with ⟨e, he⟩ | ⟨support, classes, head, below, -, hok⟩
  · rw [he u (hu.sameClasses p), he t (SameClasses.refl p t)]
  · refine iff_of_true ⟨_, hok u (hu.sameClasses p)⟩ ⟨_, hok t (SameClasses.refl p t)⟩

/-- Two routes of one controller, and one of another between them. -/
def interleaved : Table where
  routes := [⟨.get, "/a", "f", "A", default⟩, ⟨.post, "/b", "g", "B", default⟩,
    ⟨.put, "/c", "h", "A", default⟩]
  imports := ({} : Imports).insertAll
    [⟨"B", ⟨"src/controllers/b.ts"⟩, true⟩, ⟨"A", ⟨"src/controllers/a.ts"⟩, false⟩]

theorem reorder_moves_branches_interleaved :
    interleaved.Reordered { interleaved with routes := interleaved.routes.reverse } ∧
    ∃ above below,
      render .http interleaved {} ⟨"."⟩ = .ok (linesText
        (above ++ (interleaved.routes.map RouterModule.routeLines).flatten ++ below)) ∧
      render .http { interleaved with routes := interleaved.routes.reverse } {} ⟨"."⟩
        = .ok (linesText (above ++
          (interleaved.routes.reverse.map RouterModule.routeLines).flatten ++ below)) := by
  let turned : Table := { interleaved with routes := interleaved.routes.reverse }
  have hturned : interleaved.Reordered turned := ⟨rfl, List.reverse_perm _, .refl _⟩
  have hrendered : (render .http interleaved {} ⟨"."⟩).isOk = true := by decide +kernel
  obtain ⟨hmoves, -, hframe⟩ := reorder_moves_branches .http interleaved {} ⟨"."⟩
  refine ⟨hturned, ?_⟩
  rcases hframe with ⟨e, he⟩ | ⟨support, classes, head, below, -, hok⟩
  · rw [he interleaved (SameClasses.refl _ _)] at hrendered
    cases hrendered
  · exact ⟨_, below, hok interleaved (SameClasses.refl _ _), hok turned (hmoves turned hturned).1⟩

end Emit

end DispatchGen

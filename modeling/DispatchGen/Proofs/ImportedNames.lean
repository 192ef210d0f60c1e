/-
DispatchGen/Proofs/ImportedNames.lean

The local names of a generated module.

Its imports bind names from four sides: the router package, the container, what
the configuration adds (middleware, or the type of the environment), and the
scanned classes.  Two classes never share a name, as the table keeps one
declaration for each (`pairwise_sortedNames`).  The other sides are checked one
name at a time and never against each other or the classes, so exactly there
names can meet: `imported_names_nodup_iff` says when they do, and
`imported_names_not_nodup` is a class that does.

Main statement: `imported_names_nodup_iff`.
-/
import DispatchGen.Proofs.ModuleLines
import DispatchGen.Proofs.PreparedTable

namespace DispatchGen

open Grammar (Reader)

namespace Emit

/-! ### Bound names -/

/-- The names that the imports of a module bind, import by import. -/
def boundNames (p : Pipeline) (c : Config) (t : Table) : List (List String) :=
  supportNames p c t ++ (t.referenced p).map fun name => [name]

theorem nodup_boundNames (p : Pipeline) (c : Config) (t : Table) :
    (boundNames p c t).flatten.Nodup ↔ (supportNames p c t).flatten.Nodup ∧
      ∀ name ∈ (supportNames p c t).flatten, name ∉ t.recordClasses p := by
  have hclasses : ((t.referenced p).map fun name => [name]).flatten = t.referenced p := by
    rw [← List.flatMap_def]
    exact List.flatMap_singleton' _
  have hnodup : (t.referenced p).Nodup := (pairwise_sortedNames _).imp fun h => h.ne
  rw [boundNames, List.flatten_append, hclasses, List.nodup_append]
  constructor
  · rintro ⟨hsupport, -, hdisjoint⟩
    exact ⟨hsupport, fun name hname hclass =>
      hdisjoint name hname name (mem_sortedNames.mpr hclass) rfl⟩
  · rintro ⟨hsupport, hdisjoint⟩
    refine ⟨hsupport, hnodup, ?_⟩
    rintro name hname _ hclass rfl
    exact hdisjoint name hname (mem_sortedNames.mp hclass)

/-! ### The imports of a module -/

/-- A rendered text starts with its imports, has no others, and they bind what
`boundNames` says. -/
theorem exists_imports_of_render {p : Pipeline} {t : Table} {c : Config} {root : Path}
    {text : String} (h : render p t c root = .ok text) :
    ∃ imports body, text = linesText (heading imports ++ body) ∧
      (∀ l ∈ body, opensImport l = false) ∧
      (t.NamesOnOneLine p → ∀ l ∈ heading imports ++ body, OneLine l) ∧
      imports.map (·.names) = (boundNames p c t).map (", ".intercalate) := by
  obtain ⟨support, classes, body, hclasses, hsupport, hbody, htext, honeLine⟩ :=
    exists_heading_of_render h
  refine ⟨support ++ classes, body, htext, hbody, honeLine, ?_⟩
  rw [boundNames, List.map_append, List.map_append, hsupport, names_of_classImports hclasses,
    List.map_map]
  refine congrArg (_ ++ ·) (List.map_id _).symm

/-- Whatever is rendered, the names ahead of the classes are names. -/
theorem isBindingName_of_mem_supportNames {p : Pipeline} {t : Table} {c : Config} {root : Path}
    {text : String} (h : render p t c root = .ok text) :
    ∀ name ∈ (supportNames p c t).flatten, Text.isBindingName name = true := by
  cases p with
  | http =>
    obtain ⟨m, hm, -⟩ := render_http_eq_ok.mp h
    obtain ⟨hcontainer, hmiddleware, -⟩ := routerModule_eq_ok_iff.mp hm
    have hrouter : ∀ name ∈ (if t.routes.isEmpty then ["Router"] else ["Router", "IRequest"]),
        Text.isBindingName name = true := by
      split <;> decide +kernel
    simp only [supportNames, List.flatten_cons, List.forall_mem_append,
      List.forall_mem_singleton]
    refine ⟨hrouter, hcontainer, ?_⟩
    rw [← List.flatMap_def, List.forall_mem_flatMap]
    exact fun m hm => List.forall_mem_singleton.mpr (hmiddleware m hm)
  | queue =>
    obtain ⟨m, hm, -⟩ := render_queue_eq_ok.mp h
    obtain ⟨hcontainer, henv, -⟩ := dispatcherModule_eq_ok_iff.mp hm
    simp only [supportNames, List.flatten_cons, List.forall_mem_append,
      List.forall_mem_singleton]
    refine ⟨hcontainer, ?_⟩
    cases c.queue.envModule with
    | none => simp
    | some module => simpa using henv

end Emit

/-! ### Main statement -/

namespace Project

open Emit

/-- **When imported names meet.**  Of a target that can be prepared, the text starts
with its imports and has none elsewhere, and what they bind are the names of the
router package, the container and the configuration, and then one name for each
class that a record refers to.  These names are all different exactly if the ones
ahead of the classes are, and no record's class has one of them; nothing else in
the sources can make two of them equal.  Where the names of the records are each on
one line, as identifiers are, the lines are those of the text. -/
theorem imported_names_nodup_iff [Reader] {d : Disk} {target : Pipeline} {root : Path} {c : Config}
    {prepared : Prepared} (h : (prepare d target root c).result = .ok prepared) :
    (∃ imports body, prepared.text = linesText (heading imports ++ body) ∧
      (∀ l ∈ body, opensImport l = false) ∧
      (prepared.table.NamesOnOneLine target → ∀ l ∈ heading imports ++ body, OneLine l) ∧
      imports.map (·.names) = (boundNames target c prepared.table).map (", ".intercalate)) ∧
    (∀ name ∈ (supportNames target c prepared.table).flatten, Text.isBindingName name = true) ∧
    ((boundNames target c prepared.table).flatten.Nodup ↔
      (supportNames target c prepared.table).flatten.Nodup ∧
      ∀ name ∈ (supportNames target c prepared.table).flatten,
        name ∉ prepared.table.recordClasses target) := by
  have hrender := render_of_prepare h
  exact ⟨exists_imports_of_render hrender, isBindingName_of_mem_supportNames hrender,
    nodup_boundNames target c prepared.table⟩

/-- A project with one controller. -/
def controllerNamed (name : String) : Disk where
  root := [("src", .directory [
    ("controllers", .directory [
      ("r.ts", .file ("@Controller('r') export class " ++ name ++
        " \x7b @Get('/s') t() \x7b\x7d \x7d").toUTF8)])])]

theorem imported_names_nodup_iff_users : ∃ prepared,
    (prepare (controllerNamed "Users") .http ⟨"."⟩ {}).result = .ok prepared ∧
    (boundNames .http {} prepared.table).flatten.Nodup ∧
    ∃ imports body, prepared.text = linesText (heading imports ++ body) ∧
      imports.map (·.names)
        = ["Router, IRequest", "DependencyContainer", "cors", "auth", "Users"] := by
  obtain ⟨prepared, hprepare, hnames⟩ := exists_ok_of_map_toOption
    (r := (prepare (controllerNamed "Users") .http ⟨"."⟩ {}).result)
    (f := fun p => (boundNames .http {} p.table, supportNames .http {} p.table,
      p.table.recordClasses .http))
    (b := ([["Router", "IRequest"], ["DependencyContainer"], ["cors"], ["auth"], ["Users"]],
      [["Router", "IRequest"], ["DependencyContainer"], ["cors"], ["auth"]], ["Users"]))
    (by decide +kernel)
  simp only [Prod.mk.injEq] at hnames
  obtain ⟨hbound, hsupport, hclasses⟩ := hnames
  obtain ⟨⟨imports, body, htext, -, -, himports⟩, -, hnodup⟩ := imported_names_nodup_iff hprepare
  refine ⟨prepared, hprepare, hnodup.mpr ?_, imports, body, htext, ?_⟩
  · rw [hsupport, hclasses]
    decide
  · rw [himports, hbound]
    rfl

/-- A class that has the name of the router is imported beside it, and the table is
prepared without a complaint. -/
theorem imported_names_not_nodup :
    ¬ ∀ (d : Disk) target root c prepared, (prepare d target root c).result = .ok prepared →
      (boundNames target c prepared.table).flatten.Nodup := by
  intro hall
  obtain ⟨prepared, hprepare, hnames⟩ := exists_ok_of_map_toOption
    (r := (prepare (controllerNamed "Router") .http ⟨"."⟩ {}).result)
    (f := fun p => (boundNames .http {} p.table).flatten)
    (b := ["Router", "IRequest", "DependencyContainer", "cors", "auth", "Router"])
    (by decide +kernel)
  have hnodup := hall (controllerNamed "Router") .http ⟨"."⟩ {} prepared hprepare
  rw [hnames] at hnodup
  exact absurd hnodup (by decide)

end Project

end DispatchGen

/-
DispatchGen/Proofs/ClassImports.lean

Where the class of a record is imported from.

Several stages each do a part: the walk reports a class before its methods, the
table inserts the classes of a file before it is done with the file, the first
insertion of a name stays, and a later one from another module is a conflict
that the diagnostics show if a record refers to the name.  So a record's class is
always found in the import map, and unless there is such an error the module
found is the one that the record is in.

Main statement: `handlers_imported_from_declaration`.
-/
import DispatchGen.Grammar.File
import DispatchGen.Lint
import DispatchGen.Proofs.Assembly
import DispatchGen.Proofs.ModuleLines

namespace DispatchGen

open Syntax Extract Emit

namespace Table

variable {p : Pipeline} {files : List (Path × Node)}

/-! ### Records and declarations -/

theorem mem_markedSites_of_mem_classes {module : Path} {root : Node} {c : MarkedClass}
    (hfile : (module, root) ∈ files) (hc : c ∈ (extract p module root).classes) :
    ∃ s, (module, s) ∈ markedSites p files ∧ s.name.text = c.name := by
  rw [classes_extract] at hc
  obtain ⟨s, hs, rfl⟩ := List.mem_map.mp hc
  exact ⟨s, List.mem_flatMap.mpr ⟨_, hfile, List.mem_map_of_mem hs⟩, rfl⟩

/-- The class of a route is declared in the file that the route is in. -/
theorem exists_site_of_route {r : Route} (h : r ∈ (ofFiles p files).routes) :
    p = .http ∧ ∃ s, (r.location.file, s) ∈ markedSites p files ∧ s.name.text = r.controller := by
  simp only [ofFiles, routes_ofFacts, List.flatMap_map, List.mem_flatMap] at h
  obtain ⟨⟨module, root⟩, hfile, hr⟩ := h
  obtain ⟨hp, hmodule, c, hc, hname⟩ := route_of_mem_extract hr
  obtain ⟨s, hs, hsite⟩ := mem_markedSites_of_mem_classes hfile hc
  exact ⟨hp, s, hmodule ▸ hs, hsite.trans hname⟩

/-- The class of a task is declared in the file that the task is in. -/
theorem exists_site_of_task {k : Task} (h : k ∈ (ofFiles p files).tasks) :
    p = .queue ∧ ∃ s, (k.location.file, s) ∈ markedSites p files ∧ s.name.text = k.consumer := by
  simp only [ofFiles, tasks_ofFacts, List.flatMap_map, List.mem_flatMap] at h
  obtain ⟨⟨module, root⟩, hfile, hk⟩ := h
  obtain ⟨hp, hmodule, c, hc, hname⟩ := task_of_mem_extract hk
  obtain ⟨s, hs, hsite⟩ := mem_markedSites_of_mem_classes hfile hc
  exact ⟨hp, s, hmodule ▸ hs, hsite.trans hname⟩

theorem exists_site_of_mem_recordClasses {q : Pipeline} {name : String}
    (h : name ∈ (ofFiles p files).recordClasses q) :
    ∃ module s, (module, s) ∈ markedSites p files ∧ s.name.text = name := by
  cases q with
  | http =>
    obtain ⟨r, hr, rfl⟩ := List.mem_map.mp h
    exact ⟨_, (exists_site_of_route hr).2⟩
  | queue =>
    obtain ⟨k, hk, rfl⟩ := List.mem_map.mp h
    exact ⟨_, (exists_site_of_task hk).2⟩

/-- The declaration that a name stands for: the first marked class of that name,
with its module. -/
def declaration? (p : Pipeline) (files : List (Path × Node)) (name : String) :
    Option (Path × ClassSite) :=
  (markedSites p files).find? (·.2.name.text = name)

theorem name_of_declaration? {name : String} {module : Path} {s : ClassSite}
    (h : declaration? p files name = some (module, s)) : s.name.text = name := by
  simpa using List.find?_some h

theorem exists_declaration? {module : Path} {s : ClassSite}
    (h : (module, s) ∈ markedSites p files) :
    ∃ d, declaration? p files s.name.text = some d := by
  refine Option.isSome_iff_exists.mp ?_
  rw [declaration?, List.find?_isSome]
  exact ⟨(module, s), h, by simp⟩

/-- A class that a record refers to is imported from the module of each of its
declarations, unless the diagnostics say that it is declared twice. -/
theorem same_of_no_duplicate_class {module : Path} {s : ClassSite}
    (hlint : ∀ i ∈ lint (ofFiles p files) p, ¬ (i.isError = true ∧ i.kind = "duplicate_class"))
    (hsite : (module, s) ∈ markedSites p files)
    (hname : s.name.text ∈ (ofFiles p files).recordClasses p) :
    ∃ c, (ofFiles p files).imports.get? s.name.text = some c ∧ c.module.same module = true := by
  have hdeclared := declaredIn_mem_classes hsite
  obtain ⟨first, hfirst⟩ := Imports.exists_firstNamed hdeclared
  refine ⟨first, ?_, ?_⟩
  · rw [ofFiles, imports_ofFacts, Imports.get?_insertAll_empty]
    exact hfirst
  · rcases Imports.same_or_mem_conflicts hdeclared hfirst with hsame | hconflict
    · exact hsame
    · -- a conflict about a name that a record refers to would have been an error
      rw [← imports_ofFacts] at hconflict
      have hreferenced : ((ofFiles p files).referenced p).contains s.name.text = true := by
        rw [List.contains_iff_mem, referenced, mem_sortedNames]
        exact hname
      have hissue : Lint.duplicateClass ⟨s.name.text, first.module, module⟩
          ∈ lint (ofFiles p files) p := by
        refine List.mem_append_right _ (List.mem_map_of_mem ?_)
        exact List.mem_filter.mpr ⟨hconflict, hreferenced⟩
      exact absurd ⟨rfl, rfl⟩ (hlint _ hissue)

/-! ### Import lines -/

/-- The import of a declared class, seen from the directory of the output. -/
def importOf (root dir module : Path) (s : ClassSite) : ImportLine :=
  ⟨s.name.text, s.isDefaultExport, specifierOf root dir module⟩

theorem classImport_ofFiles {root dir : Path} {name : String} {module : Path} {s : ClassSite}
    (h : declaration? p files name = some (module, s)) :
    classImport (ofFiles p files).imports root dir name = .ok (importOf root dir module s) := by
  have hname := name_of_declaration? h
  rw [declaration?] at h
  rw [classImport, get?_imports_ofFiles, h]
  simp [importOf, ClassSite.declaredIn, hname]

theorem exists_classImports (p : Pipeline) (files : List (Path × Node)) (q : Pipeline)
    (root dir : Path) :
    ∃ lines, classImports (ofFiles p files) q root dir = .ok lines ∧
      lines.map (·.names) = (ofFiles p files).referenced q ∧
      ∀ l ∈ lines, ∃ module s, declaration? p files l.names = some (module, s) ∧
        l = importOf root dir module s := by
  refine exists_mapM_eq_ok ImportLine.names fun name hname => ?_
  obtain ⟨_, _, hsite, rfl⟩ := exists_site_of_mem_recordClasses (mem_sortedNames.mp hname)
  obtain ⟨⟨module, s⟩, hs⟩ := exists_declaration? hsite
  have hself : s.name.text = _ := name_of_declaration? hs
  exact ⟨importOf root dir module s, classImport_ofFiles hs, hself, module, s,
    by rw [importOf, hself, hs], rfl⟩

end Table

/-! ### Main statement -/

open Table in
/-- **A record's class is imported from the file that declares it.**  Of parsed
files absorbed in order, every record's class is in the import map, so rendering
is never refused for a class.  Without an error about a class declared twice, the
module found for it is the file that the record is in.  The class imports are one
line for each class that a record refers to, in strictly increasing order of the
bytes of the names; each stands for the first declaration of the name, and is a
default import exactly if that is written as `export default class`.  In a rendered
text they stand together, behind the imports that the configuration asks for and
before all else, and there are no other imports. -/
theorem handlers_imported_from_declaration (p : Pipeline) (files : List (Path × Node)) :
    (∀ q, ∀ name ∈ (ofFiles p files).recordClasses q,
      ((ofFiles p files).imports.get? name).isSome) ∧
    (∀ q c root name, render q (ofFiles p files) c root ≠ .error (.unrecordedClass name)) ∧
    ((∀ i ∈ lint (ofFiles p files) p, ¬ (i.isError = true ∧ i.kind = "duplicate_class")) →
      (∀ r ∈ (ofFiles p files).routes, ∃ c,
        (ofFiles p files).imports.get? r.controller = some c ∧
        c.module.same r.location.file = true) ∧
      ∀ k ∈ (ofFiles p files).tasks, ∃ c,
        (ofFiles p files).imports.get? k.consumer = some c ∧
        c.module.same k.location.file = true) ∧
    (∀ root dir, ∃ lines,
      classImports (ofFiles p files) p root dir = .ok lines ∧
      (lines.map (·.names)).Pairwise (fun a b => OsText.ofText a < OsText.ofText b) ∧
      (∀ name, name ∈ lines.map (·.names) ↔ name ∈ (ofFiles p files).recordClasses p) ∧
      ∀ l ∈ lines, ∃ module s, declaration? p files l.names = some (module, s) ∧
        l.isDefault = s.isDefaultExport ∧ l.specifier = specifierOf root dir module) ∧
    ∀ c root text, render p (ofFiles p files) c root = .ok text → ∃ support lines body,
      classImports (ofFiles p files) p root (outputDir root (c.output p)) = .ok lines ∧
      support.map (·.names) = (supportNames p c (ofFiles p files)).map (", ".intercalate) ∧
      (∀ l ∈ body, opensImport l = false) ∧
      text = linesText (heading support ++ lines.map ImportLine.text ++ body) ∧
      ((ofFiles p files).NamesOnOneLine p →
        ∀ l ∈ heading support ++ lines.map ImportLine.text ++ body, OneLine l) := by
  refine ⟨?recorded, ?rendered, ?modules, ?lines, fun c root text => ?text⟩
  case recorded =>
    intro q name hname
    obtain ⟨_, _, hsite, rfl⟩ := exists_site_of_mem_recordClasses hname
    obtain ⟨d, hd⟩ := exists_declaration? hsite
    rw [declaration?] at hd
    rw [get?_imports_ofFiles, hd]
    rfl
  case rendered =>
    -- the class imports are made for any output directory, so only a name is refused
    intro q c root name hrender
    have hclasses : ∀ dir, ∃ lines, classImports (ofFiles p files) q root dir = .ok lines := by
      intro dir
      obtain ⟨lines, hlines, -⟩ := exists_classImports p files q root dir
      exact ⟨lines, hlines⟩
    obtain ⟨_, _, h⟩ := render_eq_error hclasses hrender
    cases h
  case modules =>
    refine fun hlint => ⟨fun r hr => ?_, fun k hk => ?_⟩
    · obtain ⟨rfl, s, hsite, hname⟩ := exists_site_of_route hr
      rw [← hname]
      exact same_of_no_duplicate_class hlint hsite (hname ▸ List.mem_map_of_mem hr)
    · obtain ⟨rfl, s, hsite, hname⟩ := exists_site_of_task hk
      rw [← hname]
      exact same_of_no_duplicate_class hlint hsite (hname ▸ List.mem_map_of_mem hk)
  case lines =>
    intro root dir
    obtain ⟨lines, hlines, hnames, hdeclared⟩ := exists_classImports p files p root dir
    refine ⟨lines, hlines, ?_, ?_, fun l hl => ?_⟩
    · rw [hnames]
      exact (pairwise_sortedNames _).imp lt_iff_bytes_lt.mp
    · intro name
      rw [hnames]
      exact mem_sortedNames
    · obtain ⟨module, s, hd, hline⟩ := hdeclared l hl
      exact ⟨module, s, hd, by rw [hline, importOf], by rw [hline, importOf]⟩
  case text =>
    intro hrender
    obtain ⟨support, lines, body, h⟩ := exists_heading_of_render hrender
    rw [heading_append] at h
    exact ⟨support, lines, body, h⟩

/-- A default export with a class in one of its methods, and a class of another
file. -/
def nestedFiles : List (Path × Node) := [
  (⟨"src/a.ts"⟩, Grammar.read .typeScript
    ("@Controller('a') export default class A \x7b @Get('b') c() \x7b " ++
      "@Controller('') class B \x7b @Put('d') e() \x7b\x7d \x7d \x7d \x7d")),
  (⟨"src/f.ts"⟩, Grammar.read .typeScript
    "@Controller('f') export class F \x7b @Get('') g() \x7b\x7d \x7d")]

open Table in
theorem handlers_imported_from_declaration_nested :
    (lint (ofFiles .http nestedFiles) .http = [] ∧
      (ofFiles .http nestedFiles).recordClasses .http = ["A", "B", "F"] ∧
      (render .http (ofFiles .http nestedFiles) {} ⟨"."⟩).isOk = true) ∧
    (∀ r ∈ (ofFiles .http nestedFiles).routes, ∃ c,
      (ofFiles .http nestedFiles).imports.get? r.controller = some c ∧
      c.module.same r.location.file = true) ∧
    ∃ text support lines body,
      render .http (ofFiles .http nestedFiles) {} ⟨"."⟩ = .ok text ∧
      classImports (ofFiles .http nestedFiles) .http ⟨"."⟩
          (outputDir ⟨"."⟩ (Config.output {} .http))
        = .ok lines ∧
      (∀ l ∈ body, opensImport l = false) ∧
      text = linesText (heading support ++ lines.map ImportLine.text ++ body) := by
  have hfacts : lint (ofFiles .http nestedFiles) .http = [] ∧
      (ofFiles .http nestedFiles).recordClasses .http = ["A", "B", "F"] ∧
      (render .http (ofFiles .http nestedFiles) {} ⟨"."⟩).isOk = true := by decide +kernel
  obtain ⟨-, -, modules, -, rendered⟩ := handlers_imported_from_declaration .http nestedFiles
  refine ⟨hfacts, (modules ?_).1, ?_⟩
  · rw [hfacts.1]
    simp
  · cases hrender : render .http (ofFiles .http nestedFiles) {} ⟨"."⟩ with
    | ok text =>
      obtain ⟨support, lines, body, hlines, -, hbody, htext, -⟩ := rendered {} ⟨"."⟩ text hrender
      exact ⟨text, support, lines, body, rfl, hlines, hbody, htext⟩
    | error e =>
      have hok := hfacts.2.2
      rw [hrender] at hok
      cases hok

end DispatchGen

/-
DispatchGen/Proofs/Assembly.lean

A table as what its files contribute, one after another.

Absorbing a file appends its records and issues and inserts its classes, so the
table of several files is told by the lists of all their facts
(`Table.ofFacts`).  Together with the history of the import map this says which
declaration a name stands for, and with the walk over a file which records there
are.
-/
import DispatchGen.Proofs.ClassWalk
import DispatchGen.Proofs.ImportHistory
import DispatchGen.Table

namespace DispatchGen

open Syntax Extract

theorem Imports.insertAll_append (m : Imports) (cs ds : List MarkedClass) :
    m.insertAll (cs ++ ds) = (m.insertAll cs).insertAll ds :=
  List.foldl_append

namespace Table

/-- The table of the facts of several files, absorbed in order. -/
def ofFacts (fs : List Facts) : Table := fs.foldl absorb {}

/-- A table takes in the facts of files list by list. -/
theorem foldl_absorb (t : Table) (fs : List Facts) :
    fs.foldl absorb t =
      { routes := t.routes ++ fs.flatMap (·.routes)
        tasks := t.tasks ++ fs.flatMap (·.tasks)
        imports := t.imports.insertAll (fs.flatMap (·.classes))
        issues := t.issues ++ fs.flatMap (·.issues)
        filesScanned := t.filesScanned + fs.length } := by
  induction fs generalizing t with
  | nil => simp [Imports.insertAll]
  | cons f fs ih =>
    rw [List.foldl_cons, ih]
    simp [absorb, Imports.insertAll_append]
    omega

section Facts

variable (fs : List Facts)

@[simp] theorem routes_ofFacts : (ofFacts fs).routes = fs.flatMap (·.routes) := by
  simp [ofFacts, foldl_absorb]

@[simp] theorem tasks_ofFacts : (ofFacts fs).tasks = fs.flatMap (·.tasks) := by
  simp [ofFacts, foldl_absorb]

@[simp] theorem imports_ofFacts :
    (ofFacts fs).imports = ({} : Imports).insertAll (fs.flatMap (·.classes)) := by
  simp [ofFacts, foldl_absorb]

@[simp] theorem issues_ofFacts : (ofFacts fs).issues = fs.flatMap (·.issues) := by
  simp [ofFacts, foldl_absorb]

end Facts

/-! ### The table of parsed files -/

/-- The table that a pipeline makes of parsed files, each with its module. -/
def ofFiles (p : Pipeline) (files : List (Path × Node)) : Table :=
  ofFacts (files.map fun (module, root) => extract p module root)

/-- The marked classes of parsed files, in the order they are declared, each
with its module. -/
def markedSites (p : Pipeline) (files : List (Path × Node)) : List (Path × ClassSite) :=
  files.flatMap fun (module, root) =>
    ((classSites none root).filter (·.isMarked p)).map (module, ·)

variable {p : Pipeline} {files : List (Path × Node)}

/-- The classes of files are their marked sites, in order. -/
theorem classes_ofFiles :
    (files.map fun (module, root) => extract p module root).flatMap (·.classes)
      = (markedSites p files).map fun (module, site) => site.declaredIn module := by
  simp only [markedSites, List.flatMap_map, List.map_flatMap, classes_extract, List.map_map,
    Function.comp_def]

/-- A marked class is among the classes of its file's facts. -/
theorem declaredIn_mem_classes {module : Path} {s : ClassSite}
    (h : (module, s) ∈ markedSites p files) :
    s.declaredIn module ∈
      (files.map fun (module, root) => extract p module root).flatMap (·.classes) := by
  rw [classes_ofFiles]
  exact List.mem_map_of_mem h

/-- A name stands for its first declaration. -/
theorem get?_imports_ofFiles (name : String) :
    (ofFiles p files).imports.get? name
      = ((markedSites p files).find? (·.2.name.text = name)).map
          fun (module, site) => site.declaredIn module := by
  rw [ofFiles, imports_ofFacts, Imports.get?_insertAll_empty, classes_ofFiles, Imports.firstNamed,
    List.find?_map]
  rfl

/-- Reading files gives warnings only. -/
theorem isError_of_mem_issues_ofFiles {i : Issue} (h : i ∈ (ofFiles p files).issues) :
    i.isError = false := by
  simp only [ofFiles, issues_ofFacts, List.flatMap_map, List.mem_flatMap] at h
  obtain ⟨file, _, hi⟩ := h
  exact isError_of_mem_extract hi

end Table

end DispatchGen

/-
DispatchGen/Proofs/PreparedTable.lean

What preparing a target comes to.

Preparing tells the log a good deal on its way, but its result is short: the
sources of the scan are read and parsed in order (`parseSource`), the table is
that of the parsed files, and it is refused or rendered (`result_buildTable`,
`result_prepare`).

Extraction never finds an error, so a table is in conflict only for its keys and
for its classes, and these are conditions on lists: no two records share a key,
and no class that a record refers to is declared in two modules
(`filter_isError_lint_eq_nil`).
-/
import DispatchGen.Project.Build
import DispatchGen.Proofs.Assembly
import DispatchGen.Proofs.NameOrder
import DispatchGen.Proofs.RepeatedKeys
import DispatchGen.Proofs.Results

namespace DispatchGen

open Grammar (Reader)

open Syntax

/-! ### The table that is built -/

namespace Project

/-- A source of the scan, read and parsed, with its module. -/
def parseSource [Reader] (d : Disk) (root file : Path) : Except Failure (Path × Node) :=
  match d.readText file with
  | .error fault => .error (.disk (.readSource file) fault)
  | .ok text =>
      match Grammar.Reader.tree? (Grammar.Dialect.ofPath file) text with
      | none => .error (.unparsed file)
      | some tree => .ok (moduleOf root file, tree)

/-- What a visit of the scan is for: a source, or the failure that is met instead. -/
def Visit.request? : Visit → Option (Except Failure Path)
  | source file => some (.ok file)
  | output _ => none
  | unlisted directory fault => some (.error (.disk (.listSources directory) fault))

def parseRequest [Reader] (d : Disk) (root : Path) (request : Except Failure Path) :
    Except Failure (Path × Node) :=
  request.bind (parseSource d root)

/-- The sources of a target, read and parsed in the order of the scan. -/
def parseSources [Reader] (d : Disk) (target : Pipeline) (root : Path) (c : Config) :
    Except Failure (List (Path × Node)) := do
  let visits ← scan d target (root.join (c.sourceDir target)) c
    (some (root.join (c.output target)))
  (visits.filterMap Visit.request?).mapM (parseRequest d root)

/-- Whether the scan met no refusal. -/
def AllListed (visits : List Visit) : Prop := ∀ directory fault, .unlisted directory fault ∉ visits

theorem allListed_cons {v : Visit} {visits : List Visit} :
    AllListed (v :: visits) ↔ (∀ directory fault, v ≠ .unlisted directory fault) ∧
      AllListed visits := by
  simp only [AllListed, List.mem_cons, not_or, forall_and, ne_comm, ne_eq]

/-- The requests of a scan without refusals are its sources. -/
theorem filterMap_request? {visits : List Visit} (h : AllListed visits) :
    visits.filterMap Visit.request? = (visits.filterMap Visit.source?).map .ok := by
  induction visits with
  | nil => rfl
  | cons v visits ih =>
    obtain ⟨hv, hvisits⟩ := allListed_cons.mp h
    cases v with
    | source file => exact congrArg (Except.ok file :: ·) (ih hvisits)
    | output file => exact ih hvisits
    | unlisted directory fault => exact absurd rfl (hv directory fault)

/-- Requests are met if there is no refusal among them and every source is parsed. -/
theorem mapM_request?_eq_ok [Reader] {d : Disk} {root : Path} {visits : List Visit}
    {files : List (Path × Node)} :
    (visits.filterMap Visit.request?).mapM (parseRequest d root) = .ok files ↔
      AllListed visits ∧
        (visits.filterMap Visit.source?).mapM (parseSource d root) = .ok files := by
  constructor
  · intro h
    have hlisted : AllListed visits := by
      intro directory fault hmem
      have hrequest : .error (.disk (.listSources directory) fault)
          ∈ visits.filterMap Visit.request? := List.mem_filterMap.mpr ⟨_, hmem, rfl⟩
      obtain ⟨_, -, hfile⟩ := exists_of_mem_of_mapM_eq_ok h hrequest
      cases hfile
    rw [filterMap_request? hlisted, List.mapM_map] at h
    exact ⟨hlisted, h⟩
  · rintro ⟨hlisted, h⟩
    rw [filterMap_request? hlisted, List.mapM_map]
    exact h

theorem result_absorbVisit_output [Reader] (d : Disk) (target : Pipeline) (root : Path) (t : Table)
    (file : Path) : (absorbVisit d target root t (.output file)).result = .ok t := rfl

theorem result_absorbVisit_unlisted [Reader] (d : Disk) (target : Pipeline) (root : Path)
    (t : Table) (directory : Path) (fault : Disk.Fault) :
    (absorbVisit d target root t (.unlisted directory fault)).result
      = .error (.disk (.listSources directory) fault) := rfl

theorem result_absorbVisit_source [Reader] (d : Disk) (target : Pipeline) (root : Path) (t : Table)
    (file : Path) :
    (absorbVisit d target root t (.source file)).result
      = (parseSource d root file).map fun (module, tree) =>
          t.absorb (extract target module tree) := by
  rw [absorbVisit, parseSource]
  cases d.readText file with
  | error fault => rfl
  | ok text =>
    dsimp only
    cases Grammar.Reader.tree? (Grammar.Dialect.ofPath file) text <;> rfl

theorem result_foldlM_absorbVisit [Reader] (d : Disk) (target : Pipeline) (root : Path) (t : Table)
    (visits : List Visit) :
    (visits.foldlM (absorbVisit d target root) t).result
      = ((visits.filterMap Visit.request?).mapM (parseRequest d root)).map fun files =>
          (files.map fun (module, tree) => extract target module tree).foldl Table.absorb t := by
  induction visits generalizing t with
  | nil => rfl
  | cons v visits ih =>
    rw [List.foldlM_cons]
    cases v with
    | output file =>
      rw [Report.bind_of_ok (result_absorbVisit_output d target root t file)]
      exact ih t
    | unlisted directory fault =>
      rw [Report.bind_of_error (result_absorbVisit_unlisted d target root t directory fault)]
      rfl
    | source file =>
      have hstep := result_absorbVisit_source d target root t file
      -- the table goes on from what the file adds to it
      have hrequests : (Visit.source file :: visits).filterMap Visit.request?
          = .ok file :: visits.filterMap Visit.request? := rfl
      rw [hrequests, List.mapM_cons]
      change _ = ((parseSource d root file).bind _).map _
      cases hfile : parseSource d root file with
      | error e =>
        rw [hfile] at hstep
        rw [Report.bind_of_error hstep]
        rfl
      | ok parsed =>
        rw [hfile] at hstep
        rw [Report.bind_of_ok hstep]
        rw [ih]
        cases (visits.filterMap Visit.request?).mapM (parseRequest d root) <;> rfl

/-- The table that is built is that of the sources, if they can be read. -/
theorem result_buildTable [Reader] (d : Disk) (target : Pipeline) (root : Path) (c : Config) :
    (buildTable d target root c).result
      = (parseSources d target root c).map (Table.ofFiles target) := by
  rw [buildTable, parseSources]
  cases scan d target (root.join (c.sourceDir target)) c (some (root.join (c.output target))) with
  | error e => rfl
  | ok visits => exact result_foldlM_absorbVisit d target root {} visits

/-- The sources of a target can be parsed if the scan meets no refusal and each can. -/
theorem parseSources_eq_ok [Reader] {d : Disk} {target : Pipeline} {root : Path} {c : Config}
    {files : List (Path × Node)} :
    parseSources d target root c = .ok files ↔
      ∃ visits, scan d target (root.join (c.sourceDir target)) c
          (some (root.join (c.output target))) = .ok visits ∧ AllListed visits ∧
        (visits.filterMap Visit.source?).mapM (parseSource d root) = .ok files := by
  simp only [parseSources, bind_eq_ok, mapM_request?_eq_ok]

/-- Why the sources of a target cannot be parsed: they are missing, or the disk or the grammar
refuses one of them. -/
theorem parseSources_eq_error [Reader] {d : Disk} {target : Pipeline} {root : Path} {c : Config}
    {e : Failure} (h : parseSources d target root c = .error e) :
    (d.isDirectory (root.join (c.sourceDir target)) = false ∧
      e = .missingSourceDir target (root.join (c.sourceDir target))) ∨
    (∃ action fault, e = .disk action fault) ∨ ∃ file, e = .unparsed file := by
  rcases bind_eq_error.mp h with hscan | ⟨found, -, hparse⟩
  · rw [scan] at hscan
    split at hscan
    case h_1 => cases hscan
    case h_2 hnone =>
      cases hscan
      exact .inl ⟨by rw [Disk.isDirectory, hnone]; rfl, rfl⟩
  · obtain ⟨request, hrequest, he⟩ := exists_of_mapM_eq_error hparse
    obtain ⟨v, -, hv⟩ := List.mem_filterMap.mp hrequest
    cases v with
    | output file => cases hv
    | unlisted directory fault =>
      cases hv
      cases he
      exact .inr (.inl ⟨_, _, rfl⟩)
    | source file =>
      cases hv
      change parseSource d root file = _ at he
      unfold parseSource at he
      split at he
      case h_1 => cases he; exact .inr (.inl ⟨_, _, rfl⟩)
      case h_2 => split at he <;> cases he; exact .inr (.inr ⟨_, rfl⟩)

theorem result_prepare [Reader] (d : Disk) (target : Pipeline) (root : Path) (c : Config) :
    (prepare d target root c).result
      = (parseSources d target root c).bind fun files =>
          renderTable target root c (Table.ofFiles target files) := by
  have htable := result_buildTable d target root c
  rw [prepare]
  cases hfiles : parseSources d target root c with
  | error e =>
    rw [hfiles] at htable
    rw [Report.bind_of_error htable]
    rfl
  | ok files =>
    rw [hfiles] at htable
    rw [Report.bind_of_ok htable]
    cases hrender : renderTable target root c (Table.ofFiles target files) with
    | error e =>
      simp only [hrender, Except.bind]
      rfl
    | ok prepared =>
      simp only [hrender, Except.bind]
      rfl

end Project

/-! ### Conflicts -/

theorem Verb.name_injective : Function.Injective Verb.name := by
  intro v w h
  have hname := congrArg Verb.ofName? h
  rw [Verb.ofName?_name, Verb.ofName?_name] at hname
  exact Option.some.inj hname

namespace Table

/-- What tells the records of a pipeline apart, in table order: the verb and the
path, or the queue. -/
def keys (t : Table) : Pipeline → List (String × String)
  | .http => t.routes.map fun r => (r.verb.name, r.pattern)
  | .queue => t.tasks.map fun k => ("case", k.queue)

theorem duplicateRecords_http (t : Table) :
    Lint.duplicateRecords t .http
      = (Lint.repeats (fun r => (r.verb.name, r.pattern)) [] t.routes).map fun x =>
          Lint.duplicateRoute x.1 x.2 := by
  have hinj : Function.Injective fun k : Verb × String => (k.1.name, k.2) :=
    Verb.name_injective.prodMap Function.injective_id
  rw [Lint.duplicateRecords, ← Lint.repeats_of_injective Lint.routeKey hinj]
  rfl

theorem duplicateRecords_queue (t : Table) :
    Lint.duplicateRecords t .queue
      = (Lint.repeats (fun k => ("case", k.queue)) [] t.tasks).map fun x =>
          Lint.duplicateQueue x.1 x.2 := by
  have hinj : Function.Injective fun q : String => ("case", q) := Prod.mk_right_injective "case"
  rw [Lint.duplicateRecords, ← Lint.repeats_of_injective Task.queue hinj]

theorem duplicateRecords_eq_nil_iff (t : Table) (p : Pipeline) :
    Lint.duplicateRecords t p = [] ↔ (t.keys p).Nodup := by
  cases p with
  | http => rw [duplicateRecords_http, List.map_eq_nil_iff, Lint.repeats_eq_nil_iff, keys]
  | queue => rw [duplicateRecords_queue, List.map_eq_nil_iff, Lint.repeats_eq_nil_iff, keys]

/-- Marked classes of two modules bear the name. -/
def DeclaredTwice (p : Pipeline) (files : List (Path × Node)) (name : String) : Prop :=
  ∃ a ∈ markedSites p files, ∃ b ∈ markedSites p files,
    a.2.name.text = name ∧ b.2.name.text = name ∧ a.1.same b.1 = false

variable {p : Pipeline} {files : List (Path × Node)}

theorem exists_conflict_ofFiles (name : String) :
    (∃ k ∈ (ofFiles p files).imports.conflicts, k.name = name) ↔ DeclaredTwice p files name := by
  rw [ofFiles, imports_ofFacts, classes_ofFiles, Imports.exists_conflict_iff]
  simp only [List.mem_map, exists_exists_and_eq_and]
  rfl

theorem duplicateClasses_ne_nil_iff :
    Lint.duplicateClasses (ofFiles p files) p ≠ [] ↔
      ∃ name ∈ (ofFiles p files).recordClasses p, DeclaredTwice p files name := by
  rw [Lint.duplicateClasses, ne_eq, List.map_eq_nil_iff, List.filter_eq_nil_iff]
  simp only [List.contains_iff_mem, referenced, mem_sortedNames, not_forall, not_not]
  constructor
  · rintro ⟨k, hk, hname⟩
    exact ⟨k.name, hname, (exists_conflict_ofFiles k.name).mp ⟨k, hk, rfl⟩⟩
  · rintro ⟨name, hname, htwice⟩
    obtain ⟨k, hk, rfl⟩ := (exists_conflict_ofFiles name).mpr htwice
    exact ⟨k, hk, hname⟩

/-- The errors of a table are those about keys and about classes. -/
theorem filter_isError_lint :
    (lint (ofFiles p files) p).filter Issue.isError
      = Lint.duplicateRecords (ofFiles p files) p ++ Lint.duplicateClasses (ofFiles p files) p := by
  have hissues : (ofFiles p files).issues.filter Issue.isError = [] := by
    refine List.filter_eq_nil_iff.mpr fun i hi => ?_
    rw [isError_of_mem_issues_ofFiles hi]
    exact Bool.false_ne_true
  -- the two checks raise nothing else
  have hrecords : ∀ i ∈ Lint.duplicateRecords (ofFiles p files) p, i.isError = true := by
    intro i hi
    cases p <;> obtain ⟨_, _, rfl⟩ := List.mem_map.mp hi <;> rfl
  have hclasses : ∀ i ∈ Lint.duplicateClasses (ofFiles p files) p, i.isError = true := by
    intro i hi
    obtain ⟨_, _, rfl⟩ := List.mem_map.mp hi
    rfl
  rw [lint, List.filter_append, List.filter_append, hissues, List.filter_eq_self.mpr hrecords,
    List.filter_eq_self.mpr hclasses, List.nil_append]

/-- A table is without errors exactly if no two records share a key and no class
that a record refers to is declared in two modules. -/
theorem filter_isError_lint_eq_nil :
    (lint (ofFiles p files) p).filter Issue.isError = [] ↔
      ((ofFiles p files).keys p).Nodup ∧
        ¬ ∃ name ∈ (ofFiles p files).recordClasses p, DeclaredTwice p files name := by
  rw [filter_isError_lint, List.append_eq_nil_iff, duplicateRecords_eq_nil_iff,
    ← duplicateClasses_ne_nil_iff, ne_eq, not_not]

end Table

namespace Project

/-- A table that is rendered has no errors. -/
theorem renderTable_eq_ok {target : Pipeline} {root : Path} {c : Config} {t : Table}
    {prepared : Prepared} (h : renderTable target root c t = .ok prepared) :
    (lint t target).filter Issue.isError = [] ∧ prepared.table = t ∧
      Emit.render target t c root = .ok prepared.text := by
  unfold renderTable at h
  split at h
  case h_1 hnone =>
    split at h
    case h_1 text hrender =>
      cases h
      exact ⟨hnone, rfl, hrender⟩
    case h_2 => cases h
  case h_2 => cases h

/-- The text that is prepared is the rendering of the table that goes with it. -/
theorem render_of_prepare [Reader] {d : Disk} {target : Pipeline} {root : Path} {c : Config}
    {prepared : Prepared} (h : (prepare d target root c).result = .ok prepared) :
    Emit.render target prepared.table c root = .ok prepared.text := by
  rw [result_prepare] at h
  obtain ⟨_, _, h⟩ := bind_eq_ok.mp h
  obtain ⟨-, htable, hrender⟩ := renderTable_eq_ok h
  rw [htable]
  exact hrender

/-- A table is refused for all of its errors. -/
theorem renderTable_eq_conflicts {target q : Pipeline} {root : Path} {c : Config} {t : Table}
    {errors : List Issue} :
    renderTable target root c t = .error (.conflicts q errors) ↔
      q = target ∧ errors ≠ [] ∧ errors = (lint t target).filter Issue.isError := by
  unfold renderTable
  split
  case h_1 hnone =>
    refine iff_of_false (fun h => ?_) fun ⟨_, hne, herrors⟩ => hne (herrors.trans hnone)
    cases hrender : Emit.render target t c root <;> rw [hrender] at h <;> cases h
  case h_2 hsome =>
    constructor
    · intro h
      cases h
      exact ⟨rfl, hsome, rfl⟩
    · rintro ⟨rfl, -, rfl⟩
      rfl

/-- A table is refused for conflicts exactly if it has errors. -/
theorem renderTable_conflicts_iff {target : Pipeline} {root : Path} {c : Config} {t : Table} :
    (∃ p errors, renderTable target root c t = .error (.conflicts p errors)) ↔
      (lint t target).filter Issue.isError ≠ [] := by
  simp only [renderTable_eq_conflicts]
  constructor
  · rintro ⟨_, _, -, hne, rfl⟩
    exact hne
  · exact fun hne => ⟨target, _, rfl, hne, rfl⟩

end Project

end DispatchGen

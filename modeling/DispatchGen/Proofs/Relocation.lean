/-
DispatchGen/Proofs/Relocation.lean

Preparing a target does not depend on where its project stands.

The root is put before every path that the disk is asked for, and is gone from all that is
prepared.  A location is a path below the root, from which the root has been taken off again
(`moduleOf_join`), and an import leads from the directory of the output to a module, and on this
way the root cancels out, however it is written (`specifierOf_join`).  What there is to read is
told by the listing of the root (`SameTree.status`), so the same tree at two places has the same
sources.  Only where a file cannot be read does the failure show the root, hence results are
compared up to that (`SameVerdict`).

Main statement: `prepare_relocated`.
-/
import DispatchGen.Proofs.BelowDirectory
import DispatchGen.Proofs.CleanPath
import DispatchGen.Proofs.JoinedPath
import DispatchGen.Proofs.SourceListing

namespace DispatchGen

open Grammar (Reader)

open Disk DispatchGen.Path

/-! ### Results up to the place -/

/-- Two results that are equal, or are failures both, with the same conflicts if these are what
one of them fails for. -/
inductive SameVerdict {α : Type} : Except Failure α → Except Failure α → Prop
  | ok (a : α) : SameVerdict (.ok a) (.ok a)
  | error {e e' : Failure}
      (h : ∀ q errors, e = .conflicts q errors ↔ e' = .conflicts q errors) :
      SameVerdict (.error e) (.error e')

namespace SameVerdict

variable {ι α β : Type}

theorem of_ne {e e' : Failure} (h : ∀ q errors, e ≠ .conflicts q errors)
    (h' : ∀ q errors, e' ≠ .conflicts q errors) :
    SameVerdict (.error e : Except Failure α) (.error e') :=
  .error fun q errors => iff_of_false (h q errors) (h' q errors)

/-- Results that are the same where they are no failures. -/
theorem of_ok_iff {r r' : Except Failure α} (h : ∀ a, r = .ok a ↔ r' = .ok a)
    (hne : ∀ q errors, r ≠ .error (.conflicts q errors))
    (hne' : ∀ q errors, r' ≠ .error (.conflicts q errors)) : SameVerdict r r' := by
  cases r with
  | ok a =>
    rw [(h a).mp rfl]
    exact .ok a
  | error e =>
    cases r' with
    | ok a => cases (h a).mpr rfl
    | error e' =>
      exact .of_ne (fun q errors he => hne q errors (congrArg _ he))
        fun q errors he => hne' q errors (congrArg _ he)

theorem ok_iff {r r' : Except Failure α} (h : SameVerdict r r') (a : α) :
    r = .ok a ↔ r' = .ok a := by
  cases h with
  | ok b => exact Iff.rfl
  | error h => simp

theorem refl (r : Except Failure α) : SameVerdict r r := by
  cases r with
  | error e => exact .error fun _ _ => Iff.rfl
  | ok a => exact .ok a

/-- Verdicts are the same one after another. -/
theorem bind {r r' : Except Failure α} {f f' : α → Except Failure β} (h : SameVerdict r r')
    (hf : ∀ a, r = .ok a → SameVerdict (f a) (f' a)) : SameVerdict (r.bind f) (r'.bind f') := by
  cases h with
  | ok a => exact hf a rfl
  | error h => exact .error h

/-- Verdicts are the same item by item. -/
theorem mapM {f f' : α → Except Failure β} {g g' : ι → α} {xs : List ι}
    (h : ∀ x ∈ xs, SameVerdict (f (g x)) (f' (g' x))) :
    SameVerdict ((xs.map g).mapM f) ((xs.map g').mapM f') := by
  induction xs with
  | nil => exact .ok []
  | cons x xs ih =>
    obtain ⟨hx, hxs⟩ := List.forall_mem_cons.mp h
    rw [List.map_cons, List.map_cons, List.mapM_cons, List.mapM_cons]
    exact hx.bind fun y _ => (ih hxs).bind fun ys _ => .ok (y :: ys)

end SameVerdict

namespace Project

/-! ### One tree at two places -/

/-- Two roots, each on a disk, that hold one tree of files, without links.  The system refuses
to read the same files of it, and to list the same directories. -/
structure SameTree (d : Disk) (root : Path) (d' : Disk) (root' : Path) : Prop where
  tree : ∃ entries, isPlainListing entries = true ∧ d.directory? root = some entries ∧
    d'.directory? root' = some entries
  refusal : ∀ file : Path, file.Descends →
    d.refusal (.read (root.join file)) = d'.refusal (.read (root'.join file))
  listing : ∀ directory : Path, directory.Descends →
    d.refusal (.listDirectory (root.join directory))
      = d'.refusal (.listDirectory (root'.join directory))

variable {d d' : Disk} {root root' p q source output module : Path} {c : Config}
  {target : Pipeline} {entries : List (OsText × Entry)} {names : Place}

namespace SameTree

theorem raw_ne (h : SameTree d root d' root') : root.raw ≠ [] ∧ root'.raw ≠ [] := by
  obtain ⟨entries, -, hroot, hroot'⟩ := h.tree
  exact ⟨raw_ne_of_directory? hroot, raw_ne_of_directory? hroot'⟩

/-- The same thing is there under both roots. -/
theorem status (h : SameTree d root d' root') (hp : p.Descends) :
    d.status (root.join p) = d'.status (root'.join p) := by
  obtain ⟨entries, hplain, hroot, hroot'⟩ := h.tree
  rw [status_join hroot hplain hp, status_join hroot' hplain hp]

theorem directory? (h : SameTree d root d' root') (hp : p.Descends) :
    d.directory? (root.join p) = d'.directory? (root'.join p) := by
  rw [Disk.directory?, Disk.directory?, h.status hp]

/-- The same text is read under both roots. -/
theorem readText (h : SameTree d root d' root') (hp : p.Descends) :
    d.readText (root.join p) = d'.readText (root'.join p) := by
  rw [Disk.readText, Disk.readText, Disk.allow, Disk.allow, h.refusal p hp, h.status hp]

theorem isPlainListing (h : SameTree d root d' root') (hp : p.Descends)
    (hentries : d.directory? (root.join p) = some entries) : isPlainListing entries = true := by
  obtain ⟨_, hplain, hroot, -⟩ := h.tree
  exact isPlainListing_of_directory? hroot hplain hp hentries

end SameTree

/-! ### The sources -/

/-- Whether a file is a source depends on its last component. -/
theorem isSourceFile_of_getLast? (c : Config)
    (h : p.components.getLast? = q.components.getLast?) : c.isSourceFile p = c.isSourceFile q := by
  have hname : p.fileName? = q.fileName? := by rw [fileName?, fileName?, h]
  rw [Config.isSourceFile, Config.isSourceFile, extension?, extension?, hname]

theorem components_descend_join (hroot : root.raw ≠ []) (hsource : source.isAbsolute = false)
    (hnames : ∀ name ∈ names, IsName name) :
    ((root.join source).descend names).components
      = root.components ++ (source.steps ++ names.map .normal) := by
  rw [components_descend (join_raw_ne hroot hsource) hnames, components_join hroot hsource,
    List.append_assoc]

theorem getLast?_descend_join (hroot : root.raw ≠ []) (hsource : source.isAbsolute = false)
    (hnames : ∀ name ∈ names, IsName name) (hne : names ≠ []) :
    ((root.join source).descend names).components.getLast?
      = (source.steps ++ names.map Component.normal).getLast? := by
  rw [components_descend_join hroot hsource hnames]
  exact List.getLast?_append_of_ne_nil _ (by simp [hne])

/-- Which files are read does not depend on the root. -/
theorem reads_join (hroot : root.raw ≠ []) (hroot' : root'.raw ≠ [])
    (hsource : source.isAbsolute = false) (houtput : output.isAbsolute = false)
    (hnames : ∀ name ∈ names, IsName name) (hne : names ≠ []) :
    reads c (some (root.join output)) (root.join source) names
      = reads c (some (root'.join output)) (root'.join source) names := by
  have hlast := (getLast?_descend_join hroot hsource hnames hne).trans
    (getLast?_descend_join hroot' hsource hnames hne).symm
  have hskip : ∀ root : Path, root.raw ≠ [] →
      (root.join output).same ((root.join source).descend names)
        = decide (output.steps = source.steps ++ names.map .normal) := by
    intro root hroot
    rw [same, components_descend_join hroot hsource hnames, components_join hroot houtput]
    simp only [List.append_cancel_left_eq]
  simp only [reads, Option.any_some, hskip root hroot, hskip root' hroot',
    isSourceFile_of_getLast? c hlast]

theorem isName_of_mem_filesOf (hplain : isPlainListing entries = true)
    (h : names ∈ filesOf entries) : names ≠ [] ∧ ∀ name ∈ names, IsName name := by
  obtain ⟨bytes, hget⟩ := (mem_filesOf_iff_get? (ordered_of_isPlainListing hplain)).mp h
  refine ⟨?_, (isPlain_of_get? (e := .directory entries) hplain hget).2⟩
  rintro rfl
  cases hget

/-- The sources are joined to the root. -/
theorem sourcesAmong_join (hroot : root.raw ≠ []) (hsource : source.isAbsolute = false)
    (hplain : isPlainListing entries = true) (skip : Option Path) :
    sourcesAmong c skip (root.join source) (filesOf entries)
      = ((filesOf entries).filter (reads c skip (root.join source))).map
          fun names => root.join (source.descend names) := by
  refine List.map_congr_left fun names hnames => ?_
  exact descend_join hroot hsource
    (isName_of_mem_filesOf hplain (List.mem_filter.mp hnames).1).2

/-- A location shows the path below the root. -/
theorem moduleOf_join (hroot : root.raw ≠ []) (hq : q.isAbsolute = false) :
    moduleOf root (root.join q) = q.bare := by
  rw [moduleOf, stripPrefix?_join hroot hq]
  rfl

/-- The dialect of a file depends on its last component. -/
theorem ofPath_of_getLast? (h : p.components.getLast? = q.components.getLast?) :
    Grammar.Dialect.ofPath p = Grammar.Dialect.ofPath q := by
  have hname : p.fileName? = q.fileName? := by rw [fileName?, fileName?, h]
  rw [Grammar.Dialect.ofPath, Grammar.Dialect.ofPath, extension?, extension?, hname]

/-- A file is the same source below both roots, if its last name is the same. -/
theorem SameTree.parseSource [Reader] (h : SameTree d root d' root') (hq : q.Descends)
    (hlast : (root.join q).components.getLast? = (root'.join q).components.getLast?) :
    SameVerdict (parseSource d root (root.join q)) (parseSource d' root' (root'.join q)) := by
  obtain ⟨hroot, hroot'⟩ := h.raw_ne
  unfold Project.parseSource
  rw [h.readText hq, moduleOf_join hroot hq.relative, moduleOf_join hroot' hq.relative,
    ofPath_of_getLast? hlast]
  cases d'.readText (root'.join q) with
  | error fault => exact .of_ne (by simp) (by simp)
  | ok text =>
    dsimp only
    cases Grammar.Reader.tree? (Grammar.Dialect.ofPath (root'.join q)) text with
    | none => exact .of_ne (by simp) (by simp)
    | some tree => exact .ok _

/-- The scan may list what it gets to below the one root if it may below the other. -/
theorem SameTree.listable (h : SameTree d root d' root') (hsource : source.Descends)
    (hplain : Project.isPlainListing entries = true) :
    Listable d c (root.join source) entries ↔ Listable d' c (root'.join source) entries := by
  obtain ⟨hroot, hroot'⟩ := h.raw_ne
  refine forall₂_congr fun names below => imp_congr_right fun hget => ?_
  have hnames : ∀ name ∈ names, IsName name :=
    (isPlain_of_get? (e := .directory entries) hplain hget).2
  rw [descend_join hroot hsource.relative hnames, descend_join hroot' hsource.relative hnames,
    h.listing _ (hsource.descend hnames)]

/-- The same sources are parsed under both roots, or a failure is met at both. -/
theorem SameTree.parseSources [Reader] (h : SameTree d root d' root')
    (hsource : (c.sourceDir target).Descends) (houtput : (c.output target).Descends) :
    SameVerdict (parseSources d target root c) (parseSources d' target root' c) := by
  obtain ⟨hroot, hroot'⟩ := h.raw_ne
  have hne : ∀ {d : Disk} {root : Path} q errors,
      Project.parseSources d target root c ≠ .error (.conflicts q errors) := by
    intro d root q errors herror
    obtain ⟨-, he⟩ | ⟨_, _, he⟩ | ⟨_, he⟩ := parseSources_eq_error herror <;> cases he
  cases hentries : d.directory? (root.join (c.sourceDir target)) with
  | none =>
    have hentries' := (h.directory? hsource).symm.trans hentries
    rw [Project.parseSources, Project.parseSources, scan, scan, hentries, hentries']
    exact .of_ne (by simp) (by simp)
  | some entries =>
    have hentries' := (h.directory? hsource).symm.trans hentries
    have hplain := h.isPlainListing hsource hentries
    have hordered := ordered_of_isPlainListing hplain
    have hfiles : (filesOf entries).filter
        (reads c (some (root.join (c.output target))) (root.join (c.sourceDir target)))
        = (filesOf entries).filter
            (reads c (some (root'.join (c.output target))) (root'.join (c.sourceDir target))) := by
      refine List.filter_congr fun names hnames => ?_
      obtain ⟨hne, hnames⟩ := isName_of_mem_filesOf hplain hnames
      exact reads_join hroot hroot' hsource.relative houtput.relative hnames hne
    refine .of_ok_iff (fun files => ?_) hne hne
    rw [parseSources_eq_ok_iff hentries hordered, parseSources_eq_ok_iff hentries' hordered,
      h.listable hsource hplain, sourcesAmong_join hroot hsource.relative hplain,
      sourcesAmong_join hroot' hsource.relative hplain, hfiles]
    refine and_congr_right fun _ => (SameVerdict.mapM fun names hnames => ?_).ok_iff files
    obtain ⟨hne, hnames⟩ := isName_of_mem_filesOf hplain (List.mem_filter.mp hnames).1
    refine h.parseSource (hsource.descend hnames) ?_
    rw [← descend_join hroot hsource.relative hnames, ← descend_join hroot' hsource.relative hnames,
      getLast?_descend_join hroot hsource.relative hnames hne,
      getLast?_descend_join hroot' hsource.relative hnames hne]

/-- The modules of the sources are below the root. -/
theorem SameTree.descends_of_parseSources [Reader] (h : SameTree d root d' root')
    (hsource : (c.sourceDir target).Descends) {files : List (Path × Syntax.Node)}
    (hfiles : Project.parseSources d target root c = .ok files) :
    ∀ file ∈ files, file.1.Descends := by
  obtain ⟨hroot, -⟩ := h.raw_ne
  cases hentries : d.directory? (root.join (c.sourceDir target)) with
  | none =>
    rw [Project.parseSources, scan, hentries] at hfiles
    cases hfiles
  | some entries =>
    have hplain := h.isPlainListing hsource hentries
    rw [parseSources_eq_ok_iff hentries (ordered_of_isPlainListing hplain),
      sourcesAmong_join hroot hsource.relative hplain] at hfiles
    obtain ⟨-, hfiles⟩ := hfiles
    intro file hfile
    obtain ⟨_, hx, hparse⟩ := exists_of_mem_result hfiles hfile
    obtain ⟨names, hnames, rfl⟩ := List.mem_map.mp hx
    have hq : ((c.sourceDir target).descend names).Descends :=
      hsource.descend (isName_of_mem_filesOf hplain (List.mem_filter.mp hnames).1).2
    unfold Project.parseSource at hparse
    split at hparse
    case h_1 => cases hparse
    case h_2 =>
      split at hparse <;> cases hparse
      rw [moduleOf_join hroot hq.relative]
      exact hq.bare

/-! ### The text -/

/-- The paths in a configuration that a target is made with are relative and have no `..`. -/
structure StaysBelow (c : Config) (target : Pipeline) : Prop where
  source : (c.sourceDir target).Descends
  output : (c.output target).Descends
  /-- The output is below the root, and not the root itself. -/
  named : ∃ name, Component.normal name ∈ (c.output target).components
  middleware : ∀ m ∈ c.http.middleware, m.path.Descends
  envModule : ∀ module ∈ c.queue.envModule, module.Descends

theorem exists_names_of_output (houtput : output.Descends)
    (hnamed : ∃ name, Component.normal name ∈ output.components) :
    ∃ names : Place, names ≠ [] ∧ output.steps = names.map .normal := by
  obtain ⟨names, hsteps, -⟩ := houtput.exists_names
  refine ⟨names, ?_, hsteps⟩
  rintro rfl
  obtain ⟨name, hname⟩ := hnamed
  rw [components_eq, hsteps, opening] at hname
  split at hname
  · simp at hname
  · split at hname <;> simp at hname

/-- The directory of the output is the root and all names of the output but the last. -/
theorem components_outputDir (hroot : root.raw ≠ []) (houtput : output.isAbsolute = false)
    (hne : names ≠ []) (hsteps : output.steps = names.map .normal) :
    (Emit.outputDir root output).components = root.components ++ names.dropLast.map .normal := by
  have hcomponents := components_join hroot houtput
  rw [hsteps] at hcomponents
  obtain ⟨name, hname⟩ := List.exists_mem_of_ne_nil names hne
  have hmem : Component.normal name ∈ (root.join output).components := by
    rw [hcomponents]
    exact List.mem_append_right _ (List.mem_map_of_mem hname)
  obtain ⟨parent, hparent⟩ := exists_parent? hmem
  rw [Emit.outputDir, hparent, Option.getD_some, components_of_parent? hparent, hcomponents,
    List.dropLast_append_of_ne_nil (by simpa using hne), List.map_dropLast]

/-- The root cancels out of an import. -/
theorem specifierOf_join (hroot : root.raw ≠ []) (hroot' : root'.raw ≠ [])
    (houtput : output.Descends) (hnamed : ∃ name, Component.normal name ∈ output.components)
    (hmodule : module.Descends) :
    Emit.specifierOf root (Emit.outputDir root output) module
      = Emit.specifierOf root' (Emit.outputDir root' output) module := by
  obtain ⟨source, hne, hsource⟩ := exists_names_of_output houtput hnamed
  obtain ⟨goal, hgoal, -⟩ := hmodule.exists_names
  have htarget : ∀ root : Path, root.raw ≠ [] →
      (root.join module).components = root.components ++ goal.map .normal := by
    intro root hroot
    rw [components_join hroot hmodule.relative, hgoal]
  rw [Emit.specifierOf, Emit.specifierOf, importSpecifier, importSpecifier,
    relativeTo_of_components (htarget root hroot)
      (components_outputDir hroot houtput.relative hne hsource),
    relativeTo_of_components (htarget root' hroot')
      (components_outputDir hroot' houtput.relative hne hsource)]

/-- Classes are imported alike if their modules have the same specifiers. -/
theorem classImports_join {t : Table} {dir dir' : Path}
    (h : ∀ name k, t.imports.get? name = some k →
      Emit.specifierOf root dir k.module = Emit.specifierOf root' dir' k.module) :
    Emit.classImports t target root dir = Emit.classImports t target root' dir' := by
  refine mapM_congr fun name _ => ?_
  unfold Emit.classImport
  cases hget : t.imports.get? name with
  | none => rfl
  | some k =>
    dsimp only
    rw [h name k hget]

/-- The text of a module does not show the root. -/
theorem render_join (hroot : root.raw ≠ []) (hroot' : root'.raw ≠ [])
    (hc : StaysBelow c target) {t : Table}
    (ht : ∀ name k, t.imports.get? name = some k → k.module.Descends) :
    Emit.render target t c root = Emit.render target t c root' := by
  have hspecifier : ∀ module : Path, module.Descends →
      Emit.specifierOf root (Emit.outputDir root (c.output target)) module
        = Emit.specifierOf root' (Emit.outputDir root' (c.output target)) module :=
    fun module hmodule => specifierOf_join hroot hroot' hc.output hc.named hmodule
  have hclasses : Emit.classImports t target root (Emit.outputDir root (c.output target))
      = Emit.classImports t target root' (Emit.outputDir root' (c.output target)) :=
    classImports_join fun name k hget => hspecifier k.module (ht name k hget)
  cases target with
  | http =>
    have hmiddleware : c.http.middleware.mapM
        (Emit.middlewareImport root (Emit.outputDir root (c.output .http)))
        = c.http.middleware.mapM
            (Emit.middlewareImport root' (Emit.outputDir root' (c.output .http))) := by
      refine mapM_congr fun m hm => ?_
      rw [Emit.middlewareImport, Emit.middlewareImport, hspecifier m.path (hc.middleware m hm)]
    simp only [Config.output] at hclasses hmiddleware
    simp only [Emit.render, Emit.routerModule, hclasses, hmiddleware]
  | queue =>
    simp only [Config.output] at hclasses hspecifier
    simp only [Emit.render, Emit.dispatcherModule, hclasses]
    cases henv : c.queue.envModule with
    | none => rfl
    | some module => simp only [hspecifier module (hc.envModule module henv)]

/-- Every class of a table is in a file of it. -/
theorem descends_of_get?_imports {files : List (Path × Syntax.Node)}
    (h : ∀ file ∈ files, file.1.Descends) {name : String} {k : MarkedClass}
    (hget : (Table.ofFiles target files).imports.get? name = some k) : k.module.Descends := by
  rw [Table.get?_imports_ofFiles] at hget
  obtain ⟨site, hsite, rfl⟩ := Option.map_eq_some_iff.mp hget
  obtain ⟨file, hfile, hsites⟩ := List.mem_flatMap.mp (List.mem_of_find?_eq_some hsite)
  obtain ⟨_, _, rfl⟩ := List.mem_map.mp hsites
  exact h file hfile

/-! ### Main statement -/

/-- **Location independence.**  Take two roots that hold one tree of files, without links, and a
configuration whose paths lead below the root.  Then preparing a target comes to the same text
and the same table with all its locations at both roots, or fails at both, and if it fails for
conflicts then for the same ones.  How the roots are written plays no part, nor what leads to
them. -/
theorem prepare_relocated [Reader] (d d' : Disk) (target : Pipeline) (root root' : Path)
    (c : Config)
    (h : SameTree d root d' root') (hc : StaysBelow c target) :
    SameVerdict (prepare d target root c).result (prepare d' target root' c).result := by
  obtain ⟨hroot, hroot'⟩ := h.raw_ne
  rw [result_prepare, result_prepare]
  refine (h.parseSources hc.source hc.output).bind fun files hfiles => ?_
  have hmodules := h.descends_of_parseSources hc.source hfiles
  have hrender := render_join hroot hroot' hc (t := Table.ofFiles target files)
    fun name k hget => descends_of_get?_imports hmodules hget
  unfold renderTable
  rw [hrender]
  exact .refl _

/-- The files of a project with one controller. -/
def oneController : List (OsText × Entry) :=
  [("src", .directory [("controllers", .directory [
    ("a.ts", .file "@Controller('a') class A \x7b @Get('/b') c() \x7b\x7d \x7d".toUTF8)])])]

/-- The project, in a directory beside another one. -/
def placed : Disk where
  root := [("p", .directory oneController), ("q", .directory [])]
  current := ["p"]

/-- The project is prepared from within and from the root of the disk. -/
theorem prepare_relocated_placed : ∃ prepared,
    (prepare placed .http ⟨"."⟩ {}).result = .ok prepared ∧
    (prepare placed .http ⟨"/q/../p/"⟩ {}).result = .ok prepared ∧
    prepared.table.routes.map (·.location.file) = [⟨"src/controllers/a.ts"⟩] := by
  have htree : SameTree placed ⟨"."⟩ placed ⟨"/q/../p/"⟩ :=
    ⟨⟨oneController, by decide +kernel, rfl, rfl⟩, fun _ _ => rfl, fun _ _ => rfl⟩
  have hbelow : StaysBelow {} .http :=
    ⟨by decide, by decide, ⟨"src", by decide⟩, by decide, nofun⟩
  obtain ⟨prepared, hprepare, hlocations⟩ := exists_ok_of_map_toOption
    (r := (prepare placed .http ⟨"."⟩ {}).result)
    (f := fun prepared => prepared.table.routes.map (·.location.file))
    (b := [⟨"src/controllers/a.ts"⟩]) (by decide +kernel)
  have hsame := prepare_relocated placed placed .http ⟨"."⟩ ⟨"/q/../p/"⟩ {} htree hbelow
  rw [hprepare] at hsame
  generalize hprepare' : (prepare placed .http ⟨"/q/../p/"⟩ {}).result = r at hsame
  cases hsame
  exact ⟨prepared, hprepare, rfl, hlocations⟩

end Project

end DispatchGen

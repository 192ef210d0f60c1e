/-
DispatchGen/Proofs/SilentSources.lean

Sources that declare nothing.

A file with no class, route or task for a pipeline adds at most issues to its table, and
no error among them, so a target comes to the same module with the file and without it
(`renderTable_of_filter`).  A file without decorators is such a file: the walk has nothing
to find in it (`survey_of_undecorated`).

Hence a target comes to the same module on two disks, of which one is later than the other, if
wherever they have different sources these declare nothing (`prepare_of_later`), and if it
can parse its sources on the second disk at all (`exists_parseSources_of_later`).
-/
import DispatchGen.Proofs.ClassIsolation
import DispatchGen.Proofs.DiskNames

namespace DispatchGen

open Grammar (Reader)

open Syntax Disk

/-- Whether a parsed file has a class or a record for a pipeline. -/
def declares (p : Pipeline) (file : Path × Node) : Bool :=
  let facts := extract p file.1 file.2
  !(facts.classes.isEmpty && facts.routes.isEmpty && facts.tasks.isEmpty)

/-! ### Files without decorators -/

/-- There is no decorator in a tree. -/
def Undecorated (tree : Node) : Prop := tree.everywhere (·.kind ≠ .decorator) = true

instance (tree : Node) : Decidable (Undecorated tree) := inferInstanceAs (Decidable (_ = true))

namespace Extract

/-- Nodes that are no decorators have none of them. -/
theorem decoratorsOf_of_undecorated {ns : List Node}
    (h : Node.everywhereIn (·.kind ≠ .decorator) ns = true) : decoratorsOf ns = [] := by
  refine List.filter_eq_nil_iff.mpr fun n hn hkind => ?_
  have hcheck := (Node.everywhere_iff.mp (Node.everywhere_of_mem h (List.mem_filter.mp hn).1)).1
  rw [decide_eq_true_eq] at hcheck hkind
  exact hcheck hkind

theorem attachedOf_of_undecorated (kind : NodeKind) {ns : List Node}
    (h : Node.everywhereIn (·.kind ≠ .decorator) ns = true) :
    (attachedOf kind ns).decorators = [] := by
  unfold attachedOf
  split
  case isTrue => exact decoratorsOf_of_undecorated h
  case isFalse => rfl

/-- A class without decorators is nobody's. -/
theorem classFindings_of_undecorated (p : Pipeline) (name : String) {attached : Attached}
    (hattached : attached.decorators = []) {ns : List Node}
    (h : Node.everywhereIn (·.kind ≠ .decorator) ns = true) :
    classFindings p name attached ns = (none, []) := by
  rw [classFindings, hattached, decoratorsOf_of_undecorated h]
  cases p <;> rfl

mutual

/-- There is nothing to find in a tree without decorators. -/
theorem survey_of_undecorated (p : Pipeline) {attached : Attached}
    (hattached : attached.decorators = []) :
    (n : Node) → n.everywhere (·.kind ≠ .decorator) = true → survey p attached n = []
  | ⟨kind, field, text, line, missing, hasError, children⟩, h => by
    obtain ⟨-, hchildren⟩ := Node.everywhere_iff.mp h
    rw [survey]
    split
    · cases children.find? (·.field = some .name) with
      | none => rfl
      | some name =>
        dsimp only
        rw [classFindings_of_undecorated p name.text hattached hchildren]
        exact surveyClassBody_of_undecorated p children hchildren
    · exact surveyAll_of_undecorated p (attachedOf_of_undecorated kind hchildren) children hchildren
termination_by structural n => n

theorem surveyAll_of_undecorated (p : Pipeline) {attached : Attached}
    (hattached : attached.decorators = []) :
    (ns : List Node) → Node.everywhereIn (·.kind ≠ .decorator) ns = true →
      surveyAll p attached ns = []
  | [], _ => rfl
  | n :: ns, h => by
    rw [Node.everywhereIn, Bool.and_eq_true] at h
    rw [surveyAll, survey_of_undecorated p hattached n h.1,
      surveyAll_of_undecorated p hattached ns h.2]
    exact ite_self _
termination_by structural ns => ns

theorem surveyClassBody_of_undecorated (p : Pipeline) :
    (ns : List Node) → Node.everywhereIn (·.kind ≠ .decorator) ns = true →
      surveyClassBody p none ns = []
  | [], _ => rfl
  | n :: ns, h => by
    rw [Node.everywhereIn, Bool.and_eq_true] at h
    rw [surveyClassBody, surveyBody_of_undecorated p n h.1,
      surveyClassBody_of_undecorated p ns h.2]
    exact ite_self _
termination_by structural ns => ns

theorem surveyBody_of_undecorated (p : Pipeline) :
    (n : Node) → n.everywhere (·.kind ≠ .decorator) = true → surveyBody p none n = []
  | ⟨kind, field, text, line, missing, hasError, members⟩, h => by
    obtain ⟨-, hmembers⟩ := Node.everywhere_iff.mp h
    rw [surveyBody]
    exact surveyMembers_of_undecorated p (attachedOf_of_undecorated kind hmembers) [] members
      hmembers
termination_by structural n => n

theorem surveyMembers_of_undecorated (p : Pipeline) {attached : Attached}
    (hattached : attached.decorators = []) (pending : List Node) :
    (ns : List Node) → Node.everywhereIn (·.kind ≠ .decorator) ns = true →
      surveyMembers p none attached pending ns = []
  | [], _ => rfl
  | n :: ns, h => by
    rw [Node.everywhereIn, Bool.and_eq_true] at h
    have hrest := fun pending => surveyMembers_of_undecorated p hattached pending ns h.2
    rw [surveyMembers, surveyMethod_of_undecorated p pending n h.1,
      survey_of_undecorated p hattached n h.1]
    simp only [hrest, List.append_nil, ite_self]
termination_by structural ns => ns

theorem surveyMethod_of_undecorated (p : Pipeline) (pending : List Node) :
    (n : Node) → n.everywhere (·.kind ≠ .decorator) = true → surveyMethod p none pending n = []
  | ⟨_, _, _, _, _, _, children⟩, h => by
    obtain ⟨-, hchildren⟩ := Node.everywhere_iff.mp h
    rw [surveyMethod]
    exact surveyMethodBody_of_undecorated p children hchildren
termination_by structural n => n

theorem surveyMethodBody_of_undecorated (p : Pipeline) :
    (ns : List Node) → Node.everywhereIn (·.kind ≠ .decorator) ns = true →
      surveyMethodBody p ns = []
  | [], _ => rfl
  | n :: ns, h => by
    rw [Node.everywhereIn, Bool.and_eq_true] at h
    rw [surveyMethodBody, survey_of_undecorated p rfl n h.1,
      surveyMethodBody_of_undecorated p ns h.2]
    exact ite_self _
termination_by structural ns => ns

end

end Extract

/-- A file without decorators declares nothing. -/
theorem Undecorated.declares_eq_false {tree : Node} (h : Undecorated tree) (p : Pipeline)
    (module : Path) : declares p (module, tree) = false := by
  obtain ⟨hclasses, hroutes, htasks, -⟩ := Extract.extract_survey p module tree
  rw [Extract.survey_of_undecorated p rfl tree h] at hclasses hroutes htasks
  rw [declares]
  dsimp only
  rw [hclasses, hroutes, htasks]
  rfl

/-! ### Tables without such files -/

theorem flatMap_filter_declares {p : Pipeline} {β : Type} {f : Facts → List β}
    (hf : ∀ facts : Facts, facts.classes = [] → facts.routes = [] → facts.tasks = [] →
      f facts = []) (files : List (Path × Node)) :
    ((files.filter (declares p)).map fun (module, tree) => extract p module tree).flatMap f
      = (files.map fun (module, tree) => extract p module tree).flatMap f := by
  induction files with
  | nil => rfl
  | cons file files ih =>
    by_cases h : declares p file = true
    · rw [List.filter_cons_of_pos h, List.map_cons, List.map_cons, List.flatMap_cons,
        List.flatMap_cons, ih]
    · rw [List.filter_cons_of_neg h, List.map_cons, List.flatMap_cons, ih]
      simp only [declares, Bool.not_eq_true, Bool.not_eq_false', Bool.and_eq_true,
        List.isEmpty_iff] at h
      obtain ⟨⟨hclasses, hroutes⟩, htasks⟩ := h
      rw [hf _ hclasses hroutes htasks, List.nil_append]

namespace Table

/-- Files that declare nothing change the issues and the count of files. -/
theorem ofFiles_eq_filter (p : Pipeline) (files : List (Path × Node)) :
    ofFiles p files = { ofFiles p (files.filter (declares p)) with
      issues := (ofFiles p files).issues
      filesScanned := (ofFiles p files).filesScanned } := by
  have hroutes : (ofFiles p (files.filter (declares p))).routes = (ofFiles p files).routes := by
    simp only [ofFiles, routes_ofFacts]
    exact flatMap_filter_declares (fun _ _ hroutes _ => hroutes) files
  have htasks : (ofFiles p (files.filter (declares p))).tasks = (ofFiles p files).tasks := by
    simp only [ofFiles, tasks_ofFacts]
    exact flatMap_filter_declares (fun _ _ _ htasks => htasks) files
  have himports : (ofFiles p (files.filter (declares p))).imports = (ofFiles p files).imports := by
    simp only [ofFiles, imports_ofFacts]
    rw [flatMap_filter_declares fun _ hclasses _ _ => hclasses]
  dsimp only
  rw [hroutes, htasks, himports]

end Table

namespace Project

variable {target : Pipeline} {root : Path} {c : Config}

/-- The module of parsed files does not depend on those that declare nothing. -/
theorem renderTable_of_filter {files files' : List (Path × Node)}
    (hfiles : files.filter (declares target) = files'.filter (declares target))
    {prepared : Prepared}
    (h : renderTable target root c (Table.ofFiles target files) = .ok prepared) :
    ∃ prepared', renderTable target root c (Table.ofFiles target files') = .ok prepared' ∧
      prepared'.text = prepared.text ∧
      prepared'.table.recordCount target = prepared.table.recordCount target := by
  have heq := Table.ofFiles_eq_filter target files
  have heq' := Table.ofFiles_eq_filter target files'
  rw [← hfiles] at heq'
  obtain ⟨hnone, htable, hrender⟩ := renderTable_eq_ok h
  rw [Table.filter_isError_lint] at hnone
  -- neither errors nor records nor imports have anything to do with the rest of the table
  have hnone' : (lint (Table.ofFiles target files') target).filter Issue.isError = [] := by
    rw [Table.filter_isError_lint, heq']
    rw [heq] at hnone
    exact hnone
  have hrender' : Emit.render target (Table.ofFiles target files') c root = .ok prepared.text := by
    rw [heq']
    rw [heq] at hrender
    cases target <;> exact hrender
  refine ⟨⟨Table.ofFiles target files', prepared.text⟩, ?_, rfl, ?_⟩
  · rw [renderTable, hnone', hrender']
  · rw [htable, heq, heq']
    cases target <;> rfl

/-! ### The sources of a disk -/

variable {d d' : Disk}

/-- The tree of a text that stands in a file. -/
def treeOf? [Reader] (file : Path) (text : String) : Option Node :=
  Grammar.Reader.tree? (Grammar.Dialect.ofPath file) text

theorem parseSource_eq_ok_iff [Reader] {file : Path} {x : Path × Node} :
    parseSource d root file = .ok x ↔
      ∃ text tree, d.readText file = .ok text ∧ treeOf? file text = some tree ∧
        x = (moduleOf root file, tree) := by
  unfold parseSource treeOf?
  cases d.readText file with
  | error fault => simp
  | ok text =>
    simp only [Except.ok.injEq, exists_and_left, exists_eq_left']
    cases Reader.tree? (Grammar.Dialect.ofPath file) text with
    | none => simp
    | some tree => simp [eq_comm]

/-- The names of the sources of a target, below its source directory. -/
def sourceNames (c : Config) (target : Pipeline) (root : Path) (entries : List (OsText × Entry)) :
    List Place :=
  (filesOf entries).filter
    (reads c (some (root.join (c.output target))) (root.join (c.sourceDir target)))

/-- The sources of a target are the files below its source directory that the scan reads, if
it may list what it gets to. -/
theorem parseSources_eq_ok_iff_place [Reader] (hordered : d.Ordered)
    {files : List (Path × Node)} :
    parseSources d target root c = .ok files ↔
      ∃ place entries, d.directoryPlace (root.join (c.sourceDir target)) = .ok place ∧
        d.get? place = some (.directory entries) ∧
        Listable d c (root.join (c.sourceDir target)) entries ∧
        (sourceNames c target root entries).mapM
          (fun names => parseSource d root ((root.join (c.sourceDir target)).descend names))
            = .ok files := by
  have hmap : ∀ entries, (sourcesAmong c (some (root.join (c.output target)))
      (root.join (c.sourceDir target)) (filesOf entries)).mapM (parseSource d root)
      = (sourceNames c target root entries).mapM
          (fun names => parseSource d root ((root.join (c.sourceDir target)).descend names)) :=
    fun entries => List.mapM_map
  cases hentries : d.directory? (root.join (c.sourceDir target)) with
  | none =>
    constructor
    · intro h
      obtain ⟨_, hscan, -⟩ := parseSources_eq_ok.mp h
      rw [scan, hentries] at hscan
      cases hscan
    · rintro ⟨place, entries, hplace, -, -⟩
      have hthere := isDirectory_iff.mpr ⟨place, hplace⟩
      rw [isDirectory, hentries] at hthere
      cases hthere
  | some entries =>
    obtain ⟨spot, hresolve, hget⟩ := directory?_eq_some.mp hentries
    have hplace : d.directoryPlace (root.join (c.sourceDir target)) = .ok spot.place :=
      directoryPlace_eq_ok.mpr ⟨spot, hresolve, rfl, view_eq_directory.mpr ⟨entries, hget⟩⟩
    rw [parseSources_eq_ok_iff hentries (hordered.below hget), hmap]
    constructor
    · rintro ⟨hlistable, h⟩
      exact ⟨spot.place, entries, hplace, hget, hlistable, h⟩
    · rintro ⟨place, entries', hplace', hget', hlistable, h⟩
      cases hplace.symm.trans hplace'
      cases hget.symm.trans hget'
      exact ⟨hlistable, h⟩

/-! ### Preparing on another disk -/

/-- Increasing lists come to the same if they do so item by item. -/
theorem filterMap_eq_of_forall {α β : Type} {r : α → α → Prop} [Std.Antisymm r] [Std.Irrefl r]
    {xs ys : List α} (hxs : xs.Pairwise r) (hys : ys.Pairwise r) {f g : α → Option β}
    (h : ∀ x b, x ∈ xs ∧ f x = some b ↔ x ∈ ys ∧ g x = some b) :
    xs.filterMap f = ys.filterMap g := by
  have hsome : ∀ x, x ∈ xs ∧ (f x).isSome ↔ x ∈ ys ∧ (g x).isSome := by
    intro x
    simp only [Option.isSome_iff_exists, ← exists_and_left, h]
  have hsame : xs.filter (fun x => (f x).isSome) = ys.filter (fun x => (g x).isSome) := by
    refine List.Pairwise.eq_of_mem_iff (hxs.filter _) (hys.filter _) fun x => ?_
    rw [List.mem_filter, List.mem_filter, hsome]
  have hdrop : ∀ (zs : List α) (k : α → Option β),
      zs.filterMap k = (zs.filter fun x => (k x).isSome).filterMap k := by
    intro zs k
    rw [List.filterMap_filter]
    refine List.filterMap_congr fun x _ => ?_
    cases k x <;> rfl
  rw [hdrop xs f, hdrop ys g, ← hsame]
  refine List.filterMap_congr fun x hx => ?_
  obtain ⟨hx, hfx⟩ := List.mem_filter.mp hx
  obtain ⟨b, hb⟩ := Option.isSome_iff_exists.mp hfx
  rw [hb, ((h x b).mp ⟨hx, hb⟩).2]

/-- A text that, if it can be parsed as the source under these names, declares nothing. -/
def Silent [Reader] (root : Path) (c : Config) (target : Pipeline) (names : Place) (text : String) :
    Prop :=
  ∀ tree, treeOf? ((root.join (c.sourceDir target)).descend names) text = some tree →
    declares target (moduleOf root ((root.join (c.sourceDir target)).descend names), tree) = false

/-- What two disks have for a target at one place below its source directory: the same, or
texts that declare nothing. -/
def SameSource [Reader] (root : Path) (c : Config) (target : Pipeline) (d d' : Disk)
    (place names : Place) : Prop :=
  (∀ bytes, d'.view (place ++ names) = some (.file bytes) ↔
    d.view (place ++ names) = some (.file bytes)) ∨
  ∀ text : String, d'.view (place ++ names) = some (.file text.toUTF8) ∨
      d.view (place ++ names) = some (.file text.toUTF8) → Silent root c target names text

/-- What declares something is parsed on both disks or on neither. -/
theorem SameSource.parseSource_iff [Reader] {place names : Place}
    (h : SameSource root c target d d' place names) (hd : Tidy d) (hd' : Tidy d')
    (hrefusal : d'.refusal = d.refusal)
    (hplace : d.directoryPlace (root.join (c.sourceDir target)) = .ok place)
    (hplace' : d'.directoryPlace (root.join (c.sourceDir target)) = .ok place)
    {x : Path × Node} (hx : declares target x = true) :
    ((∃ bytes, d.view (place ++ names) = some (.file bytes)) ∧
      parseSource d root ((root.join (c.sourceDir target)).descend names) = .ok x) ↔
    ((∃ bytes, d'.view (place ++ names) = some (.file bytes)) ∧
      parseSource d' root ((root.join (c.sourceDir target)).descend names) = .ok x) := by
  rcases h with hsame | hsilent
  case inl =>
    simp only [hsame]
    refine and_congr_right fun ⟨bytes, hbytes⟩ => ?_
    have hstatus := status_descend hd hplace hbytes
    have hstatus' := status_descend hd' hplace' ((hsame bytes).mpr hbytes)
    simp only [parseSource_eq_ok_iff, readText_iff, hstatus, hstatus', hrefusal]
  case inr =>
    -- whatever is parsed there declares nothing
    have hquiet : ∀ {e : Disk}, Tidy e →
        e.directoryPlace (root.join (c.sourceDir target)) = .ok place →
        (∀ text : String, e.view (place ++ names) = some (.file text.toUTF8) →
          Silent root c target names text) →
        (∃ bytes, e.view (place ++ names) = some (.file bytes)) →
        ¬ parseSource e root ((root.join (c.sourceDir target)).descend names) = .ok x := by
      rintro e he heplace hsilent ⟨bytes, hbytes⟩ hparse
      obtain ⟨text, tree, hread, htree, rfl⟩ := parseSource_eq_ok_iff.mp hparse
      obtain ⟨-, hstatus⟩ := readText_iff.mp hread
      cases (status_descend he heplace hbytes).symm.trans hstatus
      rw [hsilent text hbytes tree htree] at hx
      cases hx
    constructor
    · rintro ⟨hfile, hparse⟩
      exact absurd hparse (hquiet hd hplace (fun text htext => hsilent text (.inr htext)) hfile)
    · rintro ⟨hfile, hparse⟩
      exact absurd hparse (hquiet hd' hplace' (fun text htext => hsilent text (.inl htext)) hfile)

theorem mem_sourceNames_iff (hd : Tidy d) {place : Place} {entries : List (OsText × Entry)}
    (hget : d.get? place = some (.directory entries)) {names : Place} :
    names ∈ sourceNames c target root entries ↔
      (∃ bytes, d.view (place ++ names) = some (.file bytes)) ∧
        reads c (some (root.join (c.output target))) (root.join (c.sourceDir target)) names
          = true := by
  rw [sourceNames, List.mem_filter, mem_filesOf_iff hd.ordered hget]

/-- The scan of a source directory may list what it gets to on a later disk too: directories
that were made are none that the system may refuse to list. -/
theorem Listable.of_later (hd : Sound d) (hd' : Tidy d') (hlater : Later d d') {p : Path}
    {place : Place} {entries entries' : List (OsText × Entry)}
    (hget : d.get? place = some (.directory entries)) (hplace' : d'.directoryPlace p = .ok place)
    (hget' : d'.get? place = some (.directory entries')) (h : Listable d c p entries) :
    Listable d' c p entries' := by
  refine h.of_change hd.listed hlater.refusal fun names below' hbelow' => ?_
  by_contra hnot
  rw [not_or, Bool.not_eq_false, isDirectory_iff] at hnot
  obtain ⟨hold, here, hhere⟩ := hnot
  have hnew : d'.view (place ++ names) = some .directory :=
    view_eq_directory.mpr ⟨below', by rw [Disk.get?, Entry.get?_append hget', hbelow']⟩
  -- the path of the directory leads to one place on both disks
  obtain rfl := hlater.directoryPlace_eq hhere (directoryPlace_descend hd' hplace' hnew)
  obtain ⟨_, -, -, hdirectory⟩ := directoryPlace_eq_ok.mp hhere
  obtain ⟨below, hbelow⟩ := view_eq_directory.mp hdirectory
  rw [Disk.get?, Entry.get?_append hget] at hbelow
  exact hold ⟨below, hbelow⟩

/-- The sources of a later disk can be parsed if the directory of them is there still, and each
of them could be parsed before or can be now. -/
theorem exists_parseSources_of_later [Reader] (hd : Sound d) (hd' : Tidy d') (hlater : Later d d')
    (hthere : d'.isDirectory (root.join (c.sourceDir target)) = true)
    (hread : ∀ place names,
      d.directoryPlace (root.join (c.sourceDir target)) = .ok place →
      reads c (some (root.join (c.output target))) (root.join (c.sourceDir target)) names = true →
      (∀ bytes, d'.view (place ++ names) = some (.file bytes) →
        d.view (place ++ names) = some (.file bytes)) ∨
      d.refusal (.read ((root.join (c.sourceDir target)).descend names)) = none ∧
        ∃ text : String, d'.view (place ++ names) = some (.file text.toUTF8) ∧
          ∃ tree, treeOf? ((root.join (c.sourceDir target)).descend names) text = some tree)
    {files : List (Path × Node)} (h : parseSources d target root c = .ok files) :
    ∃ files', parseSources d' target root c = .ok files' := by
  obtain ⟨place, entries, hplace, hget, hlistable, hparsed⟩ :=
    (parseSources_eq_ok_iff_place hd.ordered).mp h
  obtain ⟨place', hplace'⟩ := isDirectory_iff.mp hthere
  obtain rfl := hlater.directoryPlace_eq hplace hplace'
  obtain ⟨spot, -, rfl, hdirectory⟩ := directoryPlace_eq_ok.mp hplace'
  obtain ⟨entries', hget'⟩ := view_eq_directory.mp hdirectory
  have hall := exists_mapM_eq_ok_iff.mp ⟨files, hparsed⟩
  obtain ⟨files', hparsed'⟩ : ∃ files',
      (sourceNames c target root entries').mapM
        (fun names => parseSource d' root ((root.join (c.sourceDir target)).descend names))
          = .ok files' := by
    refine exists_mapM_eq_ok_iff.mpr fun names hnames => ?_
    obtain ⟨⟨bytes, hbytes⟩, hreads⟩ := (mem_sourceNames_iff hd' hget').mp hnames
    rcases hread spot.place names hplace hreads with hsame | ⟨hallow, text, htext, tree, htree⟩
    · have hold := hsame bytes hbytes
      obtain ⟨x, hx⟩ :=
        hall names ((mem_sourceNames_iff hd.toTidy hget).mpr ⟨⟨bytes, hold⟩, hreads⟩)
      obtain ⟨text, tree, htext, htree, -⟩ := parseSource_eq_ok_iff.mp hx
      obtain ⟨hallow, hstatus⟩ := readText_iff.mp htext
      cases (status_descend hd.toTidy hplace hold).symm.trans hstatus
      have hread' := readText_iff.mpr
        ⟨hlater.refusal ▸ hallow, status_descend hd' hplace' hbytes⟩
      exact ⟨_, parseSource_eq_ok_iff.mpr ⟨text, tree, hread', htree, rfl⟩⟩
    · have hread' := readText_iff.mpr
        ⟨hlater.refusal ▸ hallow, status_descend hd' hplace' htext⟩
      exact ⟨_, parseSource_eq_ok_iff.mpr ⟨text, tree, hread', htree, rfl⟩⟩
  exact ⟨files', (parseSources_eq_ok_iff_place hd'.ordered).mpr ⟨spot.place, entries', hplace',
    hget', hlistable.of_later hd hd' hlater hget hplace' hget', hparsed'⟩⟩

/-- The sources that declare something are the same on both disks. -/
theorem filter_parseSources_of_later [Reader] (hd : Tidy d) (hd' : Tidy d') (hlater : Later d d')
    (hsame : ∀ place names,
      d.directoryPlace (root.join (c.sourceDir target)) = .ok place →
      reads c (some (root.join (c.output target))) (root.join (c.sourceDir target)) names = true →
      SameSource root c target d d' place names)
    {files files' : List (Path × Node)} (h : parseSources d target root c = .ok files)
    (h' : parseSources d' target root c = .ok files') :
    files'.filter (declares target) = files.filter (declares target) := by
  obtain ⟨place, entries, hplace, hget, -, hparsed⟩ :=
    (parseSources_eq_ok_iff_place hd.ordered).mp h
  obtain ⟨place', entries', hplace', hget', -, hparsed'⟩ :=
    (parseSources_eq_ok_iff_place hd'.ordered).mp h'
  obtain rfl := hlater.directoryPlace_eq hplace hplace'
  -- sources are in increasing order, so it is enough that the same ones are loud
  rw [eq_filterMap_of_mapM_eq_ok hparsed, eq_filterMap_of_mapM_eq_ok hparsed',
    List.filter_filterMap, List.filter_filterMap]
  refine filterMap_eq_of_forall ((pairwise_filesOf (hd'.ordered.below hget')).filter _)
    ((pairwise_filesOf (hd.ordered.below hget)).filter _) fun names x => ?_
  rw [← sourceNames, ← sourceNames, mem_sourceNames_iff hd hget, mem_sourceNames_iff hd' hget']
  simp only [Option.filter_eq_some_iff, toOption_eq_some]
  have hiff := fun hreads hx => (hsame place' names hplace hreads).parseSource_iff hd hd'
    hlater.refusal hplace hplace' (x := x) hx
  constructor
  · rintro ⟨⟨hfile, hreads⟩, hparse, hx⟩
    obtain ⟨hfile, hparse⟩ := (hiff hreads hx).mpr ⟨hfile, hparse⟩
    exact ⟨⟨hfile, hreads⟩, hparse, hx⟩
  · rintro ⟨⟨hfile, hreads⟩, hparse, hx⟩
    obtain ⟨hfile, hparse⟩ := (hiff hreads hx).mp ⟨hfile, hparse⟩
    exact ⟨⟨hfile, hreads⟩, hparse, hx⟩

/-- A target that is prepared has parsed its sources. -/
theorem exists_parseSources_of_prepare [Reader] {prepared : Prepared}
    (h : (prepare d target root c).result = .ok prepared) :
    ∃ files, parseSources d target root c = .ok files := by
  rw [result_prepare] at h
  obtain ⟨files, hfiles, -⟩ := bind_eq_ok.mp h
  exact ⟨files, hfiles⟩

/-- A target comes to the same module on a later disk, if the sources that declare something
are the same and all of them can be parsed. -/
theorem prepare_of_later [Reader] (hd : Tidy d) (hd' : Tidy d') (hlater : Later d d')
    (hsame : ∀ place names,
      d.directoryPlace (root.join (c.sourceDir target)) = .ok place →
      reads c (some (root.join (c.output target))) (root.join (c.sourceDir target)) names = true →
      SameSource root c target d d' place names)
    {prepared : Prepared} (h : (prepare d target root c).result = .ok prepared)
    (hparse : ∃ files', parseSources d' target root c = .ok files') :
    ∃ prepared', (prepare d' target root c).result = .ok prepared' ∧
      prepared'.text = prepared.text ∧
      prepared'.table.recordCount target = prepared.table.recordCount target := by
  rw [result_prepare] at h ⊢
  obtain ⟨files, hfiles, hrender⟩ := bind_eq_ok.mp h
  obtain ⟨files', hfiles'⟩ := hparse
  have hfilter := filter_parseSources_of_later hd hd' hlater hsame hfiles hfiles'
  obtain ⟨prepared', hrender', hsame⟩ := renderTable_of_filter hfilter.symm hrender
  exact ⟨prepared', bind_eq_ok.mpr ⟨files', hfiles', hrender'⟩, hsame⟩

end Project

end DispatchGen

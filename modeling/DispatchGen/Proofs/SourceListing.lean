/-
DispatchGen/Proofs/SourceListing.lean

What a scan lists, and in which order.

The sources of a scan are the regular files below the directory that it gets to and whose
names pass `reads`: no directory on the way down is excluded, the file has a source
extension, and it is not the one that is skipped.  A directory lists its entries in order, and
the scan goes through it depth first, so the sources come in the order of their components, and
the components are compared by their bytes (`orderKey_lt`).  A link is neither a file nor
a directory, hence nothing at or below one is listed.

Main statement: `scan_exact`.
-/
import DispatchGen.Proofs.SourceScan

namespace DispatchGen.Project

open Disk DispatchGen.Path

/-! ### The order of paths -/

/-- The components of a path, as bytes. -/
def orderKey (file : Path) : List OsText := file.components.map Component.raw

/-- Paths below one directory are in the order of the names that lead down to them. -/
theorem orderKey_lt {directory : Path} (hne : directory.raw ≠ []) {names names' : Place}
    (hnames : ∀ name ∈ names, IsName name) (hnames' : ∀ name ∈ names', IsName name)
    (h : names < names') :
    orderKey (directory.descend names) < orderKey (directory.descend names') := by
  have hbytes : ∀ names : Place, (names.map Component.normal).map Component.raw = names :=
    fun names => List.map_map.trans (List.map_id _)
  rw [orderKey, orderKey, components_descend hne hnames, components_descend hne hnames',
    List.map_append, List.map_append, hbytes, hbytes]
  exact List.append_left_lt h

/-! ### The sources of a directory -/

variable {d : Disk} {directory : Path} {c : Config} {skip : Option Path}
  {entries : List (OsText × Entry)}

theorem raw_ne_of_directory? (h : d.directory? directory = some entries) :
    directory.raw ≠ [] := by
  obtain ⟨spot, hresolve, -⟩ := directory?_eq_some.mp h
  exact (resolve_eq_ok.mp hresolve).1

theorem ordered_of_directory? (hd : WellFormed d) (h : d.directory? directory = some entries) :
    (Entry.directory entries).Ordered := by
  obtain ⟨spot, -, hget⟩ := directory?_eq_some.mp h
  exact hd.ordered.below hget

/-- Names that lead to something below a directory can be part of a path. -/
theorem isName_of_directory? (hd : WellFormed d) (h : d.directory? directory = some entries)
    {names : Place} {e : Entry} (hget : (Entry.directory entries).get? names = some e) :
    ∀ name ∈ names, IsName name := by
  obtain ⟨spot, -, hspot⟩ := directory?_eq_some.mp h
  have hthing : d.view (spot.place ++ names) ≠ none := by
    rw [Ne, view_eq_none, Disk.get?, Entry.get?_append hspot, hget]
    exact Option.some_ne_none _
  exact fun name hname => hd.named _ hthing name (List.mem_append_right _ hname)

theorem reads_iff {names : Place} :
    reads c skip directory names = true ↔
      (∀ name ∈ names.dropLast, name ∉ c.exclude.map OsText.ofText) ∧
        c.isSourceFile (directory.descend names) = true ∧
        ∀ q ∈ skip, q.same (directory.descend names) = false := by
  have hskip : skip.any (·.same (directory.descend names)) = false ↔
      ∀ q ∈ skip, q.same (directory.descend names) = false := by
    cases skip <;> simp
  simp only [reads, Bool.and_eq_true, List.all_eq_true, Bool.not_eq_true', hskip,
    excludes_eq_false_iff, and_assoc]

theorem mem_filesOf_iff_get? (h : (Entry.directory entries).Ordered) {names : Place} :
    names ∈ filesOf entries ↔
      ∃ bytes, (Entry.directory entries).get? names = some (.file bytes) := by
  rw [mem_filesOf h]
  exact exists_congr fun bytes => view_eq_file (d := ⟨entries, [], fun _ => none⟩)

/-! ### Main statement -/

/-- **The scan lists exactly the sources.**  On a disk that a file system can hold, the scan
of a directory that is there succeeds.  Its sources are the regular files below the directory
that are in no excluded directory below the top, have a source extension and are not, as a
path, the one to be skipped; what the file itself is called does not exclude it.  They come in
strictly increasing order of their components, compared by bytes, hence each once, and none
of them stands at or below a link.

That is so where every directory can be listed.  Where the system refuses to list one that the
scan gets to, and there only, the scan meets the refusal, and what is below is not reached. -/
theorem scan_exact (d : Disk) (p : Pipeline) (directory : Path) (c : Config)
    (skip : Option Path) (entries : List (OsText × Entry)) (hd : WellFormed d)
    (h : d.directory? directory = some entries) :
    ∃ visits, scan d p directory c skip = .ok visits ∧
      (∀ file, file ∈ visits.filterMap Visit.source? ↔
        ∃ names bytes, file = directory.descend names ∧
          (Entry.directory entries).get? names = some (.file bytes) ∧
          (∀ name ∈ names.dropLast, name ∉ c.exclude.map OsText.ofText) ∧
          Reached d directory names ∧
          c.isSourceFile file = true ∧ ∀ q ∈ skip, q.same file = false) ∧
      (∀ q fault, .unlisted q fault ∈ visits ↔
        Refused d c directory (.directory entries) q fault) ∧
      ((visits.filterMap Visit.source?).map orderKey).Pairwise (· < ·) ∧
      ∀ names target, (Entry.directory entries).get? names = some (.link target) →
        ∀ file ∈ visits.filterMap Visit.source?,
          ¬ directory.components ++ names.map .normal <+: file.components := by
  have hne := raw_ne_of_directory? h
  have hordered := ordered_of_directory? hd h
  obtain ⟨visits, hscan, hfound, hsources⟩ := scan_eq_ok p c skip h hordered
  have hmem : ∀ file, file ∈ visits.filterMap Visit.source? ↔
      ∃ names bytes, file = directory.descend names ∧
        (Entry.directory entries).get? names = some (.file bytes) ∧
        (∀ name ∈ names.dropLast, name ∉ c.exclude.map OsText.ofText) ∧
        Reached d directory names ∧
        c.isSourceFile file = true ∧ ∀ q ∈ skip, q.same file = false := by
    intro file
    simp only [hsources, sourcesAmong, List.mem_map, List.mem_filter, mem_filesOf_iff_get? hordered,
      reads_iff, decide_eq_true_eq]
    constructor
    · rintro ⟨names, ⟨⟨⟨bytes, hget⟩, hreached⟩, hexclude, hreads⟩, rfl⟩
      exact ⟨names, bytes, rfl, hget, hexclude, hreached, hreads⟩
    · rintro ⟨names, bytes, rfl, hget, hexclude, hreached, hreads⟩
      exact ⟨names, ⟨⟨⟨bytes, hget⟩, hreached⟩, hexclude, hreads⟩, rfl⟩
  refine ⟨visits, hscan, hmem, fun q fault => ?refused, ?ordered, ?links⟩
  case refused =>
    rw [hfound]
    exact unlisted_enter directory hordered
  case ordered =>
    have hnames : ∀ names ∈ (filesOf entries).filter (Reached d directory ·),
        ∀ name ∈ names, IsName name := by
      intro names hfile
      obtain ⟨bytes, hget⟩ := (mem_filesOf_iff_get? hordered).mp (List.mem_filter.mp hfile).1
      exact isName_of_directory? hd h hget
    rw [hsources, sourcesAmong, List.map_map, List.pairwise_map]
    exact (((pairwise_filesOf hordered).filter _).filter _).imp_of_mem fun hx hy hlt =>
      orderKey_lt hne (hnames _ (List.mem_filter.mp hx).1) (hnames _ (List.mem_filter.mp hy).1) hlt
  case links =>
    intro link target hlink file hfile hprefix
    obtain ⟨names, bytes, rfl, hget, -⟩ := (hmem file).mp hfile
    rw [components_descend hne (isName_of_directory? hd h hget), List.prefix_append_right_inj]
      at hprefix
    obtain ⟨more, hmore⟩ := hprefix
    obtain ⟨link', below, rfl, hlink', -⟩ := List.map_eq_append_iff.mp hmore.symm
    obtain rfl : link' = link :=
      List.map_injective_iff.mpr (fun _ _ h => Component.normal.inj h) hlink'
    -- a link is not a file, and has nothing below it
    rw [Entry.get?_append hlink] at hget
    cases below <;> cases hget

/-- A link more leaves a disk one that a file system can hold. -/
theorem WellFormed.put_link (hd : WellFormed d) {parent : Place} {name : OsText} (target : Path)
    (hname : IsName name) (hparent : d.view parent = some .directory)
    (hold : d.view (parent ++ [name]) ≠ some .directory)
    (hlisted : ∀ p, d.refusal (.listDirectory p) = none) :
    WellFormed (d.put parent name (.link target)) := by
  refine ⟨hd.ordered.put parent name ?_, fun place hplace => ?_, fun p fault hrefusal => ?_⟩
  · intro place entries hget
    cases place <;> cases hget
  · rw [view_put hparent hold fun n rest => rfl] at hplace
    by_cases hlink : place = parent ++ [name]
    · rw [hlink, List.forall_mem_append, List.forall_mem_singleton]
      exact ⟨hd.named parent (hparent ▸ Option.some_ne_none _), hname⟩
    · rw [Function.update_of_ne hlink] at hplace
      exact hd.named place hplace
  · rw [refusal_put] at hrefusal
    cases (hlisted p).symm.trans hrefusal

/-- A directory next to a file of its name, an excluded directory, an output, and a link. -/
def listed : Disk :=
  let files : Disk :=
    { root := [("src", .directory [
        ("a", .directory [("x.ts", .file .empty)]),
        ("a.ts", .file .empty),
        ("node_modules", .directory [("m.ts", .file .empty)]),
        ("out.ts", .file .empty)])] }
  files.put ["src"] "link.ts" (.link ⟨"a.ts"⟩)

/-- Paths are not compared as strings, and a file is listed whatever it is called. -/
theorem scan_exact_listed :
    ∃ c : Config, "x.ts" ∈ c.exclude ∧ ∃ (visits : List Visit) (files : List Path),
      scan listed .http ⟨"src"⟩ c (some ⟨"src/./out.ts"⟩) = .ok visits ∧
      visits.filterMap Visit.source? = files ∧ files = [⟨"src/a/x.ts"⟩, ⟨"src/a.ts"⟩] ∧
      (files.map orderKey).Pairwise (· < ·) ∧
      ∀ file ∈ files, ¬ Path.components ⟨"src/link.ts"⟩ <+: file.components := by
  let c : Config := { exclude := ["node_modules", "x.ts"] }
  have hd : WellFormed listed :=
    (wellFormed_of_isPlain (by decide +kernel) fun _ => rfl).1.put_link ⟨"a.ts"⟩ (by decide) rfl
      nofun fun _ => rfl
  obtain ⟨visits, hscan, -, -, horder, hlinks⟩ :=
    scan_exact listed .http ⟨"src"⟩ c (some ⟨"src/./out.ts"⟩) _ hd rfl
  have hvisits : scan listed .http ⟨"src"⟩ c (some ⟨"src/./out.ts"⟩)
      = .ok [.source ⟨"src/a/x.ts"⟩, .source ⟨"src/a.ts"⟩, .output ⟨"src/out.ts"⟩] :=
    eq_ok_of_toOption (by decide +kernel)
  obtain rfl := Except.ok.inj (hscan.symm.trans hvisits)
  exact ⟨c, by decide, _, _, hscan, rfl, rfl, horder, hlinks ["link.ts"] ⟨"a.ts"⟩ rfl⟩

end DispatchGen.Project

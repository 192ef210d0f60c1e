/-
DispatchGen/Proofs/SourceScan.lean

The sources of a target, and what a disk has to keep for them to be the same.

The scan of a directory comes upon the files below it in the order of their names,
and whether it reads one that it gets to depends on its names alone (`reads`,
`sources_visits`).  It gets to all of them unless the system refuses to list one of the
directories on the way; these refusals are what else it comes upon (`unlisted_enter`).
A file at the place of the output is not read: without links, two paths from one
root that lead to one place have the same components, so the scan knows the output
when it meets it (`reads_output`).

Hence two disks with the same files, but for the one at the place of the output,
have the same sources (`parseSources_of_updated`).  Directories that are there on
the second disk only hold nothing else.
-/
import DispatchGen.Proofs.DiskOrder
import DispatchGen.Proofs.LinkFreeWalk
import DispatchGen.Proofs.PreparedTable

namespace DispatchGen.Project

open Grammar (Reader)

open Disk DispatchGen.Path

/-! ### What the scan reads -/

/-- A name is excluded if it is that of a text on the list. -/
theorem excludes_iff {c : Config} {name : OsText} :
    c.excludes name = true ↔ name ∈ c.exclude.map OsText.ofText := by
  simp only [Config.excludes, Option.any_eq_true, OsText.toText?_eq_some, List.contains_eq_mem,
    decide_eq_true_eq, List.mem_map]
  constructor
  · rintro ⟨text, rfl, htext⟩
    exact ⟨text, htext, rfl⟩
  · rintro ⟨text, htext, rfl⟩
    exact ⟨text, rfl, htext⟩

theorem excludes_eq_false_iff {c : Config} {name : OsText} :
    c.excludes name = false ↔ name ∉ c.exclude.map OsText.ofText := by
  rw [← excludes_iff, Bool.not_eq_true]

/-- Whether the scan of `directory` reads the file under these names. -/
def reads (c : Config) (skip : Option Path) (directory : Path) (names : Place) : Bool :=
  names.dropLast.all (!c.excludes ·) && c.isSourceFile (directory.descend names) &&
    !skip.any (·.same (directory.descend names))

/-- The sources among files that are given by their names. -/
def sourcesAmong (c : Config) (skip : Option Path) (directory : Path) (files : List Place) :
    List Path :=
  (files.filter (reads c skip directory)).map directory.descend

/-- The system lets every directory be listed on the way from `directory` down to these
names. -/
def Reached (d : Disk) (directory : Path) : Place → Prop
  | [] => True
  | name :: names =>
      d.refusal (.listDirectory directory) = none ∧ Reached d (directory.join ⟨name⟩) names

def Reached.decide (d : Disk) (directory : Path) : (names : Place) →
    Decidable (Reached d directory names)
  | [] => inferInstanceAs (Decidable True)
  | name :: names =>
      have := Reached.decide d (directory.join ⟨name⟩) names
      inferInstanceAs (Decidable (_ ∧ _))

instance (d : Disk) (directory : Path) (names : Place) : Decidable (Reached d directory names) :=
  Reached.decide d directory names

/-- What is reached step by step is reached. -/
theorem reached_append {d : Disk} {directory : Path} {names names' : Place} :
    Reached d directory (names ++ names') ↔
      Reached d directory names ∧ Reached d (directory.descend names) names' := by
  induction names generalizing directory with
  | nil => exact (iff_of_eq (true_and _)).symm
  | cons name names ih => exact (and_congr_right fun _ => ih).trans and_assoc.symm

section Scan

variable {d : Disk} (c : Config) (skip : Option Path) (directory : Path)

/-- Sources are selected file by file. -/
theorem sourcesAmong_append (xs ys : List Place) :
    sourcesAmong c skip directory (xs ++ ys)
      = sourcesAmong c skip directory xs ++ sourcesAmong c skip directory ys := by
  rw [sourcesAmong, List.filter_append, List.map_append]
  rfl

theorem sourcesAmong_file {here : Place} (name : OsText)
    (hhere : here.all (!c.excludes ·) = true) :
    (visitOf c skip (directory.descend (here ++ [name]))).filterMap Visit.source?
      = sourcesAmong c skip directory [here ++ [name]] := by
  have hreads : reads c skip directory (here ++ [name])
      = (c.isSourceFile (directory.descend (here ++ [name])) &&
        !skip.any (·.same (directory.descend (here ++ [name])))) := by
    rw [reads, List.dropLast_concat, hhere, Bool.true_and]
  rw [sourcesAmong, List.filter_singleton, hreads, visitOf]
  cases c.isSourceFile (directory.descend (here ++ [name])) with
  | false => rfl
  | true => cases skip.any (·.same (directory.descend (here ++ [name]))) <;> rfl

/-- Nothing is read below a directory if nothing there passes. -/
theorem sourcesAmong_below (place : Place) {entries : List (OsText × Entry)}
    (h : (Entry.directory entries).Ordered)
    (hnot : ∀ name names, ¬ (Reached d directory (place ++ name :: names) ∧
      reads c skip directory (place ++ name :: names) = true)) :
    sourcesAmong c skip directory
      (((leavesOf place entries).filterMap fileOf?).filter (Reached d directory ·)) = [] := by
  rw [sourcesAmong, List.map_eq_nil_iff, List.filter_eq_nil_iff]
  intro names hnames hreads
  obtain ⟨hfile, hreached⟩ := List.mem_filter.mp hnames
  obtain ⟨⟨place', x⟩, hx, hfile⟩ := List.mem_filterMap.mp hfile
  obtain ⟨name, rest, rfl, -, -⟩ := (mem_leavesOf place entries h).mp hx
  have hplace : names = place ++ name :: rest := by
    cases x <;> cases hfile
    rfl
  rw [hplace] at hreached hreads
  exact hnot name rest ⟨of_decide_eq_true hreached, hreads⟩

/-- Names below an excluded directory do not pass. -/
theorem reads_below_excluded {here : Place} {name : OsText} (hname : c.excludes name = true)
    (n : OsText) (names : Place) :
    reads c skip directory (here ++ [name] ++ n :: names) = false := by
  -- the excluded directory is one of those that the file is in
  have hmem : name ∈ (here ++ [name] ++ n :: names).dropLast := by
    rw [List.dropLast_append_of_ne_nil (List.cons_ne_nil n names)]
    simp
  have hall : (here ++ [name] ++ n :: names).dropLast.all (!c.excludes ·) = false :=
    List.all_eq_false.mpr ⟨name, hmem, by rw [hname]; exact Bool.false_ne_true⟩
  rw [reads, hall, Bool.false_and, Bool.false_and]

mutual

/-- The sources that a visit comes upon are those among the files that it gets to. -/
theorem sources_visit (here : Place) (hhere : here.all (!c.excludes ·) = true)
    (name : OsText) (hreached : Reached d directory (here ++ [name])) :
    (e : Entry) → e.Ordered →
      (visit d c skip name (directory.descend (here ++ [name])) e).filterMap Visit.source?
        = sourcesAmong c skip directory
            (((e.leaves (here ++ [name])).filterMap fileOf?).filter (Reached d directory ·))
  | .file bytes, _ => by
    rw [visit, sourcesAmong_file c skip directory name hhere]
    change _ = sourcesAmong c skip directory ([here ++ [name]].filter _)
    rw [List.filter_singleton, decide_eq_true hreached]
    rfl
  | .link _, _ => rfl
  | .directory entries, h => by
    rw [visit, Entry.leaves]
    split
    case isTrue hname =>
      refine (sourcesAmong_below c skip directory _ h fun n names hnot => ?_).symm
      rw [reads_below_excluded c skip directory hname] at hnot
      exact Bool.false_ne_true hnot.2
    case isFalse hname =>
      rw [enter]
      split
      case h_1 fault hrefusal =>
        refine (sourcesAmong_below c skip directory _ h fun n names hnot => ?_).symm
        obtain ⟨-, hlist, -⟩ := reached_append.mp hnot.1
        rw [hrefusal] at hlist
        cases hlist
      case h_2 hlist =>
        refine sources_visits (here ++ [name]) ?_ hreached hlist entries h
        rw [List.all_append, hhere]
        simpa using hname

theorem sources_visits (here : Place) (hhere : here.all (!c.excludes ·) = true)
    (hreached : Reached d directory here)
    (hlist : d.refusal (.listDirectory (directory.descend here)) = none) :
    (entries : List (OsText × Entry)) → (Entry.directory entries).Ordered →
      (visits d c skip (directory.descend here) entries).filterMap Visit.source?
        = sourcesAmong c skip directory
            (((leavesOf here entries).filterMap fileOf?).filter (Reached d directory ·))
  | [], _ => rfl
  | (name, e) :: rest, h => by
    obtain ⟨he, hrest, -⟩ := Entry.ordered_cons h
    have hname : Reached d directory (here ++ [name]) :=
      reached_append.mpr ⟨hreached, hlist, trivial⟩
    rw [visits, leavesOf, List.filterMap_append, List.filterMap_append, List.filter_append,
      sourcesAmong_append, ← descend_concat, sources_visit here hhere name hname e he,
      sources_visits here hhere hreached hlist rest hrest]

end

end Scan

/-- The scan of a directory that is there succeeds, and finds the files that pass. -/
theorem scan_eq_ok {d : Disk} (target : Pipeline) (c : Config) (skip : Option Path)
    {directory : Path} {entries : List (OsText × Entry)} (h : d.directory? directory = some entries)
    (hordered : (Entry.directory entries).Ordered) :
    ∃ found, scan d target directory c skip = .ok found ∧
      found = enter d directory (visits d c skip directory entries) ∧
      found.filterMap Visit.source?
        = sourcesAmong c skip directory ((filesOf entries).filter (Reached d directory ·)) := by
  refine ⟨_, by rw [scan, h], rfl, ?_⟩
  rw [enter]
  split
  case h_1 fault hrefusal =>
    refine (sourcesAmong_below c skip directory [] hordered fun n names hnot => ?_).symm
    cases hrefusal.symm.trans hnot.1.1
  case h_2 hlist => exact sources_visits c skip directory [] rfl trivial hlist entries hordered

/-! ### What the scan is refused -/

section Refused

variable {d : Disk} {c : Config} {skip : Option Path} {p : Path} {fault : Fault}

/-- The scan gets to a directory at or below an entry, at `file`, and is refused its listing. -/
def Refused (d : Disk) (c : Config) (file : Path) (e : Entry) (p : Path) (fault : Fault) : Prop :=
  ∃ names below, e.get? names = some (.directory below) ∧
    (∀ name ∈ names, name ∉ c.exclude.map OsText.ofText) ∧
    Reached d file names ∧ p = file.descend names ∧ d.refusal (.listDirectory p) = some fault

theorem not_refused {file : Path} {e : Entry} (h : ∀ below, e ≠ .directory below) :
    ¬ Refused d c file e p fault := by
  rintro ⟨names, below, hget, -⟩
  cases e with
  | file bytes => cases names <;> cases hget
  | link target => cases names <;> cases hget
  | directory entries => exact h entries rfl

/-- A scan is refused the listing of a directory itself or, once it has that, of one further
down. -/
theorem refused_directory {file : Path} {entries : List (OsText × Entry)} :
    Refused d c file (.directory entries) p fault ↔
      (p = file ∧ d.refusal (.listDirectory file) = some fault) ∨
      d.refusal (.listDirectory file) = none ∧ ∃ name e, find? name entries = some e ∧
        name ∉ c.exclude.map OsText.ofText ∧ Refused d c (file.join ⟨name⟩) e p fault := by
  constructor
  · rintro ⟨names, below, hget, hnames, hreached, rfl, hrefusal⟩
    cases names with
    | nil => exact .inl ⟨rfl, hrefusal⟩
    | cons name names =>
      obtain ⟨e, hfind, hget⟩ := Option.bind_eq_some_iff.mp hget
      obtain ⟨hname, hnames⟩ := List.forall_mem_cons.mp hnames
      exact .inr ⟨hreached.1, name, e, hfind, hname, names, below, hget, hnames, hreached.2, rfl,
        hrefusal⟩
  · rintro (⟨rfl, hrefusal⟩ | ⟨hlist, name, e, hfind, hname, names, below, hget, hnames, hreached,
      rfl, hrefusal⟩)
    · exact ⟨[], entries, rfl, List.forall_mem_nil _, trivial, rfl, hrefusal⟩
    · exact ⟨name :: names, below, Option.bind_eq_some_iff.mpr ⟨e, hfind, hget⟩,
        List.forall_mem_cons.mpr ⟨hname, hnames⟩, ⟨hlist, hreached⟩, rfl, hrefusal⟩

theorem unlisted_notMem_visitOf (file : Path) : .unlisted p fault ∉ visitOf c skip file := by
  unfold visitOf
  split
  · exact List.not_mem_nil
  · split <;> simp

theorem mem_enter {file : Path} {found : List Visit} :
    .unlisted p fault ∈ enter d file found ↔
      (p = file ∧ d.refusal (.listDirectory file) = some fault) ∨
      d.refusal (.listDirectory file) = none ∧ .unlisted p fault ∈ found := by
  rw [enter]
  cases d.refusal (.listDirectory file) with
  | none => simp
  | some fault' => simp [eq_comm]

mutual

/-- The refusals that a visit comes upon are those of the directories that it gets to. -/
theorem unlisted_visit (name : OsText) (file : Path) :
    (e : Entry) → e.Ordered → (.unlisted p fault ∈ visit d c skip name file e ↔
      name ∉ c.exclude.map OsText.ofText ∧ Refused d c file e p fault)
  | .file bytes, _ => by
    rw [visit]
    exact iff_of_false (unlisted_notMem_visitOf file) fun h => not_refused (by simp) h.2
  | .link target, _ => by
    rw [visit]
    exact iff_of_false List.not_mem_nil fun h => not_refused (by simp) h.2
  | .directory entries, h => by
    rw [visit, refused_directory]
    split
    case isTrue hname =>
      exact iff_of_false List.not_mem_nil fun h => h.1 (excludes_iff.mp hname)
    case isFalse hname =>
      rw [mem_enter, unlisted_visits file entries h]
      exact (and_iff_right (mt excludes_iff.mpr hname)).symm

/-- The directories that a scan could not list are those that are refused. -/
theorem unlisted_visits (directory : Path) :
    (entries : List (OsText × Entry)) → (Entry.directory entries).Ordered →
      (.unlisted p fault ∈ visits d c skip directory entries ↔
        ∃ name e, find? name entries = some e ∧ name ∉ c.exclude.map OsText.ofText ∧
          Refused d c (directory.join ⟨name⟩) e p fault)
  | [], _ => by simp [visits, find?]
  | (name, e) :: rest, h => by
    obtain ⟨he, hrest, hfirst⟩ := Entry.ordered_cons h
    rw [visits, List.mem_append, unlisted_visit name _ e he, unlisted_visits directory rest hrest]
    constructor
    · rintro (⟨hname, hrefused⟩ | ⟨n, x, hfind, hn, hrefused⟩)
      · exact ⟨name, e, by rw [find?_cons, if_pos rfl], hname, hrefused⟩
      · have hne := Std.ne_of_lt (hfirst n x hfind)
        exact ⟨n, x, by rw [find?_cons, if_neg hne, hfind], hn, hrefused⟩
    · rintro ⟨n, x, hfind, hn, hrefused⟩
      rw [find?_cons] at hfind
      split at hfind
      case isTrue heq =>
        cases hfind
        exact .inl ⟨heq ▸ hn, heq ▸ hrefused⟩
      case isFalse => exact .inr ⟨n, x, hfind, hn, hrefused⟩

end

/-- The refusals that the scan of a directory comes upon. -/
theorem unlisted_enter (directory : Path) {entries : List (OsText × Entry)}
    (h : (Entry.directory entries).Ordered) :
    .unlisted p fault ∈ enter d directory (visits d c skip directory entries) ↔
      Refused d c directory (.directory entries) p fault := by
  rw [mem_enter, unlisted_visits directory entries h, refused_directory]

/-- The system lets every directory be listed, of those that the scan does not exclude. -/
def Listable (d : Disk) (c : Config) (directory : Path) (entries : List (OsText × Entry)) : Prop :=
  ∀ names below, (Entry.directory entries).get? names = some (.directory below) →
    (∀ name ∈ names, name ∉ c.exclude.map OsText.ofText) →
    d.refusal (.listDirectory (directory.descend names)) = none

theorem listable_of_not_refused {directory : Path} {entries : List (OsText × Entry)}
    (h : ∀ p fault, ¬ Refused d c directory (.directory entries) p fault) :
    Listable d c directory entries := by
  intro names below hget hnames
  induction names generalizing directory entries with
  | nil =>
    refine Option.eq_none_iff_forall_ne_some.mpr fun fault hrefusal => h directory fault ?_
    exact refused_directory.mpr (.inl ⟨rfl, hrefusal⟩)
  | cons name names ih =>
    have hlist : d.refusal (.listDirectory directory) = none :=
      Option.eq_none_iff_forall_ne_some.mpr fun fault hrefusal =>
        h directory fault (refused_directory.mpr (.inl ⟨rfl, hrefusal⟩))
    obtain ⟨e, hfind, hget⟩ := Option.bind_eq_some_iff.mp hget
    obtain ⟨hname, hnames⟩ := List.forall_mem_cons.mp hnames
    cases e with
    | file bytes => cases names <;> cases hget
    | link target => cases names <;> cases hget
    | directory entries' =>
      refine ih (fun p fault hrefused => h p fault ?_) hget hnames
      exact refused_directory.mpr (.inr ⟨hlist, name, _, hfind, hname, hrefused⟩)

/-- The scan of a directory meets no refusal if it may list what it gets to. -/
theorem allListed_enter_iff (directory : Path) {entries : List (OsText × Entry)}
    (h : (Entry.directory entries).Ordered) :
    AllListed (enter d directory (visits d c skip directory entries)) ↔
      Listable d c directory entries := by
  simp only [AllListed, unlisted_enter directory h]
  refine ⟨listable_of_not_refused, fun hlistable p fault => ?_⟩
  rintro ⟨names, below, hget, hnames, -, rfl, hrefusal⟩
  rw [hlistable names below hget hnames] at hrefusal
  cases hrefusal

/-- The files that the scan reads are all reached, if it may list what it gets to. -/
theorem Listable.reached {directory : Path} {entries : List (OsText × Entry)}
    (h : Listable d c directory entries) {names : Place} {e : Entry}
    (hget : (Entry.directory entries).get? names = some e)
    (hnames : ∀ name ∈ names.dropLast, name ∉ c.exclude.map OsText.ofText) :
    Reached d directory names := by
  induction names generalizing directory entries with
  | nil => trivial
  | cons name names ih =>
    refine ⟨h [] entries rfl (List.forall_mem_nil _), ?_⟩
    obtain ⟨below, hfind, hget⟩ := Option.bind_eq_some_iff.mp hget
    cases names with
    | nil => trivial
    | cons n rest =>
      rw [List.dropLast_cons_cons, List.forall_mem_cons] at hnames
      cases below with
      | file bytes => cases hget
      | link target => cases hget
      | directory entries' =>
        refine ih (fun ns x hx hns => ?_) hget hnames.2
        exact h (name :: ns) x (Option.bind_eq_some_iff.mpr ⟨_, hfind, hx⟩)
          (List.forall_mem_cons.mpr ⟨hnames.1, hns⟩)

end Refused

/-! ### The output among the sources -/

variable {c : Config} {root source output : Path}

/-- The place below a root that a path without `..` leads to. -/
theorem exists_place_join (hroot : root.raw ≠ []) (h : output.Descends) (current : Place) :
    ∃ names : Place, (∀ name ∈ names, IsName name) ∧
      (root.join output).components = root.components ++ names.map .normal ∧
      Place.follow current (root.join output).components
        = Place.follow current root.components ++ names := by
  obtain ⟨names, hsteps, hnames⟩ := h.exists_names
  have hcomponents := components_join hroot h.relative
  rw [hsteps] at hcomponents
  refine ⟨names, hnames, hcomponents, ?_⟩
  rw [hcomponents, Place.follow_append, Place.follow_normal]

/-- A file at the place of the output is not read. -/
theorem reads_output (hroot : root.raw ≠ []) (hsource : source.Descends)
    (houtput : output.Descends) (current names : Place)
    (hplace : Place.follow current (root.join source).components ++ names
      = Place.follow current (root.join output).components) :
    reads c (some (root.join output)) (root.join source) names = false := by
  obtain ⟨below, -, hbelow, hfollow⟩ := exists_place_join hroot hsource current
  obtain ⟨beside, hbeside, hcomponents, hfollow'⟩ := exists_place_join hroot houtput current
  rw [hfollow, hfollow', List.append_assoc, List.append_cancel_left_eq] at hplace
  have hnames : ∀ name ∈ names, IsName name := by
    intro name hname
    exact hbeside name (hplace ▸ List.mem_append_right below hname)
  -- so the two paths have the same components
  have hsame : (root.join output).same ((root.join source).descend names) = true := by
    rw [same_iff, hcomponents,
      components_descend (join_raw_ne hroot hsource.relative) hnames, hbelow, List.append_assoc,
      ← List.map_append, hplace]
  have hskip : (some (root.join output)).any (·.same ((root.join source).descend names)) = true :=
    hsame
  rw [reads, hskip]
  exact Bool.and_false _

/-! ### The same sources on two disks -/

/-- What a file system can hold: directories list their entries in order, under
names that can be part of a path.  It is directories that are there that the system
may refuse to list, so one that is made can be listed. -/
structure WellFormed (d : Disk) : Prop where
  ordered : d.Ordered
  named : ∀ place, d.view place ≠ none → ∀ name ∈ place, IsName name
  listed : ∀ p fault, d.refusal (.listDirectory p) = some fault → d.isDirectory p = true

mutual

/-- Whether there is no link at or below an entry, and every directory lists its
entries in order, under names that can be part of a path. -/
def isPlain : Entry → Bool
  | .file _ => true
  | .link _ => false
  | .directory entries => isPlainListing entries

def isPlainListing : List (OsText × Entry) → Bool
  | [] => true
  | (name, e) :: rest =>
      decide (IsName name) && rest.all (name < ·.1) && isPlain e && isPlainListing rest

end

theorem isPlainListing_iff {entries : List (OsText × Entry)} :
    isPlainListing entries = true ↔ (entries.Pairwise fun x y => x.1 < y.1) ∧
      ∀ x ∈ entries, IsName x.1 ∧ isPlain x.2 = true := by
  induction entries with
  | nil => simp [isPlainListing]
  | cons x rest ih =>
    rw [isPlainListing, List.pairwise_cons, List.forall_mem_cons]
    simp only [Bool.and_eq_true, decide_eq_true_eq, List.all_eq_true, ih]
    tauto

theorem isPlain_of_get? {e e' : Entry} (h : isPlain e = true) {place : Place}
    (hget : e.get? place = some e') : isPlain e' = true ∧ ∀ name ∈ place, IsName name := by
  induction place generalizing e with
  | nil =>
    cases hget
    exact ⟨h, fun name hname => by cases hname⟩
  | cons name place ih =>
    cases e with
    | file bytes => cases hget
    | link target => cases hget
    | directory entries =>
      obtain ⟨below, hfind, hget⟩ := Option.bind_eq_some_iff.mp hget
      obtain ⟨x, hx, rfl⟩ := Option.map_eq_some_iff.mp hfind
      have hname : x.1 = name := by simpa using List.find?_some hx
      obtain ⟨hhead, hbelow⟩ := (isPlainListing_iff.mp h).2 x (List.mem_of_find?_eq_some hx)
      obtain ⟨hplain, hnames⟩ := ih hbelow hget
      exact ⟨hplain, List.forall_mem_cons.mpr ⟨hname ▸ hhead, hnames⟩⟩

theorem ordered_of_isPlainListing {entries : List (OsText × Entry)}
    (h : isPlainListing entries = true) : (Entry.directory entries).Ordered :=
  fun _ _ hget => (isPlainListing_iff.mp (isPlain_of_get? (e := .directory entries) h hget).1).1

/-- A plain disk is one that a file system can hold, without links. -/
theorem wellFormed_of_isPlain {d : Disk} (h : isPlainListing d.root = true)
    (hlisted : ∀ p, d.refusal (.listDirectory p) = none) : WellFormed d ∧ d.LinkFree := by
  have hplain : isPlain (.directory d.root) = true := h
  refine ⟨⟨ordered_of_isPlainListing h, fun place hplace => ?_, fun p fault hrefusal => ?_⟩,
    fun place target hlink => ?_⟩
  · obtain ⟨e, hget⟩ := Option.ne_none_iff_exists'.mp (mt view_eq_none.mpr hplace)
    exact (isPlain_of_get? hplain hget).2
  · cases (hlisted p).symm.trans hrefusal
  · rw [view_eq] at hlink
    obtain ⟨e, hget, he⟩ := Option.map_eq_some_iff.mp hlink
    cases e with
    | file bytes => cases he
    | directory entries => cases he
    | link _ => exact Bool.false_ne_true (isPlain_of_get? hplain hget).1

/-- `d'` keeps the directories of `d`, and its files, but for the one at `out`. -/
structure Updated (out : Place) (d d' : Disk) : Prop where
  keeps : Keeps d d'
  files : ∀ place bytes, place ≠ out →
    (d'.view place = some (.file bytes) ↔ d.view place = some (.file bytes))
  ordered : d'.Ordered
  named : ∀ place, d'.view place ≠ none → ∀ name ∈ place, IsName name

variable {d d' : Disk}

/-- The listing at a place tells which files are below it. -/
theorem mem_filesOf_iff (hordered : d.Ordered) {entries : List (OsText × Entry)} {place : Place}
    (hentries : d.get? place = some (.directory entries)) (names : Place) :
    names ∈ filesOf entries ↔ ∃ bytes, d.view (place ++ names) = some (.file bytes) := by
  rw [mem_filesOf (hordered.below hentries)]
  have hview : d.view (place ++ names) = (Entry.directory entries).view names :=
    Entry.view_append hentries names
  rw [hview]

/-- Two listings of one directory have the same sources, if the output is no source. -/
theorem sourcesAmong_of_updated {out place : Place} (hordered : d.Ordered)
    (hupdated : Updated out d d') {entries entries' : List (OsText × Entry)}
    (hentries : d.get? place = some (.directory entries))
    (hentries' : d'.get? place = some (.directory entries')) {skip : Option Path}
    {directory : Path}
    (hout : ∀ names, place ++ names = out → reads c skip directory names = false) :
    sourcesAmong c skip directory (filesOf entries')
      = sourcesAmong c skip directory (filesOf entries) := by
  have hsorted := pairwise_filesOf (hordered.below hentries)
  have hsorted' := pairwise_filesOf (hupdated.ordered.below hentries')
  -- both lists are sorted, so they need to agree on their members only
  refine congrArg (List.map directory.descend) ?_
  refine List.Pairwise.eq_of_mem_iff (hsorted'.filter _) (hsorted.filter _) fun names => ?_
  rw [List.mem_filter, List.mem_filter, mem_filesOf_iff hupdated.ordered hentries',
    mem_filesOf_iff hordered hentries]
  by_cases hnames : place ++ names = out
  · rw [hout names hnames]
    simp
  · simp only [hupdated.files _ _ hnames]

/-- A source reads the same on a disk that differs elsewhere only. -/
theorem parseSource_of_updated [Reader] {out : Place} (hd : WellFormed d)
    (hupdated : Updated out d d')
    {directory : Path} (hdirectory : directory.raw ≠ []) {names : Place} {bytes : ByteArray}
    (hbytes : d.view (Place.follow d.current directory.components ++ names) = some (.file bytes))
    (hne : Place.follow d.current directory.components ++ names ≠ out)
    {parsed : Path × Syntax.Node}
    (h : parseSource d root (directory.descend names) = .ok parsed) :
    parseSource d' root (directory.descend names) = .ok parsed := by
  have hnames : ∀ name ∈ names, IsName name := by
    intro name hname
    exact hd.named _ (by rw [hbytes]; exact Option.some_ne_none _) name
      (List.mem_append_right _ hname)
  have hplace : Place.follow d.current (directory.descend names).components
      = Place.follow d.current directory.components ++ names := by
    rw [components_descend hdirectory hnames, Place.follow_append, Place.follow_normal]
  unfold parseSource at h ⊢
  cases hread : d.readText (directory.descend names) with
  | error fault =>
    rw [hread] at h
    cases h
  | ok text =>
    -- its path leads to its own place, which is not that of the output
    have hsame := (hupdated.files _ _ hne).mpr hbytes
    rw [← hbytes, ← hplace] at hsame
    rw [hread] at h
    rw [hupdated.keeps.readText hread hsame]
    exact h

/-- The files that pass are sources, if the scan may list what it gets to. -/
theorem sourcesAmong_reached {skip : Option Path} {directory : Path}
    {entries : List (OsText × Entry)} (hordered : (Entry.directory entries).Ordered)
    (h : Listable d c directory entries) :
    sourcesAmong c skip directory ((filesOf entries).filter (Reached d directory ·))
      = sourcesAmong c skip directory (filesOf entries) := by
  rw [sourcesAmong, sourcesAmong, List.filter_filter]
  refine congrArg _ (List.filter_congr fun names hnames => ?_)
  cases hreads : reads c skip directory names with
  | false => rfl
  | true =>
    obtain ⟨bytes, hview⟩ := (mem_filesOf hordered).mp hnames
    obtain ⟨e, hget, -⟩ := Option.map_eq_some_iff.mp hview
    rw [Bool.true_and, decide_eq_true_eq]
    refine h.reached hget fun name hname => ?_
    simp only [reads, Bool.and_eq_true, List.all_eq_true] at hreads
    exact excludes_eq_false_iff.mp (by simpa using hreads.1.1 name hname)

/-- The sources of a target can be parsed if the scan may list what it gets to and each file
that passes can be parsed. -/
theorem parseSources_eq_ok_iff [Reader] {target : Pipeline} {entries : List (OsText × Entry)}
    {files : List (Path × Syntax.Node)}
    (h : d.directory? (root.join (c.sourceDir target)) = some entries)
    (hordered : (Entry.directory entries).Ordered) :
    parseSources d target root c = .ok files ↔
      Listable d c (root.join (c.sourceDir target)) entries ∧
        (sourcesAmong c (some (root.join (c.output target))) (root.join (c.sourceDir target))
          (filesOf entries)).mapM (parseSource d root) = .ok files := by
  obtain ⟨found, hscan, hfound, hsources⟩ :=
    scan_eq_ok target c (some (root.join (c.output target))) h hordered
  have hlisted : AllListed found ↔ Listable d c (root.join (c.sourceDir target)) entries := by
    rw [hfound]
    exact allListed_enter_iff _ hordered
  rw [parseSources_eq_ok]
  simp only [hscan, Except.ok.injEq, exists_eq_left', hlisted, hsources]
  refine and_congr_right fun hlistable => ?_
  rw [sourcesAmong_reached hordered hlistable]

/-- A directory can be listed after a change if it could be before, or is new. -/
theorem Listable.of_change {directory : Path} {entries entries' : List (OsText × Entry)}
    (h : Listable d c directory entries)
    (hlisted : ∀ p fault, d.refusal (.listDirectory p) = some fault → d.isDirectory p = true)
    (hrefusal : d'.refusal = d.refusal)
    (hnew : ∀ names below', (Entry.directory entries').get? names = some (.directory below') →
      (∃ below, (Entry.directory entries).get? names = some (.directory below)) ∨
        d.isDirectory (directory.descend names) = false) : Listable d' c directory entries' := by
  intro names below' hget hnames
  rw [hrefusal]
  rcases hnew names below' hget with ⟨below, hold⟩ | hmissing
  · exact h names below hold hnames
  · refine Option.eq_none_iff_forall_ne_some.mpr fun fault hfault => ?_
    cases hmissing.symm.trans (hlisted _ fault hfault)

/-- The scan may list what it gets to on a disk that differs at the output only. -/
theorem Listable.of_updated {out : Place} (hd : WellFormed d) (hupdated : Updated out d d')
    {directory : Path} (hdirectory : directory.raw ≠ [])
    {entries entries' : List (OsText × Entry)}
    (hentries : d.get? (Place.follow d.current directory.components) = some (.directory entries))
    (hentries' : d'.get? (Place.follow d.current directory.components)
      = some (.directory entries')) (h : Listable d c directory entries) :
    Listable d' c directory entries' := by
  refine h.of_change hd.listed hupdated.keeps.refusal fun names below' hget => ?_
  by_contra hnot
  rw [not_or, Bool.not_eq_false] at hnot
  obtain ⟨hold, hthere⟩ := hnot
  have hnew : d'.view (Place.follow d.current directory.components ++ names) ≠ none := by
    rw [Ne, view_eq_none, Disk.get?, Entry.get?_append hentries', hget]
    exact Option.some_ne_none _
  have hnames : ∀ name ∈ names, IsName name := fun name hname =>
    hupdated.named _ hnew name (List.mem_append_right _ hname)
  -- its path leads to its own place, so that it is there before
  obtain ⟨below, hbelow⟩ := Option.isSome_iff_exists.mp hthere
  have hplace := get?_of_directory? hupdated.keeps.linkFree hbelow
  rw [components_descend hdirectory hnames, Place.follow_append, Place.follow_normal, Disk.get?,
    Entry.get?_append hentries] at hplace
  exact hold ⟨below, hplace⟩

/-- The sources of a target are the same on a disk that differs at the output only. -/
theorem parseSources_of_updated [Reader] (hd : WellFormed d) {target : Pipeline}
    (hroot : root.raw ≠ []) (hsource : (c.sourceDir target).Descends)
    (houtput : (c.output target).Descends)
    (hupdated : Updated (Place.follow d.current (root.join (c.output target)).components) d d')
    {files : List (Path × Syntax.Node)} (h : parseSources d target root c = .ok files) :
    parseSources d' target root c = .ok files := by
  let skip := some (root.join (c.output target))
  let directory := root.join (c.sourceDir target)
  let place := Place.follow d.current directory.components
  have hout : ∀ names, place ++ names
      = Place.follow d.current (root.join (c.output target)).components →
      reads c skip directory names = false :=
    fun names hplace => reads_output hroot hsource houtput d.current names hplace
  cases hentries : d.directory? directory with
  | none =>
    obtain ⟨_, hscan, -⟩ := parseSources_eq_ok.mp h
    rw [scan, hentries] at hscan
    cases hscan
  | some entries =>
    have hget := get?_of_directory? hupdated.keeps.linkFree hentries
    obtain ⟨entries', hentries'⟩ := hupdated.keeps.directory? hentries
    have hget' := get?_of_directory? hupdated.keeps.linkFree' hentries'
    rw [hupdated.keeps.current] at hget'
    -- the two scans find the same sources
    have hsame := sourcesAmong_of_updated hd.ordered hupdated hget hget' hout
    have hdirectory : directory.raw ≠ [] := join_raw_ne hroot hsource.relative
    obtain ⟨hlistable, h⟩ := (parseSources_eq_ok_iff hentries (hd.ordered.below hget)).mp h
    rw [parseSources_eq_ok_iff hentries' (hupdated.ordered.below hget'), hsame]
    refine ⟨hlistable.of_updated hd hupdated hdirectory hget hget', ?_⟩
    -- and each of them reads the same
    refine mapM_eq_ok_of_forall (fun file hfile parsed hparse => ?_) h
    obtain ⟨names, hnames, rfl⟩ := List.mem_map.mp hfile
    obtain ⟨hnames, hreads⟩ := List.mem_filter.mp hnames
    obtain ⟨bytes, hbytes⟩ := (mem_filesOf_iff hd.ordered hget names).mp hnames
    refine parseSource_of_updated hd hupdated hdirectory hbytes ?_ hparse
    intro hplace
    rw [hout names hplace] at hreads
    cases hreads

end DispatchGen.Project

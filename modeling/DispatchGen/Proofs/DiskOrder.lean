/-
DispatchGen/Proofs/DiskOrder.lean

Directories list their entries in order.

A disk is ordered if each of its directories lists its entries in increasing order
of their names.  Putting an entry into an ordered listing, taking one out and
changing one below keep the order (`ordered_modify`), and so does whatever is made
of such steps.

On an ordered disk the leaves below a directory are listed in increasing order of
their names as well (`pairwise_leavesOf`), and the listing tells no more than
what stands where (`mem_filesOf`).  So what stands where is all there is to an ordered
disk (`Alike.eq`).
-/
import DispatchGen.Proofs.Generation
import Mathlib.Data.List.Lex
import Mathlib.Data.List.Sort

namespace DispatchGen.Disk

/-! ### Ordered listings -/

/-- Every directory at or below an entry lists its entries in increasing order. -/
def Entry.Ordered (e : Entry) : Prop :=
  ∀ place entries, e.get? place = some (.directory entries) →
    entries.Pairwise fun x y => x.1 < y.1

/-- Every directory of a disk lists its entries in increasing order. -/
def Ordered (d : Disk) : Prop := (Entry.directory d.root).Ordered

namespace Entry

variable {e : Entry} {entries : List (OsText × Entry)} {name : OsText}

theorem ordered_file (bytes : ByteArray) : (Entry.file bytes).Ordered := by
  intro place entries h
  cases place <;> cases h

/-- A directory is ordered if its names ascend and each of its entries is. -/
theorem ordered_directory :
    (directory entries).Ordered ↔ (entries.Pairwise fun x y => x.1 < y.1) ∧
      ∀ name e, find? name entries = some e → e.Ordered := by
  constructor
  · intro h
    refine ⟨h [] entries rfl, fun name e hfind place es hget => h (name :: place) es ?_⟩
    rw [get?, hfind]
    exact hget
  · rintro ⟨hpairwise, hbelow⟩ place es hget
    cases place with
    | nil =>
      cases hget
      exact hpairwise
    | cons name place =>
      rw [get?] at hget
      obtain ⟨e, hfind, hget⟩ := Option.bind_eq_some_iff.mp hget
      exact hbelow name e hfind place es hget

/-- Below an entry the order is the same. -/
theorem Ordered.below {e' : Entry} (h : e.Ordered) {place : Place} (he' : e.get? place = some e') :
    e'.Ordered := by
  intro rest entries hget
  refine h (place ++ rest) entries ?_
  rw [get?_append he']
  exact hget

theorem mem_insertEntry {x : OsText × Entry} (h : x ∈ insertEntry name e entries) :
    x.1 = name ∨ x ∈ entries := by
  induction entries with
  | nil =>
    rw [List.mem_singleton.mp h]
    exact .inl rfl
  | cons y rest ih =>
    obtain ⟨n, old⟩ := y
    rw [insertEntry] at h
    split at h
    · rcases List.mem_cons.mp h with rfl | h
      · exact .inl rfl
      · exact .inr h
    · split at h
      · rcases List.mem_cons.mp h with rfl | h
        · exact .inl rfl
        · exact .inr (List.mem_cons_of_mem _ h)
      · rcases List.mem_cons.mp h with rfl | h
        · exact .inr List.mem_cons_self
        · exact (ih h).imp_right (List.mem_cons_of_mem _)

/-- A name is inserted where it belongs. -/
theorem pairwise_insertEntry (name : OsText) (e : Entry)
    (h : entries.Pairwise fun x y => x.1 < y.1) :
    (insertEntry name e entries).Pairwise fun x y => x.1 < y.1 := by
  induction entries with
  | nil => exact List.pairwise_singleton _ _
  | cons y rest ih =>
    obtain ⟨n, old⟩ := y
    obtain ⟨hhead, htail⟩ := List.pairwise_cons.mp h
    -- the entry goes before the head, in its place, or among the others
    rw [insertEntry]
    split
    case isTrue hlt =>
      refine List.pairwise_cons.mpr ⟨fun x hx => ?_, h⟩
      rcases List.mem_cons.mp hx with rfl | hx
      · exact hlt
      · exact List.lt_trans hlt (hhead x hx)
    case isFalse hle =>
      split
      case isTrue heq =>
        subst heq
        exact List.pairwise_cons.mpr ⟨hhead, htail⟩
      case isFalse hne =>
        refine List.pairwise_cons.mpr ⟨fun x hx => ?_, ih htail⟩
        rcases mem_insertEntry hx with hname | hx
        · rw [hname]
          exact Std.lt_of_le_of_ne (List.not_lt.mp hle) (Ne.symm hne)
        · exact hhead x hx

/-- An ordered entry may be put into an ordered directory. -/
theorem ordered_insertEntry (h : (directory entries).Ordered) (he : e.Ordered) :
    (directory (insertEntry name e entries)).Ordered := by
  obtain ⟨hpairwise, hbelow⟩ := ordered_directory.mp h
  refine ordered_directory.mpr ⟨pairwise_insertEntry name e hpairwise, fun n x hfind => ?_⟩
  rw [find?_insertEntry] at hfind
  split at hfind
  · rw [← Option.some.inj hfind]
    exact he
  · exact hbelow n x hfind

theorem ordered_filter (name : OsText) (h : (directory entries).Ordered) :
    (directory (entries.filter (·.1 ≠ name))).Ordered := by
  obtain ⟨hpairwise, hbelow⟩ := ordered_directory.mp h
  refine ordered_directory.mpr ⟨hpairwise.filter _, fun n x hfind => ?_⟩
  rw [find?_filter_ne] at hfind
  split at hfind
  · cases hfind
  · exact hbelow n x hfind

/-- A change of one listing that keeps order keeps the order of all. -/
theorem ordered_modify {f : List (OsText × Entry) → List (OsText × Entry)}
    (hf : ∀ entries, (directory entries).Ordered → (directory (f entries)).Ordered)
    (h : e.Ordered) (parent : Place) : (e.modify f parent).Ordered := by
  induction parent generalizing e with
  | nil =>
    cases e with
    | directory entries => exact hf entries h
    | file bytes => exact h
    | link target => exact h
  | cons name names ih =>
    cases e with
    | directory entries =>
      obtain ⟨hpairwise, hbelow⟩ := ordered_directory.mp h
      refine ordered_directory.mpr ⟨List.pairwise_map.mpr hpairwise, fun n x hfind => ?_⟩
      rw [find?_map] at hfind
      obtain ⟨old, hold, rfl⟩ := Option.map_eq_some_iff.mp hfind
      split
      · exact ih (hbelow n old hold)
      · exact hbelow n old hold
    | file bytes => exact h
    | link target => exact h

end Entry

namespace Ordered

variable {d : Disk}

/-- A directory may be changed to an ordered one. -/
theorem modify {f : List (OsText × Entry) → List (OsText × Entry)}
    (hf : ∀ entries, (Entry.directory entries).Ordered → (Entry.directory (f entries)).Ordered)
    (h : d.Ordered) (parent : Place) : (d.modify f parent).Ordered := by
  obtain ⟨root, hroot⟩ := Entry.modify_directory f parent d.root
  have hmodified := Entry.ordered_modify hf h parent
  rw [hroot] at hmodified
  rw [Disk.modify, hroot]
  exact hmodified

theorem put (h : d.Ordered) (parent : Place) (name : OsText) {e : Entry} (he : e.Ordered) :
    (d.put parent name e).Ordered :=
  h.modify (fun _ hentries => Entry.ordered_insertEntry hentries he) parent

theorem erase (h : d.Ordered) (parent : Place) (name : OsText) : (d.erase parent name).Ordered :=
  h.modify (fun _ hentries => Entry.ordered_filter name hentries) parent

/-- Making directories keeps the order. -/
theorem makeDirectories (h : d.Ordered) (p : Path) : (d.makeDirectories p).1.Ordered := by
  refine makeDirectoriesWithin_invariant (fun d d' p h hmake => ?_) _ d p h
  obtain ⟨-, parent, name, -, -, -, rfl⟩ := makeDirectory_eq_ok.mp hmake
  exact h.put parent name (Entry.ordered_directory.mpr ⟨.nil, fun _ _ h => by cases h⟩)

/-- Replacing a file keeps the order. -/
theorem replaceFile {d' : Disk} (h : d.Ordered) {directory p : Path} {bytes : ByteArray}
    (hreplace : d.replaceFile directory p bytes = (d', .ok ())) : d'.Ordered := by
  obtain ⟨created, parent, name, written, hcreate, hwrite, -, hpersist⟩ :=
    replaceFile_eq_ok.mp hreplace
  obtain ⟨-, -, entries, -, -, rfl⟩ := createTemporary_eq_ok.mp hcreate
  obtain ⟨-, rfl⟩ := writeTemporary_eq_ok.mp hwrite
  obtain ⟨-, parent', name', -, -, rfl⟩ := persist_eq_ok.mp hpersist
  have hfile : ∀ bytes, (Entry.file bytes).Ordered := Entry.ordered_file
  have hwritten := (h.put parent name (hfile .empty)).put parent name (hfile bytes)
  exact (hwritten.erase parent name).put parent' name' (hfile bytes)

end Ordered

/-! ### Leaves -/

def Entry.IsLeaf : Entry → Prop
  | .directory _ => False
  | _ => True

/-- The first entry of an ordered listing comes before all others. -/
theorem Entry.ordered_cons {name : OsText} {e : Entry} {rest : List (OsText × Entry)}
    (h : (directory ((name, e) :: rest)).Ordered) :
    e.Ordered ∧ (directory rest).Ordered ∧ ∀ n x, find? n rest = some x → name < n := by
  obtain ⟨hpairwise, hbelow⟩ := ordered_directory.mp h
  obtain ⟨hhead, htail⟩ := List.pairwise_cons.mp hpairwise
  have hlt : ∀ n x, find? n rest = some x → name < n := by
    intro n x hfind
    obtain ⟨y, hy, -⟩ := Option.map_eq_some_iff.mp hfind
    have hname : y.1 = n := by simpa using List.find?_some hy
    rw [← hname]
    exact hhead y (List.mem_of_find?_eq_some hy)
  refine ⟨hbelow name e (by rw [find?_cons, if_pos rfl]), ?_, hlt⟩
  refine ordered_directory.mpr ⟨htail, fun n x hfind => hbelow n x ?_⟩
  rw [find?_cons, if_neg (Std.ne_of_lt (hlt n x hfind)), hfind]

mutual

/-- The leaves of an ordered entry are what its names lead to. -/
theorem mem_leaves (here : Place) {place : Place} {x : Entry} :
    (e : Entry) → e.Ordered →
      ((place, x) ∈ e.leaves here ↔
        ∃ names, place = here ++ names ∧ e.get? names = some x ∧ x.IsLeaf)
  | .file bytes, _ => by
    rw [Entry.leaves, List.mem_singleton, Prod.mk.injEq]
    constructor
    · rintro ⟨rfl, rfl⟩
      exact ⟨[], (List.append_nil _).symm, rfl, trivial⟩
    · rintro ⟨names, rfl, hget, -⟩
      cases names with
      | nil => exact ⟨List.append_nil _, (Option.some.inj hget).symm⟩
      | cons => cases hget
  | .link target, _ => by
    rw [Entry.leaves, List.mem_singleton, Prod.mk.injEq]
    constructor
    · rintro ⟨rfl, rfl⟩
      exact ⟨[], (List.append_nil _).symm, rfl, trivial⟩
    · rintro ⟨names, rfl, hget, -⟩
      cases names with
      | nil => exact ⟨List.append_nil _, (Option.some.inj hget).symm⟩
      | cons => cases hget
  | .directory entries, h => by
    rw [Entry.leaves, mem_leavesOf here entries h]
    constructor
    · rintro ⟨name, names, rfl, hget, hleaf⟩
      exact ⟨name :: names, rfl, hget, hleaf⟩
    · rintro ⟨names, rfl, hget, hleaf⟩
      cases names with
      | nil =>
        cases hget
        exact hleaf.elim
      | cons name names => exact ⟨name, names, rfl, hget, hleaf⟩

theorem mem_leavesOf (here : Place) {place : Place} {x : Entry} :
    (entries : List (OsText × Entry)) → (Entry.directory entries).Ordered →
      ((place, x) ∈ leavesOf here entries ↔ ∃ name names, place = here ++ name :: names ∧
        (Entry.directory entries).get? (name :: names) = some x ∧ x.IsLeaf)
  | [], _ => by
    rw [leavesOf]
    constructor
    · exact fun h => by cases h
    · rintro ⟨_, _, -, hget, -⟩
      cases hget
  | (name, e) :: rest, h => by
    obtain ⟨he, hrest, hlt⟩ := Entry.ordered_cons h
    rw [leavesOf, List.mem_append, mem_leaves (here ++ [name]) e he, mem_leavesOf here rest hrest]
    constructor
    · rintro (⟨names, rfl, hget, hleaf⟩ | ⟨n, names, rfl, hget, hleaf⟩)
      · refine ⟨name, names, by simp, ?_, hleaf⟩
        rw [Entry.get?, find?_cons, if_pos rfl]
        exact hget
      · -- a name among the others is not that of the head, which comes before it
        refine ⟨n, names, rfl, ?_, hleaf⟩
        rw [Entry.get?] at hget ⊢
        obtain ⟨y, hfind, hget⟩ := Option.bind_eq_some_iff.mp hget
        rw [find?_cons, if_neg (Std.ne_of_lt (hlt n y hfind)), hfind]
        exact hget
    · rintro ⟨n, names, rfl, hget, hleaf⟩
      rw [Entry.get?, find?_cons] at hget
      split at hget
      case isTrue hname =>
        subst hname
        exact .inl ⟨names, by simp, hget, hleaf⟩
      case isFalse => exact .inr ⟨n, names, rfl, hget, hleaf⟩

end

mutual

/-- The leaves of an ordered entry come in the order of their places. -/
theorem pairwise_leaves (here : Place) :
    (e : Entry) → e.Ordered → (e.leaves here).Pairwise fun x y => x.1 < y.1
  | .file _, _ => List.pairwise_singleton _ _
  | .link _, _ => List.pairwise_singleton _ _
  | .directory entries, h => by
    rw [Entry.leaves]
    exact pairwise_leavesOf here entries h

theorem pairwise_leavesOf (here : Place) :
    (entries : List (OsText × Entry)) → (Entry.directory entries).Ordered →
      (leavesOf here entries).Pairwise fun x y => x.1 < y.1
  | [], _ => .nil
  | (name, e) :: rest, h => by
    obtain ⟨he, hrest, hlt⟩ := Entry.ordered_cons h
    rw [leavesOf]
    refine List.pairwise_append.mpr
      ⟨pairwise_leaves (here ++ [name]) e he, pairwise_leavesOf here rest hrest, ?_⟩
    rintro ⟨place, x⟩ hx ⟨place', y⟩ hy
    obtain ⟨names, rfl, -, -⟩ := (mem_leaves (here ++ [name]) e he).mp hx
    obtain ⟨n, names', rfl, hget, -⟩ := (mem_leavesOf here rest hrest).mp hy
    -- the two places part at the names of the two entries
    rw [Entry.get?] at hget
    obtain ⟨z, hfind, -⟩ := Option.bind_eq_some_iff.mp hget
    show here ++ [name] ++ names < here ++ n :: names'
    rw [List.append_assoc]
    exact List.append_left_lt (List.cons_lt_cons_iff.mpr (.inl (hlt n z hfind)))

end

/-! ### What an ordered disk is told by -/

/-- The entries of two ordered listings that have the same things below them open alike. -/
theorem Entry.name_eq_of_view {name n : OsText} {e x : Entry} {rest rest' : List (OsText × Entry)}
    (h : (directory ((name, e) :: rest)).Ordered) (h' : (directory ((n, x) :: rest')).Ordered)
    (hview : (directory ((name, e) :: rest)).view = (directory ((n, x) :: rest')).view) :
    name = n := by
  obtain ⟨-, -, hlt⟩ := ordered_cons h
  obtain ⟨-, -, hlt'⟩ := ordered_cons h'
  by_contra hne
  -- each name would come after the other
  have hfound : ∃ y, find? n rest = some y := by
    have hthing := congrFun hview [n]
    rw [view_directory_cons, view_directory_cons, find?_cons, find?_cons, if_neg hne,
      if_pos rfl] at hthing
    obtain ⟨y, hy, -⟩ := Option.bind_eq_some_iff.mp (hthing.trans (view_nil x))
    exact ⟨y, hy⟩
  have hfound' : ∃ y, find? name rest' = some y := by
    have hthing := congrFun hview.symm [name]
    rw [view_directory_cons, view_directory_cons, find?_cons, find?_cons, if_neg (Ne.symm hne),
      if_pos rfl] at hthing
    obtain ⟨y, hy, -⟩ := Option.bind_eq_some_iff.mp (hthing.trans (view_nil e))
    exact ⟨y, hy⟩
  obtain ⟨y, hy⟩ := hfound
  obtain ⟨y', hy'⟩ := hfound'
  exact List.lt_asymm (hlt n y hy) (hlt' name y' hy')

mutual

/-- Ordered entries that look the same are the same. -/
theorem Entry.eq_of_view : (e : Entry) → {e' : Entry} → e.Ordered → e'.Ordered →
    e.view = e'.view → e = e'
  | .file _, e', _, _, hview => by
    have hthing := congrFun hview []
    cases e' <;> simp_all [thing]
  | .link _, e', _, _, hview => by
    have hthing := congrFun hview []
    cases e' <;> simp_all [thing]
  | .directory entries, e', h, h', hview => by
    cases e' with
    | file bytes => cases congrFun hview []
    | link target => cases congrFun hview []
    | directory entries' => rw [listing_eq_of_view entries h h' hview]

theorem Entry.listing_eq_of_view : (entries : List (OsText × Entry)) →
    {entries' : List (OsText × Entry)} → (directory entries).Ordered →
    (directory entries').Ordered → (directory entries).view = (directory entries').view →
    entries = entries'
  | [], [], _, _, _ => rfl
  | [], (n, x) :: rest', _, _, hview => by
    have hthing := congrFun hview [n]
    rw [view_directory_cons, view_directory_cons, find?_cons, if_pos rfl] at hthing
    cases hthing.trans (view_nil x)
  | (name, e) :: rest, [], _, _, hview => by
    have hthing := congrFun hview.symm [name]
    rw [view_directory_cons, view_directory_cons, find?_cons, if_pos rfl] at hthing
    cases hthing.trans (view_nil e)
  | (name, e) :: rest, (n, x) :: rest', h, h', hview => by
    obtain rfl := name_eq_of_view h h' hview
    obtain ⟨he, hrest, hlt⟩ := ordered_cons h
    obtain ⟨hx, hrest', hlt'⟩ := ordered_cons h'
    have hhead : e = x := by
      refine eq_of_view e he hx (funext fun place => ?_)
      have hthing := congrFun hview (name :: place)
      rwa [view_directory_cons, view_directory_cons, find?_cons, find?_cons, if_pos rfl,
        if_pos rfl] at hthing
    have htail : rest = rest' := by
      refine listing_eq_of_view rest hrest hrest' (funext fun place => ?_)
      cases place with
      | nil => rfl
      | cons m ms =>
        rw [view_directory_cons, view_directory_cons]
        by_cases hm : name = m
        · -- the name of the head does not come again
          subst hm
          have hnone : find? name rest = none :=
            Option.eq_none_iff_forall_ne_some.mpr fun y hy => List.lt_irrefl _ (hlt name y hy)
          have hnone' : find? name rest' = none :=
            Option.eq_none_iff_forall_ne_some.mpr fun y hy => List.lt_irrefl _ (hlt' name y hy)
          rw [hnone, hnone']
        · have hthing := congrFun hview (m :: ms)
          rwa [view_directory_cons, view_directory_cons, find?_cons, find?_cons, if_neg hm,
            if_neg hm] at hthing
    rw [hhead, htail]

end

/-- Ordered disks that nothing tells apart are the same. -/
theorem Alike.eq {d d' : Disk} (h : Alike d d') (hd : d.Ordered) (hd' : d'.Ordered) : d = d' := by
  obtain ⟨root, current, refusal⟩ := d
  obtain ⟨root', current', refusal'⟩ := d'
  obtain ⟨hview, hcurrent, hrefusal⟩ := h
  have hroot : root = root' := Entry.listing_eq_of_view root hd hd' hview.symm
  cases hroot
  cases hcurrent
  cases hrefusal
  rfl

/-! ### The files below a directory -/

/-- The place of a leaf that is a file. -/
def fileOf? : Place × Entry → Option Place
  | (place, .file _) => some place
  | _ => none

/-- The files below a directory, each by the names that lead down to it. -/
def filesOf (entries : List (OsText × Entry)) : List Place :=
  (leavesOf [] entries).filterMap fileOf?

/-- The files of an ordered directory are what is seen as a file below it. -/
theorem mem_filesOf {entries : List (OsText × Entry)} (h : (Entry.directory entries).Ordered)
    {names : Place} :
    names ∈ filesOf entries ↔
      ∃ bytes, (Entry.directory entries).view names = some (.file bytes) := by
  have hview : ∀ bytes, (Entry.directory entries).view names = some (.file bytes) ↔
      (Entry.directory entries).get? names = some (.file bytes) := by
    intro bytes
    exact view_eq_file (d := ⟨entries, [], fun _ => none⟩)
  simp only [hview, filesOf, List.mem_filterMap, Prod.exists]
  constructor
  · rintro ⟨place, x, hx, hfile⟩
    obtain ⟨name, rest, rfl, hget, -⟩ := (mem_leavesOf [] entries h).mp hx
    cases x with
    | file bytes =>
      cases hfile
      exact ⟨bytes, hget⟩
    | link target => cases hfile
    | directory es => cases hfile
  · rintro ⟨bytes, hget⟩
    refine ⟨names, .file bytes, (mem_leavesOf [] entries h).mpr ?_, rfl⟩
    cases names with
    | nil => cases hget
    | cons name rest => exact ⟨name, rest, rfl, hget, trivial⟩

/-- The files of an ordered directory come in order. -/
theorem pairwise_filesOf {entries : List (OsText × Entry)}
    (h : (Entry.directory entries).Ordered) : (filesOf entries).Pairwise (· < ·) := by
  refine List.pairwise_filterMap.mpr ((pairwise_leavesOf [] entries h).imp ?_)
  rintro ⟨place, x⟩ ⟨place', y⟩ hlt a ha b hb
  cases x <;> cases ha
  cases y <;> cases hb
  exact hlt

end DispatchGen.Disk

/-
DispatchGen/Proofs/DiskNames.lean

The names on a disk, and the paths that they make.

Where a walk ends in a name, the name is a piece of the path or of a link on the way
(`piece_of_resolve`).  A disk whose names can all be part of a path, and hold no NUL,
therefore stays such a disk when directories are made and files are replaced
(`Tidy.of_writeOutput`).

On such a disk the names below a directory make a path from any path that leads to the
directory, whatever links that one goes through, and the path leads to what is at the
place of the names (`status_descend`, `directoryPlace_descend`).
-/
import DispatchGen.Proofs.LaterDisk
import DispatchGen.Proofs.SourceScan

namespace DispatchGen.Disk

open DispatchGen.Path

variable {d d' : Disk}

/-! ### Names that a path ends in -/

/-- What holds of the pieces of a walk, and of those of every link, holds of the name that the
walk ends in. -/
theorem Walks.piece {Φ : OsText → Prop} {via : Place → Prop} {follow : Bool} {parent : Place}
    {name : OsText} {slashed : Bool}
    (hlinks : ∀ place target, d.view place = some (.link target) → ∀ piece ∈ target.pieces, Φ piece)
    {links : Nat} {place : Place} {pieces : List OsText} (hpieces : ∀ piece ∈ pieces, Φ piece)
    (h : Walks d via follow (.entry parent name slashed) links place pieces) :
    Φ name ∧ isBlank name = false ∧ name ≠ Path.upName := by
  induction h with
  | done hspot => cases hspot
  | blank _ _ ih => exact ih fun x hx => hpieces x (List.mem_cons_of_mem _ hx)
  | up _ ih => exact ih fun x hx => hpieces x (List.mem_cons_of_mem _ hx)
  | last hblank hup _ _ hspot =>
    cases hspot
    exact ⟨hpieces _ List.mem_cons_self, by simpa using hblank, hup⟩
  | down _ _ _ _ _ ih => exact ih fun x hx => hpieces x (List.mem_cons_of_mem _ hx)
  | link _ _ _ hthing _ _ _ ih =>
    refine ih fun x hx => ?_
    rcases List.mem_append.mp hx with hx | hx
    · exact hlinks _ _ hthing x hx
    · exact hpieces x (List.mem_cons_of_mem _ hx)

/-- The name that a path ends in is a piece of it, or of a link. -/
theorem piece_of_resolve {Φ : OsText → Prop} {follow : Bool} {p : Path} {parent : Place}
    {name : OsText} {slashed : Bool}
    (hlinks : ∀ place target, d.view place = some (.link target) → ∀ piece ∈ target.pieces, Φ piece)
    (hpieces : ∀ piece ∈ p.pieces, Φ piece)
    (h : d.resolve follow p = .ok (.entry parent name slashed)) :
    Φ name ∧ isBlank name = false ∧ name ≠ Path.upName := by
  obtain ⟨-, -, -, hwalk⟩ := resolve_eq_ok.mp h
  exact (walk_eq_ok.mp hwalk).piece hlinks hpieces

/-- An entry that a path comes to has a name. -/
theorem isName_of_resolve {follow : Bool} {p : Path} {parent : Place} {name : OsText}
    {slashed : Bool} (h : d.resolve follow p = .ok (.entry parent name slashed)) : IsName name := by
  obtain ⟨hslash, hblank, hup⟩ := piece_of_resolve (Φ := fun piece => slash ∉ piece)
    (fun _ _ _ _ => not_mem_of_mem_pieces) (fun _ => not_mem_of_mem_pieces) h
  exact ⟨hblank, hup, hslash⟩

/-! ### Names that are added -/

/-- Every name in use has a property. -/
def Named (Φ : OsText → Prop) (d : Disk) : Prop :=
  ∀ place, d.view place ≠ none → ∀ name ∈ place, Φ name

/-- The names above a new one are in use already. -/
theorem Named.update {Φ : OsText → Prop} (h : Named Φ d) {parent : Place} {name : OsText}
    (hparent : d.view parent = some .directory) (hname : Φ name) {thing : Thing}
    (hview : d'.view = Function.update d.view (parent ++ [name]) (some thing)) : Named Φ d' := by
  intro place hplace
  by_cases heq : place = parent ++ [name]
  · rw [heq, List.forall_mem_append, List.forall_mem_singleton]
    exact ⟨h parent (hparent ▸ Option.some_ne_none _), hname⟩
  · rw [hview, Function.update_of_ne heq] at hplace
    exact h place hplace

/-- A write adds names only that can be part of a path. -/
theorem named_of_writeOutput (h : Named IsName d) {file : Path} {text : String}
    (hwrite : (Project.writeOutput file text).outcome d = (d', .ok ())) : Named IsName d' := by
  obtain ⟨made, hmake, hreplace⟩ := Project.writeOutput_eq_ok.mp hwrite
  have hmade : Named IsName made := by
    have hinvariant := makeDirectoriesWithin_invariant (R := Named IsName) (fun d d' p h hmake => by
      obtain ⟨parent, name, slashed, hresolve, -, hview⟩ := view_of_makeDirectory hmake
      exact h.update (view_base_of_resolve hresolve) (isName_of_resolve hresolve) hview)
      ((Project.directoryOf file).components.length + 1) d (Project.directoryOf file) h
    rw [← makeDirectories, hmake] at hinvariant
    exact hinvariant
  obtain ⟨parent, name, hresolve, -, hreplaced⟩ := replaceFile_of_ok hreplace
  exact hmade.update (view_base_of_resolve hresolve) (isName_of_resolve hresolve) hreplaced.view

/-! ### Disks that a file system can hold -/

/-- A string that can stand for an entry and be handed to the system. -/
def IsClean (name : OsText) : Prop := IsName name ∧ 0 ∉ name

instance (name : OsText) : Decidable (IsClean name) := instDecidableAnd

/-- A disk with ordered listings, on which every name can be part of a path and nothing
has a NUL in it. -/
structure Tidy (d : Disk) : Prop where
  ordered : d.Ordered
  names : Named IsClean d
  links : ∀ place target, d.view place = some (.link target) → 0 ∉ target.raw

namespace Tidy

theorem isClean (h : Tidy d) {follow : Bool} {p : Path} {parent : Place} {name : OsText}
    {slashed : Bool} (hresolve : d.resolve follow p = .ok (.entry parent name slashed)) :
    IsClean name := by
  have hclean : ∀ q : Path, 0 ∉ q.raw → ∀ piece ∈ q.pieces, 0 ∉ piece :=
    fun q hq piece hpiece hnul => hq ((exists_mem_pieces (by decide)).mp ⟨piece, hpiece, hnul⟩)
  have hp : 0 ∉ p.raw := by
    obtain ⟨-, hnul, -⟩ := resolve_eq_ok.mp hresolve
    rwa [List.contains_eq_mem, decide_eq_false_iff_not] at hnul
  obtain ⟨hnul, -⟩ := piece_of_resolve
    (fun place target hlink => hclean target (h.links place target hlink)) (hclean p hp) hresolve
  exact ⟨isName_of_resolve hresolve, hnul⟩

/-- An entry where a path leads, and that is no link, keeps a disk tidy. -/
theorem update (h : Tidy d) {follow : Bool} {p : Path} {parent : Place} {name : OsText}
    {slashed : Bool} (hresolve : d.resolve follow p = .ok (.entry parent name slashed))
    {thing : Thing} (hthing : ∀ target, thing ≠ .link target)
    (hview : d'.view = Function.update d.view (parent ++ [name]) (some thing))
    (hordered : d'.Ordered) : Tidy d' where
  ordered := hordered
  names := h.names.update (view_base_of_resolve hresolve) (h.isClean hresolve) hview
  links place target hlink := by
    rw [hview] at hlink
    by_cases heq : place = parent ++ [name]
    · rw [heq, Function.update_self] at hlink
      exact absurd (Option.some.inj hlink) (hthing target)
    · rw [Function.update_of_ne heq] at hlink
      exact h.links place target hlink

theorem makeDirectories (h : Tidy d) (p : Path) : Tidy (d.makeDirectories p).1 := by
  refine makeDirectoriesWithin_invariant (fun d d' p h hmake => ?_) _ d p h
  obtain ⟨parent, name, slashed, hresolve, -, hview⟩ := view_of_makeDirectory hmake
  refine h.update hresolve (fun _ h => by cases h) hview ?_
  obtain ⟨-, parent', name', -, -, -, rfl⟩ := makeDirectory_eq_ok.mp hmake
  exact h.ordered.put parent' name' (Entry.ordered_directory.mpr ⟨.nil, fun _ _ h => by cases h⟩)

theorem of_replaceFile (h : Tidy d) {directory p : Path} {bytes : ByteArray}
    (hreplace : d.replaceFile directory p bytes = (d', .ok ())) : Tidy d' := by
  obtain ⟨parent, name, hresolve, -, hreplaced⟩ := replaceFile_of_ok hreplace
  exact h.update hresolve (fun _ h => by cases h) hreplaced.view (h.ordered.replaceFile hreplace)

/-- Writing an output keeps a disk tidy. -/
theorem of_writeOutput (h : Tidy d) {file : Path} {text : String}
    (hwrite : (Project.writeOutput file text).outcome d = (d', .ok ())) : Tidy d' := by
  obtain ⟨made, hmake, hreplace⟩ := Project.writeOutput_eq_ok.mp hwrite
  have hmade := h.makeDirectories (Project.directoryOf file)
  rw [hmake] at hmade
  exact hmade.of_replaceFile hreplace

end Tidy

/-- What a file system can hold, where links may stand: nothing has a NUL in it, and it is
directories that are there that the system may refuse to list. -/
structure Sound (d : Disk) : Prop extends Tidy d where
  listed : ∀ p fault, d.refusal (.listDirectory p) = some fault → d.isDirectory p = true

/-! ### Going down from a directory -/

/-- Pieces that are all empty lead nowhere else. -/
theorem walk_of_all_empty {follow : Bool} {links : Nat} {place : Place}
    {pieces rest : List OsText} (h : pieces.all (· = []) = true) :
    d.walk follow links place (pieces ++ rest) = d.walk follow links place rest := by
  induction pieces with
  | nil => rfl
  | cons piece pieces ih =>
    rw [List.all_cons, Bool.and_eq_true, decide_eq_true_eq] at h
    obtain ⟨rfl, h⟩ := h
    rw [List.cons_append, walk_cons, if_pos (by decide)]
    exact ih h

/-- The first of some pieces, with or without an empty one after them, is that one or the first
of the others. -/
theorem cons_eq_or_eq_append {piece : OsText} {pieces ps : List OsText}
    (h : piece :: pieces = ps ∨ piece :: pieces = ps ++ [[]]) :
    (piece = [] ∧ pieces = [] ∧ ps = []) ∨
      ∃ ps', ps = piece :: ps' ∧ (pieces = ps' ∨ pieces = ps' ++ [[]]) := by
  rcases h with rfl | h
  · exact .inr ⟨pieces, rfl, .inl rfl⟩
  · obtain ⟨rfl, hlast⟩ | ⟨ps', rfl, hpieces⟩ := List.cons_eq_append_iff.mp h
    · obtain ⟨rfl, rfl⟩ := List.cons.inj hlast
      exact .inl ⟨rfl, rfl, rfl⟩
    · exact .inr ⟨ps', rfl, .inr hpieces⟩

/-- A walk that ends in a directory goes on from there, if there is more to it, through the
links that are left. -/
theorem Walks.append {via : Place → Prop} (follow : Bool) {spot : Spot} {rest : List OsText}
    (hrest : ∃ piece ∈ rest, piece ≠ []) (hspot : d.view spot.place = some .directory)
    {links : Nat} {place : Place} {pieces ps : List OsText}
    (hps : pieces = ps ∨ pieces = ps ++ [[]]) (h : Walks d via true spot links place pieces) :
    ∃ left, d.walk follow links place (ps ++ rest) = d.walk follow left spot.place rest := by
  have more : ∀ pieces, ¬ (pieces ++ rest).all (· = []) = true := fun pieces =>
    ne_true_of_eq_false (all_empty_append_eq_false hrest pieces)
  induction h generalizing ps with
  | @done links _ hend =>
    have hnil : ps = [] := by
      rcases hps with rfl | hps
      · rfl
      · exact absurd hps.symm (List.append_ne_nil_of_right_ne_nil ps (List.cons_ne_nil _ _))
    rw [hnil, hend]
    exact ⟨links, rfl⟩
  | @blank links _ _ _ hblank h ih =>
    obtain ⟨-, rfl, rfl⟩ | ⟨ps, rfl, htail⟩ := cons_eq_or_eq_append hps
    · cases h with
      | done hend => exact ⟨links, by rw [hend]; rfl⟩
    · rw [List.cons_append, walk_cons, if_pos hblank]
      exact ih htail
  | up _ ih =>
    obtain ⟨habsurd, -⟩ | ⟨ps, rfl, htail⟩ := cons_eq_or_eq_append hps
    · exact absurd habsurd (by decide)
    · rw [List.cons_append, walk_cons, if_neg (by decide), if_pos rfl]
      exact ih htail
  | @last links _ _ _ hblank hup hempty _ hend =>
    obtain ⟨rfl, -⟩ | ⟨ps, rfl, htail⟩ := cons_eq_or_eq_append hps
    · exact absurd (by decide) hblank
    · -- the directory is the last, and the rest starts in it
      have hempty' : ps.all (· = []) = true := by
        rcases htail with rfl | rfl
        · exact hempty
        · exact (Bool.and_eq_true _ _ ▸ List.all_append ▸ hempty).1
      rw [hend] at hspot ⊢
      rw [Spot.place] at hspot ⊢
      rw [List.cons_append, walk_cons, if_neg hblank, if_neg hup, hspot]
      exact ⟨links, (if_neg (more ps)).trans (walk_of_all_empty hempty')⟩
  | down hblank hup _ hthing _ ih =>
    obtain ⟨rfl, -⟩ | ⟨ps, rfl, htail⟩ := cons_eq_or_eq_append hps
    · exact absurd (by decide) hblank
    · obtain ⟨left, hleft⟩ := ih htail
      rw [List.cons_append, walk_cons, if_neg hblank, if_neg hup, hthing]
      exact ⟨left, (if_neg (more ps)).trans hleft⟩
  | @link _ _ _ _ target hblank hup _ hthing htext _ _ ih =>
    obtain ⟨rfl, -⟩ | ⟨ps, rfl, htail⟩ := cons_eq_or_eq_append hps
    · exact absurd (by decide) hblank
    · have hps' : ∀ rest, rest = ps ∨ rest = ps ++ [[]] →
          target.pieces ++ rest = target.pieces ++ ps ∨
            target.pieces ++ rest = target.pieces ++ ps ++ [[]] := by
        rintro rest (rfl | rfl)
        · exact .inl rfl
        · exact .inr (List.append_assoc _ _ _).symm
      obtain ⟨left, hleft⟩ := ih (hps' _ htail)
      rw [List.append_assoc] at hleft
      rw [List.cons_append, walk_cons, if_neg hblank, if_neg hup, hthing]
      exact ⟨left, (if_neg (by simp [more ps])).trans ((if_neg htext).trans hleft)⟩

/-- Names lead down through directories, to anything but a link. -/
theorem Walks.of_names {via : Place → Prop} {follow : Bool} {links : Nat} {place init : Place}
    {last : OsText}
    (hthere : d.view (place ++ (init ++ [last])) ≠ none)
    (hlink : ∀ target, d.view (place ++ (init ++ [last])) ≠ some (.link target))
    (hnames : ∀ name ∈ init ++ [last], IsName name) :
    Walks d via follow (.entry (place ++ init) last false) links place (init ++ [last]) := by
  induction init generalizing place with
  | nil =>
    have hlast := hnames last List.mem_cons_self
    exact .last (by simp [hlast.solid]) hlast.down rfl (fun _ => hlink) (by simp)
  | cons name init ih =>
    have hname := hnames name List.mem_cons_self
    have hsplit : place ++ (name :: init ++ [last]) = (place ++ [name]) ++ (init ++ [last]) := by
      simp
    rw [hsplit] at hthere hlink
    have hnext : d.view (place ++ [name]) = some .directory := by
      by_contra hnot
      obtain ⟨n, names, hrest⟩ := List.exists_cons_of_ne_nil
        (show init ++ [last] ≠ [] by simp)
      rw [hrest, view, Entry.view_append_of_not_directory hnot] at hthere
      exact hthere rfl
    have hlast := all_empty_append_eq_false
      ⟨last, List.mem_singleton_self last, (hnames last (by simp)).ne_empty⟩ init
    have hbelow := ih hthere hlink fun n hn => hnames n (List.mem_cons_of_mem _ hn)
    rw [List.append_assoc] at hbelow
    exact .down (by simp [hname.solid]) hname.down (by simp [hlast]) hnext hbelow

/-- The path that names make from another path. -/
theorem exists_pieces_descend {p : Path} (hp : p.raw ≠ []) {names : Place} (hne : names ≠ [])
    (hnames : ∀ name ∈ names, IsName name) :
    (p.descend names).isAbsolute = p.isAbsolute ∧ (p.descend names).raw ≠ [] ∧
      ∃ ps, (p.descend names).pieces = ps ++ names ∧ (p.pieces = ps ∨ p.pieces = ps ++ [[]]) := by
  induction names generalizing p with
  | nil => exact absurd rfl hne
  | cons name names ih =>
    have hname := hnames name List.mem_cons_self
    have hpiece : (⟨name⟩ : Path).pieces = [name] := by
      rw [pieces, hname.relative]
      simp [splitPieces_of_not_mem hname.whole]
    obtain ⟨ps, hjoin, hps, -⟩ := exists_pieces_join hp hname.relative
    have habsolute := isAbsolute_join hp hname.relative
    have htext := join_raw_ne hp hname.relative
    rw [hpiece] at hjoin
    rw [descend, List.foldl_cons, ← descend]
    by_cases hnil : names = []
    case pos =>
      subst hnil
      exact ⟨habsolute, htext, ps, hjoin, hps⟩
    case neg =>
      obtain ⟨habsolute', htext', qs, hdescend, hqs⟩ :=
        ih htext hnil fun n hn => hnames n (List.mem_cons_of_mem _ hn)
      -- the name is no empty piece, so the way goes on after it
      have hqs' : qs = ps ++ [name] := by
        rcases hqs with hqs | hqs
        · rw [← hqs, hjoin]
        · rw [hjoin] at hqs
          obtain ⟨-, hempty⟩ := List.append_inj' hqs rfl
          exact absurd (List.singleton_inj.mp hempty) hname.ne_empty
      refine ⟨habsolute'.trans habsolute, htext', ps, ?_, hps⟩
      rw [hdescend, hqs']
      simp

/-- The names below a directory lead to what is at their place, after any path to the
directory. -/
theorem resolve_descend (hd : Tidy d) {p : Path} {place init : Place} {last : OsText}
    (hplace : d.directoryPlace p = .ok place)
    (hthere : d.view (place ++ (init ++ [last])) ≠ none)
    (hlink : ∀ target, d.view (place ++ (init ++ [last])) ≠ some (.link target)) :
    d.resolve true (p.descend (init ++ [last])) = .ok (.entry (place ++ init) last false) := by
  obtain ⟨spot, hresolve, rfl, hdirectory⟩ := directoryPlace_eq_ok.mp hplace
  obtain ⟨hempty, hnul, hstart, hwalk⟩ := resolve_eq_ok.mp hresolve
  have hclean : ∀ name ∈ init ++ [last], IsClean name := fun name hname =>
    hd.names _ hthere name (List.mem_append_right _ hname)
  have hnames : ∀ name ∈ init ++ [last], IsName name := fun name hname => (hclean name hname).1
  have hrest : ∃ piece ∈ init ++ [last], piece ≠ [] :=
    ⟨last, by simp, (hnames last (by simp)).ne_empty⟩
  obtain ⟨habsolute, htext, ps, hpieces, hps⟩ := exists_pieces_descend hempty (by simp) hnames
  -- there is no NUL in the path, since there is none in any of its pieces
  have hnul' : (p.descend (init ++ [last])).raw.contains 0 = false := by
    rw [List.contains_eq_mem, decide_eq_false_iff_not] at hnul ⊢
    rw [← exists_mem_pieces (by decide)] at hnul ⊢
    rintro ⟨piece, hpiece, hmem⟩
    rw [hpieces] at hpiece
    rcases List.mem_append.mp hpiece with hpiece | hpiece
    · refine hnul ⟨piece, ?_, hmem⟩
      rcases hps with hps | hps <;> rw [hps]
      · exact hpiece
      · exact List.mem_append_left _ hpiece
    · exact (hclean piece hpiece).2 hmem
  refine resolve_eq_ok.mpr ⟨htext, hnul', habsolute ▸ hstart, ?_⟩
  rw [habsolute, hpieces]
  obtain ⟨left, hleft⟩ := (walk_eq_ok.mp hwalk).append true hrest hdirectory hps
  exact hleft.trans (walk_eq_ok.mpr (.of_names hthere hlink hnames))

/-- The names that lead to a file from a directory lead to it as a path. -/
theorem status_descend (hd : Tidy d) {p : Path} {place names : Place} {bytes : ByteArray}
    (hplace : d.directoryPlace p = .ok place)
    (hfile : d.view (place ++ names) = some (.file bytes)) :
    d.status (p.descend names) = .ok (.file bytes) := by
  rcases List.eq_nil_or_concat names with rfl | ⟨init, last, rfl⟩
  · obtain ⟨spot, -, rfl, hdirectory⟩ := directoryPlace_eq_ok.mp hplace
    rw [List.append_nil, hdirectory] at hfile
    cases hfile
  · rw [List.concat_eq_append] at hfile ⊢
    refine status_eq_file.mpr ⟨place ++ init, last, ?_, ?_⟩
    · exact resolve_descend hd hplace (by simp [hfile]) (by simp [hfile])
    · rw [List.append_assoc]
      exact view_eq_file.mp hfile

theorem directoryPlace_descend (hd : Tidy d) {p : Path} {place names : Place}
    (hplace : d.directoryPlace p = .ok place)
    (hdirectory : d.view (place ++ names) = some .directory) :
    d.directoryPlace (p.descend names) = .ok (place ++ names) := by
  rcases List.eq_nil_or_concat names with rfl | ⟨init, last, rfl⟩
  · rw [List.append_nil]
    exact hplace
  · rw [List.concat_eq_append] at hdirectory ⊢
    have hresolve : d.resolve true (p.descend (init ++ [last]))
        = .ok (.entry (place ++ init) last false) :=
      resolve_descend hd hplace (by simp [hdirectory]) (by simp [hdirectory])
    exact directoryPlace_eq_ok.mpr ⟨_, hresolve, List.append_assoc _ _ _, hdirectory⟩

/-! ### Disks that are checked -/

mutual

/-- Whether every directory at or below an entry lists its entries in order, under names that
can be part of a path, and nothing has a NUL in it. -/
def Entry.isTidy : Entry → Bool
  | .file _ => true
  | .link target => decide (0 ∉ target.raw)
  | .directory entries => isTidyListing entries

def isTidyListing : List (OsText × Entry) → Bool
  | [] => true
  | (name, e) :: rest =>
      decide (IsClean name) && rest.all (name < ·.1) && e.isTidy && isTidyListing rest

end

theorem isTidyListing_iff {entries : List (OsText × Entry)} :
    isTidyListing entries = true ↔ (entries.Pairwise fun x y => x.1 < y.1) ∧
      ∀ x ∈ entries, IsClean x.1 ∧ x.2.isTidy = true := by
  induction entries with
  | nil => simp [isTidyListing]
  | cons x rest ih =>
    rw [isTidyListing, List.pairwise_cons, List.forall_mem_cons]
    simp only [Bool.and_eq_true, decide_eq_true_eq, List.all_eq_true, ih]
    tauto

theorem isTidy_of_get? {e e' : Entry} (h : e.isTidy = true) {place : Place}
    (hget : e.get? place = some e') : e'.isTidy = true ∧ ∀ name ∈ place, IsClean name := by
  induction place generalizing e with
  | nil =>
    cases hget
    exact ⟨h, List.forall_mem_nil _⟩
  | cons name place ih =>
    cases e with
    | file bytes => cases hget
    | link target => cases hget
    | directory entries =>
      obtain ⟨below, hfind, hget⟩ := Option.bind_eq_some_iff.mp hget
      obtain ⟨x, hx, rfl⟩ := Option.map_eq_some_iff.mp hfind
      have hname : x.1 = name := by simpa using List.find?_some hx
      obtain ⟨hhead, hbelow⟩ := (isTidyListing_iff.mp h).2 x (List.mem_of_find?_eq_some hx)
      obtain ⟨htidy, hnames⟩ := ih hbelow hget
      exact ⟨htidy, List.forall_mem_cons.mpr ⟨hname ▸ hhead, hnames⟩⟩

/-- A disk is sound if it passes the check and every directory may be listed. -/
theorem sound_of_isTidy (h : isTidyListing d.root = true)
    (hlisted : ∀ p, d.refusal (.listDirectory p) = none) : Sound d where
  ordered _ _ hget := (isTidyListing_iff.mp (isTidy_of_get? (e := .directory d.root) h hget).1).1
  names place hplace := by
    obtain ⟨e, hget⟩ := Option.ne_none_iff_exists'.mp (mt view_eq_none.mpr hplace)
    exact (isTidy_of_get? (e := .directory d.root) h hget).2
  links place target hlink := by
    rw [view_eq] at hlink
    obtain ⟨e, hget, he⟩ := Option.map_eq_some_iff.mp hlink
    cases e with
    | file bytes => cases he
    | directory entries => cases he
    | link _ =>
      cases he
      exact of_decide_eq_true (isTidy_of_get? (e := .directory d.root) h hget).1
  listed p fault hrefusal := by cases (hlisted p).symm.trans hrefusal

end DispatchGen.Disk

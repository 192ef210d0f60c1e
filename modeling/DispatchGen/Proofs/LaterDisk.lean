/-
DispatchGen/Proofs/LaterDisk.lean

Disks that come later.

On a later disk the directories are there still, files are files, and no link is new; only
files may have taken the place of links (`Later`).  A walk that ends on both disks then ends at
the same place, and it goes through such links only as are there on the later disk
(`Walks.agree`): a walk gets past a link, and past no file.  And what led somewhere through
links that are left leads there still (`Leads.later`).

Directories are made as sparingly as can be: a later disk that has the directory is later
than the one on which it was made (`later_of_makeDirectories`).  This is what makes the order
of several makings irrelevant.
-/
import DispatchGen.Proofs.ParentPath
import DispatchGen.Proofs.WriteAgain

namespace DispatchGen.Disk

open DispatchGen.Path

variable {d d' d'' : Disk}

/-- `d'` has the directories and files of `d`, these perhaps with other contents, and no links
but those of `d`, in the place of which there may be files. -/
structure Later (d d' : Disk) : Prop where
  directory : ∀ place, d.view place = some .directory → d'.view place = some .directory
  file : ∀ place bytes, d.view place = some (.file bytes) →
    ∃ bytes', d'.view place = some (.file bytes')
  link : ∀ place target, d'.view place = some (.link target) → d.view place = some (.link target)
  gone : ∀ place target, d.view place = some (.link target) →
    d'.view place = some (.link target) ∨ ∃ bytes, d'.view place = some (.file bytes)
  current : d'.current = d.current
  refusal : d'.refusal = d.refusal

namespace Later

theorem refl (d : Disk) : Later d d :=
  ⟨fun _ h => h, fun _ bytes h => ⟨bytes, h⟩, fun _ _ h => h, fun _ _ h => .inl h, rfl, rfl⟩

theorem trans (h : Later d d') (h' : Later d' d'') : Later d d'' where
  directory place hplace := h'.directory place (h.directory place hplace)
  file place bytes hplace := by
    obtain ⟨bytes', hplace'⟩ := h.file place bytes hplace
    exact h'.file place bytes' hplace'
  link place target hplace := h.link place target (h'.link place target hplace)
  gone place target hplace := by
    rcases h.gone place target hplace with hlink | ⟨bytes, hfile⟩
    · exact h'.gone place target hlink
    · exact .inr (h'.file place bytes hfile)
  current := h'.current.trans h.current
  refusal := h'.refusal.trans h.refusal

/-- A disk that was only added to is a later one. -/
theorem of_grown (h : Grown d d') : Later d d' := by
  have hold : ∀ place thing, d.view place = some thing → d'.view place = some thing := by
    intro place thing hplace
    rcases h.view place with hsame | ⟨hnone, -⟩
    · rw [hsame, hplace]
    · cases hnone.symm.trans hplace
  refine ⟨fun place => hold place _, fun place bytes hplace => ⟨bytes, hold place _ hplace⟩,
    fun place target hplace => ?_, fun place target hplace => .inl (hold place _ hplace),
    h.current, h.refusal⟩
  rcases h.view place with hsame | ⟨-, hnew⟩
  · rwa [hsame] at hplace
  · cases hnew.symm.trans hplace

/-- A disk with a file replaced is a later one. -/
theorem of_replaced {out : Place} {bytes : ByteArray} (hdirectory : d.view out ≠ some .directory)
    (h : Replaced out bytes d d') : Later d d' where
  directory place hplace := by
    have hne : place ≠ out := fun heq => hdirectory (heq ▸ hplace)
    rw [h.view, Function.update_of_ne hne, hplace]
  file place bytes' hplace := by
    by_cases heq : place = out
    · exact ⟨bytes, by rw [h.view, heq, Function.update_self]⟩
    · exact ⟨bytes', by rw [h.view, Function.update_of_ne heq, hplace]⟩
  link place target hplace := by
    rw [h.view] at hplace
    by_cases heq : place = out
    · rw [heq, Function.update_self] at hplace
      cases hplace
    · rwa [Function.update_of_ne heq] at hplace
  gone place target hplace := by
    by_cases heq : place = out
    · exact .inr ⟨bytes, by rw [h.view, heq, Function.update_self]⟩
    · exact .inl (by rw [h.view, Function.update_of_ne heq, hplace])
  current := h.current
  refusal := h.refusal

end Later

/-! ### Walks on both disks -/

namespace Walks

variable {via via' : Place → Prop} {follow follow' : Bool} {spot spot' : Spot} {links links' : Nat}
  {place : Place} {piece : OsText} {rest pieces : List OsText}

theorem tail_of_blank (hblank : isBlank piece = true)
    (h : Walks d via follow spot links place (piece :: rest)) :
    Walks d via follow spot links place rest := by
  cases h with
  | blank _ h => exact h
  | up h => exact absurd hblank (by decide)
  | last hnot => exact absurd hblank hnot
  | down hnot => exact absurd hblank hnot
  | link hnot => exact absurd hblank hnot

theorem tail_of_up (h : Walks d via follow spot links place (Path.upName :: rest)) :
    Walks d via follow spot links place.dropLast rest := by
  cases h with
  | blank hblank => exact absurd hblank (by decide)
  | up h => exact h
  | last _ hnot => exact absurd rfl hnot
  | down _ hnot => exact absurd rfl hnot
  | link _ hnot => exact absurd rfl hnot

/-- Two walks along one path treat a link in the last place alike: it is followed on neither
disk, or is none on the later one, or it is followed on both, there to a directory. -/
def EndAlike (d' : Disk) (follow follow' : Bool) (spot spot' : Spot) : Prop :=
  (follow = false ∧ (follow' = true → ∀ target, d'.view spot.place ≠ some (.link target))) ∨
    (follow = true ∧ follow' = true ∧ d'.view spot'.place = some .directory)

/-- Two walks along one path that both end, one of them on a later disk, end at the same place,
and the first goes through such links only as are left. -/
theorem agree (hlater : Later d d') (h : Walks d via follow spot links place pieces)
    (h' : Walks d' via' follow' spot' links' place pieces)
    (hend : EndAlike d' follow follow' spot spot') :
    spot' = spot ∧
      Walks d (fun place => via place ∧ ∃ target, d'.view place = some (.link target)) follow spot
        links place pieces := by
  induction h generalizing links' with
  | done hspot =>
    cases h' with
    | done hspot' => exact ⟨hspot'.trans hspot.symm, .done hspot⟩
  | blank hblank _ ih =>
    obtain ⟨hsame, hwalk⟩ := ih (h'.tail_of_blank hblank)
    exact ⟨hsame, .blank hblank hwalk⟩
  | up _ ih =>
    obtain ⟨hsame, hwalk⟩ := ih h'.tail_of_up
    exact ⟨hsame, .up hwalk⟩
  | last hblank hup hrest hlink hspot =>
    cases h' with
    | blank hnot => exact absurd hnot hblank
    | up => exact absurd rfl hup
    | last _ _ _ _ hspot' => exact ⟨hspot'.trans hspot.symm, .last hblank hup hrest hlink hspot⟩
    | down _ _ hnot => exact absurd hrest hnot
    | link _ _ hfollow' hthing' =>
      -- a link that is followed on the later disk is one of the first
      rcases hend with ⟨-, hnot⟩ | ⟨hfollow, -⟩
      · rw [hspot] at hnot
        exact absurd hthing' (hnot (hfollow' hrest) _)
      · exact absurd (hlater.link _ _ hthing') (hlink hfollow _)
  | down hblank hup hrest hthing _ ih =>
    have hthing' := hlater.directory _ hthing
    cases h' with
    | blank hnot => exact absurd hnot hblank
    | up => exact absurd rfl hup
    | last _ _ hnot => exact absurd hnot hrest
    | down _ _ _ _ h' =>
      obtain ⟨hsame, hwalk⟩ := ih h'
      exact ⟨hsame, .down hblank hup hrest hthing hwalk⟩
    | link _ _ _ hlink => cases hthing'.symm.trans hlink
  | link hblank hup hfollow hthing htext hvia _ ih =>
    have hleft := hlater.gone _ _ hthing
    cases h' with
    | blank hnot => exact absurd hnot hblank
    | up => exact absurd rfl hup
    | last _ _ hrest _ hspot' =>
      -- a link that is followed to a directory has not become a file
      rcases hend with ⟨hfalse, -⟩ | ⟨-, -, hdirectory⟩
      · exact absurd (hfalse ▸ hfollow hrest) Bool.false_ne_true
      · rw [hspot', Spot.place] at hdirectory
        rcases hleft with hlink | ⟨bytes, hfile⟩
        · cases hlink.symm.trans hdirectory
        · cases hfile.symm.trans hdirectory
    | down _ _ _ hdirectory =>
      rcases hleft with hlink | ⟨bytes, hfile⟩
      · cases hlink.symm.trans hdirectory
      · cases hfile.symm.trans hdirectory
    | link _ _ _ hlink _ _ h' =>
      cases hthing.symm.trans (hlater.link _ _ hlink)
      obtain ⟨hsame, hwalk⟩ := ih h'
      exact ⟨hsame, .link hblank hup hfollow hthing htext ⟨hvia, _, hlink⟩ hwalk⟩

/-- A walk through links that are left ends in the same way on a later disk, also where its
last name is followed there, if that is no link. -/
theorem later (hlater : Later d d')
    (hvia : ∀ place target, via place → d.view place = some (.link target) →
      d'.view place = some (.link target))
    (hfollow : follow' = follow ∨
      follow = false ∧ ∀ target, d'.view spot.place ≠ some (.link target))
    (h : Walks d via follow spot links place pieces) :
    Walks d' via follow' spot links place pieces := by
  induction h with
  | done hspot => exact .done hspot
  | blank hblank _ ih => exact .blank hblank ih
  | up _ ih => exact .up ih
  | last hblank hup hrest hlink hspot =>
    refine .last hblank hup hrest (fun htrue target hthing => ?_) hspot
    rcases hfollow with hsame | ⟨-, hnot⟩
    · exact hlink (hsame.symm.trans htrue) target (hlater.link _ target hthing)
    · exact hnot target (by rw [hspot]; exact hthing)
  | down hblank hup hrest hthing _ ih =>
    exact .down hblank hup hrest (hlater.directory _ hthing) ih
  | link hblank hup hlast hthing htext hthrough _ ih =>
    refine .link hblank hup (fun hrest => ?_) (hvia _ _ hthrough hthing) htext hthrough ih
    rcases hfollow with hsame | ⟨hfalse, -⟩
    · exact hsame ▸ hlast hrest
    · exact absurd (hfalse ▸ hlast hrest) Bool.false_ne_true

/-- On one disk, only the places of links count among those that links may be gone through at. -/
theorem weaken (hvia : ∀ place target, via place → d.view place = some (.link target) → via' place)
    (h : Walks d via follow spot links place pieces) :
    Walks d via' follow spot links place pieces := by
  induction h with
  | done hspot => exact .done hspot
  | blank hblank _ ih => exact .blank hblank ih
  | up _ ih => exact .up ih
  | last hblank hup hrest hlink hspot => exact .last hblank hup hrest hlink hspot
  | down hblank hup hrest hthing _ ih => exact .down hblank hup hrest hthing ih
  | link hblank hup hlast hthing htext hthrough _ ih =>
    exact .link hblank hup hlast hthing htext (hvia _ _ hthrough hthing) ih

/-- A walk that has no use for links may be allowed any number of them, at any places. -/
theorem of_no_links (via' : Place → Prop) (links : Nat)
    (h : Walks d via follow spot 0 place pieces) : Walks d via' follow spot links place pieces := by
  generalize hzero : 0 = none at h
  induction h with
  | done hspot => exact .done hspot
  | blank hblank _ ih => exact .blank hblank (ih hzero)
  | up _ ih => exact .up (ih hzero)
  | last hblank hup hrest hlink hspot => exact .last hblank hup hrest hlink hspot
  | down hblank hup hrest hthing _ ih => exact .down hblank hup hrest hthing (ih hzero)
  | link => cases hzero

end Walks

/-! ### Paths on both disks -/

/-- A path leads to a spot, through links at places with a property. -/
structure Leads (d : Disk) (via : Place → Prop) (follow : Bool) (p : Path) (spot : Spot) :
    Prop where
  raw_ne : p.raw ≠ []
  noNul : p.raw.contains 0 = false
  start : d.view (if p.isAbsolute then [] else d.current) = some .directory
  walks : Walks d via follow spot linkBudget (if p.isAbsolute then [] else d.current) p.pieces

section Leads

variable {via via' : Place → Prop} {follow follow' : Bool} {p : Path} {spot spot' : Spot}

/-- A path comes to a spot exactly if it leads there by some links. -/
theorem resolve_iff_leads :
    d.resolve follow p = .ok spot ↔ Leads d (fun _ => True) follow p spot := by
  rw [resolve_eq_ok, walk_eq_ok]
  exact ⟨fun ⟨hne, hnul, hstart, hwalks⟩ => ⟨hne, hnul, hstart, hwalks⟩,
    fun ⟨hne, hnul, hstart, hwalks⟩ => ⟨hne, hnul, hstart, hwalks⟩⟩

theorem Leads.weaken (hvia : ∀ place target, via place → d.view place = some (.link target) →
    via' place) (h : Leads d via follow p spot) : Leads d via' follow p spot :=
  ⟨h.raw_ne, h.noNul, h.start, h.walks.weaken hvia⟩

theorem Leads.resolve (h : Leads d via follow p spot) : d.resolve follow p = .ok spot :=
  resolve_iff_leads.mpr (h.weaken fun _ _ _ _ => trivial)

/-- A path that leads somewhere on both disks leads to the same place, and through no links but
such as are left. -/
theorem Leads.agree (hlater : Later d d') (h : Leads d via follow p spot)
    (h' : d'.resolve follow' p = .ok spot') (hend : Walks.EndAlike d' follow follow' spot spot') :
    spot' = spot ∧
      Leads d (fun place => via place ∧ ∃ target, d'.view place = some (.link target)) follow p
        spot := by
  obtain ⟨-, -, -, hwalks'⟩ := resolve_iff_leads.mp h'
  rw [hlater.current] at hwalks'
  obtain ⟨hsame, hwalks⟩ := h.walks.agree hlater hwalks' hend
  exact ⟨hsame, h.raw_ne, h.noNul, h.start, hwalks⟩

/-- A path that leads somewhere through links that are left leads there on a later disk. -/
theorem Leads.later (hlater : Later d d')
    (hvia : ∀ place target, via place → d.view place = some (.link target) →
      d'.view place = some (.link target))
    (hfollow : follow' = follow ∨
      follow = false ∧ ∀ target, d'.view spot.place ≠ some (.link target))
    (h : Leads d via follow p spot) : Leads d' via follow' p spot where
  raw_ne := h.raw_ne
  noNul := h.noNul
  start := by
    rw [hlater.current]
    exact hlater.directory _ h.start
  walks := by
    rw [hlater.current]
    exact h.walks.later hlater hvia hfollow

/-- A path that leads to a directory on both disks leads to the same one. -/
theorem Later.directoryPlace_eq (hlater : Later d d') {place place' : Place}
    (h : d.directoryPlace p = .ok place) (h' : d'.directoryPlace p = .ok place') :
    place' = place := by
  obtain ⟨spot, hresolve, rfl, -⟩ := directoryPlace_eq_ok.mp h
  obtain ⟨spot', hresolve', rfl, hdirectory⟩ := directoryPlace_eq_ok.mp h'
  rw [((resolve_iff_leads.mp hresolve).agree hlater hresolve' (.inr ⟨rfl, rfl, hdirectory⟩)).1]

end Leads

/-! ### Directories -/

/-- A path leads to a directory if it leads to the place of one. -/
theorem isDirectory_iff {p : Path} :
    d.isDirectory p = true ↔ ∃ place, d.directoryPlace p = .ok place := by
  rw [isDirectory, Option.isSome_iff_exists]
  simp only [directory?_eq_some, directoryPlace_eq_ok, view_eq_directory]
  constructor
  · rintro ⟨entries, spot, hresolve, hget⟩
    exact ⟨spot.place, spot, hresolve, rfl, entries, hget⟩
  · rintro ⟨_, spot, hresolve, rfl, entries, hget⟩
    exact ⟨entries, spot, hresolve, hget⟩

/-- Pieces with one that is not empty among the last are not all empty. -/
theorem all_empty_append_eq_false {rest : List OsText} (hrest : ∃ piece ∈ rest, piece ≠ [])
    (pieces : List OsText) : (pieces ++ rest).all (· = []) = false := by
  obtain ⟨piece, hpiece, hne⟩ := hrest
  exact List.all_eq_false.mpr ⟨piece, List.mem_append_right _ hpiece, by simpa using hne⟩

/-- A walk that goes on after some pieces has come by a directory. -/
theorem Walks.exists_of_append {via : Place → Prop} {follow : Bool} {spot : Spot}
    {rest : List OsText} (hrest : ∃ piece ∈ rest, piece ≠ []) {links : Nat} {place : Place}
    {pieces all : List OsText} (hall : all = pieces ++ rest)
    (hplace : d.view place = some .directory) (h : Walks d via follow spot links place all) :
    ∃ spot', Walks d via true spot' links place pieces ∧
      d.view spot'.place = some .directory := by
  -- without pieces the walk is over
  have stop : ∀ {links : Nat} {place : Place}, d.view place = some .directory →
      ∃ spot', Walks d via true spot' links place [] ∧ d.view spot'.place = some .directory :=
    fun h => ⟨_, .done rfl, h⟩
  induction h generalizing pieces with
  | done =>
    rw [eq_comm, List.append_eq_nil_iff] at hall
    rw [hall.1]
    exact stop hplace
  | blank hblank _ ih =>
    obtain ⟨rfl, -⟩ | ⟨pieces, rfl, htail⟩ := List.cons_eq_append_iff.mp hall
    · exact stop hplace
    · obtain ⟨spot', hwalk, hspot⟩ := ih htail hplace
      exact ⟨spot', .blank hblank hwalk, hspot⟩
  | up _ ih =>
    obtain ⟨rfl, -⟩ | ⟨pieces, rfl, htail⟩ := List.cons_eq_append_iff.mp hall
    · exact stop hplace
    · obtain ⟨spot', hwalk, hspot⟩ := ih htail (view_dropLast hplace)
      exact ⟨spot', .up hwalk, hspot⟩
  | last _ _ hempty =>
    obtain ⟨rfl, -⟩ | ⟨pieces, rfl, rfl⟩ := List.cons_eq_append_iff.mp hall
    · exact stop hplace
    · rw [all_empty_append_eq_false hrest] at hempty
      cases hempty
  | down hblank hup _ hthing _ ih =>
    obtain ⟨rfl, -⟩ | ⟨pieces, rfl, htail⟩ := List.cons_eq_append_iff.mp hall
    · exact stop hplace
    · by_cases hempty : pieces.all (· = []) = true
      · exact ⟨_, .last hblank hup hempty (fun _ target => by simp [hthing]) rfl, hthing⟩
      · obtain ⟨spot', hwalk, hspot⟩ := ih htail hthing
        exact ⟨spot', .down hblank hup hempty hthing hwalk, hspot⟩
  | link hblank hup _ hthing htext hvia _ ih =>
    obtain ⟨rfl, -⟩ | ⟨pieces, rfl, rfl⟩ := List.cons_eq_append_iff.mp hall
    · exact stop hplace
    · -- the link is followed, even if it is the last of the pieces
      obtain ⟨spot', hwalk, hspot⟩ :=
        ih (List.append_assoc _ _ _).symm (view_linkStart hplace _)
      exact ⟨spot', .link hblank hup (fun _ => rfl) hthing htext hvia hwalk, hspot⟩

/-- Above a path that leads somewhere there is a directory. -/
theorem isDirectory_of_parent? {follow : Bool} {p parent : Path} {spot : Spot}
    (h : d.resolve follow p = .ok spot) (hparent : p.parent? = some parent)
    (hne : parent.raw ≠ []) : d.isDirectory parent = true := by
  obtain ⟨habsolute, ps, rest, hpieces, hrest, hparentPieces⟩ :=
    exists_pieces_of_parent? hparent hne
  obtain ⟨-, hnul, hstart, hwalk⟩ := resolve_eq_ok.mp h
  rw [hpieces] at hwalk
  have hnul' : parent.raw.contains 0 = false := by
    rw [List.contains_eq_mem, decide_eq_false_iff_not] at hnul ⊢
    exact notMem_of_parent? hparent (by decide) hnul
  obtain ⟨spot', hwalk', hdirectory⟩ : ∃ spot',
      d.walk true linkBudget (if p.isAbsolute then [] else d.current) parent.pieces = .ok spot' ∧
        d.view spot'.place = some .directory := by
    rcases hparentPieces with hsame | ⟨hroot, rfl⟩
    · rw [hsame]
      obtain ⟨spot', hwalk', hdirectory⟩ :=
        (walk_eq_ok.mp hwalk).exists_of_append hrest rfl hstart
      exact ⟨spot', walk_eq_ok.mpr hwalk', hdirectory⟩
    · rw [hroot]
      exact ⟨.directory _, rfl, hstart⟩
  rw [← habsolute] at hstart hwalk'
  exact isDirectory_iff.mpr ⟨_, directoryPlace_eq_ok.mpr
    ⟨spot', resolve_eq_ok.mpr ⟨hne, hnul', hstart, hwalk'⟩, rfl, hdirectory⟩⟩

/-! ### Making directories -/

theorem Later.of_ensureDirectory {p : Path} (h : d.ensureDirectory p = (d', .ok ()))
    (hlater : Later d d'') (hthere : d''.isDirectory p = true) : Later d' d'' := by
  unfold ensureDirectory at h
  split at h
  case h_2 =>
    obtain ⟨rfl, -⟩ := Prod.mk.inj h
    exact hlater
  case h_1 made hmake =>
    cases h
    obtain ⟨parent, name, slashed, hresolve, hnone, hview⟩ := view_of_makeDirectory hmake
    have hgrown := grown_makeDirectory hmake
    have hold : ∀ place thing, thing ≠ .directory → d'.view place = some thing →
        d.view place = some thing := by
      intro place thing hthing hplace
      rw [hview] at hplace
      by_cases heq : place = parent ++ [name]
      · rw [heq, Function.update_self] at hplace
        exact absurd (Option.some.inj hplace).symm hthing
      · rwa [Function.update_of_ne heq] at hplace
    -- what was made is there on the later disk, since the path leads to the same place
    have hnew : d''.view (parent ++ [name]) = some .directory := by
      obtain ⟨place, hplace⟩ := isDirectory_iff.mp hthere
      obtain ⟨spot, hspot, rfl, hdirectory⟩ := directoryPlace_eq_ok.mp hplace
      obtain ⟨rfl, -⟩ := (resolve_iff_leads.mp hresolve).agree hlater hspot <|
        .inl ⟨rfl, fun _ target hlink => by
          cases hnone.symm.trans (hlater.link (parent ++ [name]) target hlink)⟩
      exact hdirectory
    refine ⟨fun place hplace => ?_, fun place bytes hplace => ?_, fun place target hplace => ?_,
      fun place target hplace => ?_, ?_, ?_⟩
    · rw [hview] at hplace
      by_cases heq : place = parent ++ [name]
      · rw [heq]
        exact hnew
      · rw [Function.update_of_ne heq] at hplace
        exact hlater.directory place hplace
    · exact hlater.file place bytes (hold place _ (by simp) hplace)
    · rcases (Later.of_grown hgrown).gone place target (hlater.link place target hplace) with
        hlink | ⟨bytes, hfile⟩
      · exact hlink
      · cases (hlater.link place target hplace).symm.trans (hold place _ (by simp) hfile)
    · exact hlater.gone place target (hold place _ (by simp) hplace)
    · rw [hlater.current, hgrown.current]
    · rw [hlater.refusal, hgrown.refusal]

/-- A later disk that has a directory is later than the one on which the directory is made. -/
theorem later_of_makeDirectoriesWithin (steps : Nat) {p : Path}
    (h : d.makeDirectoriesWithin steps p = (d', .ok ())) (hlater : Later d d'')
    (hthere : p.raw ≠ [] → d''.isDirectory p = true) : Later d' d'' := by
  induction steps generalizing d' p with
  | zero => cases h
  | succ steps ih =>
    by_cases hp : p.raw = []
    case pos =>
      rw [makeDirectoriesWithin, if_pos hp] at h
      cases h
      exact hlater
    obtain ⟨above, hensure, habove⟩ := makeDirectoriesWithin_succ_ok hp h
    refine .of_ensureDirectory hensure ?_ (hthere hp)
    rcases habove with ⟨rfl, -⟩ | ⟨parent, hparent, hmake⟩
    · exact hlater
    · refine ih hmake fun hne => ?_
      obtain ⟨place, hplace⟩ := isDirectory_iff.mp (hthere hp)
      obtain ⟨spot, hresolve, -⟩ := directoryPlace_eq_ok.mp hplace
      exact isDirectory_of_parent? hresolve hparent hne

/-- A later disk that has the directories is later than one on which they were made. -/
theorem later_of_makeDirectories {p : Path} (h : d.makeDirectories p = (d', .ok ()))
    (hlater : Later d d'') (hthere : d''.isDirectory p = true) : Later d' d'' :=
  later_of_makeDirectoriesWithin _ h hlater fun _ => hthere

/-- The directory of a file is there on a later disk, if the path of the file leads anywhere. -/
theorem Later.isDirectory_directoryOf (hlater : Later d d') {follow : Bool} {file : Path}
    {spot : Spot} (h : d.isDirectory (Project.directoryOf file) = true)
    (hresolve : d'.resolve follow file = .ok spot) :
    d'.isDirectory (Project.directoryOf file) = true := by
  have hhere : d.isDirectory ⟨"."⟩ = true → d'.isDirectory ⟨"."⟩ = true := by
    intro h
    obtain ⟨place, hplace⟩ := isDirectory_iff.mp h
    obtain ⟨spot, hspot, -⟩ := directoryPlace_eq_ok.mp hplace
    have hstart := hlater.directory _ (resolve_iff_leads.mp hspot).start
    rw [← hlater.current] at hstart
    exact isDirectory_iff.mpr ⟨_, directoryPlace_eq_ok.mpr ⟨.directory d'.current,
      resolve_iff_leads.mpr ⟨by decide, by decide, hstart, .blank (by decide) (.done rfl)⟩, rfl,
      hstart⟩⟩
  unfold Project.directoryOf at h ⊢
  cases hparent : file.parent? with
  | none =>
    rw [hparent] at h
    exact hhere h
  | some parent =>
    rw [hparent] at h
    by_cases hempty : parent.raw = []
    · simp only [hempty, if_true] at h ⊢
      exact hhere h
    · simp only [hempty, if_false] at h ⊢
      exact isDirectory_of_parent? hresolve hparent hempty

end DispatchGen.Disk

/-
DispatchGen/Proofs/LinkFreeWalk.lean

Walks on a disk without links.

Without links a path leads where its pieces say: each name goes one directory down
and `..` one up (`place_of_resolve`).  The walk asks no more than that there be
directories on the way, so it ends in the same way on any later disk that has these
directories still (`Keeps`, `resolve_of_keeps`).  Making directories and replacing
files leave a disk that keeps the one before.
-/
import DispatchGen.Proofs.Generation
import DispatchGen.Proofs.LexicalPath

namespace DispatchGen.Disk

open DispatchGen.Path

/-- A disk on which no place holds a link. -/
def LinkFree (d : Disk) : Prop := ∀ place target, d.view place ≠ some (.link target)

/-! ### Where a path leads -/

/-- The place that a step leads to. -/
def Place.step (place : Place) : Component → Place
  | .root => []
  | .here => place
  | .up => place.dropLast
  | .normal name => place ++ [name]

/-- The place that steps lead to, one after another. -/
def Place.follow (place : Place) (steps : List Component) : Place := steps.foldl Place.step place

theorem Place.follow_append (place : Place) (ss ts : List Component) :
    place.follow (ss ++ ts) = (place.follow ss).follow ts := List.foldl_append

theorem Place.follow_normal (place names : Place) :
    place.follow (names.map .normal) = place ++ names := by
  induction names generalizing place with
  | nil => exact (List.append_nil place).symm
  | cons name names ih =>
    rw [List.map_cons, Place.follow, List.foldl_cons, ← Place.follow, ih, Place.step,
      List.append_assoc]
    rfl

variable {d d' d'' : Disk}

theorem steps_of_all_empty {rest : List OsText} (h : rest.all (· = []) = true) :
    rest.filterMap component? = [] := by
  refine List.filterMap_eq_nil_iff.mpr fun piece hpiece => ?_
  have hempty : piece = [] := by simpa using List.all_eq_true.mp h piece hpiece
  rw [hempty]
  rfl

/-- Each rule of a walk without links takes the step that its piece is, if it is one. -/
theorem Walks.place (hfree : d.LinkFree) {via : Place → Prop} {follow : Bool} {spot : Spot}
    {links : Nat} {place : Place} {pieces : List OsText}
    (h : Walks d via follow spot links place pieces) :
    spot.place = place.follow (pieces.filterMap component?) := by
  have normal : ∀ {piece : OsText}, ¬ isBlank piece = true → piece ≠ upName →
      component? piece = some (.normal piece) := by
    intro piece hblank hup
    rw [component?, if_neg hblank, if_neg hup]
  induction h with
  | done hspot =>
    rw [hspot]
    rfl
  | blank hblank _ ih => rw [List.filterMap_cons, component?_of_blank hblank, ih]
  | up _ ih =>
    rw [List.filterMap_cons, show component? upName = some .up from rfl, ih]
    rfl
  | last hblank hup hrest _ hspot =>
    rw [List.filterMap_cons, normal hblank hup, steps_of_all_empty hrest, hspot]
    rfl
  | down hblank hup _ _ _ ih =>
    rw [List.filterMap_cons, normal hblank hup, ih]
    rfl
  | link _ _ _ hthing _ _ _ _ => exact absurd hthing (hfree _ _)

/-- Where a path leads is told by its components. -/
theorem place_of_resolve (hfree : d.LinkFree) {follow : Bool} {p : Path} {spot : Spot}
    (h : d.resolve follow p = .ok spot) : spot.place = Place.follow d.current p.components := by
  obtain ⟨-, -, -, hwalk⟩ := resolve_eq_ok.mp h
  have hplace : spot.place = Place.follow (if p.isAbsolute then [] else d.current) p.steps := by
    exact (walk_eq_ok.mp hwalk).place hfree
  rw [hplace, components_eq, opening, Place.follow_append]
  split
  · rfl
  · split <;> rfl

/-! ### Disks that keep their directories -/

/-- Two disks without links, of which the second has the directories of the first,
and the system treats both alike. -/
structure Keeps (d d' : Disk) : Prop where
  directory : ∀ place, d.view place = some .directory → d'.view place = some .directory
  linkFree : d.LinkFree
  linkFree' : d'.LinkFree
  current : d'.current = d.current
  refusal : d'.refusal = d.refusal

namespace Keeps

theorem refl (h : d.LinkFree) : Keeps d d := ⟨fun _ h => h, h, h, rfl, rfl⟩

theorem trans (h : Keeps d d') (h' : Keeps d' d'') : Keeps d d'' where
  directory place hplace := h'.directory place (h.directory place hplace)
  linkFree := h.linkFree
  linkFree' := h'.linkFree'
  current := h'.current.trans h.current
  refusal := h'.refusal.trans h.refusal

/-- What was only added to keeps its directories. -/
theorem of_grown (hfree : d.LinkFree) (h : Grown d d') : Keeps d d' where
  directory place hplace := by
    rcases h.view place with hsame | ⟨hnone, hnew⟩
    · rw [hsame, hplace]
    · exact hnew
  linkFree := hfree
  linkFree' place target := by
    rcases h.view place with hsame | ⟨hnone, hnew⟩
    · rw [hsame]
      exact hfree place target
    · rw [hnew]
      exact fun h => by cases h
  current := h.current
  refusal := h.refusal

/-- A file that is replaced is no directory, so the directories are kept. -/
theorem of_replaced (hfree : d.LinkFree) {out : Place} {bytes : ByteArray}
    (hout : d.view out ≠ some .directory) (h : Replaced out bytes d d') : Keeps d d' where
  directory place hplace := by
    have hne : place ≠ out := fun heq => hout (heq ▸ hplace)
    rw [h.view, Function.update_of_ne hne, hplace]
  linkFree := hfree
  linkFree' place target := by
    rw [h.view]
    by_cases heq : place = out
    · rw [heq, Function.update_self]
      exact fun h => by cases h
    · rw [Function.update_of_ne heq]
      exact hfree place target
  current := h.current
  refusal := h.refusal

/-- A walk without links asks for directories only, so it ends in the same way. -/
theorem walks (h : Keeps d d') {via : Place → Prop} {follow follow' : Bool} {spot : Spot}
    {links : Nat} {place : Place} {pieces : List OsText}
    (hwalk : Walks d via follow spot links place pieces) :
    Walks d' via follow' spot links place pieces := by
  induction hwalk with
  | done hspot => exact .done hspot
  | blank hblank _ ih => exact .blank hblank ih
  | up _ ih => exact .up ih
  | last hblank hup hrest _ hspot =>
    exact .last hblank hup hrest (fun _ target => h.linkFree' _ target) hspot
  | down hblank hup hrest hthing _ ih =>
    exact .down hblank hup hrest (h.directory _ hthing) ih
  | link _ _ _ hthing _ _ _ _ => exact absurd hthing (h.linkFree _ _)

/-- A path that leads somewhere leads there still; there is no link to follow. -/
theorem resolve (h : Keeps d d') {follow follow' : Bool} {p : Path} {spot : Spot}
    (hresolve : d.resolve follow p = .ok spot) : d'.resolve follow' p = .ok spot := by
  obtain ⟨hempty, hnul, hstart, hwalk⟩ := resolve_eq_ok.mp hresolve
  rw [← h.current] at hstart hwalk
  exact resolve_eq_ok.mpr ⟨hempty, hnul, h.directory _ hstart,
    walk_eq_ok.mpr (h.walks (walk_eq_ok.mp hwalk))⟩

end Keeps

/-! ### What a path leads to -/

/-- The listing of a directory is the one at the place that its path leads to. -/
theorem get?_of_directory? (hfree : d.LinkFree) {p : Path} {entries : List (OsText × Entry)}
    (h : d.directory? p = some entries) :
    d.get? (Place.follow d.current p.components) = some (.directory entries) := by
  obtain ⟨spot, hresolve, hget⟩ := directory?_eq_some.mp h
  rw [← place_of_resolve hfree hresolve]
  exact hget

namespace Keeps

theorem directory? (h : Keeps d d') {p : Path} {entries : List (OsText × Entry)}
    (hdirectory : d.directory? p = some entries) : ∃ entries', d'.directory? p = some entries' := by
  obtain ⟨spot, hresolve, hget⟩ := directory?_eq_some.mp hdirectory
  obtain ⟨entries', hget'⟩ := view_eq_directory.mp
    (h.directory _ (view_eq_directory.mpr ⟨entries, hget⟩))
  exact ⟨entries', directory?_eq_some.mpr ⟨spot, h.resolve hresolve, hget'⟩⟩

theorem isDirectory (h : Keeps d d') {p : Path} (hdirectory : d.isDirectory p = true) :
    d'.isDirectory p = true := by
  obtain ⟨entries, hentries⟩ := Option.isSome_iff_exists.mp hdirectory
  exact Option.isSome_iff_exists.mpr (h.directory? hentries)

/-- A text can be read still, if what its path leads to is the same. -/
theorem readText (h : Keeps d d') {p : Path} {text : String} (hread : d.readText p = .ok text)
    (hsame : d'.view (Place.follow d.current p.components)
      = d.view (Place.follow d.current p.components)) : d'.readText p = .ok text := by
  obtain ⟨hallow, hstatus⟩ := readText_iff.mp hread
  obtain ⟨parent, name, hresolve, hfile⟩ := status_eq_file.mp hstatus
  have hplace : parent ++ [name] = Place.follow d.current p.components :=
    place_of_resolve h.linkFree hresolve
  rw [← hplace, view_eq_file.mpr hfile, view_eq_file] at hsame
  exact readText_iff.mpr
    ⟨h.refusal ▸ hallow, status_eq_file.mpr ⟨parent, name, h.resolve hresolve, hsame⟩⟩

end Keeps

end DispatchGen.Disk

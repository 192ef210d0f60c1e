/-
DispatchGen/Proofs/Replacement.lean

Replacing a file changes one place or none.

Each step of a replacement succeeds under conditions of its own and then does one
thing (`createTemporary_eq_ok`, `writeTemporary_eq_ok`, `persist_eq_ok`); all that
is said of a replacement follows from these.

While a replacement is under way the disk differs from the one before by the
temporary file only (`WithTemporary`), whichever step it is at.  Giving up takes
that file away again, so nothing is left (`replaceFile_of_error`).  Renaming takes
it away too and puts the new contents where the path leads, which the temporary
file has no influence on (`replaceFile_of_ok`).
-/
import DispatchGen.Disk.Replace
import DispatchGen.Proofs.DiskWalk
import DispatchGen.Proofs.Results

namespace DispatchGen.Disk

variable {d d' : Disk}

/-- Nothing tells the disks apart. -/
structure Alike (d d' : Disk) : Prop where
  view : d'.view = d.view
  current : d'.current = d.current
  refusal : d'.refusal = d.refusal

/-- `d'` is `d` with a file at a place. -/
structure Replaced (out : Place) (bytes : ByteArray) (d d' : Disk) : Prop where
  view : d'.view = Function.update d.view out (some (.file bytes))
  current : d'.current = d.current
  refusal : d'.refusal = d.refusal

/-! ### What each step does -/

variable {directory p : Path} {parent : Place} {name : OsText} {bytes : ByteArray}

theorem createTemporary_eq_ok :
    d.createTemporary directory = .ok (d', parent, name) ↔
      d.refusal (.createTemporary directory) = none ∧ d.directoryPlace directory = .ok parent ∧
        ∃ entries, d.get? parent = some (.directory entries) ∧ freshName? entries = some name ∧
          d' = d.put parent name (.file .empty) := by
  simp only [createTemporary, bind_eq_ok, allow_eq_ok]
  constructor
  · rintro ⟨-, hallow, place, hplace, h⟩
    split at h
    case h_1 entries hentries =>
      split at h
      case h_1 hfresh =>
        cases h
        exact ⟨hallow, hplace, entries, hentries, hfresh, rfl⟩
      case h_2 => cases h
    case h_2 => cases h
  · rintro ⟨hallow, hplace, entries, hentries, hfresh, rfl⟩
    refine ⟨(), hallow, parent, hplace, ?_⟩
    rw [hentries]
    simp only [hfresh]
    rfl

theorem writeTemporary_eq_ok :
    d.writeTemporary p parent name bytes = .ok d' ↔
      d.refusal (.writeTemporary p) = none ∧ d' = d.put parent name (.file bytes) := by
  simp only [writeTemporary, bind_eq_ok, pure_eq_ok, allow_eq_ok]
  constructor
  · rintro ⟨-, hallow, rfl⟩
    exact ⟨hallow, rfl⟩
  · rintro ⟨hallow, rfl⟩
    exact ⟨(), hallow, rfl⟩

theorem persist_eq_ok :
    d.persist p parent name bytes = .ok d' ↔
      d.refusal (.persist p) = none ∧ ∃ parent' name',
        d.resolve false p = .ok (.entry parent' name' false) ∧
        d.view (parent' ++ [name']) ≠ some .directory ∧
        d' = (d.erase parent name).put parent' name' (.file bytes) := by
  simp only [Disk.persist, bind_eq_ok, allow_eq_ok]
  constructor
  · rintro ⟨-, hallow, spot, hspot, h⟩
    split at h
    case h_1 => cases h
    case h_2 => cases h
    case h_3 parent' name' =>
      split at h
      case h_1 => cases h
      case h_2 hnot =>
        cases h
        refine ⟨hallow, parent', name', hspot, fun hdirectory => ?_, rfl⟩
        obtain ⟨entries, hentries⟩ := view_eq_directory.mp hdirectory
        exact hnot entries hentries
  · rintro ⟨hallow, parent', name', hspot, hnot, rfl⟩
    refine ⟨(), hallow, _, hspot, ?_⟩
    -- a file or a link in the way is replaced
    cases hget : d.get? (parent' ++ [name']) with
    | none => simp only [hget]; rfl
    | some e =>
      cases e with
      | directory entries => exact absurd (view_eq_directory.mpr ⟨entries, hget⟩) hnot
      | file _ => simp only [hget]; rfl
      | link _ => simp only [hget]; rfl

/-- A replacement succeeds if each of its steps does. -/
theorem replaceFile_eq_ok :
    d.replaceFile directory p bytes = (d', .ok ()) ↔
      ∃ created parent name written,
        d.createTemporary directory = .ok (created, parent, name) ∧
        created.writeTemporary p parent name bytes = .ok written ∧
        written.refusal (.flushTemporary p) = none ∧
        written.persist p parent name bytes = .ok d' := by
  unfold replaceFile
  constructor
  · intro h
    split at h
    case h_1 => cases h
    case h_2 created parent name hcreate =>
      split at h
      case h_1 => cases h
      case h_2 written hwrite =>
        split at h
        case h_1 => cases h
        case h_2 hflush =>
          split at h
          case h_1 => cases h
          case h_2 hpersist =>
            cases h
            exact ⟨created, parent, name, written, hcreate, hwrite, allow_eq_ok.mp hflush,
              hpersist⟩
  · rintro ⟨created, parent, name, written, hcreate, hwrite, hflush, hpersist⟩
    have hallow : written.allow (.flushTemporary p) = .ok () := allow_eq_ok.mpr hflush
    simp only [hcreate, hwrite, hallow, hpersist]

/-! ### The temporary file -/

/-- `d'` is `d` with a file under a name that stood for nothing. -/
structure WithTemporary (parent : Place) (name : OsText) (d d' : Disk) : Prop where
  directory : d.view parent = some .directory
  fresh : d.view (parent ++ [name]) = none
  file : ∃ bytes, Replaced (parent ++ [name]) bytes d d'

theorem find?_of_freshName? {entries : List (OsText × Entry)}
    (h : freshName? entries = some name) : find? name entries = none := by
  simpa using List.find?_some h

theorem createTemporary_of_ok (h : d.createTemporary directory = .ok (d', parent, name)) :
    WithTemporary parent name d d' := by
  obtain ⟨-, -, entries, hentries, hfresh, rfl⟩ := createTemporary_eq_ok.mp h
  have hparent : d.view parent = some .directory := view_eq_directory.mpr ⟨entries, hentries⟩
  have hnone : d.view (parent ++ [name]) = none := by
    rw [view, Entry.view_append hentries, Entry.view_directory_cons, find?_of_freshName? hfresh]
    rfl
  refine ⟨hparent, hnone, .empty, ?_, current_put _ _ _ _, refusal_put _ _ _ _⟩
  exact view_put hparent (by rw [hnone]; exact fun h => by cases h) (Entry.bare_file _)

namespace WithTemporary

theorem view_self (h : WithTemporary parent name d d') :
    ∃ bytes, d'.view (parent ++ [name]) = some (.file bytes) := by
  obtain ⟨bytes, hfile⟩ := h.file
  exact ⟨bytes, by rw [hfile.view, Function.update_self]⟩

theorem view_of_ne (h : WithTemporary parent name d d') {place : Place}
    (hne : place ≠ parent ++ [name]) : d'.view place = d.view place := by
  obtain ⟨bytes, hfile⟩ := h.file
  rw [hfile.view, Function.update_of_ne hne]

theorem view_parent (h : WithTemporary parent name d d') : d'.view parent = some .directory := by
  rw [h.view_of_ne (by simp), h.directory]

theorem not_directory (h : WithTemporary parent name d d') :
    d'.view (parent ++ [name]) ≠ some .directory := by
  obtain ⟨bytes, hself⟩ := h.view_self
  rw [hself]
  exact fun h => by cases h

/-- Writing to the temporary file changes nothing else. -/
theorem put (h : WithTemporary parent name d d') (bytes : ByteArray) :
    WithTemporary parent name d (d'.put parent name (.file bytes)) := by
  obtain ⟨old, hfile⟩ := h.file
  refine ⟨h.directory, h.fresh, bytes, ?_, ?_, ?_⟩
  · rw [view_put h.view_parent h.not_directory (Entry.bare_file bytes), hfile.view,
      Function.update_idem]
    rfl
  · rw [current_put, hfile.current]
  · rw [refusal_put, hfile.refusal]

/-- Without its temporary file the disk is as it was. -/
theorem erase (h : WithTemporary parent name d d') : Alike d (d'.erase parent name) := by
  obtain ⟨bytes, hfile⟩ := h.file
  refine ⟨?_, ?_, ?_⟩
  · rw [view_erase h.view_parent h.not_directory, hfile.view, Function.update_idem, ← h.fresh,
      Function.update_eq_self]
  · rw [current_erase, hfile.current]
  · rw [refusal_erase, hfile.refusal]

theorem sameBut (h : WithTemporary parent name d d') : SameBut (parent ++ [name]) d' d where
  view place hne := (h.view_of_ne hne).symm
  solid := by
    obtain ⟨bytes, hself⟩ := h.view_self
    rw [hself]
    trivial
  solid' := by
    rw [h.fresh]
    trivial
  current := by
    obtain ⟨bytes, hfile⟩ := h.file
    exact hfile.current.symm

/-- Where a rename succeeds, the file is where the path led before. -/
theorem persist {d'' : Disk} (h : WithTemporary parent name d d')
    (hpersist : d'.persist p parent name bytes = .ok d'') :
    ∃ parent' name', d.resolve false p = .ok (.entry parent' name' false) ∧
      d.view (parent' ++ [name']) ≠ some .directory ∧
      Replaced (parent' ++ [name']) bytes d d'' := by
  obtain ⟨-, parent', name', hspot, hfile, rfl⟩ := persist_eq_ok.mp hpersist
  have hbase : d'.view parent' = some .directory := view_base_of_resolve hspot
  -- the new file is not to go below the temporary one
  have hne : parent' ≠ parent ++ [name] := by
    rintro rfl
    exact h.not_directory hbase
  rw [h.view_of_ne hne] at hbase
  have hold : d.view (parent' ++ [name']) ≠ some .directory := by
    intro hdirectory
    have hsame : parent' ++ [name'] ≠ parent ++ [name] := by
      intro hout
      rw [hout, h.fresh] at hdirectory
      cases hdirectory
    rw [← h.view_of_ne hsame] at hdirectory
    exact hfile hdirectory
  have herased := h.erase
  refine ⟨parent', name', resolve_of_sameBut h.sameBut (fun h => by cases h) hspot, hold,
    ?_, ?_, ?_⟩
  · rw [view_put (by rw [herased.view]; exact hbase) (by rw [herased.view]; exact hold)
      (Entry.bare_file bytes), herased.view]
    rfl
  · rw [current_put, herased.current]
  · rw [refusal_put, herased.refusal]

end WithTemporary

/-! ### The replacement -/

/-- A replacement that fails leaves the disk as it was. -/
theorem replaceFile_of_error {e : ReplaceStep × Fault}
    (h : d.replaceFile directory p bytes = (d', .error e)) : Alike d d' := by
  unfold replaceFile at h
  split at h
  case h_1 =>
    cases h
    exact ⟨rfl, rfl, rfl⟩
  case h_2 created parent name hcreate =>
    -- from here on each failure takes the temporary file away
    have hcreated := createTemporary_of_ok hcreate
    split at h
    case h_1 =>
      cases h
      exact hcreated.erase
    case h_2 written hwrite =>
      have hwritten := hcreated.put bytes
      rw [← (writeTemporary_eq_ok.mp hwrite).2] at hwritten
      split at h
      case h_1 =>
        cases h
        exact hwritten.erase
      case h_2 =>
        split at h
        case h_1 =>
          cases h
          exact hwritten.erase
        case h_2 => cases h

/-- A replacement that succeeds puts the file where the path leads, and changes
nothing else. -/
theorem replaceFile_of_ok (h : d.replaceFile directory p bytes = (d', .ok ())) :
    ∃ parent name, d.resolve false p = .ok (.entry parent name false) ∧
      d.view (parent ++ [name]) ≠ some .directory ∧ Replaced (parent ++ [name]) bytes d d' := by
  obtain ⟨created, parent, name, written, hcreate, hwrite, -, hpersist⟩ :=
    replaceFile_eq_ok.mp h
  have hwritten := (createTemporary_of_ok hcreate).put bytes
  rw [← (writeTemporary_eq_ok.mp hwrite).2] at hwritten
  exact hwritten.persist hpersist

end DispatchGen.Disk

/-
DispatchGen/Proofs/BelowDirectory.lean

What a path leads to below a directory without links.

There a walk goes down from listing to listing, so what it comes to is told by the listing of
the directory and the pieces of the path (`Entry.follow`), and not by where the directory is.
The path to the directory itself may go through links and up again: once it has led to the
directory, a path that is joined to it goes on from there (`status_join`).
-/
import DispatchGen.Proofs.DiskNames

namespace DispatchGen.Disk

open DispatchGen.Path DispatchGen.Project

variable {d : Disk} {entries : List (OsText × Entry)} {place : Place}

/-- What pieces without `..` lead to from an entry without links below it. -/
def Entry.follow : Entry → List OsText → Except Fault Entry
  | e, [] => .ok e
  | .directory entries, piece :: rest =>
      if isBlank piece then follow (.directory entries) rest
      else
        match find? piece entries with
        | none => .error .notFound
        | some e => e.follow rest
  | _, _ :: _ => .error .notADirectory

theorem Entry.follow_of_all_empty {pieces : List OsText} (h : pieces.all (· = []) = true) :
    (Entry.directory entries).follow pieces = .ok (.directory entries) := by
  induction pieces with
  | nil => rfl
  | cons piece pieces ih =>
    rw [List.all_cons, Bool.and_eq_true, decide_eq_true_eq] at h
    obtain ⟨rfl, h⟩ := h
    rw [follow, if_pos (by decide)]
    exact ih h

/-- The entry at the end of a walk. -/
def entryAt (d : Disk) : Spot → Except Fault Entry
  | .directory place =>
      match d.get? place with
      | some e => .ok e
      | none => .error .notFound
  | .entry parent name slashed =>
      match d.get? (parent ++ [name]) with
      | some (.file bytes) => if slashed then .error .notADirectory else .ok (.file bytes)
      | some e => .ok e
      | none => .error .notFound

theorem status_eq (d : Disk) (p : Path) : d.status p = (d.resolve true p).bind d.entryAt := by
  rw [status]
  cases d.resolve true p with
  | error fault => rfl
  | ok spot => cases spot <;> rfl

theorem entryAt_of_directory {spot : Spot} (h : d.get? spot.place = some (.directory entries)) :
    d.entryAt spot = .ok (.directory entries) := by
  cases spot with
  | directory place =>
    rw [Spot.place] at h
    rw [entryAt, h]
  | entry parent name slashed =>
    rw [Spot.place] at h
    rw [entryAt, h]

theorem isPlain_of_find? (hplain : isPlainListing entries = true) {name : OsText} {e : Entry}
    (h : find? name entries = some e) : isPlain e = true := by
  have hget : (Entry.directory entries).get? [name] = some e := by
    rw [Entry.get?, h]
    rfl
  exact (isPlain_of_get? (e := .directory entries) hplain hget).1

/-- What is found below a plain entry is plain. -/
theorem isPlain_of_follow {e e' : Entry} {pieces : List OsText} (hplain : isPlain e = true)
    (h : e.follow pieces = .ok e') : isPlain e' = true := by
  fun_induction Entry.follow e pieces with
  | case1 e =>
    cases h
    exact hplain
  | case2 entries piece rest _ ih => exact ih hplain h
  | case3 => cases h
  | case4 entries piece rest _ e hfind ih => exact ih (isPlain_of_find? hplain hfind) h
  | case5 => cases h

/-! ### Walks below a directory -/

theorem get?_concat (hget : d.get? place = some (.directory entries)) (name : OsText) :
    d.get? (place ++ [name]) = find? name entries := by
  rw [Disk.get?, Entry.get?_append hget, Entry.get?]
  cases find? name entries <;> rfl

/-- A walk below a directory follows the listings. -/
theorem walk_below {links : Nat} {pieces : List OsText}
    (hget : d.get? place = some (.directory entries)) (hplain : isPlainListing entries = true)
    (hup : Path.upName ∉ pieces) :
    (d.walk true links place pieces).bind d.entryAt = (Entry.directory entries).follow pieces := by
  induction pieces generalizing place entries with
  | nil =>
    have hplace : d.get? (Spot.directory place).place = some (.directory entries) := hget
    rw [walk_nil]
    exact entryAt_of_directory hplace
  | cons piece rest ih =>
    rw [List.mem_cons, not_or] at hup
    obtain ⟨hpiece, hrest⟩ := hup
    rw [walk_cons, Entry.follow]
    split
    case isTrue => exact ih hget hplain hrest
    case isFalse =>
      rw [if_neg (Ne.symm hpiece)]
      simp only [view_eq, get?_concat hget]
      cases hfind : find? piece entries with
      | none =>
        dsimp only [Option.map_none]
        split
        · change d.entryAt (.entry place piece _) = _
          rw [entryAt, get?_concat hget, hfind]
        · rfl
      | some e =>
        have hbelow := isPlain_of_find? hplain hfind
        cases e with
        | link target => cases hbelow
        | file bytes =>
          dsimp only [Option.map_some, Entry.thing]
          split
          · change d.entryAt (.entry place piece _) = _
            rw [entryAt, get?_concat hget, hfind]
            cases rest <;> rfl
          case isFalse hmore =>
            cases rest with
            | nil => exact absurd rfl hmore
            | cons x xs => rfl
        | directory es =>
          dsimp only [Option.map_some, Entry.thing]
          split
          case isTrue hlast =>
            change d.entryAt (.entry place piece _) = _
            rw [entryAt, get?_concat hget, hfind, Entry.follow_of_all_empty hlast]
          case isFalse => exact ih ((get?_concat hget piece).trans hfind) hbelow hrest

/-- A slash after a path that leads to a directory makes no difference. -/
theorem Walks.slash {via : Place → Prop} {spot : Spot} {links : Nat} {place : Place}
    {pieces : List OsText} (h : Walks d via true spot links place pieces) :
    ∃ spot', Walks d via true spot' links place (pieces ++ [[]]) ∧ spot'.place = spot.place := by
  have hall : ∀ rest : List OsText, (rest ++ [[]]).all (· = []) = rest.all (· = []) := by simp
  induction h with
  | done hend => exact ⟨spot, .blank (by decide) (.done hend), rfl⟩
  | blank hblank _ ih =>
    obtain ⟨spot', hwalk, hsame⟩ := ih
    exact ⟨spot', .blank hblank hwalk, hsame⟩
  | up _ ih =>
    obtain ⟨spot', hwalk, hsame⟩ := ih
    exact ⟨spot', .up hwalk, hsame⟩
  | last hblank hup hrest hlink hend =>
    exact ⟨_, .last hblank hup ((hall _).trans hrest) hlink rfl, by rw [hend]; rfl⟩
  | down hblank hup hrest hthing _ ih =>
    obtain ⟨spot', hwalk, hsame⟩ := ih
    exact ⟨spot', .down hblank hup ((hall _).symm ▸ hrest) hthing hwalk, hsame⟩
  | link hblank hup _ hthing htext hvia _ ih =>
    obtain ⟨spot', hwalk, hsame⟩ := ih
    rw [List.append_assoc] at hwalk
    exact ⟨spot', .link hblank hup (fun _ => rfl) hthing htext hvia hwalk, hsame⟩

/-! ### Paths below a directory -/

/-- A path that is joined to that of a directory leads on from the directory. -/
theorem status_join {root p : Path} (hroot : d.directory? root = some entries)
    (hplain : isPlainListing entries = true) (hp : p.Descends) :
    d.status (root.join p)
      = if p.raw.contains 0 then .error .invalidPath
        else (Entry.directory entries).follow p.pieces := by
  obtain ⟨spot, hresolve, hspot⟩ := directory?_eq_some.mp hroot
  obtain ⟨hempty, hnul, hstart, hwalk⟩ := resolve_eq_ok.mp hresolve
  obtain ⟨start, hstart⟩ := view_eq_directory.mp hstart
  have hview : d.view spot.place = some .directory := view_eq_directory.mpr ⟨entries, hspot⟩
  have hnul' : (root.join p).raw.contains 0 = p.raw.contains 0 := by
    have hslash : (0 : UInt8) ≠ slash := by decide
    simp only [List.contains_eq_mem, decide_eq_false_iff_not] at hnul
    simp [List.contains_eq_mem, mem_join hempty hp.relative hslash, hnul]
  obtain ⟨ps, hjoin, hps, -⟩ := exists_pieces_join hempty hp.relative
  rw [status_eq, resolve, if_neg (join_raw_ne hempty hp.relative), hnul',
    isAbsolute_join hempty hp.relative, hjoin]
  split
  case isTrue => rfl
  case isFalse =>
    simp only [hstart]
    have hwalk := walk_eq_ok.mp hwalk
    by_cases hblank : ∃ piece ∈ p.pieces, piece ≠ []
    case pos =>
      obtain ⟨left, hleft⟩ := hwalk.append true hblank hview hps
      rw [hleft]
      exact walk_below hspot hplain hp.notMem_pieces
    case neg =>
      have htext : p.raw = [] := raw_of_empty_pieces hp.relative (by simpa using hblank)
      obtain ⟨raw⟩ := p
      cases htext
      -- the joined path is the path to the directory, or that with a slash after it
      obtain ⟨spot', hwalk', hsame⟩ : ∃ spot', d.walk true linkBudget
          (if root.isAbsolute then [] else d.current) (ps ++ [[]]) = .ok spot' ∧
          spot'.place = spot.place := by
        rcases hps with hps | hps
        · obtain ⟨spot', hwalk', hsame⟩ := hwalk.slash
          exact ⟨spot', hps ▸ walk_eq_ok.mpr hwalk', hsame⟩
        · exact ⟨spot, walk_eq_ok.mpr (hps ▸ hwalk), rfl⟩
      change (d.walk true linkBudget _ (ps ++ [[]])).bind d.entryAt = _
      rw [hwalk']
      exact entryAt_of_directory (hsame ▸ hspot)

/-- There are no links below a directory without links. -/
theorem isPlainListing_of_directory? {root p : Path} {below : List (OsText × Entry)}
    (hroot : d.directory? root = some entries) (hplain : isPlainListing entries = true)
    (hp : p.Descends) (h : d.directory? (root.join p) = some below) :
    isPlainListing below = true := by
  have hstatus : d.status (root.join p) = .ok (.directory below) := by
    unfold directory? at h
    split at h
    case h_1 entries hstatus => rw [hstatus, Option.some.inj h]
    case h_2 => cases h
  rw [status_join hroot hplain hp] at hstatus
  split at hstatus
  case isTrue => cases hstatus
  case isFalse => exact isPlain_of_follow (e := .directory entries) hplain hstatus

end DispatchGen.Disk

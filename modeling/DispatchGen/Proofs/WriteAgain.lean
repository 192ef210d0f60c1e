/-
DispatchGen/Proofs/WriteAgain.lean

When a write succeeds, and that it does so again.

Replacing a file needs no more than leave to take its four steps, a directory to
put the temporary file in, and a path that leads to no directory
(`exists_replaceFile_iff`); there is always a name left for the temporary file.
Making directories succeeds and changes nothing where they are there already.

All of this lasts on a disk that keeps the directories (`Keeps`), so what could be
written once can be written again, and the second write finds every directory made
(`writeOutput_again`).
-/
import DispatchGen.Proofs.LinkFreeWalk
import Mathlib.Data.List.Nodup
import Mathlib.Data.List.Perm.Subperm

namespace DispatchGen.Disk

variable {d d₁ d' : Disk}

/-! ### Temporary names -/

theorem temporaryName_injective : Function.Injective temporaryName := by
  intro m n h
  have htext : toString m = toString n := OsText.ofText_injective (List.append_cancel_left h)
  have hdigits : Nat.toDigits 10 m = Nat.toDigits 10 n :=
    String.ofList_injective htext
  rw [← Nat.ofDigitChars_ten_toDigits (n := m), hdigits, Nat.ofDigitChars_ten_toDigits]

/-- There are more temporary names than entries, so one of them is free. -/
theorem exists_freshName (entries : List (OsText × Entry)) :
    ∃ name, freshName? entries = some name := by
  refine Option.isSome_iff_exists.mp (List.find?_isSome.mpr ?_)
  by_contra hnone
  -- all names that are tried are taken, so there are as many entries
  let names := (List.range (entries.length + 1)).map temporaryName
  have hnodup : names.Nodup :=
    (List.nodup_map_iff temporaryName_injective).mpr List.nodup_range
  have htaken : names ⊆ entries.map (·.1) := by
    intro name hname
    by_contra hfree
    refine hnone ⟨name, hname, ?_⟩
    rw [Option.isNone_iff_eq_none, find?, Option.map_eq_none_iff, List.find?_eq_none]
    intro entry hentry heq
    have heq : entry.1 = name := by simpa using heq
    exact hfree (List.mem_map.mpr ⟨entry, hentry, heq⟩)
  have hlength := (List.subperm_of_subset hnodup htaken).length_le
  simp only [names, List.length_map, List.length_range] at hlength
  omega

/-! ### When a replacement succeeds -/

theorem directoryPlace_eq_ok {p : Path} {place : Place} :
    d.directoryPlace p = .ok place ↔
      ∃ spot, d.resolve true p = .ok spot ∧ spot.place = place ∧
        d.view place = some .directory := by
  cases hresolve : d.resolve true p with
  | error fault => simp [directoryPlace, hresolve, bind, Except.bind]
  | ok spot =>
    simp only [Except.ok.injEq, exists_eq_left', view_eq_directory]
    cases spot <;>
    · simp only [directoryPlace, hresolve, bind, Except.bind, Spot.place]
      split
      case h_1 entries hget =>
        refine ⟨fun h => ?_, fun h => congrArg Except.ok h.1⟩
        cases h
        exact ⟨rfl, entries, hget⟩
      case h_2 found hother hget =>
        refine ⟨fun h => (by cases h), ?_⟩
        rintro ⟨rfl, entries, hdirectory⟩
        exact (hother entries (Option.some.inj (hget.symm.trans hdirectory))).elim
      case h_3 hget =>
        refine ⟨fun h => (by cases h), ?_⟩
        rintro ⟨rfl, entries, hdirectory⟩
        cases hget.symm.trans hdirectory

/-- What it takes to replace the file `p` by way of a file in `directory`. -/
structure Replaceable (d : Disk) (directory p : Path) : Prop where
  create : d.refusal (.createTemporary directory) = none
  write : d.refusal (.writeTemporary p) = none
  flush : d.refusal (.flushTemporary p) = none
  rename : d.refusal (.persist p) = none
  directory : ∃ place, d.directoryPlace directory = .ok place
  target : ∃ parent name, d.resolve false p = .ok (.entry parent name false) ∧
    d.view (parent ++ [name]) ≠ some .directory

theorem SameBut.symm {out : Place} (h : SameBut out d d') : SameBut out d' d where
  view place hne := (h.view place hne).symm
  solid := h.solid'
  solid' := h.solid
  current := h.current.symm

/-- The rename succeeds whatever the temporary file is called. -/
theorem WithTemporary.exists_persist {parent : Place} {name : OsText} {directory p : Path}
    {bytes : ByteArray} (h : WithTemporary parent name d d') (hp : Replaceable d directory p)
    (hrefusal : d'.refusal = d.refusal) : ∃ d'', d'.persist p parent name bytes = .ok d'' := by
  obtain ⟨parent', name', hresolve, htarget⟩ := hp.target
  -- no path leads through the temporary file, though it may lead to it
  have hresolve' : d'.resolve false p = .ok (.entry parent' name' false) :=
    resolve_of_sameBut h.sameBut.symm (fun h => by cases h) hresolve
  have htarget' : d'.view (parent' ++ [name']) ≠ some .directory := by
    by_cases hsame : parent' ++ [name'] = parent ++ [name]
    · rw [hsame]
      exact h.not_directory
    · rw [h.view_of_ne hsame]
      exact htarget
  exact ⟨_, persist_eq_ok.mpr
    ⟨hrefusal ▸ hp.rename, parent', name', hresolve', htarget', rfl⟩⟩

/-- A file can be replaced exactly if each step is allowed, the directory is there
and the path leads to no directory. -/
theorem exists_replaceFile_iff {directory p : Path} {bytes : ByteArray} :
    (∃ d', d.replaceFile directory p bytes = (d', .ok ())) ↔ Replaceable d directory p := by
  constructor
  · rintro ⟨d', h⟩
    obtain ⟨parent', name', hresolve, hnot, -⟩ := replaceFile_of_ok h
    obtain ⟨created, parent, name, written, hcreate, hwrite, hflush, hpersist⟩ :=
      replaceFile_eq_ok.mp h
    obtain ⟨hcreateAllowed, hplace, _, -, -, rfl⟩ := createTemporary_eq_ok.mp hcreate
    obtain ⟨hwriteAllowed, rfl⟩ := writeTemporary_eq_ok.mp hwrite
    obtain ⟨hrenameAllowed, -⟩ := persist_eq_ok.mp hpersist
    rw [refusal_put] at hwriteAllowed
    rw [refusal_put, refusal_put] at hflush hrenameAllowed
    exact ⟨hcreateAllowed, hwriteAllowed, hflush, hrenameAllowed, ⟨parent, hplace⟩,
      parent', name', hresolve, hnot⟩
  · intro h
    obtain ⟨parent, hplace⟩ := h.directory
    obtain ⟨-, -, -, hdirectory⟩ := directoryPlace_eq_ok.mp hplace
    obtain ⟨entries, hentries⟩ := view_eq_directory.mp hdirectory
    obtain ⟨name, hname⟩ := exists_freshName entries
    have hcreate := createTemporary_eq_ok.mpr
      ⟨h.create, hplace, entries, hentries, hname, rfl⟩
    -- from here on the disk has the temporary file, and the same is allowed
    have hwritten := (createTemporary_of_ok hcreate).put bytes
    have hcreated : (d.put parent name (.file .empty)).refusal = d.refusal := refusal_put _ _ _ _
    have hrefusal : ((d.put parent name (.file .empty)).put parent name (.file bytes)).refusal
        = d.refusal := by
      rw [refusal_put, hcreated]
    obtain ⟨d', hpersist⟩ : ∃ d', Disk.persist _ p parent name bytes = .ok d' :=
      hwritten.exists_persist h hrefusal
    exact ⟨d', replaceFile_eq_ok.mpr ⟨_, parent, name, _, hcreate,
      writeTemporary_eq_ok.mpr ⟨hcreated ▸ h.write, rfl⟩, hrefusal ▸ h.flush, hpersist⟩⟩

/-- What could be replaced can be replaced again. -/
theorem Keeps.replaceable (h : Keeps d d') {directory p : Path} (hp : Replaceable d directory p)
    (htarget : d'.view (Place.follow d.current p.components) ≠ some .directory) :
    Replaceable d' directory p where
  create := h.refusal ▸ hp.create
  write := h.refusal ▸ hp.write
  flush := h.refusal ▸ hp.flush
  rename := h.refusal ▸ hp.rename
  directory := by
    obtain ⟨place, hplace⟩ := hp.directory
    obtain ⟨spot, hresolve, hspot, hdirectory⟩ := directoryPlace_eq_ok.mp hplace
    exact ⟨place,
      directoryPlace_eq_ok.mpr ⟨spot, h.resolve hresolve, hspot, h.directory place hdirectory⟩⟩
  target := by
    obtain ⟨parent, name, hresolve, -⟩ := hp.target
    have hplace : parent ++ [name] = Place.follow d.current p.components :=
      place_of_resolve h.linkFree hresolve
    exact ⟨parent, name, h.resolve hresolve, hplace ▸ htarget⟩

/-! ### Directories that are there -/

/-- No directory is made where one is; the system may say something else first. -/
theorem makeDirectory_of_isDirectory (hfree : d.LinkFree) {p : Path}
    (h : d.isDirectory p = true) :
    d.makeDirectory p = .error ((d.refusal (.makeDirectory p)).getD .alreadyExists) := by
  obtain ⟨entries, hentries⟩ := Option.isSome_iff_exists.mp h
  obtain ⟨spot, hresolve, hget⟩ := directory?_eq_some.mp hentries
  have hresolve' : d.resolve false p = .ok spot := (Keeps.refl hfree).resolve hresolve
  unfold makeDirectory allow
  cases d.refusal (.makeDirectory p) with
  | some fault => rfl
  | none =>
    simp only [hresolve', bind, Except.bind]
    cases spot with
    | directory place => rfl
    | entry parent name slashed =>
      have hget : d.get? (parent ++ [name]) = some (.directory entries) := hget
      simp only [hget]
      rfl

theorem isDirectory_of_makeDirectory (hfree : d.LinkFree) {p : Path}
    (h : d.makeDirectory p = .ok d') : d'.isDirectory p = true := by
  have hkeeps := Keeps.of_grown hfree (grown_makeDirectory h)
  obtain ⟨parent, name, slashed, hspot, -, hview⟩ := view_of_makeDirectory h
  have hmade : d'.view (parent ++ [name]) = some .directory := by
    rw [hview, Function.update_self]
  obtain ⟨entries, hentries⟩ := view_eq_directory.mp hmade
  exact Option.isSome_iff_exists.mpr
    ⟨entries, directory?_eq_some.mpr ⟨_, hkeeps.resolve hspot, hentries⟩⟩

theorem ensureDirectory_of_isDirectory (hfree : d.LinkFree) {p : Path}
    (h : d.isDirectory p = true) : d.ensureDirectory p = (d, .ok ()) := by
  rw [ensureDirectory, makeDirectory_of_isDirectory hfree h]
  simp only [h, if_true]

theorem isDirectory_of_ensureDirectory (hfree : d.LinkFree) {p : Path}
    (h : d.ensureDirectory p = (d', .ok ())) : Keeps d d' ∧ d'.isDirectory p = true := by
  unfold ensureDirectory at h
  split at h
  case h_1 made hmake =>
    cases h
    exact ⟨.of_grown hfree (grown_makeDirectory hmake), isDirectory_of_makeDirectory hfree hmake⟩
  case h_2 =>
    obtain ⟨rfl, h⟩ := Prod.mk.inj h
    split at h
    case isTrue hdirectory => exact ⟨.refl hfree, hdirectory⟩
    case isFalse => cases h

/-- Making directories succeeds by making the last one, or finding it there, after
those above it have been made; without those only where the system reported that
it was missing something. -/
theorem makeDirectoriesWithin_succ_ok {steps : Nat} {p : Path} (hp : p.raw ≠ [])
    (h : d.makeDirectoriesWithin (steps + 1) p = (d₁, .ok ())) :
    ∃ above, above.ensureDirectory p = (d₁, .ok ()) ∧
      (above = d ∧ d.refusal (.makeDirectory p) ≠ some .notFound ∨
        ∃ parent, p.parent? = some parent ∧
          d.makeDirectoriesWithin steps parent = (above, .ok ())) := by
  rw [makeDirectoriesWithin, if_neg hp] at h
  split at h
  case h_1 =>
    split at h
    case h_1 => cases h
    case h_2 parent hparent =>
      split at h
      case h_1 above habove => exact ⟨above, h, .inr ⟨parent, hparent, habove⟩⟩
      case h_2 hfailed => exact absurd h (hfailed _)
  case h_2 hfault =>
    refine ⟨d, h, .inl ⟨rfl, fun hrefusal => hfault ?_⟩⟩
    rw [makeDirectory, allow, hrefusal]
    rfl

/-- Where directories could be made, making them later changes nothing. -/
theorem makeDirectoriesWithin_again (hfree : d.LinkFree) (steps : Nat) {p : Path}
    (h : d.makeDirectoriesWithin steps p = (d₁, .ok ())) (hkeeps : Keeps d₁ d') :
    d'.makeDirectoriesWithin steps p = (d', .ok ()) := by
  induction steps generalizing d d₁ p with
  | zero => cases h
  | succ steps ih =>
    by_cases hp : p.raw = []
    case pos => rw [makeDirectoriesWithin, if_pos hp]
    obtain ⟨above, hensure, habove⟩ := makeDirectoriesWithin_succ_ok hp h
    have hgrown : Keeps d above := by
      rcases habove with ⟨rfl, -⟩ | ⟨parent, -, hparent⟩
      · exact .refl hfree
      · have hgrown := grown_makeDirectoriesWithin steps d parent
        rw [hparent] at hgrown
        exact .of_grown hfree hgrown
    -- the directory was there when it had been made, and is there still
    obtain ⟨hmade, hthere⟩ := isDirectory_of_ensureDirectory hgrown.linkFree' hensure
    have hlater : Keeps above d' := hmade.trans hkeeps
    have hthere : d'.isDirectory p = true := hkeeps.isDirectory hthere
    have hensure : d'.ensureDirectory p = (d', .ok ()) :=
      ensureDirectory_of_isDirectory hkeeps.linkFree' hthere
    rw [makeDirectoriesWithin, if_neg hp, makeDirectory_of_isDirectory hkeeps.linkFree' hthere]
    split
    case h_1 hfault =>
      -- the system reports that something is missing, as it did the first time
      rcases habove with ⟨rfl, hrefusal⟩ | ⟨parent, hparent, hparents⟩
      · rw [hlater.refusal] at hfault
        cases hsystem : above.refusal (.makeDirectory p) with
        | none =>
          rw [hsystem] at hfault
          cases hfault
        | some fault =>
          rw [hsystem] at hfault
          cases hfault
          exact absurd hsystem hrefusal
      · have hagain := ih hfree hparents hlater
        simp only [hparent, hagain, hensure]
    case h_2 => exact hensure

theorem makeDirectories_again (hfree : d.LinkFree) {p : Path}
    (h : d.makeDirectories p = (d₁, .ok ())) (hkeeps : Keeps d₁ d') :
    d'.makeDirectories p = (d', .ok ()) :=
  makeDirectoriesWithin_again hfree _ h hkeeps

end DispatchGen.Disk

namespace DispatchGen.Project

open Disk

variable {d d' : Disk} {file : Path} {text : String}

/-! ### Writing the output -/

/-- A disk without links on which a text was written: some directories are new, and
the file is where the components of its path lead. -/
structure Wrote (file : Path) (text : String) (d made d' : Disk) : Prop where
  directories : d.makeDirectories (directoryOf file) = (made, .ok ())
  grown : Grown d made
  old : made.view (Place.follow d.current file.components) ≠ some .directory
  replaced : Replaced (Place.follow d.current file.components) text.toUTF8 made d'

theorem wrote_of_writeOutput (hfree : d.LinkFree)
    (h : (writeOutput file text).outcome d = (d', .ok ())) :
    ∃ made, Wrote file text d made d' ∧ Replaceable made (directoryOf file) file := by
  obtain ⟨made, hmake, hreplace⟩ := writeOutput_eq_ok.mp h
  have hgrown := grown_makeDirectories d (directoryOf file)
  rw [hmake] at hgrown
  obtain ⟨parent, name, hresolve, hold, hreplaced⟩ := replaceFile_of_ok hreplace
  have hplace : parent ++ [name] = Place.follow d.current file.components := by
    rw [← hgrown.current]
    exact place_of_resolve (Keeps.of_grown hfree hgrown).linkFree' hresolve
  rw [hplace] at hold hreplaced
  exact ⟨made, ⟨hmake, hgrown, hold, hreplaced⟩, exists_replaceFile_iff.mp ⟨d', hreplace⟩⟩

namespace Wrote

variable {made : Disk}

theorem keeps_made (h : Wrote file text d made d') (hfree : d.LinkFree) : Keeps d made :=
  .of_grown hfree h.grown

theorem made_keeps (h : Wrote file text d made d') (hfree : d.LinkFree) : Keeps made d' :=
  .of_replaced (h.keeps_made hfree).linkFree' h.old h.replaced

theorem keeps (h : Wrote file text d made d') (hfree : d.LinkFree) : Keeps d d' :=
  (h.keeps_made hfree).trans (h.made_keeps hfree)

theorem view_output (h : Wrote file text d made d') :
    d'.view (Place.follow d.current file.components) = some (.file text.toUTF8) := by
  rw [h.replaced.view, Function.update_self]

end Wrote

/-- What was written can be written again, and that changes nothing. -/
theorem writeOutput_again (hfree : d.LinkFree)
    (h : (writeOutput file text).outcome d = (d', .ok ())) :
    ∃ d'', (writeOutput file text).outcome d' = (d'', .ok ()) ∧ Alike d' d'' := by
  obtain ⟨made, hwrote, hreplaceable⟩ := wrote_of_writeOutput hfree h
  have hkeeps := hwrote.made_keeps hfree
  have hmake : d'.makeDirectories (directoryOf file) = (d', .ok ()) :=
    makeDirectories_again hfree hwrote.directories hkeeps
  have hreplaceable : Replaceable d' (directoryOf file) file := by
    refine hkeeps.replaceable hreplaceable ?_
    rw [hwrote.grown.current, hwrote.view_output]
    exact fun h => by cases h
  obtain ⟨d'', hreplace⟩ := exists_replaceFile_iff.mpr hreplaceable
  have hwrite : (writeOutput file text).outcome d' = (d'', .ok ()) :=
    writeOutput_eq_ok.mpr ⟨d', hmake, hreplace⟩
  refine ⟨d'', hwrite, ?_⟩
  obtain ⟨made', hwrote', -⟩ := wrote_of_writeOutput hkeeps.linkFree' hwrite
  obtain ⟨rfl, -⟩ := Prod.mk.inj (hmake.symm.trans hwrote'.directories)
  have hcurrent : d'.current = d.current := (hwrote.keeps hfree).current
  have hreplaced := hwrote'.replaced
  refine ⟨?_, hreplaced.current, hreplaced.refusal⟩
  -- the file that is put there is there already
  rw [hreplaced.view, hcurrent, ← hwrote.view_output, Function.update_eq_self]

end DispatchGen.Project

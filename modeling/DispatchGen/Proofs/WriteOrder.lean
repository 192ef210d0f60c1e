/-
DispatchGen/Proofs/WriteOrder.lean

Two files that are written, in either order.

A write makes the directory of its file, and then puts the file where the path leads
(`Writes`).  On a later disk, if it can be made there at all, the path leads to the same place
(`Writes.place_eq`), and fewer directories are missing.

So of two writes to different places the second does what it would have done alone, but
for directories that the first has made; and as both make no more than they must, the
disks after the two orders hold the same (`Writes.Both.alike`).  A file may take the place of
a link, if its own path does not go through the link: the path of the other file does not
either, or the second write would fail.
-/
import DispatchGen.Proofs.LaterDisk

namespace DispatchGen.Project

open Disk

variable {d d₁ d₂ d₁₂ d₂₁ m₁ m₂ m₁₂ m₂₁ : Disk} {file other : Path} {text more : String}
  {out next : Place}

/-- A write of a text: `made` has the directory of the file, and `d'` has the file at the
place `out`, where its path leads. -/
structure Writes (file : Path) (text : String) (out : Place) (d made d' : Disk) : Prop where
  make : d.makeDirectories (directoryOf file) = (made, .ok ())
  directory : made.isDirectory (directoryOf file) = true
  place : ∃ parent name, out = parent ++ [name] ∧
    made.resolve false file = .ok (.entry parent name false)
  old : made.view out ≠ some .directory
  replaced : Replaced out text.toUTF8 made d'

theorem exists_writes {d' : Disk} (h : (writeOutput file text).outcome d = (d', .ok ())) :
    ∃ made out, Writes file text out d made d' := by
  obtain ⟨made, hmake, hreplace⟩ := writeOutput_eq_ok.mp h
  obtain ⟨parent, name, hresolve, hold, hreplaced⟩ := replaceFile_of_ok hreplace
  exact ⟨made, parent ++ [name], hmake,
    isDirectory_iff.mpr (exists_replaceFile_iff.mp ⟨d', hreplace⟩).directory,
    ⟨parent, name, rfl, hresolve⟩, hold, hreplaced⟩

/-- A path does not go through a link at a place. -/
def Bypasses (d : Disk) (out : Place) (follow : Bool) (p : Path) : Prop :=
  ∀ spot, d.resolve follow p = .ok spot → Leads d (· ≠ out) follow p spot

/-- A path that leads somewhere without links bypasses any of them. -/
theorem bypasses_of_walk {follow : Bool} {p : Path}
    (h : (d.walk follow 0 (if p.isAbsolute then [] else d.current) p.pieces).toOption.isSome
      = true) :
    Bypasses d out follow p := by
  intro spot' hresolve
  obtain ⟨spot, hspot⟩ := Option.isSome_iff_exists.mp h
  obtain ⟨hne, hnul, hstart, hwalk⟩ := resolve_eq_ok.mp hresolve
  have hwalks := fun via => (walk_eq_ok.mp (eq_ok_of_toOption hspot)).of_no_links via linkBudget
  cases hwalk.symm.trans (walk_eq_ok.mpr (hwalks fun _ => True))
  exact ⟨hne, hnul, hstart, hwalks _⟩

namespace Writes

/-! ### One write -/

theorem grown (w : Writes file text out d m₁ d₁) : Grown d m₁ := by
  have hgrown := grown_makeDirectories d (directoryOf file)
  rwa [w.make] at hgrown

theorem later_made (w : Writes file text out d m₁ d₁) : Later m₁ d₁ := .of_replaced w.old w.replaced

theorem later (w : Writes file text out d m₁ d₁) : Later d d₁ :=
  (Later.of_grown w.grown).trans w.later_made

theorem view_out (w : Writes file text out d m₁ d₁) :
    d₁.view out = some (.file text.toUTF8) := by
  rw [w.replaced.view, Function.update_self]

theorem view_of_ne_out (w : Writes file text out d m₁ d₁) {place : Place} (hne : place ≠ out) :
    d₁.view place = m₁.view place := by
  rw [w.replaced.view, Function.update_of_ne hne]

/-- The file brings no directory about. -/
theorem view_made_of_directory (w : Writes file text out d m₁ d₁) {place : Place}
    (h : d₁.view place = some .directory) : m₁.view place = some .directory := by
  rw [← w.view_of_ne_out, h]
  rintro rfl
  cases w.view_out.symm.trans h

/-- Nor does a path lead to a directory for the sake of the file. -/
theorem isDirectory_made (w : Writes file text out d m₁ d₁) {p : Path}
    (h : d₁.isDirectory p = true) : m₁.isDirectory p = true := by
  obtain ⟨place, hplace⟩ := isDirectory_iff.mp h
  obtain ⟨spot, hresolve, rfl, hdirectory⟩ := directoryPlace_eq_ok.mp hplace
  obtain ⟨hne, hnul, hstart, hwalks⟩ := resolve_iff_leads.mp hresolve
  rw [w.replaced.current] at hstart hwalks
  have hnot : ¬ spot.Names out := by
    intro hnames
    cases spot with
    | directory place => exact hnames
    | entry parent name slashed =>
      rw [Spot.place, show parent ++ [name] = out from hnames, w.view_out] at hdirectory
      cases hdirectory
  refine isDirectory_iff.mpr ⟨spot.place, directoryPlace_eq_ok.mpr ⟨spot, ?_, rfl,
    w.view_made_of_directory hdirectory⟩⟩
  refine resolve_iff_leads.mpr ⟨hne, hnul, w.view_made_of_directory hstart, ?_⟩
  refine hwalks.of_solid (fun place hne => (w.view_of_ne_out hne).symm) ?_ (.inl rfl)
    fun _ hnames => absurd hnames hnot
  rw [w.view_out]
  trivial

/-- What is no new directory is as it was, elsewhere. -/
theorem view_of_ne (w : Writes file text out d m₁ d₁) {place : Place} (hne : place ≠ out)
    (hplace : d₁.view place ≠ some .directory) : d₁.view place = d.view place := by
  rw [w.view_of_ne_out hne] at hplace ⊢
  exact w.grown.view_eq_of_not_directory hplace

/-- No file but the one that is written changes. -/
theorem view_file_iff (w : Writes file text out d m₁ d₁) {place : Place} (hne : place ≠ out)
    (bytes : ByteArray) :
    d₁.view place = some (.file bytes) ↔ d.view place = some (.file bytes) := by
  rw [w.view_of_ne_out hne, view_eq_file, view_eq_file]
  exact w.grown.get?_file_iff place bytes

/-- No link but one where the file is written goes. -/
theorem view_link (w : Writes file text out d m₁ d₁) {place : Place} (hne : place ≠ out)
    {target : Path} (h : d.view place = some (.link target)) :
    d₁.view place = some (.link target) := by
  rw [w.view_of_ne_out hne]
  rcases w.grown.view place with hsame | ⟨hnone, -⟩
  · rw [hsame, h]
  · cases hnone.symm.trans h

/-- A later disk that has the file is later than the one after the write, if it is later than the
one on which the directory was made. -/
theorem later_of_made (w : Writes file text out d m₁ d₁) {d' : Disk} (hd : Later d d')
    (hmade : Later m₁ d') (hout : d'.view out = some (.file text.toUTF8)) : Later d₁ d' where
  directory place hplace := hmade.directory place (w.view_made_of_directory hplace)
  file place bytes hplace := by
    by_cases heq : place = out
    · exact ⟨_, heq ▸ hout⟩
    · exact hd.file place bytes ((w.view_file_iff heq bytes).mp hplace)
  link place target hplace := by
    refine w.view_link ?_ (hd.link place target hplace)
    rintro rfl
    cases hout.symm.trans hplace
  gone place target hplace := hd.gone place target (w.later.link place target hplace)
  current := by rw [hd.current, w.later.current]
  refusal := by rw [hd.refusal, w.later.refusal]

/-- The path of the file leads to what was written, if it did not go through a link there. -/
theorem leads (w : Writes file text out d m₁ d₁) (hown : Bypasses m₁ out false file) :
    ∃ parent name, out = parent ++ [name] ∧
      Leads d₁ (· ≠ out) false file (.entry parent name false) := by
  obtain ⟨parent, name, hout, hresolve⟩ := w.place
  refine ⟨parent, name, hout, (hown _ hresolve).later w.later_made
    (fun place target hne hlink => ?_) (.inl rfl)⟩
  rw [w.view_of_ne_out hne, hlink]

theorem status_of_leads {via : Place → Prop} {parent : Place} {name : OsText}
    (hleads : Leads d via true file (.entry parent name false))
    (hout : d.view (parent ++ [name]) = some (.file text.toUTF8)) :
    d.status file = .ok (.file text.toUTF8) :=
  status_eq_file.mpr ⟨parent, name, hleads.resolve, view_eq_file.mp hout⟩

theorem status (w : Writes file text out d m₁ d₁) (hown : Bypasses m₁ out false file) :
    d₁.status file = .ok (.file text.toUTF8) := by
  obtain ⟨parent, name, rfl, hleads⟩ := w.leads hown
  have hfollow : Leads d₁ (· ≠ parent ++ [name]) true file (.entry parent name false) :=
    hleads.later (.refl d₁) (fun _ _ _ h => h)
      (.inr ⟨rfl, fun target hlink => by cases w.view_out.symm.trans hlink⟩)
  exact status_of_leads hfollow w.view_out

/-! ### A write on a later disk -/

/-- The directory is made on the later disk too, with what was missing on the way to it. -/
theorem made_later_made (w : Writes file text out d m₁ d₁) {more : String} {out' : Place}
    (w' : Writes file more out' d₂ m₂ d₂₁) (h : Later d d₂) : Later m₁ m₂ :=
  later_of_makeDirectories w.make (h.trans (.of_grown w'.grown)) w'.directory

theorem place_eq (w : Writes file text out d m₁ d₁) {more : String} {out' : Place}
    (w' : Writes file more out' d₂ m₂ d₂₁) (h : Later d d₂) : out' = out := by
  obtain ⟨parent, name, rfl, hresolve⟩ := w.place
  obtain ⟨parent', name', rfl, hresolve'⟩ := w'.place
  obtain ⟨hsame, -⟩ := (resolve_iff_leads.mp hresolve).agree (w.made_later_made w' h) hresolve'
    (.inl ⟨rfl, nofun⟩)
  cases hsame
  rfl

/-! ### Two writes -/

/-- Two writes to different places, in one order and in the other; neither path goes through a
link that the file takes the place of. -/
structure Both (file other : Path) (text more : String) (out next : Place)
    (d m₁ d₁ m₁₂ d₁₂ m₂ d₂ m₂₁ d₂₁ : Disk) : Prop where
  first : Writes file text out d m₁ d₁
  firstThen : Writes other more next d₁ m₁₂ d₁₂
  second : Writes other more next d m₂ d₂
  secondThen : Writes file text out d₂ m₂₁ d₂₁
  ne : out ≠ next
  own : Bypasses m₁ out false file
  own' : Bypasses m₂ next false other

namespace Both

theorem symm (h : Both file other text more out next d m₁ d₁ m₁₂ d₁₂ m₂ d₂ m₂₁ d₂₁) :
    Both other file more text next out d m₂ d₂ m₂₁ d₂₁ m₁ d₁ m₁₂ d₁₂ :=
  ⟨h.second, h.secondThen, h.first, h.firstThen, h.ne.symm, h.own', h.own⟩

variable (h : Both file other text more out next d m₁ d₁ m₁₂ d₁₂ m₂ d₂ m₂₁ d₂₁)
include h

theorem view_out : d₁₂.view out = some (.file text.toUTF8) := by
  rw [h.firstThen.view_file_iff h.ne]
  exact h.first.view_out

/-- The disk after the second order is later than the one after the first write of the first. -/
theorem later_other : Later d₁ d₂₁ := by
  refine h.first.later_of_made (h.second.later.trans h.secondThen.later) ?_ h.secondThen.view_out
  exact (h.first.made_later_made h.secondThen h.second.later).trans h.secondThen.later_made

/-- After the second order the path of the other file leads to what was written first. -/
theorem leads_other : ∃ parent name via, next = parent ++ [name] ∧
    Leads d₂₁ via true other (.entry parent name false) := by
  obtain ⟨parent, name, hnext, hresolve⟩ := h.second.place
  obtain ⟨parent', name', -, hresolve'⟩ := h.firstThen.place
  -- the path bypasses the one file, as it leads somewhere when that is written, and the other
  obtain ⟨-, hleads⟩ := (h.own' _ hresolve).agree
    (h.second.made_later_made h.firstThen h.first.later) hresolve' (.inl ⟨rfl, nofun⟩)
  refine ⟨parent, name, _, hnext, hleads.later (h.second.later_made.trans h.secondThen.later)
    (fun place target hvia hlink => ?_) (.inr ⟨rfl, fun target hlink => ?_⟩)⟩
  · obtain ⟨hne, target', hlink'⟩ := hvia
    have hneOut : place ≠ out := by
      rintro rfl
      have hlink := (Later.of_grown h.firstThen.grown).link _ target' hlink'
      cases h.first.view_out.symm.trans hlink
    rw [← h.second.view_of_ne_out hne] at hlink
    exact h.secondThen.view_link hneOut hlink
  · cases (hnext ▸ h.symm.view_out).symm.trans hlink

/-- After both writes the path of the first file leads to it. -/
theorem status : d₁₂.status file = .ok (.file text.toUTF8) := by
  obtain ⟨parent, name, via, rfl, hleads⟩ := h.symm.leads_other
  exact status_of_leads hleads h.view_out

/-- The directories after one order are there after the other. -/
theorem later_final : Later d₁₂ d₂₁ := by
  -- the second write makes no more than what leads to its directory
  obtain ⟨parent, name, _, -, hleads⟩ := h.leads_other
  have hthere : d₂₁.isDirectory (directoryOf other) = true :=
    (h.second.later_made.trans h.secondThen.later).isDirectory_directoryOf h.second.directory
      hleads.resolve
  have hmade := later_of_makeDirectories h.firstThen.make h.later_other hthere
  exact h.firstThen.later_of_made h.later_other hmade h.symm.view_out

/-- The disks after the two orders hold the same. -/
theorem alike : Alike d₁₂ d₂₁ where
  view := by
    funext place
    by_cases hdirectory : d₁₂.view place = some .directory
    · rw [hdirectory, h.later_final.directory place hdirectory]
    · have hdirectory' : d₂₁.view place ≠ some .directory := fun hplace =>
        hdirectory (h.symm.later_final.directory place hplace)
      by_cases hout : place = out
      · rw [hout, h.view_out, h.secondThen.view_out]
      by_cases hnext : place = next
      · rw [hnext, h.symm.view_out, h.firstThen.view_out]
      -- elsewhere everything is as it was
      have hfirst : d₁.view place ≠ some .directory := fun hplace =>
        hdirectory (h.firstThen.later.directory place hplace)
      have hsecond : d₂.view place ≠ some .directory := fun hplace =>
        hdirectory' (h.secondThen.later.directory place hplace)
      rw [h.firstThen.view_of_ne hnext hdirectory, h.first.view_of_ne hout hfirst,
        h.secondThen.view_of_ne hout hdirectory', h.second.view_of_ne hnext hsecond]
  current := h.later_final.current
  refusal := h.later_final.refusal

end Both

end Writes

end DispatchGen.Project

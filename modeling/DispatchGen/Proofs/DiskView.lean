/-
DispatchGen/Proofs/DiskView.lean

A disk as what stands at each place.

The view of a disk forgets the listings of directories and keeps only what a
place holds (`view`).  Seen that way, putting or erasing an entry is a change at
one place, provided that its directory is there and that nothing is below the
place (`view_put`, `view_erase`).  No order or uniqueness of listings is asked
for: looking up a name finds the first entry under it, and the changes respect
that.
-/
import DispatchGen.Disk
import Mathlib.Logic.Function.Basic

namespace DispatchGen.Disk

/-! ### Listings -/

theorem find?_cons (n name : OsText) (e : Entry) (rest : List (OsText × Entry)) :
    find? n ((name, e) :: rest) = if name = n then some e else find? n rest := by
  by_cases h : name = n <;> simp [find?, h]

/-- An inserted entry is found under its name, and the others as before. -/
theorem find?_insertEntry (n name : OsText) (e : Entry) (entries : List (OsText × Entry)) :
    find? n (insertEntry name e entries) = if name = n then some e else find? n entries := by
  induction entries with
  | nil => rw [insertEntry, find?_cons]
  | cons entry rest ih =>
    obtain ⟨m, old⟩ := entry
    rw [insertEntry]
    split
    · rw [find?_cons]
    · split
      case isTrue heq =>
        subst heq
        rw [find?_cons, find?_cons]
        split <;> rfl
      case isFalse hne =>
        rw [find?_cons, find?_cons, ih]
        split
        case isTrue hm => rw [if_neg fun h => hne (h.trans hm.symm)]
        case isFalse => rfl

/-- A removed entry is not found, and the others are as before. -/
theorem find?_filter_ne (n name : OsText) (entries : List (OsText × Entry)) :
    find? n (entries.filter (·.1 ≠ name)) = if name = n then none else find? n entries := by
  induction entries with
  | nil => simp [find?]
  | cons entry rest ih =>
    obtain ⟨m, old⟩ := entry
    by_cases hm : m = name
    · subst hm
      rw [List.filter_cons_of_neg (by simp), ih, find?_cons]
      split <;> rfl
    · rw [List.filter_cons_of_pos (by simpa using hm), find?_cons, ih, find?_cons]
      by_cases hn : m = n
      · rw [if_pos hn, if_pos hn, if_neg fun h => hm (hn.trans h.symm)]
      · rw [if_neg hn, if_neg hn]

/-- A change of the entry of one name shows under that name only. -/
theorem find?_map (n name : OsText) (g : Entry → Entry) (entries : List (OsText × Entry)) :
    find? n (entries.map fun (m, e) => (m, if m = name then g e else e))
      = (find? n entries).map fun e => if n = name then g e else e := by
  induction entries with
  | nil => rfl
  | cons entry rest ih =>
    obtain ⟨m, e⟩ := entry
    rw [List.map_cons, find?_cons, find?_cons, ih]
    by_cases hm : m = n
    · subst hm
      simp
    · rw [if_neg hm, if_neg hm]

/-! ### What stands at a place -/

/-- What stands at a place, without what is below it. -/
inductive Thing where
  | file (bytes : ByteArray)
  | link (target : Path)
  | directory

def Entry.thing : Entry → Thing
  | .file bytes => .file bytes
  | .link target => .link target
  | .directory _ => .directory

/-- What stands at a place below an entry. -/
def Entry.view (e : Entry) (place : Place) : Option Thing := (e.get? place).map Entry.thing

/-- What stands at a place of a disk. -/
def view (d : Disk) (place : Place) : Option Thing := (Entry.directory d.root).view place

theorem view_eq (d : Disk) (place : Place) : d.view place = (d.get? place).map Entry.thing := rfl

theorem view_eq_file {d : Disk} {place : Place} {bytes : ByteArray} :
    d.view place = some (.file bytes) ↔ d.get? place = some (.file bytes) := by
  rw [view_eq]
  cases d.get? place with
  | none => simp
  | some e => cases e <;> simp [Entry.thing]

theorem view_eq_directory {d : Disk} {place : Place} :
    d.view place = some .directory ↔ ∃ entries, d.get? place = some (.directory entries) := by
  rw [view_eq]
  cases d.get? place with
  | none => simp
  | some e => cases e <;> simp [Entry.thing]

theorem view_eq_none {d : Disk} {place : Place} : d.view place = none ↔ d.get? place = none := by
  rw [view_eq, Option.map_eq_none_iff]

/-- An entry with nothing below it. -/
def Entry.Bare (e : Entry) : Prop := ∀ name names, e.view (name :: names) = none

theorem Entry.bare_file (bytes : ByteArray) : (Entry.file bytes).Bare := fun _ _ => rfl

theorem Entry.bare_empty : (Entry.directory []).Bare := fun _ _ => rfl

@[simp] theorem Entry.view_nil (e : Entry) : e.view [] = some e.thing := by
  cases e <;> rfl

theorem Entry.view_directory_cons (entries : List (OsText × Entry)) (name : OsText)
    (names : Place) :
    (Entry.directory entries).view (name :: names) = (find? name entries).bind (·.view names) := by
  rw [Entry.view, Entry.get?]
  cases find? name entries <;> rfl

/-- Only a directory has something below it. -/
theorem Entry.view_append_of_not_directory {e : Entry} {place : Place}
    (h : e.view place ≠ some .directory) (name : OsText) (names : Place) :
    e.view (place ++ name :: names) = none := by
  induction place generalizing e with
  | nil =>
    cases e with
    | directory entries => exact absurd rfl h
    | file bytes => rfl
    | link target => rfl
  | cons n ns ih =>
    cases e with
    | directory entries =>
      rw [view_directory_cons] at h
      rw [List.cons_append, view_directory_cons]
      cases hfind : find? n entries with
      | none => rfl
      | some e => exact ih (by simpa [hfind] using h)
    | file bytes => rfl
    | link target => rfl

/-- What is below a place is below the entry there. -/
theorem Entry.get?_append {e e' : Entry} {place : Place} (h : e.get? place = some e')
    (rest : Place) : e.get? (place ++ rest) = e'.get? rest := by
  induction place generalizing e with
  | nil =>
    have he : e.get? [] = some e := by cases e <;> rfl
    rw [he] at h
    cases h
    rfl
  | cons n ns ih =>
    cases e with
    | directory entries =>
      rw [Entry.get?] at h
      obtain ⟨below, hfind, hbelow⟩ := Option.bind_eq_some_iff.mp h
      rw [List.cons_append, Entry.get?, hfind]
      exact ih hbelow
    | file bytes => cases h
    | link target => cases h

/-- What an entry shows below a place is what stands there shows. -/
theorem Entry.view_append {e e' : Entry} {place : Place} (h : e.get? place = some e')
    (rest : Place) : e.view (place ++ rest) = e'.view rest := by
  rw [Entry.view, Entry.view, get?_append h]

/-! ### Changing a directory -/

/-- A change of the listing at `parent` shows below `parent` only. -/
theorem Entry.view_modify (f : List (OsText × Entry) → List (OsText × Entry)) {e : Entry}
    {parent : Place} {entries : List (OsText × Entry)}
    (h : e.get? parent = some (.directory entries)) (place : Place) :
    (e.modify f parent).view place
      = if parent <+: place then (Entry.directory (f entries)).view (place.drop parent.length)
        else e.view place := by
  induction parent generalizing e place with
  | nil =>
    cases e with
    | directory es =>
      cases h
      simp [Entry.modify]
    | file bytes => cases h
    | link target => cases h
  | cons name names ih =>
    cases e with
    | directory es =>
      rw [Entry.get?] at h
      obtain ⟨below, hfind, hbelow⟩ := Option.bind_eq_some_iff.mp h
      cases place with
      | nil => simp [Entry.modify, Entry.thing]
      | cons n ns =>
        rw [Entry.modify, view_directory_cons, view_directory_cons, find?_map]
        by_cases hn : n = name
        · subst hn
          simp [hfind, ih hbelow]
        · -- beside the way to `parent`
          have hnot : ¬ name :: names <+: n :: ns := fun h => hn (List.cons_prefix_cons.mp h).1.symm
          rw [if_neg hnot]
          cases find? n es <;> simp [hn]
    | file bytes => cases h
    | link target => cases h

/-- A directory stays one when something below it is modified. -/
theorem Entry.modify_directory (f : List (OsText × Entry) → List (OsText × Entry))
    (parent : Place) (entries : List (OsText × Entry)) :
    ∃ entries', (Entry.directory entries).modify f parent = .directory entries' := by
  cases parent <;> exact ⟨_, rfl⟩

/-- A modification of a directory shows at and below its place only. -/
theorem view_modify (f : List (OsText × Entry) → List (OsText × Entry)) {d : Disk}
    {parent : Place} {entries : List (OsText × Entry)}
    (h : d.get? parent = some (.directory entries)) (place : Place) :
    (d.modify f parent).view place
      = if parent <+: place then (Entry.directory (f entries)).view (place.drop parent.length)
        else d.view place := by
  obtain ⟨root, hroot⟩ := Entry.modify_directory f parent d.root
  have hview := Entry.view_modify f h place
  rw [hroot] at hview
  rw [Disk.modify, hroot]
  exact hview

@[simp] theorem current_modify (f : List (OsText × Entry) → List (OsText × Entry))
    (parent : Place) (d : Disk) : (d.modify f parent).current = d.current := by
  unfold Disk.modify
  split <;> rfl

@[simp] theorem refusal_modify (f : List (OsText × Entry) → List (OsText × Entry))
    (parent : Place) (d : Disk) : (d.modify f parent).refusal = d.refusal := by
  unfold Disk.modify
  split <;> rfl

/-- A change of the listing at `parent` under one name, of which it keeps all
others, shows at one place if nothing is below it before or after. -/
theorem view_modify_eq_update {f : List (OsText × Entry) → List (OsText × Entry)} {d : Disk}
    {parent : Place} {name : OsText} {e? : Option Entry}
    (hparent : d.view parent = some .directory)
    (hold : d.view (parent ++ [name]) ≠ some .directory)
    (hbare : ∀ e ∈ e?, e.Bare)
    (hf : ∀ n entries, find? n (f entries) = if name = n then e? else find? n entries) :
    (d.modify f parent).view
      = Function.update d.view (parent ++ [name]) (e?.map Entry.thing) := by
  funext place
  obtain ⟨entries, hentries⟩ := view_eq_directory.mp hparent
  rw [view_modify f hentries]
  split
  case isTrue hprefix =>
    obtain ⟨rest, rfl⟩ := hprefix
    rw [List.drop_left]
    cases rest with
    | nil =>
      -- the directory itself is one still
      rw [List.append_nil, Function.update_of_ne (by simp), hparent]
      rfl
    | cons n ns =>
      have hbelow : d.view (parent ++ n :: ns) = (find? n entries).bind (·.view ns) :=
        (Entry.view_append hentries _).trans (Entry.view_directory_cons entries n ns)
      rw [Entry.view_directory_cons, hf]
      by_cases hn : name = n
      · subst hn
        rw [if_pos rfl]
        cases ns with
        | nil =>
          rw [Function.update_self]
          cases e? <;> simp
        | cons m ms =>
          -- below the changed name there was nothing, and there is nothing now
          have hnone : d.view (parent ++ name :: m :: ms) = none := by
            have happend : parent ++ name :: m :: ms = (parent ++ [name]) ++ m :: ms := by simp
            rw [happend]
            exact Entry.view_append_of_not_directory hold m ms
          rw [Function.update_of_ne (by simp), hnone]
          cases e? with
          | none => rfl
          | some e => exact hbare e rfl m ms
      · -- below another name of the same directory
        have hne : parent ++ n :: ns ≠ parent ++ [name] := by
          intro h
          have hcons := List.append_cancel_left h
          exact hn (List.cons.inj hcons).1.symm
        rw [if_neg hn, Function.update_of_ne hne, hbelow]
  case isFalse hnot =>
    rw [Function.update_of_ne]
    rintro rfl
    exact hnot (List.prefix_append _ _)

/-- To put a file or a link somewhere changes what is seen at its place only. -/
theorem view_put {d : Disk} {parent : Place} {name : OsText} {e : Entry}
    (hparent : d.view parent = some .directory)
    (hold : d.view (parent ++ [name]) ≠ some .directory) (he : e.Bare) :
    (d.put parent name e).view = Function.update d.view (parent ++ [name]) (some e.thing) :=
  view_modify_eq_update hparent hold (by simpa using he) fun n entries =>
    find?_insertEntry n name e entries

/-- To erase what is no directory changes what is seen at its place only. -/
theorem view_erase {d : Disk} {parent : Place} {name : OsText}
    (hparent : d.view parent = some .directory)
    (hold : d.view (parent ++ [name]) ≠ some .directory) :
    (d.erase parent name).view = Function.update d.view (parent ++ [name]) none := by
  have hbare : ∀ e ∈ (none : Option Entry), e.Bare := by simp
  exact view_modify_eq_update hparent hold hbare fun n entries => find?_filter_ne n name entries

@[simp] theorem current_put (d : Disk) (parent : Place) (name : OsText) (e : Entry) :
    (d.put parent name e).current = d.current := current_modify _ _ _

@[simp] theorem refusal_put (d : Disk) (parent : Place) (name : OsText) (e : Entry) :
    (d.put parent name e).refusal = d.refusal := refusal_modify _ _ _

@[simp] theorem current_erase (d : Disk) (parent : Place) (name : OsText) :
    (d.erase parent name).current = d.current := current_modify _ _ _

@[simp] theorem refusal_erase (d : Disk) (parent : Place) (name : OsText) :
    (d.erase parent name).refusal = d.refusal := refusal_modify _ _ _

end DispatchGen.Disk

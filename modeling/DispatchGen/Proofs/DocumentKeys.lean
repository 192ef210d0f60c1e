/-
DispatchGen/Proofs/DocumentKeys.lean

The keys of a document.

Tables under construction keep their keys in order, and whatever is added to one goes through
`Entries.modify`, which puts a new key in its place and leaves the others where they are.  So in a
document that has been read, every table lists its keys in ascending order, at every depth
(`ascending_of_read?`), and no key comes twice in a table (`distinct_of_read?`).

The same tables with their keys in another order are `Reordered` values; what matters of them is
what they have under each key (`Swapped.exists_entries`).
-/
import DispatchGen.Toml.Document
import Mathlib.Data.List.Forall2
import Mathlib.Data.String.Basic
import Mathlib.Logic.Relation

namespace DispatchGen.Toml

/-! ### Keys of values -/

/-- The keys of every table in a value stand pairwise in a relation, from first to last. -/
inductive Value.Keys (R : String → String → Prop) : Value → Prop where
  | string (s : String) : Keys R (.string s)
  | integer (n : Int) : Keys R (.integer n)
  | float (shown : String) : Keys R (.float shown)
  | boolean (b : Bool) : Keys R (.boolean b)
  | date : Keys R .date
  | array {items : List Value} (hitems : ∀ v ∈ items, Keys R v) : Keys R (.array items)
  | table {entries : List (String × Value)} (hkeys : (entries.map Prod.fst).Pairwise R)
      (hvalues : ∀ e ∈ entries, Keys R e.2) : Keys R (.table entries)

theorem Value.Keys.imp {R S : String → String → Prop} (hRS : ∀ a b, R a b → S a b) {v : Value}
    (h : v.Keys R) : v.Keys S := by
  induction h with
  | string s => exact .string s
  | integer n => exact .integer n
  | float shown => exact .float shown
  | boolean b => exact .boolean b
  | date => exact .date
  | array _ ih => exact .array ih
  | table hkeys _ ih => exact .table (hkeys.imp (hRS _ _)) ih

/-- Every table lists its keys in ascending order. -/
abbrev Value.Ascending (v : Value) : Prop := v.Keys (· < ·)

/-- No table has a key twice. -/
abbrev Value.Distinct (v : Value) : Prop := v.Keys (· ≠ ·)

/-- Keys that ascend are distinct. -/
theorem Value.Ascending.distinct {v : Value} (h : v.Ascending) : v.Distinct :=
  h.imp fun _ _ hlt => ne_of_lt hlt

/-! ### Other orders -/

/-- Two neighbouring entries of a table, at any depth, have changed places. -/
inductive Swapped : Value → Value → Prop where
  | entries (above : List (String × Value)) (a b : String × Value)
      (below : List (String × Value)) :
      Swapped (.table (above ++ a :: b :: below)) (.table (above ++ b :: a :: below))
  | under (key : String) (above below : List (String × Value)) {v w : Value} (h : Swapped v w) :
      Swapped (.table (above ++ (key, v) :: below)) (.table (above ++ (key, w) :: below))
  | item (above below : List Value) {v w : Value} (h : Swapped v w) :
      Swapped (.array (above ++ v :: below)) (.array (above ++ w :: below))

/-- The same value with the keys of its tables in any other order. -/
abbrev Reordered : Value → Value → Prop := Relation.ReflTransGen Swapped

namespace Swapped

variable {v w : Value}

theorem symm (h : Swapped v w) : Swapped w v := by
  induction h with
  | entries above a b below => exact .entries above b a below
  | under key above below _ ih => exact .under key above below ih
  | item above below _ ih => exact .item above below ih

/-- A table with entries swapped has the same keys, and under each of them the same value or one
with entries swapped. -/
theorem exists_entries {entries : List (String × Value)} (h : Swapped (.table entries) w) :
    ∃ others, w = .table others ∧ (entries.map Prod.fst).Perm (others.map Prod.fst) ∧
      ∀ e ∈ others, ∃ x, (e.1, x) ∈ entries ∧ (x = e.2 ∨ Swapped x e.2) := by
  cases h with
  | entries above a b below =>
    have hperm : (above ++ a :: b :: below).Perm (above ++ b :: a :: below) :=
      (List.Perm.swap b a below).append_left above
    exact ⟨_, rfl, hperm.map _, fun e he => ⟨e.2, hperm.mem_iff.mpr he, .inl rfl⟩⟩
  | @under key above below x y h =>
    refine ⟨_, rfl, by simp, fun e he => ?_⟩
    rcases List.mem_append.mp he with he | he
    · exact ⟨e.2, List.mem_append_left _ he, .inl rfl⟩
    · rcases List.mem_cons.mp he with rfl | he
      · exact ⟨x, by simp, .inr h⟩
      · exact ⟨e.2, List.mem_append_right _ (.tail _ he), .inl rfl⟩

/-- An array with entries swapped in one of its items. -/
theorem exists_items {items : List Value} (h : Swapped (.array items) w) :
    ∃ others, w = .array others ∧ List.Forall₂ (fun x y => x = y ∨ Swapped x y) items others := by
  cases h with
  | item above below h =>
    have hsame : ∀ l : List Value, List.Forall₂ (fun x y => x = y ∨ Swapped x y) l l :=
      fun l => List.forall₂_same.mpr fun _ _ => .inl rfl
    exact ⟨_, rfl, List.rel_append (hsame above) (.cons (.inr h) (hsame below))⟩

/-- What was written in another order has distinct keys if the first writing has. -/
theorem distinct (h : Swapped v w) (hv : v.Distinct) : w.Distinct := by
  induction h with
  | entries above a b below =>
    cases hv with
    | table hkeys hvalues =>
      have hperm : (above ++ a :: b :: below).Perm (above ++ b :: a :: below) :=
        (List.Perm.swap b a below).append_left above
      exact .table ((hperm.map _).nodup_iff.mp hkeys) fun e he => hvalues e (hperm.mem_iff.mpr he)
  | under key above below _ ih =>
    cases hv with
    | table hkeys hvalues =>
      simp only [List.forall_mem_append, List.forall_mem_cons] at hvalues
      refine .table (by simpa using hkeys) ?_
      simp only [List.forall_mem_append, List.forall_mem_cons]
      exact ⟨hvalues.1, ih hvalues.2.1, hvalues.2.2⟩
  | item above below _ ih =>
    cases hv with
    | array hitems =>
      refine .array ?_
      simp only [List.forall_mem_append, List.forall_mem_cons] at hitems ⊢
      exact ⟨hitems.1, ih hitems.2.1, hitems.2.2⟩

end Swapped

/-! ### Tables under construction -/

/-- An item whose tables, finished or not, list their keys in ascending order. -/
inductive Item.Ascending : Item → Prop where
  | value {v : Value} (hv : v.Ascending) : Ascending (.value v)
  | table {origin : Origin} {entries : Entries} (hkeys : (entries.map Prod.fst).Pairwise (· < ·))
      (hitems : ∀ e ∈ entries, Ascending e.2) : Ascending (.table origin entries)
  | tables {elements : List Entries}
      (hkeys : ∀ entries ∈ elements, (entries.map Prod.fst).Pairwise (· < ·))
      (hitems : ∀ entries ∈ elements, ∀ e ∈ entries, Ascending e.2) : Ascending (.tables elements)

namespace Entries

/-- Entries in ascending order of their keys, at every depth. -/
structure Ascending (entries : Entries) : Prop where
  keys : (entries.map Prod.fst).Pairwise (· < ·)
  items : ∀ e ∈ entries, e.2.Ascending

theorem Ascending.nil : Ascending [] := ⟨.nil, by simp⟩

/-- Entries ascend if the first key is below the others and the rest ascends. -/
theorem ascending_cons {key : String} {item : Item} {rest : Entries} :
    Ascending ((key, item) :: rest) ↔
      (∀ k ∈ rest.map Prod.fst, key < k) ∧ item.Ascending ∧ Ascending rest := by
  constructor
  · intro h
    obtain ⟨hfirst, hkeys⟩ := List.pairwise_cons.mp h.keys
    obtain ⟨hitem, hitems⟩ := List.forall_mem_cons.mp h.items
    exact ⟨hfirst, hitem, hkeys, hitems⟩
  · rintro ⟨hfirst, hitem, hrest⟩
    exact ⟨List.pairwise_cons.mpr ⟨hfirst, hrest.keys⟩,
      List.forall_mem_cons.mpr ⟨hitem, hrest.items⟩⟩

theorem ascending_table {origin : Origin} {entries : Entries} :
    (Item.table origin entries).Ascending ↔ entries.Ascending :=
  ⟨fun h => by cases h with | table hkeys hitems => exact ⟨hkeys, hitems⟩,
    fun h => .table h.keys h.items⟩

theorem ascending_tables {elements : List Entries} :
    (Item.tables elements).Ascending ↔ ∀ entries ∈ elements, Ascending entries :=
  ⟨fun h => by cases h with | tables hkeys hitems => exact fun e he => ⟨hkeys e he, hitems e he⟩,
    fun h => .tables (fun e he => (h e he).keys) fun e he => (h e he).items⟩

/-- A change of an item that leaves an ascending one, if there was one before or none. -/
def KeepsItems (f : Option Item → Option Item) : Prop :=
  ∀ old new, (∀ item ∈ old, item.Ascending) → f old = some new → new.Ascending

/-- A change of entries that leaves ascending ones ascending. -/
def KeepsEntries (f : Entries → Option Entries) : Prop :=
  ∀ entries changed, Ascending entries → f entries = some changed → Ascending changed

section Changes

variable {f : Option Item → Option Item} {g : Entries → Option Entries} {key : String}

/-- Changing a key adds no other. -/
theorem mem_keys_of_modify {entries changed : Entries} (h : modify key f entries = some changed) :
    ∀ k ∈ changed.map Prod.fst, k = key ∨ k ∈ entries.map Prod.fst := by
  induction entries generalizing changed with
  | nil =>
    obtain ⟨item, -, rfl⟩ := Option.map_eq_some_iff.mp h
    simp
  | cons e rest ih =>
    obtain ⟨k, item⟩ := e
    rw [modify] at h
    split at h
    · obtain ⟨item, -, rfl⟩ := Option.map_eq_some_iff.mp h
      exact fun x hx => .inr hx
    · split at h
      · obtain ⟨item, -, rfl⟩ := Option.map_eq_some_iff.mp h
        exact fun x hx => List.mem_cons.mp hx
      · obtain ⟨more, hmore, rfl⟩ := Option.map_eq_some_iff.mp h
        refine List.forall_mem_cons.mpr ⟨.inr (.head _), fun x hx => ?_⟩
        exact (ih hmore x hx).imp_right (.tail k)

/-- An item may be modified in its place, or added where its key belongs. -/
theorem keepsEntries_modify (hf : KeepsItems f) : KeepsEntries (modify key f) := by
  intro entries changed hentries h
  induction entries generalizing changed with
  | nil =>
    obtain ⟨item, hitem, rfl⟩ := Option.map_eq_some_iff.mp h
    exact ascending_cons.mpr ⟨by simp, hf none item (by simp) hitem, .nil⟩
  | cons e rest ih =>
    obtain ⟨k, item⟩ := e
    obtain ⟨hfirst, hitem, hrest⟩ := ascending_cons.mp hentries
    rw [modify] at h
    split at h
    case isTrue =>
      obtain ⟨new, hnew, rfl⟩ := Option.map_eq_some_iff.mp h
      exact ascending_cons.mpr ⟨hfirst, hf (some item) new (by simpa using hitem) hnew, hrest⟩
    case isFalse hne =>
      split at h
      case isTrue hlt =>
        obtain ⟨new, hnew, rfl⟩ := Option.map_eq_some_iff.mp h
        refine ascending_cons.mpr ⟨?_, hf none new (by simp) hnew, hentries⟩
        exact List.forall_mem_cons.mpr ⟨hlt, fun x hx => lt_trans hlt (hfirst x hx)⟩
      case isFalse hle =>
        obtain ⟨more, hmore, rfl⟩ := Option.map_eq_some_iff.mp h
        refine ascending_cons.mpr ⟨fun x hx => ?_, hitem, ih more hrest hmore⟩
        rcases mem_keys_of_modify hmore x hx with rfl | hx
        · exact lt_of_le_of_ne (not_lt.mp hle) hne
        · exact hfirst x hx

/-- The last element may be modified. -/
theorem ascending_modifyLast (hg : KeepsEntries g) {elements changed : List Entries}
    (helements : ∀ entries ∈ elements, Ascending entries)
    (h : modifyLast g elements = some changed) : ∀ entries ∈ changed, Ascending entries := by
  induction elements generalizing changed with
  | nil => cases h
  | cons first rest ih =>
    obtain ⟨hfirst, hrest⟩ := List.forall_mem_cons.mp helements
    cases rest with
    | nil =>
      obtain ⟨last, hlast, rfl⟩ := Option.map_eq_some_iff.mp h
      exact List.forall_mem_singleton.mpr (hg first last hfirst hlast)
    | cons second rest =>
      obtain ⟨more, hmore, rfl⟩ := Option.map_eq_some_iff.mp h
      exact List.forall_mem_cons.mpr ⟨hfirst, ih hrest hmore⟩

/-- What may be done to a table may be done at the end of a path. -/
theorem keepsEntries_descend (hg : KeepsEntries g) (path : List String) :
    KeepsEntries (descend g path) := by
  induction path with
  | nil => exact hg
  | cons key path ih =>
    refine keepsEntries_modify fun old new hold h => ?_
    -- what stands on the way is a table, a list of them, or not there yet
    match old with
    | none =>
      obtain ⟨inner, hinner, rfl⟩ := Option.map_eq_some_iff.mp h
      exact ascending_table.mpr (ih [] inner .nil hinner)
    | some (.table origin before) =>
      obtain ⟨inner, hinner, rfl⟩ := Option.map_eq_some_iff.mp h
      exact ascending_table.mpr (ih before inner (ascending_table.mp (hold _ rfl)) hinner)
    | some (.tables before) =>
      obtain ⟨elements, helements, rfl⟩ := Option.map_eq_some_iff.mp h
      exact ascending_tables.mpr
        (ascending_modifyLast ih (ascending_tables.mp (hold _ rfl)) helements)
    | some (.value _) => cases h

/-- A value may be assigned at a path. -/
theorem keepsEntries_assign {v : Value} (hv : v.Ascending) (path : List String) :
    KeepsEntries (assign v path) := by
  induction path with
  | nil =>
    intro _ _ _ h
    cases h
  | cons key path ih =>
    cases path with
    | nil =>
      refine keepsEntries_modify fun old new _ h => ?_
      cases old with
      | none =>
        cases h
        exact .value hv
      | some => cases h
    | cons next path =>
      refine keepsEntries_modify fun old new hold h => ?_
      match old with
      | none =>
        obtain ⟨inner, hinner, rfl⟩ := Option.map_eq_some_iff.mp h
        exact ascending_table.mpr (ih [] inner .nil hinner)
      | some (.table .dotted before) =>
        obtain ⟨inner, hinner, rfl⟩ := Option.map_eq_some_iff.mp h
        exact ascending_table.mpr (ih before inner (ascending_table.mp (hold _ rfl)) hinner)
      | some (.table .implied before) =>
        dsimp only at h
        split at h
        · cases h
        · obtain ⟨inner, hinner, rfl⟩ := Option.map_eq_some_iff.mp h
          exact ascending_table.mpr (ih before inner (ascending_table.mp (hold _ rfl)) hinner)
      | some (.table .named _) => cases h
      | some (.tables _) => cases h
      | some (.value _) => cases h

/-- A table may be opened at a path. -/
theorem keepsEntries_openTable (path : List String) : KeepsEntries (openTable path) := by
  intro entries opened hentries h
  unfold openTable at h
  split at h
  · cases h
  · refine keepsEntries_descend (keepsEntries_modify fun old new hold h => ?_) _ _ _ hentries h
    match old with
    | none =>
      cases h
      exact ascending_table.mpr .nil
    | some (.table .implied inner) =>
      cases h
      exact ascending_table.mpr (ascending_table.mp (hold _ rfl))
    | some (.table .dotted _) => cases h
    | some (.table .named _) => cases h
    | some (.tables _) => cases h
    | some (.value _) => cases h

/-- An element may be added to the tables at a path. -/
theorem keepsEntries_openElement (path : List String) : KeepsEntries (openElement path) := by
  intro entries opened hentries h
  unfold openElement at h
  split at h
  · cases h
  · refine keepsEntries_descend (keepsEntries_modify fun old new hold h => ?_) _ _ _ hentries h
    match old with
    | none =>
      cases h
      exact ascending_tables.mpr (List.forall_mem_singleton.mpr .nil)
    | some (.tables elements) =>
      cases h
      refine ascending_tables.mpr (List.forall_mem_append.mpr ⟨?_, ?_⟩)
      · exact ascending_tables.mp (hold _ rfl)
      · exact List.forall_mem_singleton.mpr .nil
    | some (.table _ _) => cases h
    | some (.value _) => cases h

end Changes

end Entries

/-! ### Finished tables -/

theorem finishEntries_eq_map (entries : Entries) :
    finishEntries entries = entries.map fun e => (e.1, e.2.finish) := by
  induction entries with
  | nil => rfl
  | cons e rest ih =>
    obtain ⟨key, item⟩ := e
    rw [finishEntries, ih, List.map_cons]

theorem finishElements_eq_map (elements : List Entries) :
    finishElements elements = elements.map fun entries => .table (finishEntries entries) := by
  induction elements with
  | nil => rfl
  | cons entries rest ih => rw [finishElements, ih, List.map_cons]

/-- A table ascends whose keys do and whose items are finished to values that do. -/
theorem ascending_finishEntries {entries : Entries}
    (hkeys : (entries.map Prod.fst).Pairwise (· < ·))
    (hvalues : ∀ e ∈ entries, e.2.finish.Ascending) :
    (Value.table (finishEntries entries)).Ascending := by
  rw [finishEntries_eq_map]
  refine .table ?_ (List.forall_mem_map.mpr hvalues)
  rw [List.map_map]
  exact hkeys

/-- An item whose keys ascend is finished to such a value. -/
theorem Item.Ascending.finish {item : Item} (h : item.Ascending) : item.finish.Ascending := by
  induction h with
  | value hv =>
    rw [Item.finish]
    exact hv
  | table hkeys _ ih =>
    rw [Item.finish]
    exact ascending_finishEntries hkeys ih
  | tables hkeys _ ih =>
    rw [Item.finish, finishElements_eq_map]
    exact .array (List.forall_mem_map.mpr fun entries hentries =>
      ascending_finishEntries (hkeys entries hentries) (ih entries hentries))

theorem Entries.Ascending.finish {entries : Entries} (h : entries.Ascending) :
    (Value.table (finishEntries entries)).Ascending :=
  ascending_finishEntries h.keys fun e he => (h.items e he).finish

/-! ### Reading -/

/-- A value that is no table and no array has no keys. -/
theorem ascending_of_scalar? {cs : List Char} {v : Value} (h : scalar? cs = some v) :
    v.Ascending := by
  unfold scalar? at h
  split at h
  · cases h
    exact .boolean true
  split at h
  · cases h
    exact .boolean false
  split at h
  · cases h
    exact .integer _
  split at h
  · cases h
    exact .float _
  split at h
  · cases h
    exact .date
  · cases h

/-- What the three readers of values give with some fuel. -/
structure ReadsAscending (fuel : Nat) : Prop where
  value : ∀ cs v rest, value? fuel cs = some (v, rest) → v.Ascending
  elements : ∀ cs vs rest, elements? fuel cs = some (vs, rest) → ∀ v ∈ vs, v.Ascending
  members : ∀ entries cs result rest, entries.Ascending →
    members? fuel entries cs = some (result, rest) → result.Ascending

/-- Keys ascend in what is read with any fuel, by induction on the fuel. -/
theorem readsAscending (fuel : Nat) : ReadsAscending fuel := by
  induction fuel with
  | zero =>
    refine ⟨fun cs v rest h => ?_, fun cs vs rest h => ?_, fun entries cs result rest _ h => ?_⟩
    · cases h
    · cases h
    · cases h
  | succ fuel ih =>
    refine ⟨fun cs v rest h => ?_, fun cs vs rest h => ?_,
      fun entries cs result rest hentries h => ?_⟩
    · rw [value?.eq_def] at h
      dsimp only at h
      split at h
      · obtain ⟨⟨s, more⟩, -, hv⟩ := Option.map_eq_some_iff.mp h
        cases hv
        exact .string s
      · obtain ⟨⟨s, more⟩, -, hv⟩ := Option.map_eq_some_iff.mp h
        cases hv
        exact .string s
      · obtain ⟨⟨vs, more⟩, hvs, hv⟩ := Option.map_eq_some_iff.mp h
        cases hv
        exact .array (ih.elements _ vs more hvs)
      · obtain ⟨⟨entries, more⟩, hentries, hv⟩ := Option.map_eq_some_iff.mp h
        cases hv
        exact (ih.members [] _ entries more .nil hentries).finish
      · obtain ⟨scalar, hscalar, hv⟩ := Option.map_eq_some_iff.mp h
        cases hv
        exact ascending_of_scalar? hscalar
    · rw [elements?] at h
      simp only [Option.bind_eq_bind, Option.bind_eq_some_iff] at h
      obtain ⟨cs, -, h⟩ := h
      split at h
      · cases h
        simp
      · simp only [Option.bind_eq_some_iff] at h
        obtain ⟨⟨v, more⟩, hv, rest', -, h⟩ := h
        have hfirst := ih.value _ v more hv
        split at h
        · simp only [Option.bind_eq_some_iff] at h
          obtain ⟨⟨vs', last⟩, hvs, h⟩ := h
          cases h
          exact List.forall_mem_cons.mpr ⟨hfirst, ih.elements _ vs' last hvs⟩
        · cases h
          exact List.forall_mem_singleton.mpr hfirst
        · cases h
    · rw [members?] at h
      simp only [Option.bind_eq_bind, Option.bind_eq_some_iff] at h
      obtain ⟨cs, -, h⟩ := h
      split at h
      · cases h
        exact hentries
      · simp only [Option.bind_eq_some_iff] at h
        obtain ⟨⟨path, more⟩, -, h⟩ := h
        dsimp only at h
        split at h
        · simp only [Option.bind_eq_some_iff] at h
          obtain ⟨⟨v, more⟩, hv, assigned, hassigned, last, -, h⟩ := h
          have hnext := Entries.keepsEntries_assign (ih.value _ v more hv) path _ _ hentries
            hassigned
          split at h
          · exact ih.members _ _ result rest hnext h
          · cases h
            exact hnext
          · cases h
        · cases h

/-- Every value assigned by a line is ascending. -/
def Line.Ascending : Line → Prop
  | .assignment _ v => v.Ascending
  | _ => True

/-- Keys ascend in the value of a line. -/
theorem ascending_of_line? {cs rest : List Char} {line : Line} (h : line? cs = some (line, rest)) :
    line.Ascending := by
  unfold line? at h
  dsimp only at h
  split at h
  · obtain ⟨_, -, hline⟩ := Option.map_eq_some_iff.mp h
    cases hline
    trivial
  · obtain ⟨_, -, hline⟩ := Option.map_eq_some_iff.mp h
    cases hline
    trivial
  · simp only [Option.bind_eq_bind, Option.bind_eq_some_iff] at h
    obtain ⟨⟨keys, more⟩, -, h⟩ := h
    split at h
    · simp only [Option.bind_eq_some_iff] at h
      obtain ⟨⟨v, last⟩, hv, h⟩ := h
      cases h
      exact (readsAscending _).value _ v last hv
    · cases h

theorem ascending_of_lines? {fuel : Nat} {cs : List Char} {lines : List Line}
    (h : lines? fuel cs = some lines) : ∀ line ∈ lines, line.Ascending := by
  induction fuel generalizing cs lines with
  | zero => cases h
  | succ fuel ih =>
    rw [lines?] at h
    simp only [Option.bind_eq_bind, Option.bind_eq_some_iff] at h
    obtain ⟨cs, -, h⟩ := h
    split at h
    · cases h
      simp
    · simp only [Option.bind_eq_some_iff] at h
      obtain ⟨⟨line, more⟩, hline, rest, -, h⟩ := h
      have hfirst := ascending_of_line? hline
      split at h
      · cases h
        exact List.forall_mem_singleton.mpr hfirst
      · simp only [Option.bind_eq_some_iff] at h
        obtain ⟨rest, -, others, hothers, h⟩ := h
        cases h
        exact List.forall_mem_cons.mpr ⟨hfirst, ih hothers⟩

/-- Lines whose values ascend build a document that does. -/
theorem ascending_of_build? {lines : List Line} {here : List String} {entries built : Entries}
    (hlines : ∀ line ∈ lines, line.Ascending) (hentries : entries.Ascending)
    (h : build? here entries lines = some built) : built.Ascending := by
  induction lines generalizing here entries with
  | nil =>
    cases h
    exact hentries
  | cons line rest ih =>
    obtain ⟨hline, hrest⟩ := List.forall_mem_cons.mp hlines
    cases line with
    | header path =>
      obtain ⟨opened, hopened, h⟩ := Option.bind_eq_some_iff.mp h
      exact ih hrest (Entries.keepsEntries_openTable path _ _ hentries hopened) h
    | element path =>
      obtain ⟨opened, hopened, h⟩ := Option.bind_eq_some_iff.mp h
      exact ih hrest (Entries.keepsEntries_openElement path _ _ hentries hopened) h
    | assignment path v =>
      obtain ⟨assigned, hassigned, h⟩ := Option.bind_eq_some_iff.mp h
      have hkeeps := Entries.keepsEntries_descend (Entries.keepsEntries_assign hline path) here
      exact ih hrest (hkeeps _ _ hentries hassigned) h

/-- The tables of a document list their keys in ascending order. -/
theorem ascending_of_read? {text : String} {document : Value} (h : read? text = some document) :
    document.Ascending := by
  simp only [read?, Option.bind_eq_bind, Option.bind_eq_some_iff] at h
  obtain ⟨lines, hlines, entries, hentries, h⟩ := h
  cases h
  exact (ascending_of_build? (ascending_of_lines? hlines) .nil hentries).finish

/-- A document has no key twice in a table. -/
theorem distinct_of_read? {text : String} {document : Value} (h : read? text = some document) :
    document.Distinct :=
  (ascending_of_read? h).distinct

end DispatchGen.Toml

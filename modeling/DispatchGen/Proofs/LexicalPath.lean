/-
DispatchGen/Proofs/LexicalPath.lean

The components of paths that are made from others.

A path that is joined to another goes on where the other ends: the components of
the two stand one after another (`components_join`), as long as the first is
not empty and the second starts nowhere of its own.  Joining to the empty path is
no such case, since then a `.` that opens the second path is a component.

A path that only descends is one list of names (`exists_names`), and so is what a
walk through directories appends to a path (`components_descend`).
-/
import DispatchGen.Disk

namespace DispatchGen.Path

/-! ### Pieces -/

section Pieces

variable {α : Type} [DecidableEq α]

theorem splitPieces_ne_nil (sep : α) (cs : List α) : splitPieces sep cs ≠ [] := by
  cases cs with
  | nil => simp [splitPieces]
  | cons c cs =>
    rw [splitPieces]
    split
    · simp
    · split <;> simp

/-- A separator ends the pieces before it. -/
theorem splitPieces_append (sep : α) (cs ds : List α) :
    splitPieces sep (cs ++ sep :: ds) = splitPieces sep cs ++ splitPieces sep ds := by
  induction cs with
  | nil =>
    obtain ⟨piece, rest, hds⟩ := List.exists_cons_of_ne_nil (splitPieces_ne_nil sep ds)
    simp [splitPieces, hds]
  | cons c cs ih =>
    obtain ⟨piece, rest, hcs⟩ := List.exists_cons_of_ne_nil (splitPieces_ne_nil sep cs)
    rw [List.cons_append, splitPieces, splitPieces, ih, hcs]
    by_cases hc : c = sep <;> simp [hc]

/-- Without a separator there is one piece. -/
theorem splitPieces_of_not_mem {sep : α} {cs : List α} (h : sep ∉ cs) :
    splitPieces sep cs = [cs] := by
  induction cs with
  | nil => rfl
  | cons c cs ih =>
    have hc : c ≠ sep := fun hc => h (hc ▸ List.mem_cons_self)
    rw [splitPieces, ih fun hcs => h (List.mem_cons_of_mem c hcs)]
    exact if_neg hc

/-- No piece has a separator in it. -/
theorem not_mem_of_mem_splitPieces {sep : α} {cs piece : List α}
    (h : piece ∈ splitPieces sep cs) : sep ∉ piece := by
  induction cs generalizing piece with
  | nil =>
    rw [List.mem_singleton.mp h]
    exact List.not_mem_nil
  | cons c cs ih =>
    obtain ⟨first, rest, hcs⟩ := List.exists_cons_of_ne_nil (splitPieces_ne_nil sep cs)
    rw [hcs] at ih
    rw [splitPieces, hcs] at h
    simp only at h
    split at h
    case isTrue =>
      rcases List.mem_cons.mp h with rfl | h
      · exact List.not_mem_nil
      · exact ih h
    case isFalse hc =>
      -- the first piece has grown by a character that is no separator
      rcases List.mem_cons.mp h with rfl | h
      · intro hsep
        rcases List.mem_cons.mp hsep with rfl | hsep
        · exact hc rfl
        · exact ih List.mem_cons_self hsep
      · exact ih (List.mem_cons_of_mem _ h)

end Pieces

theorem not_mem_of_mem_pieces {p : Path} {piece : OsText} (h : piece ∈ p.pieces) :
    slash ∉ piece :=
  not_mem_of_mem_splitPieces h

theorem component?_of_blank {piece : OsText} (h : isBlank piece = true) : component? piece = none :=
  if_pos h

/-- A piece that is not blank is a step. -/
theorem exists_component? {piece : OsText} (h : ¬ isBlank piece = true) :
    ∃ s, component? piece = some s := by
  unfold component?
  rw [if_neg h]
  split <;> exact ⟨_, rfl⟩

/-- The steps that the pieces of a path stand for. -/
def steps (p : Path) : List Component := p.pieces.filterMap component?

/-- What opens a path before its steps. -/
def opening (p : Path) : List Component :=
  if p.isAbsolute then [.root] else if p.pieces.head? = some hereName then [.here] else []

/-- The components of a path are what opens it, and its steps. -/
theorem components_eq (p : Path) : p.components = p.opening ++ p.steps := by
  rw [components, opening, steps]
  split
  case isTrue => rfl
  case isFalse =>
    split
    case h_1 rest hpieces =>
      rw [hpieces]
      rfl
    case h_2 hnot =>
      rw [if_neg]
      · rfl
      · intro hhead
        obtain ⟨rest, hrest⟩ := List.head?_eq_some_iff.mp hhead
        exact hnot rest hrest

/-! ### Joining -/

/-- A path up to its last slash, or all of it. -/
theorem exists_raw_join {p q : Path} (hp : p.raw ≠ []) (hq : q.isAbsolute = false) :
    ∃ cs, (p.join q).raw = cs ++ slash :: q.raw ∧
      (p.raw = cs ++ [slash] ∨ p.raw = cs ∧ cs ≠ []) := by
  have hne : p.raw ≠ [] := by simpa using hp
  rw [join, hq, if_neg Bool.false_ne_true]
  by_cases hlast : p.raw.getLast? = some slash
  case pos =>
    obtain ⟨cs, hcs⟩ := List.getLast?_eq_some_iff.mp hlast
    refine ⟨cs, ?_, .inl hcs⟩
    simp [hcs]
  case neg =>
    refine ⟨p.raw, ?_, .inr ⟨rfl, hne⟩⟩
    simp [hlast, hp]

theorem join_raw_ne {p q : Path} (hp : p.raw ≠ []) (hq : q.isAbsolute = false) :
    (p.join q).raw ≠ [] := by
  obtain ⟨cs, hjoin, -⟩ := exists_raw_join hp hq
  intro hempty
  rw [hempty] at hjoin
  simp at hjoin

/-- A join starts where its first path does. -/
theorem isAbsolute_join {p q : Path} (hp : p.raw ≠ []) (hq : q.isAbsolute = false) :
    (p.join q).isAbsolute = p.isAbsolute := by
  obtain ⟨cs, hjoin, hcs⟩ := exists_raw_join hp hq
  rw [isAbsolute, isAbsolute, hjoin]
  rcases hcs with hcs | ⟨hcs, -⟩ <;> rw [hcs] <;> cases cs <;> simp_all

/-- The pieces of a join, up to an empty one at the end of the first path. -/
theorem exists_pieces_join {p q : Path} (hp : p.raw ≠ []) (hq : q.isAbsolute = false) :
    ∃ ps, (p.join q).pieces = ps ++ q.pieces ∧ (p.pieces = ps ∨ p.pieces = ps ++ [[]]) ∧
      (p.isAbsolute = false → ps ≠ []) := by
  obtain ⟨cs, hjoin, hcs⟩ := exists_raw_join hp hq
  have hqpieces : q.pieces = splitPieces slash q.raw := by
    rw [pieces, hq]
    rfl
  cases cs with
  | nil =>
    -- the first path is the root
    have htext : p.raw = [slash] := by
      rcases hcs with hcs | ⟨-, hne⟩
      · exact hcs
      · exact absurd rfl hne
    have habsolute : p.isAbsolute = true := by rw [isAbsolute, htext]; rfl
    refine ⟨[], ?_, .inr ?_, by simp [habsolute]⟩
    · rw [pieces, isAbsolute_join hp hq, habsolute, hjoin, hqpieces]
      rfl
    · rw [pieces, habsolute, htext]
      rfl
  | cons c cs =>
    let body := if p.isAbsolute then cs else c :: cs
    have hbody : ∀ ds, (if p.isAbsolute = true then (c :: cs ++ ds).drop 1 else c :: cs ++ ds)
        = body ++ ds := by
      intro ds
      show _ = (if p.isAbsolute = true then cs else c :: cs) ++ ds
      split <;> rfl
    refine ⟨splitPieces slash body, ?_, ?_, fun _ => splitPieces_ne_nil slash body⟩
    · rw [pieces, isAbsolute_join hp hq, hjoin, hqpieces]
      simp only [hbody, splitPieces_append]
    · rcases hcs with hcs | ⟨hcs, -⟩
      · right
        rw [pieces, hcs]
        simp only [hbody, splitPieces_append]
        rfl
      · left
        have hall := hbody []
        simp only [List.append_nil] at hall
        rw [pieces, hcs]
        simp only [hall]

/-- A join has the bytes of its two paths, and slashes. -/
theorem mem_join {p q : Path} {b : UInt8} (hp : p.raw ≠ []) (hq : q.isAbsolute = false)
    (hb : b ≠ slash) :
    b ∈ (p.join q).raw ↔ b ∈ p.raw ∨ b ∈ q.raw := by
  obtain ⟨cs, hjoin, hcs⟩ := exists_raw_join hp hq
  rw [hjoin]
  rcases hcs with hcs | ⟨hcs, -⟩ <;> rw [hcs] <;> simp [hb]

/-- An empty piece after the last slash is no step. -/
theorem steps_of_pieces {p : Path} {ps : List OsText}
    (h : p.pieces = ps ∨ p.pieces = ps ++ [[]]) : p.steps = ps.filterMap component? := by
  rcases h with h | h
  · rw [steps, h]
  · rw [steps, h, List.filterMap_append]
    exact List.append_nil _

/-- A join goes on where its first path ends. -/
theorem components_join {p q : Path} (hp : p.raw ≠ []) (hq : q.isAbsolute = false) :
    (p.join q).components = p.components ++ q.steps := by
  obtain ⟨ps, hjoin, hps, hne⟩ := exists_pieces_join hp hq
  -- an empty piece after the last slash opens nothing
  have hopening : (p.join q).opening = p.opening := by
    rw [opening, opening, isAbsolute_join hp hq, hjoin]
    split
    case isTrue => rfl
    case isFalse hrelative =>
      obtain ⟨x, xs, rfl⟩ := List.exists_cons_of_ne_nil (hne (by simpa using hrelative))
      rcases hps with hps | hps <;> rw [hps] <;> rfl
  rw [components_eq, components_eq, hopening, steps_of_pieces hps, steps, hjoin,
    List.filterMap_append, List.append_assoc]
  rfl

/-! ### Names -/

/-- A string that can stand for an entry of a directory. -/
structure IsName (name : OsText) : Prop where
  solid : isBlank name = false
  down : name ≠ upName
  whole : slash ∉ name

instance (name : OsText) : Decidable (IsName name) :=
  decidable_of_iff (isBlank name = false ∧ name ≠ upName ∧ slash ∉ name)
    ⟨fun h => ⟨h.1, h.2.1, h.2.2⟩, fun h => ⟨h.solid, h.down, h.whole⟩⟩

theorem IsName.ne_empty {name : OsText} (h : IsName name) : name ≠ [] := by
  rintro rfl
  exact absurd h.solid (by decide)

theorem IsName.ne_dot {name : OsText} (h : IsName name) : name ≠ hereName := by
  rintro rfl
  exact absurd h.solid (by decide)

/-- A name is read as itself. -/
theorem IsName.component?_eq {name : OsText} (h : IsName name) :
    component? name = some (.normal name) := by
  simp [component?, h.solid, h.down]

theorem IsName.relative {name : OsText} (h : IsName name) :
    (⟨name⟩ : Path).isAbsolute = false := by
  rw [isAbsolute, decide_eq_false_iff_not]
  exact fun hhead => h.whole (List.mem_of_mem_head? hhead)

theorem IsName.steps {name : OsText} (h : IsName name) :
    (⟨name⟩ : Path).steps = [.normal name] := by
  have hpieces : (⟨name⟩ : Path).pieces = [name] := by
    rw [pieces, h.relative]
    simp [splitPieces_of_not_mem h.whole]
  rw [Path.steps, hpieces, List.filterMap_cons_some h.component?_eq]
  rfl

theorem IsName.components {name : OsText} (h : IsName name) :
    (⟨name⟩ : Path).components = [.normal name] := by
  have hopening : (⟨name⟩ : Path).opening = [] := by
    rw [opening, h.relative, pieces, h.relative]
    simp [splitPieces_of_not_mem h.whole, h.ne_dot]
  rw [components_eq, hopening, h.steps]
  rfl

/-- A component that can stand behind the opening of a path. -/
def IsStep (s : Component) : Prop := s = .up ∨ ∃ name, s = .normal name ∧ IsName name

/-- A piece makes a climb or a name of itself. -/
theorem isStep_of_mem_steps {p : Path} {s : Component} (h : s ∈ p.steps) : IsStep s := by
  obtain ⟨piece, hmem, hpiece⟩ := List.mem_filterMap.mp h
  unfold component? at hpiece
  split at hpiece
  case isTrue => cases hpiece
  case isFalse hblank =>
    split at hpiece
    case isTrue => exact .inl (Option.some.inj hpiece).symm
    case isFalse hdown =>
      exact .inr ⟨piece, (Option.some.inj hpiece).symm,
        ⟨by simpa using hblank, hdown, not_mem_of_mem_pieces hmem⟩⟩

/-- The path that names lead to, from one directory to the next. -/
def descend (p : Path) (names : Disk.Place) : Path := names.foldl (fun p name => p.join ⟨name⟩) p

theorem descend_concat (p : Path) (names : Disk.Place) (name : OsText) :
    p.descend (names ++ [name]) = (p.descend names).join ⟨name⟩ := by
  rw [descend, List.foldl_append]
  rfl

/-- Names that are walked down become the last components. -/
theorem components_descend {p : Path} (hp : p.raw ≠ []) {names : Disk.Place}
    (h : ∀ name ∈ names, IsName name) :
    (p.descend names).components = p.components ++ names.map .normal := by
  induction names generalizing p with
  | nil => simp [descend]
  | cons name names ih =>
    have hname := h name List.mem_cons_self
    have hrest := ih (join_raw_ne hp hname.relative) fun n hn => h n (List.mem_cons_of_mem _ hn)
    rw [descend, List.foldl_cons, ← descend, hrest, components_join hp hname.relative, hname.steps]
    simp

/-! ### Paths that descend -/

/-- A relative path without `..`. -/
structure Descends (p : Path) : Prop where
  relative : p.isAbsolute = false
  noUp : Component.up ∉ p.components

instance (p : Path) : Decidable p.Descends :=
  decidable_of_iff (p.isAbsolute = false ∧ Component.up ∉ p.components)
    ⟨fun h => ⟨h.1, h.2⟩, fun h => ⟨h.relative, h.noUp⟩⟩

theorem Descends.notMem_pieces {p : Path} (h : p.Descends) : upName ∉ p.pieces := by
  intro hmem
  have hstep : Component.up ∈ p.steps := List.mem_filterMap.mpr ⟨upName, hmem, by decide⟩
  exact h.noUp (by rw [components_eq]; exact List.mem_append_right _ hstep)

/-- A path that only descends consists of names. -/
theorem Descends.exists_names {p : Path} (h : p.Descends) :
    ∃ names : Disk.Place, p.steps = names.map .normal ∧ ∀ name ∈ names, IsName name := by
  -- a step is a name or `..`, and there is no `..`
  have hstep : ∀ s ∈ p.steps, ∃ name, s = Component.normal name ∧ IsName name := by
    intro s hs
    refine (isStep_of_mem_steps hs).resolve_left ?_
    rintro rfl
    exact h.noUp (by rw [components_eq]; exact List.mem_append_right _ hs)
  generalize p.steps = ss at hstep
  induction ss with
  | nil => exact ⟨[], rfl, fun name hname => by cases hname⟩
  | cons s ss ih =>
    obtain ⟨name, rfl, hname⟩ := hstep s List.mem_cons_self
    obtain ⟨names, rfl, hnames⟩ := ih fun s hs => hstep s (List.mem_cons_of_mem _ hs)
    refine ⟨name :: names, rfl, fun n hn => ?_⟩
    rcases List.mem_cons.mp hn with rfl | hn
    · exact hname
    · exact hnames n hn

end DispatchGen.Path

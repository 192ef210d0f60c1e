/-
DispatchGen/Proofs/PathMeaning.lean

What a path means, and cleaning as its normal form.

Read from its end, a path needs no stack: a `..` waits for the next name and takes it back, and a
name that no `..` waits for stays.  What is left is the meaning of the path: whether it starts at
the root, the `..` that found no name, and the names that stayed.  `..` at the root leads back to
the root, so a path from there has no climbs.

A run of `cleanStep` over any steps does what the steps mean (`foldl_cleanStep_eq`), so a cleaned
path is its meaning written down (`components_clean_eq`), and cleaning again changes nothing.
Meanings compose as paths are joined (`meaning_join`), which makes cleaning a congruence.

A meaning says no more than where the path leads: two paths mean the same exactly if from every
directory they lead to the same place (`meaning_eq_iff_follow`).

Main statement: `clean_normalForm`.
-/
import DispatchGen.Proofs.CleanPath
import DispatchGen.Proofs.JoinedPath
import DispatchGen.Proofs.LinkFreeWalk

namespace DispatchGen.Path

variable {p q : Path} {cs ds done : List Component}

/-! ### Meanings -/

/-- Steps, read from the last to the first: how many `..` find no name before them, and the names
that none takes back. -/
def readBack : List Component → Nat × List OsText
  | [] => (0, [])
  | .up :: cs => ((readBack cs).1 + 1, (readBack cs).2)
  | .normal name :: cs =>
      if (readBack cs).1 = 0 then (0, name :: (readBack cs).2)
      else ((readBack cs).1 - 1, (readBack cs).2)
  | _ :: cs => readBack cs

/-- What a path means without a look at the disk. -/
@[ext] structure Meaning where
  absolute : Bool
  climbs : Nat
  names : List OsText
deriving DecidableEq

/-- The climbs of a path that starts at the root come to nothing. -/
def Meaning.of (absolute : Bool) (climbs : Nat) (names : List OsText) : Meaning :=
  ⟨absolute, if absolute then 0 else climbs, names⟩

def meaning (p : Path) : Meaning :=
  .of p.isAbsolute (readBack p.components).1 (readBack p.components).2

/-- One path after another: what the second climbs takes names of the first back, and then climbs
on from where the first starts. -/
def Meaning.andThen (m n : Meaning) : Meaning :=
  if n.absolute then n
  else .of m.absolute (m.climbs + (n.climbs - m.names.length))
    (m.names.take (m.names.length - n.climbs) ++ n.names)

/-- Steps that follow others undo as many of their names as they climb. -/
theorem readBack_append (cs ds : List Component) :
    readBack (cs ++ ds) =
      ((readBack cs).1 + ((readBack ds).1 - (readBack cs).2.length),
        (readBack cs).2.take ((readBack cs).2.length - (readBack ds).1) ++ (readBack ds).2) := by
  fun_induction readBack cs with
  | case1 => simp
  | case2 cs ih =>
    rw [List.cons_append, readBack, ih]
    simp only [Prod.mk.injEq, and_true]
    omega
  | case3 name cs hzero ih =>
    rw [List.cons_append, readBack, ih, hzero, Nat.zero_add, List.length_cons]
    by_cases hle : (readBack ds).1 ≤ (readBack cs).2.length
    · -- the climbs end before they come to the name
      rw [if_pos (Nat.sub_eq_zero_of_le hle), Nat.succ_sub hle, List.take_succ_cons,
        Nat.sub_eq_zero_of_le (Nat.le_succ_of_le hle), List.cons_append]
    · have hlt := Nat.lt_of_not_le hle
      rw [if_neg (Nat.sub_ne_zero_of_lt hlt), Nat.sub_eq_zero_of_le (Nat.le_of_lt hlt),
        Nat.sub_eq_zero_of_le hlt, List.take_zero, List.take_zero, Nat.zero_add, Nat.sub_sub]
  | case4 name cs hpos ih =>
    rw [List.cons_append, readBack, ih, if_neg (by omega)]
    simp only [Prod.mk.injEq, and_true]
    omega
  | case5 c cs hup hname ih =>
    cases c with
    | up => exact absurd rfl hup
    | normal name => exact absurd rfl (hname name)
    | root => exact ih
    | here => exact ih

theorem readBack_names (names : List OsText) :
    readBack (names.map .normal) = (0, names) := by
  induction names with
  | nil => rfl
  | cons name names ih => rw [List.map_cons, readBack, ih, if_pos rfl]

theorem readBack_ups (n : Nat) (cs : List Component) :
    readBack (List.replicate n .up ++ cs) = (n + (readBack cs).1, (readBack cs).2) := by
  induction n with
  | zero => simp
  | succ n ih => rw [List.replicate_succ, List.cons_append, readBack, ih, Nat.add_right_comm]

/-- What opens a path is not counted. -/
theorem readBack_components (p : Path) : readBack p.components = readBack p.steps := by
  rw [components_eq, opening]
  split
  case isTrue => rfl
  case isFalse => split <;> rfl

theorem root_notMem_steps (p : Path) : .root ∉ p.steps := fun h => by
  simpa [IsStep] using isStep_of_mem_steps h

/-- A path starts at the root exactly if the root is one of its components. -/
theorem isAbsolute_iff_root : p.isAbsolute = true ↔ .root ∈ p.components := by
  rw [components_eq, List.mem_append, or_iff_left (root_notMem_steps p), opening]
  split
  case isTrue habsolute => simp [habsolute]
  case isFalse hrelative => split <;> simp [hrelative]

/-! ### Cleaning writes the meaning down -/

/-- What opens a cleaned path: the root, or a number of `..`. -/
def base (absolute : Bool) (n : Nat) : List Component :=
  if absolute then [.root] else List.replicate n .up

theorem base_true (n : Nat) : base true n = [.root] := rfl

theorem base_false (n : Nat) : base false n = List.replicate n .up := rfl

/-- A `.` that opens a relative path is left out. -/
theorem foldl_opening (h : p.isAbsolute = false) : p.opening.foldl cleanStep [] = [] := by
  rw [opening, h, if_neg Bool.false_ne_true]
  split <;> rfl

theorem foldl_cleanStep_ups (k n : Nat) :
    (List.replicate k Component.up).foldl cleanStep (List.replicate n .up)
      = List.replicate (n + k) .up := by
  induction k generalizing n with
  | zero => rfl
  | succ k ih =>
    have hstep : cleanStep (List.replicate n .up) .up = List.replicate (n + 1) .up := by
      cases n <;> rfl
    rw [List.replicate_succ, List.foldl_cons, hstep, ih, Nat.add_right_comm, Nat.add_assoc]

/-- A run of cleaning over steps: the climbs that are left go on from where it starts, and the
names that are left follow. -/
theorem foldl_cleanStep_eq (hroot : .root ∉ cs) (done : List Component) :
    cs.foldl cleanStep done = ((readBack cs).2.map .normal).reverse
      ++ (List.replicate (readBack cs).1 .up).foldl cleanStep done := by
  fun_induction readBack cs generalizing done with
  | case1 => rfl
  | case2 cs ih =>
    rw [List.foldl_cons, ih (fun h => hroot (List.mem_cons_of_mem _ h)), List.replicate_succ,
      List.foldl_cons]
  | case3 name cs hzero ih =>
    rw [List.foldl_cons, ih (fun h => hroot (List.mem_cons_of_mem _ h)), hzero, List.map_cons,
      List.reverse_cons, List.append_assoc]
    rfl
  | case4 name cs hpos ih =>
    -- the first climb takes the name back
    obtain ⟨n, hn⟩ := Nat.exists_eq_succ_of_ne_zero hpos
    rw [List.foldl_cons, ih (fun h => hroot (List.mem_cons_of_mem _ h)), hn, List.replicate_succ,
      List.foldl_cons]
    rfl
  | case5 c cs hup hname ih =>
    cases c with
    | up => exact absurd rfl hup
    | normal name => exact absurd rfl (hname name)
    | root => exact absurd List.mem_cons_self hroot
    | here => exact ih (fun h => hroot (List.mem_cons_of_mem _ h)) done

/-- At the root, `..` leads nowhere else. -/
theorem foldl_cleanStep_root (n : Nat) :
    (List.replicate n Component.up).foldl cleanStep [.root] = [.root] := by
  induction n with
  | zero => rfl
  | succ n ih => exact ih

/-- A cleaned path spells its meaning. -/
theorem components_clean_eq (p : Path) :
    p.clean.components
      = base p.meaning.absolute p.meaning.climbs ++ p.meaning.names.map .normal := by
  have hdone : p.components.foldl cleanStep []
      = ((readBack p.steps).2.map .normal).reverse
        ++ (List.replicate (readBack p.steps).1 .up).foldl cleanStep
            (p.opening.foldl cleanStep []) := by
    rw [components_eq, List.foldl_append, foldl_cleanStep_eq (root_notMem_steps p)]
  rw [components_clean, cleanComponents, hdone, List.reverse_append, List.reverse_reverse,
    meaning, readBack_components, Meaning.of]
  congr 1
  cases habsolute : p.isAbsolute with
  | true =>
    rw [opening, habsolute]
    exact congrArg List.reverse (foldl_cleanStep_root _)
  | false =>
    have hups := foldl_cleanStep_ups (readBack p.steps).1 0
    rw [Nat.zero_add] at hups
    rw [foldl_opening habsolute, ← List.replicate_zero, hups]
    exact List.reverse_replicate

/-- A meaning that is written down is read back. -/
theorem of_readBack_base (absolute : Bool) (n : Nat) (names : List OsText) :
    Meaning.of absolute (readBack (base absolute n ++ names.map .normal)).1
      (readBack (base absolute n ++ names.map .normal)).2 = Meaning.of absolute n names := by
  cases absolute with
  | true => simp [base_true, readBack, readBack_names, Meaning.of]
  | false => simp [base_false, readBack_ups, readBack_names, Meaning.of]

/-- Cleaning keeps the meaning. -/
theorem meaning_clean (p : Path) : p.clean.meaning = p.meaning := by
  have hcomponents := components_clean_eq p
  have habsolute : p.clean.isAbsolute = p.meaning.absolute := by
    rw [Bool.eq_iff_iff, isAbsolute_iff_root, hcomponents]
    cases p.meaning.absolute <;> simp [base]
  rw [meaning, hcomponents, habsolute, of_readBack_base]
  cases habsolute : p.isAbsolute <;> simp [meaning, Meaning.of, habsolute]

theorem clean_eq_iff : p.clean = q.clean ↔ p.clean.components = q.clean.components := by
  constructor
  · exact congrArg components
  · intro h
    rw [components_clean, components_clean] at h
    rw [clean, clean, h]

/-- Paths are cleaned alike exactly if they mean the same. -/
theorem clean_eq_iff_meaning : p.clean = q.clean ↔ p.meaning = q.meaning := by
  constructor
  · intro h
    rw [← meaning_clean, h, meaning_clean]
  · intro h
    rw [clean_eq_iff, components_clean_eq, components_clean_eq, h]

/-! ### Joining composes meanings -/

theorem meaning_of_relative (hq : q.isAbsolute = false) :
    q.meaning = ⟨false, (readBack q.steps).1, (readBack q.steps).2⟩ := by
  rw [meaning, hq, readBack_components]
  rfl

/-- A join means what its paths mean, one after the other. -/
theorem meaning_join (p q : Path) : (p.join q).meaning = p.meaning.andThen q.meaning := by
  cases hq : q.isAbsolute with
  | true =>
    have habsolute : q.meaning.absolute = true := hq
    rw [join, if_pos hq, Meaning.andThen, if_pos habsolute]
  | false =>
    rw [meaning_of_relative hq, Meaning.andThen, if_neg Bool.false_ne_true]
    by_cases hempty : p.raw = []
    case pos =>
      obtain ⟨raw⟩ := p
      cases hempty
      have hmeaning : (⟨[]⟩ : Path).meaning = ⟨false, 0, []⟩ := by decide
      rw [join_of_raw_empty rfl, meaning_of_relative hq, hmeaning]
      simp [Meaning.of]
    case neg =>
      rw [meaning, isAbsolute_join hempty hq, components_join hempty hq, readBack_append, meaning]
      cases p.isAbsolute <;> rfl

/-! ### Where meanings lead -/

open Disk

theorem follow_eq_of_readBack (hroot : .root ∉ cs) (place : Place) :
    place.follow cs = place.take (place.length - (readBack cs).1) ++ (readBack cs).2 := by
  fun_induction readBack cs generalizing place with
  | case1 => simp [Place.follow]
  | case2 cs ih =>
    have hlast : place.dropLast.take (place.dropLast.length - (readBack cs).1)
        = place.take (place.length - ((readBack cs).1 + 1)) := by
      rw [List.dropLast_eq_take, List.take_take, List.length_take]
      congr 1
      omega
    rw [Place.follow, List.foldl_cons, ← Place.follow, Place.step,
      ih fun h => hroot (List.mem_cons_of_mem _ h), hlast]
  | case3 name cs hzero ih =>
    rw [Place.follow, List.foldl_cons, ← Place.follow, Place.step,
      ih fun h => hroot (List.mem_cons_of_mem _ h), hzero,
      Nat.sub_zero, Nat.sub_zero, List.take_length, List.take_length, List.append_assoc]
    rfl
  | case4 name cs hpos ih =>
    -- the name is taken back, so the place loses one name less
    have hless : (place ++ [name]).length - (readBack cs).1
        = place.length - ((readBack cs).1 - 1) := by
      rw [List.length_append, List.length_singleton]
      omega
    rw [Place.follow, List.foldl_cons, ← Place.follow, Place.step,
      ih fun h => hroot (List.mem_cons_of_mem _ h), hless,
      List.take_append_of_le_length (Nat.sub_le _ _)]
  | case5 c cs hup hname ih =>
    cases c with
    | up => exact absurd rfl hup
    | normal name => exact absurd rfl (hname name)
    | root => exact absurd List.mem_cons_self hroot
    | here => exact ih (fun h => hroot (List.mem_cons_of_mem _ h)) place

/-- From a place, a path leads where its meaning does: up as often as it climbs, at most to the
root, and down by its names. -/
theorem follow_components (place : Place) (p : Path) :
    place.follow p.components = if p.meaning.absolute then p.meaning.names
      else place.take (place.length - p.meaning.climbs) ++ p.meaning.names := by
  rw [components_eq, Place.follow_append, follow_eq_of_readBack (root_notMem_steps p), meaning,
    readBack_components, Meaning.of]
  cases habsolute : p.isAbsolute with
  | true => simp [opening, habsolute, Place.follow, Place.step]
  | false =>
    have hopening : place.follow p.opening = place := by
      rw [opening, habsolute, if_neg Bool.false_ne_true]
      split <;> rfl
    rw [hopening]
    rfl

/-- Two paths mean the same exactly if they lead to the same place, wherever they start. -/
theorem meaning_eq_iff_follow : p.meaning = q.meaning ↔
    ∀ place : Place, place.follow p.components = place.follow q.components := by
  constructor
  · intro h place
    rw [follow_components, follow_components, h]
  · intro h
    have hnames : p.meaning.names = q.meaning.names := by
      have hroot := h []
      rw [follow_components, follow_components] at hroot
      simpa using hroot
    -- from far enough down, a path that starts at the root goes up furthest, and of the others
    -- the one that climbs more
    have hlength := congrArg List.length (h (List.replicate
      (p.meaning.climbs + q.meaning.climbs + 1) "down"))
    rw [follow_components, follow_components, hnames] at hlength
    have hclimbs : ∀ r : Path, r.meaning.absolute = true → r.meaning.climbs = 0 :=
      fun r hr => if_pos hr
    have hp := hclimbs p
    have hq := hclimbs q
    refine Meaning.ext ?_ ?_ hnames <;>
      cases hpa : p.meaning.absolute <;> cases hqa : q.meaning.absolute <;>
      simp only [hpa, hqa, if_true, if_false, Bool.false_eq_true, List.length_append,
        List.length_take, List.length_replicate, true_implies] at hlength hp hq ⊢ <;>
      omega

/-! ### Main statement -/

/-- A path without `.`, in which every `..` stands ahead of all names, and none behind the
root. -/
structure IsNormal (p : Path) : Prop where
  noHere : .here ∉ p.components
  upsFirst : p.components.Pairwise fun earlier later => later = .up → earlier = .up

/-- A cleaned path is in normal form. -/
theorem isNormal_clean (p : Path) : IsNormal p.clean := by
  have hnames : ∀ s ∈ p.meaning.names.map Component.normal, s ≠ .up := by simp
  refine ⟨?_, ?_⟩ <;> rw [components_clean_eq]
  · cases p.meaning.absolute <;> simp [base]
  · rw [List.pairwise_append]
    refine ⟨?_, List.pairwise_of_forall_mem_list fun s _ t ht hup => absurd hup (hnames t ht),
      fun s _ t ht hup => absurd hup (hnames t ht)⟩
    cases p.meaning.absolute with
    | true => exact List.pairwise_singleton _ _
    | false => exact List.pairwise_replicate.mpr (.inr fun h => h)

/-- **Cleaning is a normal form.**  A cleaned path has no `.`, and no `..` behind a name or the
root; cleaning it again changes nothing.  Two paths are cleaned to the same path exactly if they
mean the same: both start at the root or neither does, they leave as many directories upwards, and
they go on by the same names.  That is so exactly if they lead to the same place from every
directory.  Where paths are joined, it makes no difference whether they are cleaned before. -/
theorem clean_normalForm :
    (∀ p : Path, IsNormal p.clean) ∧
    (∀ p : Path, p.clean.clean = p.clean) ∧
    (∀ p q : Path, p.clean = q.clean ↔ p.meaning = q.meaning) ∧
    (∀ p q : Path, p.clean = q.clean ↔
      ∀ place : Place, place.follow p.components = place.follow q.components) ∧
    (∀ p q : Path, (p.join q).clean = (p.clean.join q.clean).clean) := by
  refine ⟨isNormal_clean, fun p => ?_, fun p q => clean_eq_iff_meaning, fun p q => ?_,
    fun p q => ?_⟩
  · rw [clean_eq_iff_meaning, meaning_clean]
  · rw [clean_eq_iff_meaning, meaning_eq_iff_follow]
  · rw [clean_eq_iff_meaning, meaning_join, meaning_join, meaning_clean, meaning_clean]

end DispatchGen.Path

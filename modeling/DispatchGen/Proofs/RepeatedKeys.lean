/-
DispatchGen/Proofs/RepeatedKeys.lean

Which of the items of a list are reported for repeating a key.

The items are gone through once, and each is compared with those before it.  What comes of that
is told by positions: an item is reported if its key stands at an earlier place as well, and the
item it is reported with is the one at the first place of that key, however often the key returns
(`Repeats`, `Places`).  The induction is on the list from its end, because an item is
compared with what precedes it (`repeats_concat`); each item that is not reported brings a key of
its own, which counts the reports (`length_repeats`).
-/
import DispatchGen.Lint
import Mathlib.Data.Finset.Card

namespace DispatchGen.Lint

/-! ### Places of a key -/

section Keys

variable {β : Type}

/-- The first place of a key. -/
def FirstAt (keys : List β) (k : β) (i : Nat) : Prop :=
  keys[i]? = some k ∧ ∀ m < i, keys[m]? ≠ some k

/-- At `j` there is a key that has been there before, for the first time at `i`. -/
def Repeats (keys : List β) (i j : Nat) : Prop :=
  i < j ∧ ∃ k, keys[j]? = some k ∧ FirstAt keys k i

theorem FirstAt.lt_length {keys : List β} {k : β} {i : Nat} (h : FirstAt keys k i) :
    i < keys.length := by
  obtain ⟨hlt, -⟩ := List.getElem?_eq_some_iff.mp h.1
  exact hlt

theorem Repeats.lt_length {keys : List β} {i j : Nat} (h : Repeats keys i j) :
    i < keys.length ∧ j < keys.length := by
  obtain ⟨hij, k, hkey, -⟩ := h
  obtain ⟨hj, -⟩ := List.getElem?_eq_some_iff.mp hkey
  exact ⟨hij.trans hj, hj⟩

theorem FirstAt.unique {keys : List β} {k : β} {i j : Nat} (hi : FirstAt keys k i)
    (hj : FirstAt keys k j) : i = j := by
  rcases Nat.lt_trichotomy i j with hlt | heq | hgt
  · exact absurd hi.1 (hj.2 i hlt)
  · exact heq
  · exact absurd hj.1 (hi.2 j hgt)

theorem firstAt_append {keys : List β} {i : Nat} (hi : i < keys.length) (k : β)
    (later : List β) : FirstAt (keys ++ later) k i ↔ FirstAt keys k i := by
  have hpart : ∀ m < keys.length, (keys ++ later)[m]? = keys[m]? := by
    intro m hm
    exact List.getElem?_append_left hm
  constructor
  · rintro ⟨hkey, hfirst⟩
    refine ⟨hpart i hi ▸ hkey, fun m hm => ?_⟩
    rw [← hpart m (hm.trans hi)]
    exact hfirst m hm
  · rintro ⟨hkey, hfirst⟩
    refine ⟨(hpart i hi).trans hkey, fun m hm => ?_⟩
    rw [hpart m (hm.trans hi)]
    exact hfirst m hm

/-- One more key is one more place to look at. -/
theorem repeats_concat_iff {keys : List β} {k : β} {i j : Nat} :
    Repeats (keys ++ [k]) i j ↔ Repeats keys i j ∨ j = keys.length ∧ FirstAt keys k i := by
  constructor
  · intro h
    have hlast := h.lt_length.2
    rw [List.length_append, List.length_singleton] at hlast
    obtain ⟨hij, k', hkey, hfirst⟩ := h
    have hi : i < keys.length := by omega
    rw [firstAt_append hi] at hfirst
    rcases Nat.lt_or_ge j keys.length with hj | hj
    · rw [List.getElem?_append_left hj] at hkey
      exact .inl ⟨hij, k', hkey, hfirst⟩
    · obtain rfl : j = keys.length := by omega
      rw [List.getElem?_concat_length] at hkey
      obtain rfl := Option.some.inj hkey
      exact .inr ⟨rfl, hfirst⟩
  · rintro (h | ⟨rfl, hfirst⟩)
    · obtain ⟨hi, hj⟩ := h.lt_length
      obtain ⟨hij, k', hkey, hfirst⟩ := h
      refine ⟨hij, k', ?_, (firstAt_append hi k' [k]).mpr hfirst⟩
      rw [List.getElem?_append_left hj]
      exact hkey
    · have hi := hfirst.lt_length
      exact ⟨hi, k, List.getElem?_concat_length, (firstAt_append hi k [k]).mpr hfirst⟩

end Keys

/-! ### Items that repeat a key -/

section Items

variable {α β : Type} [DecidableEq β] (key : α → β)

theorem repeats_append (seen xs ys : List α) :
    repeats key seen (xs ++ ys) = repeats key seen xs ++ repeats key (seen ++ xs) ys := by
  induction xs generalizing seen with
  | nil => simp [repeats]
  | cons x xs ih => simp [repeats, ih]

/-- The last item is compared with all the others. -/
theorem repeats_concat (xs : List α) (x : α) :
    repeats key [] (xs ++ [x])
      = repeats key [] xs ++ ((xs.find? fun y => key y = key x).map (·, x)).toList := by
  rw [repeats_append, List.nil_append, repeats, repeats, List.append_nil]
  cases xs.find? fun y => key y = key x <;> rfl

theorem repeats_of_injective {γ : Type} [DecidableEq γ] {f : β → γ} (hf : Function.Injective f)
    (seen xs : List α) : repeats (fun x => f (key x)) seen xs = repeats key seen xs := by
  induction xs generalizing seen with
  | nil => rfl
  | cons x xs ih => simp only [repeats, hf.eq_iff, ih]

variable {key}

theorem find?_eq_none_iff {xs : List α} {k : β} :
    xs.find? (fun y => key y = k) = none ↔ k ∉ xs.map key := by
  simp

/-- An item found by its key stands at the first place of that key. -/
theorem exists_firstAt {xs : List α} {k : β} {first : α}
    (h : xs.find? (fun y => key y = k) = some first) :
    ∃ i, xs[i]? = some first ∧ FirstAt (xs.map key) k i := by
  obtain ⟨hkey, i, hi, rfl, hbefore⟩ := List.find?_eq_some_iff_getElem.mp h
  refine ⟨i, List.getElem?_eq_getElem hi, ?_, fun m hm => ?_⟩
  · rw [List.getElem?_map, List.getElem?_eq_getElem hi]
    exact congrArg some (of_decide_eq_true hkey)
  · have hdiffers := hbefore m hm
    rw [List.getElem?_map, List.getElem?_eq_getElem (hm.trans hi)]
    simpa using hdiffers

theorem not_firstAt {xs : List α} {k : β} (h : xs.find? (fun y => key y = k) = none) (i : Nat) :
    ¬ FirstAt (xs.map key) k i := by
  rintro ⟨hkey, -⟩
  exact find?_eq_none_iff.mp h (List.mem_of_getElem? hkey)

variable (key)

/-- The pairs that are reported, told by their places: one for each place that repeats a key, in
order, with the first place of that key. -/
structure Places (xs : List α) (places : List (Nat × Nat)) : Prop where
  pairs : (repeats key [] xs).map (fun x => (some x.1, some x.2))
    = places.map (fun x => (xs[x.1]?, xs[x.2]?))
  ordered : places.Pairwise (fun x y => x.2 < y.2)
  mem : ∀ i j, (i, j) ∈ places ↔ Repeats (xs.map key) i j

variable {key}

/-- The places are within the list. -/
theorem Places.lt_length {xs : List α} {places : List (Nat × Nat)} (h : Places key xs places)
    {a : Nat × Nat} (ha : a ∈ places) : a.1 < xs.length ∧ a.2 < xs.length := by
  simpa using ((h.mem a.1 a.2).mp ha).lt_length

/-- So they are the same places with one more item at the end. -/
theorem Places.pairs_concat {xs : List α} {places : List (Nat × Nat)} (h : Places key xs places)
    (x : α) :
    places.map (fun a => ((xs ++ [x])[a.1]?, (xs ++ [x])[a.2]?))
      = (repeats key [] xs).map (fun x => (some x.1, some x.2)) := by
  rw [h.pairs]
  refine List.map_congr_left fun a ha => ?_
  obtain ⟨hfirst, hsecond⟩ := h.lt_length ha
  rw [List.getElem?_append_left hfirst, List.getElem?_append_left hsecond]

/-- An item with a new key is not reported. -/
theorem Places.concat_new {xs : List α} {places : List (Nat × Nat)} (h : Places key xs places)
    {x : α} (hfind : xs.find? (fun y => key y = key x) = none) :
    Places key (xs ++ [x]) places := by
  refine ⟨?pairs, h.ordered, fun i j => ?mem⟩
  case pairs =>
    rw [h.pairs_concat, repeats_concat, hfind]
    simp
  case mem =>
    rw [h.mem, List.map_append, List.map_singleton, repeats_concat_iff, or_iff_left]
    exact fun hlast => not_firstAt hfind i hlast.2

/-- An item with a key that has been there is reported with the first place of the key. -/
theorem Places.concat_repeated {xs : List α} {places : List (Nat × Nat)}
    (h : Places key xs places) {x first : α}
    (hfind : xs.find? (fun y => key y = key x) = some first) :
    ∃ i, Places key (xs ++ [x]) (places ++ [(i, xs.length)]) := by
  obtain ⟨i, hi, hfirst⟩ := exists_firstAt hfind
  have hlt : i < xs.length := by simpa using hfirst.lt_length
  refine ⟨i, ?pairs, ?ordered, fun i' j => ?mem⟩
  case pairs =>
    have hlast : (xs ++ [x])[xs.length]? = some x := List.getElem?_concat_length
    rw [List.map_append, h.pairs_concat, repeats_concat, hfind, List.map_append]
    simp [List.getElem?_append_left hlt, hi]
  case ordered =>
    refine List.pairwise_append.mpr ⟨h.ordered, List.pairwise_singleton _ _, ?_⟩
    intro a ha b hb
    rw [List.mem_singleton.mp hb]
    exact (h.lt_length ha).2
  case mem =>
    rw [List.mem_append, h.mem, List.mem_singleton, Prod.mk.injEq, List.map_append,
      List.map_singleton, repeats_concat_iff, List.length_map]
    refine or_congr_right ⟨?_, ?_⟩
    · rintro ⟨rfl, rfl⟩
      exact ⟨rfl, hfirst⟩
    · rintro ⟨rfl, h⟩
      exact ⟨h.unique hfirst, rfl⟩

variable (key)

theorem exists_places (xs : List α) : ∃ places, Places key xs places := by
  induction xs using List.reverseRecOn with
  | nil => exact ⟨[], rfl, .nil, fun i j => by simp [Repeats]⟩
  | append_singleton xs x ih =>
    obtain ⟨places, h⟩ := ih
    cases hfind : xs.find? fun y => key y = key x with
    | none => exact ⟨places, h.concat_new hfind⟩
    | some first =>
      obtain ⟨i, hlast⟩ := h.concat_repeated hfind
      exact ⟨places ++ [(i, xs.length)], hlast⟩

/-- What is made of the pairs that are reported, told by their places. -/
theorem exists_places_map {γ : Type} (report : α → α → γ) (xs : List α) :
    ∃ places : List (Nat × Nat),
      ((repeats key [] xs).map fun x => report x.1 x.2).map some
        = places.map (fun x => do return report (← xs[x.1]?) (← xs[x.2]?)) ∧
      places.Pairwise (fun x y => x.2 < y.2) ∧
      ∀ i j, (i, j) ∈ places ↔ Repeats (xs.map key) i j := by
  obtain ⟨places, h⟩ := exists_places key xs
  refine ⟨places, ?_, h.ordered, h.mem⟩
  have hreports := congrArg (List.map fun x => (do
    return report (← x.1) (← x.2) : Option γ)) h.pairs
  rw [List.map_map, List.map_map] at hreports
  rw [List.map_map]
  exact hreports

/-- An item is reported, or it brings a key that was not there. -/
theorem length_repeats (xs : List α) :
    (repeats key [] xs).length + (xs.map key).toFinset.card = xs.length := by
  induction xs using List.reverseRecOn with
  | nil => rfl
  | append_singleton xs x ih =>
    have hkeys : ((xs ++ [x]).map key).toFinset = insert (key x) (xs.map key).toFinset := by
      ext k
      simp
    rw [repeats_concat, List.length_append, hkeys, List.length_append, List.length_singleton]
    cases hfind : xs.find? fun y => key y = key x with
    | none =>
      have hnew : key x ∉ (xs.map key).toFinset := by
        rw [List.mem_toFinset]
        exact find?_eq_none_iff.mp hfind
      rw [Finset.card_insert_of_notMem hnew]
      simp only [Option.map_none, Option.toList_none, List.length_nil]
      omega
    | some first =>
      have hold : key x ∈ (xs.map key).toFinset := by
        rw [List.mem_toFinset]
        by_contra hnew
        rw [find?_eq_none_iff.mpr hnew] at hfind
        cases hfind
      rw [Finset.insert_eq_of_mem hold]
      simp only [Option.map_some, Option.toList_some, List.length_singleton]
      omega

/-- Nothing is reported exactly if the keys differ from one another. -/
theorem repeats_eq_nil_iff (xs : List α) : repeats key [] xs = [] ↔ (xs.map key).Nodup := by
  have hcount := length_repeats key xs
  have hnodup := Multiset.toFinset_card_eq_card_iff_nodup (m := (↑(xs.map key) : Multiset β))
  rw [Multiset.coe_nodup, Multiset.coe_card, List.toFinset_coe, List.length_map] at hnodup
  rw [← hnodup, ← List.length_eq_zero_iff]
  omega

end Items

end DispatchGen.Lint

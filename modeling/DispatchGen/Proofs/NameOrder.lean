/-
DispatchGen/Proofs/NameOrder.lean

Names in order.

The names that a table refers to are kept in a list by insertion
(`sortedNames`); it holds each of them once, in increasing order.  The order is
that of the characters, and it is the same as that of the bytes in which a name
is stored (`lt_iff_bytes_lt`): a character's bytes settle the comparison by
themselves, because a smaller character never has a later first difference
(`utf8EncodeChar_append_lt`).
-/
import DispatchGen.Proofs.SystemText
import DispatchGen.Table

namespace DispatchGen

open OsText

/-! ### The order of bytes -/

/-- The smaller of two numbers is smaller in its leading digits, or in the last. -/
theorem lt_digits {m n : Nat} (B : Nat) (h : m < n) :
    m / B < n / B ∨ m / B = n / B ∧ m % B < n % B := by
  rcases Nat.lt_or_eq_of_le (Nat.div_le_div_right (c := B) h.le) with hlt | heq
  · exact .inl hlt
  · refine .inr ⟨heq, ?_⟩
    have hm := Nat.div_add_mod m B
    have hn := Nat.div_add_mod n B
    rw [heq] at hm
    omega

/-- The bytes of a smaller character come before those of a larger one, whatever
follows either. -/
theorem utf8EncodeChar_append_lt {c d : Char} (h : c < d) (x y : List UInt8) :
    String.utf8EncodeChar c ++ x < String.utf8EncodeChar d ++ y := by
  have hlt : c.val.toNat < d.val.toNat := UInt32.lt_iff_toNat_lt.mp h
  have hmax : d.val.toNat < 0x110000 := by
    have hvalid := d.valid
    simp only [UInt32.isValidChar, Nat.isValidChar] at hvalid
    omega
  simp only [String.utf8EncodeChar]
  generalize c.val.toNat = m at *
  generalize d.val.toNat = n at *
  -- Digits to the base 64, from the last one up.
  have h₁ := lt_digits 64 hlt
  have h₂ := lt_digits (m := m / 64) (n := n / 64) 64
  have h₃ := lt_digits (m := m / 64 / 64) (n := n / 64 / 64) 64
  simp only [Nat.div_div_eq_div_mul, Nat.reduceMul] at h₁ h₂ h₃
  split_ifs <;>
    simp only [List.cons_append, List.nil_append, List.cons_lt_cons_iff, UInt8.lt_iff_toNat_lt,
      ← UInt8.toNat_inj, UInt8.toNat_ofNat'] <;>
    simp (disch := omega) only [Nat.mod_eq_of_lt] <;>
    omega

theorem flatMap_utf8EncodeChar_lt {cs ds : List Char} (h : cs < ds) :
    cs.flatMap String.utf8EncodeChar < ds.flatMap String.utf8EncodeChar := by
  induction h with
  | @nil d ds =>
    obtain ⟨b, bs, hbytes⟩ := List.exists_cons_of_ne_nil (String.utf8EncodeChar_ne_nil (c := d))
    rw [List.flatMap_cons, hbytes]
    exact List.nil_lt_cons b _
  | @cons c cs ds _ ih =>
    rw [List.flatMap_cons, List.flatMap_cons]
    exact List.append_left_lt ih
  | @rel c cs d ds hlt => exact utf8EncodeChar_append_lt hlt _ _

/-- Names are in order exactly if their bytes are. -/
theorem lt_iff_bytes_lt {s t : String} : s < t ↔ ofText s < ofText t := by
  have hforward : ∀ {s t : String}, s < t → ofText s < ofText t := by
    intro s t h
    rw [ofText_eq_flatMap, ofText_eq_flatMap]
    exact flatMap_utf8EncodeChar_lt h
  -- the order of names is total, so the other direction follows
  refine ⟨hforward, fun h => ?_⟩
  rcases lt_trichotomy s t with hlt | rfl | hgt
  · exact hlt
  · exact absurd h (List.lt_irrefl _)
  · exact absurd h (List.lt_asymm (hforward hgt))

/-! ### Insertion -/

theorem mem_insertName {name x : String} {names : List String} :
    x ∈ insertName name names ↔ x = name ∨ x ∈ names := by
  induction names with
  | nil => simp [insertName]
  | cons n ns ih =>
    simp only [insertName]
    split
    · simp
    · split
      case isTrue heq =>
        subst heq
        simp
      case isFalse =>
        simp only [List.mem_cons, ih]
        tauto

theorem mem_sortedNames {x : String} {names : List String} :
    x ∈ sortedNames names ↔ x ∈ names := by
  induction names with
  | nil => simp [sortedNames]
  | cons n ns ih =>
    have hfold : sortedNames (n :: ns) = insertName n (sortedNames ns) := rfl
    rw [hfold, mem_insertName, ih, List.mem_cons]

theorem pairwise_insertName {name : String} {names : List String}
    (h : names.Pairwise (· < ·)) : (insertName name names).Pairwise (· < ·) := by
  induction names with
  | nil => exact List.pairwise_singleton _ _
  | cons n ns ih =>
    obtain ⟨hhead, htail⟩ := List.pairwise_cons.mp h
    simp only [insertName]
    split
    case isTrue hlt =>
      refine List.pairwise_cons.mpr ⟨fun x hx => ?_, h⟩
      rcases List.mem_cons.mp hx with rfl | hx
      · exact hlt
      · exact lt_trans hlt (hhead x hx)
    case isFalse hle =>
      split
      case isTrue => exact h
      case isFalse hne =>
        refine List.pairwise_cons.mpr ⟨fun x hx => ?_, ih htail⟩
        rcases mem_insertName.mp hx with rfl | hx
        · exact lt_of_le_of_ne (not_lt.mp hle) (Ne.symm hne)
        · exact hhead x hx

/-- Sorted names stand in strictly increasing order. -/
theorem pairwise_sortedNames (names : List String) : (sortedNames names).Pairwise (· < ·) := by
  induction names with
  | nil => exact List.Pairwise.nil
  | cons n ns ih => exact pairwise_insertName ih

end DispatchGen

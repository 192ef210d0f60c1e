/-
DispatchGen/Proofs/SystemText.lean

Texts among the strings of the system.

Storing a text loses nothing: a string is the bytes of at most one text
(`toText?_eq_some`), and it falls into the characters of that text (`chunks_ofText`), so it is
displayed as it is.  A character below U+0080 is one byte that no other character has, so such a
mark is in the bytes exactly if it is in the text (`mem_ofText_iff`).

No byte is lost between the chunks of a string, whatever it holds (`flatMap_chunks`).  So a display
without U+FFFD shows the string itself (`eq_ofText_of_display`), and one that is stored as the
string again is that of a text (`isSome_toText?_iff`).
-/
import DispatchGen.Text.Os
import Mathlib.Data.String.Basic
import Mathlib.Tactic.SplitIfs

namespace DispatchGen.OsText

/-! ### Storing a text -/

/-- A text is stored character by character. -/
theorem ofText_eq_flatMap (s : String) :
    ofText s = s.toList.flatMap String.utf8EncodeChar := by
  rw [ofText, String.toUTF8_eq_toByteArray, ← String.utf8Encode_toList, List.utf8Encode,
    List.data_toByteArray]

theorem ofText_append (s t : String) : ofText (s ++ t) = ofText s ++ ofText t := by
  simp only [ofText_eq_flatMap, String.toList_append, List.flatMap_append]

/-- Bytes are those of at most one text. -/
theorem fromUTF8?_eq_some {bytes : ByteArray} {text : String} :
    String.fromUTF8? bytes = some text ↔ bytes = text.toUTF8 := by
  constructor
  · intro h
    unfold String.fromUTF8? at h
    split at h
    case isTrue =>
      cases Option.some.inj h
      rfl
    case isFalse => cases h
  · rintro rfl
    have hvalid : text.toUTF8.IsValidUTF8 := text.isValidUTF8
    unfold String.fromUTF8?
    rw [dif_pos hvalid]
    rfl

/-- A string of the system is that of at most one text. -/
theorem toText?_eq_some {t : OsText} {s : String} : toText? t = some s ↔ t = ofText s := by
  rw [toText?, fromUTF8?_eq_some, ofText]
  constructor
  · intro h
    rw [← h]
  · rintro rfl
    rfl

/-- No two texts are stored alike. -/
theorem ofText_injective : Function.Injective ofText := by
  intro s s' h
  exact Option.some.inj ((toText?_eq_some.mpr rfl).symm.trans (toText?_eq_some.mpr h))

@[simp] theorem ofText_inj {s s' : String} : ofText s = ofText s' ↔ s = s' :=
  ofText_injective.eq_iff

theorem ofText_intercalate (sep : String) (ss : List String) :
    ofText (sep.intercalate ss) = (ofText sep).intercalate (ss.map ofText) := by
  induction ss with
  | nil => rfl
  | cons s ss ih =>
    cases ss with
    | nil => simp
    | cons s' ss =>
      rw [String.intercalate_cons_of_ne_nil (by simp), ofText_append, ofText_append, ih]
      simp [List.intercalate_cons_cons]

/-! ### Small characters -/

/-- A character below U+0080 is one byte, and others have no such byte. -/
theorem mem_utf8EncodeChar_iff {c d : Char} (hc : c.toNat < 0x80) :
    UInt8.ofNat c.toNat ∈ String.utf8EncodeChar d ↔ c = d := by
  have hsame : c = d ↔ c.val.toNat = d.val.toNat := by
    rw [← Char.val_inj, UInt32.toNat_inj]
  rw [hsame]
  change c.val.toNat < _ at hc
  change UInt8.ofNat c.val.toNat ∈ _ ↔ _
  simp only [String.utf8EncodeChar]
  generalize c.val.toNat = m at *
  generalize d.val.toNat = n at *
  split_ifs <;>
    simp only [List.mem_cons, List.not_mem_nil, or_false, ← UInt8.toNat_inj,
      UInt8.toNat_ofNat'] <;>
    omega

/-- A mark is in the bytes of a text exactly if it is in the text. -/
theorem mem_ofText_iff {c : Char} (hc : c.toNat < 0x80) {s : String} :
    UInt8.ofNat c.toNat ∈ ofText s ↔ c ∈ s.toList := by
  simp [ofText_eq_flatMap, List.mem_flatMap, mem_utf8EncodeChar_iff hc]

/-! ### Displaying it -/

section Chunks

variable {b b₁ b₂ b₃ b₄ : UInt8}

theorem widthOf_eq (b : UInt8) : widthOf b =
    if b.toNat < 0x80 then 1 else if b.toNat < 0xc2 then 0 else if b.toNat < 0xe0 then 2
    else if b.toNat < 0xf0 then 3 else if b.toNat < 0xf5 then 4 else 0 := rfl

/-- A byte of the common kind follows, but for the first bytes that ask for more. -/
theorem canFollow_of_toNat (h : 0x80 ≤ b.toNat ∧ b.toNat < 0xc0)
    (h₁ : b₁.toNat = 0xe0 → 0xa0 ≤ b.toNat) (h₂ : b₁.toNat = 0xed → b.toNat < 0xa0)
    (h₃ : b₁.toNat = 0xf0 → 0x90 ≤ b.toNat) (h₄ : b₁.toNat = 0xf4 → b.toNat < 0x90) :
    canFollow b₁ b = true := by
  simp only [canFollow, ← UInt8.toNat_inj, UInt8.lt_iff_toNat_lt, UInt8.le_iff_toNat_le,
    UInt8.reduceToNat]
  split_ifs <;> simp only [Bool.and_eq_true, decide_eq_true_eq] <;> omega

theorem chunksFrom_one (h : widthOf b₁ = 1) (rest : OsText) :
    chunksFrom [] 0 (b₁ :: rest) = .char (charOf [b₁]) :: chunksFrom [] 0 rest := by
  simp [chunksFrom, goesOn, brokenOf, h]

theorem chunksFrom_two (h : widthOf b₁ = 2) (h₂ : canFollow b₁ b₂ = true) (rest : OsText) :
    chunksFrom [] 0 (b₁ :: b₂ :: rest) = .char (charOf [b₁, b₂]) :: chunksFrom [] 0 rest := by
  simp [chunksFrom, goesOn, brokenOf, h, h₂]

theorem chunksFrom_three (h : widthOf b₁ = 3) (h₂ : canFollow b₁ b₂ = true)
    (h₃ : 0x80 ≤ b₃ ∧ b₃ < 0xc0) (rest : OsText) :
    chunksFrom [] 0 (b₁ :: b₂ :: b₃ :: rest) =
      .char (charOf [b₁, b₂, b₃]) :: chunksFrom [] 0 rest := by
  simp [chunksFrom, goesOn, brokenOf, h, h₂, h₃]

theorem chunksFrom_four (h : widthOf b₁ = 4) (h₂ : canFollow b₁ b₂ = true)
    (h₃ : 0x80 ≤ b₃ ∧ b₃ < 0xc0) (h₄ : 0x80 ≤ b₄ ∧ b₄ < 0xc0) (rest : OsText) :
    chunksFrom [] 0 (b₁ :: b₂ :: b₃ :: b₄ :: rest) =
      .char (charOf [b₁, b₂, b₃, b₄]) :: chunksFrom [] 0 rest := by
  simp [chunksFrom, goesOn, brokenOf, h, h₂, h₃, h₄]

/-- The bytes of a character are read as it, whatever follows. -/
theorem chunksFrom_utf8EncodeChar (c : Char) (rest : OsText) :
    chunksFrom [] 0 (String.utf8EncodeChar c ++ rest) = .char c :: chunksFrom [] 0 rest := by
  have hvalid := c.valid
  simp only [UInt32.isValidChar, Nat.isValidChar] at hvalid
  have hchar : ∀ n, n = c.val.toNat → Char.ofNat n = c := by
    rintro _ rfl
    exact Char.ofNat_toNat c
  simp only [String.utf8EncodeChar]
  generalize c.val.toNat = v at *
  have hbyte : ∀ n : Nat, n < 0x100 → ∃ b, UInt8.ofNat n = b ∧ b.toNat = n := fun n hn =>
    ⟨_, rfl, by rw [UInt8.toNat_ofNat', Nat.mod_eq_of_lt hn]⟩
  have hlast : ∀ b : UInt8, b.toNat < 0x40 + 0x80 → 0x80 ≤ b.toNat → 0x80 ≤ b ∧ b < 0xc0 :=
    fun b hlt hle => ⟨UInt8.le_iff_toNat_le.mpr hle, UInt8.lt_iff_toNat_lt.mpr hlt⟩
  split_ifs with h₁ h₂ h₃
  · obtain ⟨b₁, heq₁, hb₁⟩ := hbyte v (by omega)
    have hwidth : widthOf b₁ = 1 := by rw [widthOf_eq, if_pos (by omega)]
    have hread : charOf [b₁] = c := hchar _ hb₁
    rw [heq₁, ← hread]
    exact chunksFrom_one hwidth rest
  · obtain ⟨b₁, heq₁, hb₁⟩ := hbyte (v / 64 % 32 + 192) (by omega)
    obtain ⟨b₂, heq₂, hb₂⟩ := hbyte (v % 64 + 128) (by omega)
    have hwidth : widthOf b₁ = 2 := by rw [widthOf_eq]; split_ifs <;> omega
    have hfollow : canFollow b₁ b₂ = true := by apply canFollow_of_toNat <;> omega
    have hvalue : b₁.toNat % 2 ^ 5 * 64 + b₂.toNat % 64 = v := by omega
    have hread : charOf [b₁, b₂] = c := hchar _ hvalue
    rw [heq₁, heq₂, ← hread]
    exact chunksFrom_two hwidth hfollow rest
  · obtain ⟨b₁, heq₁, hb₁⟩ := hbyte (v / 4096 % 16 + 224) (by omega)
    obtain ⟨b₂, heq₂, hb₂⟩ := hbyte (v / 64 % 64 + 128) (by omega)
    obtain ⟨b₃, heq₃, hb₃⟩ := hbyte (v % 64 + 128) (by omega)
    have hwidth : widthOf b₁ = 3 := by rw [widthOf_eq]; split_ifs <;> omega
    have hfollow : canFollow b₁ b₂ = true := by apply canFollow_of_toNat <;> omega
    have hvalue : (b₁.toNat % 2 ^ 4 * 64 + b₂.toNat % 64) * 64 + b₃.toNat % 64 = v := by omega
    have hread : charOf [b₁, b₂, b₃] = c := hchar _ hvalue
    rw [heq₁, heq₂, heq₃, ← hread]
    exact chunksFrom_three hwidth hfollow (hlast b₃ (by omega) (by omega)) rest
  · obtain ⟨b₁, heq₁, hb₁⟩ := hbyte (v / 262144 % 8 + 240) (by omega)
    obtain ⟨b₂, heq₂, hb₂⟩ := hbyte (v / 4096 % 64 + 128) (by omega)
    obtain ⟨b₃, heq₃, hb₃⟩ := hbyte (v / 64 % 64 + 128) (by omega)
    obtain ⟨b₄, heq₄, hb₄⟩ := hbyte (v % 64 + 128) (by omega)
    have hwidth : widthOf b₁ = 4 := by rw [widthOf_eq]; split_ifs <;> omega
    have hfollow : canFollow b₁ b₂ = true := by apply canFollow_of_toNat <;> omega
    have hvalue : ((b₁.toNat % 2 ^ 3 * 64 + b₂.toNat % 64) * 64 + b₃.toNat % 64) * 64 +
        b₄.toNat % 64 = v := by omega
    have hread : charOf [b₁, b₂, b₃, b₄] = c := hchar _ hvalue
    rw [heq₁, heq₂, heq₃, heq₄, ← hread]
    exact chunksFrom_four hwidth hfollow (hlast b₃ (by omega) (by omega))
      (hlast b₄ (by omega) (by omega)) rest

end Chunks

/-- A text falls into its characters. -/
theorem chunks_ofText (s : String) : chunks (ofText s) = s.toList.map .char := by
  rw [ofText_eq_flatMap, chunks]
  induction s.toList with
  | nil => rfl
  | cons c cs ih => rw [List.flatMap_cons, chunksFrom_utf8EncodeChar, ih, List.map_cons]

/-- A text is displayed as it is. -/
@[simp] theorem display_ofText (s : String) : display (ofText s) = s := by
  rw [display, chunks_ofText, List.map_map]
  exact (congrArg String.ofList (List.map_id _)).trans String.ofList_toList

/-! ### What a display keeps -/

/-- The bytes of a chunk. -/
def Chunk.bytes : Chunk → OsText
  | char c => String.utf8EncodeChar c
  | broken bytes => bytes

/-- Bytes that begin a character which has `missing` more. -/
inductive Begins : List UInt8 → Nat → Prop
  | first {b : UInt8} {n : Nat} (h : widthOf b = n + 2) : Begins [b] (n + 1)
  | next {begun : List UInt8} {b : UInt8} {n : Nat} (h : Begins begun (n + 2))
      (hb : goesOn begun b = true) : Begins (begun ++ [b]) (n + 1)

section Bytes

variable {b b₁ b₂ b₃ b₄ : UInt8}

/-- The second byte of a character, by its first one. -/
theorem toNat_of_canFollow (h : canFollow b₁ b = true) :
    (0x80 ≤ b.toNat ∧ b.toNat < 0xc0) ∧ (b₁.toNat = 0xe0 → 0xa0 ≤ b.toNat) ∧
      (b₁.toNat = 0xed → b.toNat < 0xa0) ∧ (b₁.toNat = 0xf0 → 0x90 ≤ b.toNat) ∧
      (b₁.toNat = 0xf4 → b.toNat < 0x90) := by
  simp only [canFollow, ← UInt8.toNat_inj, UInt8.lt_iff_toNat_lt, UInt8.le_iff_toNat_le,
    UInt8.reduceToNat] at h
  split_ifs at h <;> simp only [Bool.and_eq_true, decide_eq_true_eq] at h <;> omega

theorem toNat_of_follows (h : (0x80 ≤ b && b < 0xc0) = true) :
    0x80 ≤ b.toNat ∧ b.toNat < 0xc0 := by
  simpa only [Bool.and_eq_true, decide_eq_true_eq, UInt8.lt_iff_toNat_lt, UInt8.le_iff_toNat_le,
    UInt8.reduceToNat] using h

/-- The first byte of a character, by the number of its bytes. -/
theorem toNat_of_widthOf :
    (widthOf b = 1 → b.toNat < 0x80) ∧
      (widthOf b = 2 → 0xc2 ≤ b.toNat ∧ b.toNat < 0xe0) ∧
      (widthOf b = 3 → 0xe0 ≤ b.toNat ∧ b.toNat < 0xf0) ∧
      (widthOf b = 4 → 0xf0 ≤ b.toNat ∧ b.toNat < 0xf5) ∧ widthOf b ≤ 4 := by
  rw [widthOf_eq]
  split_ifs <;> simp <;> omega

/-- How a number is spelled that is one of a character. -/
theorem utf8EncodeChar_ofNat {v : Nat} (h : v.isValidChar) :
    String.utf8EncodeChar (Char.ofNat v) =
      if v ≤ 0x7f then [UInt8.ofNat v]
      else if v ≤ 0x7ff then [UInt8.ofNat (v / 64 % 32 + 0xc0), UInt8.ofNat (v % 64 + 0x80)]
      else if v ≤ 0xffff then
        [UInt8.ofNat (v / 4096 % 16 + 0xe0), UInt8.ofNat (v / 64 % 64 + 0x80),
          UInt8.ofNat (v % 64 + 0x80)]
      else [UInt8.ofNat (v / 262144 % 8 + 0xf0), UInt8.ofNat (v / 4096 % 64 + 0x80),
        UInt8.ofNat (v / 64 % 64 + 0x80), UInt8.ofNat (v % 64 + 0x80)] := by
  have hv : (Char.ofNat v).val.toNat = v := by
    rw [Char.ofNat, dif_pos h]
    rfl
  simp only [String.utf8EncodeChar, hv]

theorem ofNat_eq_of_eq {n : Nat} (h : n = b.toNat) : UInt8.ofNat n = b := by
  rw [h, UInt8.ofNat_toNat]

/-! The character that bytes spell is spelled by them. -/

theorem utf8EncodeChar_one (h : widthOf b = 1) : String.utf8EncodeChar (charOf [b]) = [b] := by
  have hb := toNat_of_widthOf.1 h
  refine (utf8EncodeChar_ofNat (.inl (by omega))).trans ?_
  rw [if_pos (by omega), UInt8.ofNat_toNat]

theorem utf8EncodeChar_two (h : widthOf b₁ = 2) (h₂ : canFollow b₁ b₂ = true) :
    String.utf8EncodeChar (charOf [b₁, b₂]) = [b₁, b₂] := by
  have h₁ := toNat_of_widthOf.2.1 h
  obtain ⟨h₂, -⟩ := toNat_of_canFollow h₂
  have hvalid : (b₁.toNat % 2 ^ 5 * 64 + b₂.toNat % 64).isValidChar := .inl (by omega)
  refine (utf8EncodeChar_ofNat hvalid).trans ?_
  rw [if_neg (by omega), if_pos (by omega), ofNat_eq_of_eq (b := b₁) (by omega),
    ofNat_eq_of_eq (b := b₂) (by omega)]

theorem utf8EncodeChar_three (h : widthOf b₁ = 3) (h₂ : canFollow b₁ b₂ = true)
    (h₃ : (0x80 ≤ b₃ && b₃ < 0xc0) = true) :
    String.utf8EncodeChar (charOf [b₁, b₂, b₃]) = [b₁, b₂, b₃] := by
  have h₁ := toNat_of_widthOf.2.2.1 h
  obtain ⟨h₂, hshort, hsurrogate, -⟩ := toNat_of_canFollow h₂
  have h₃ := toNat_of_follows h₃
  have hvalid : ((b₁.toNat % 2 ^ 4 * 64 + b₂.toNat % 64) * 64 + b₃.toNat % 64).isValidChar := by
    simp only [Nat.isValidChar]
    omega
  refine (utf8EncodeChar_ofNat hvalid).trans ?_
  rw [if_neg (by omega), if_neg (by omega), if_pos (by omega), ofNat_eq_of_eq (b := b₁) (by omega),
    ofNat_eq_of_eq (b := b₂) (by omega), ofNat_eq_of_eq (b := b₃) (by omega)]

theorem utf8EncodeChar_four (h : widthOf b₁ = 4) (h₂ : canFollow b₁ b₂ = true)
    (h₃ : (0x80 ≤ b₃ && b₃ < 0xc0) = true) (h₄ : (0x80 ≤ b₄ && b₄ < 0xc0) = true) :
    String.utf8EncodeChar (charOf [b₁, b₂, b₃, b₄]) = [b₁, b₂, b₃, b₄] := by
  have h₁ := toNat_of_widthOf.2.2.2.1 h
  obtain ⟨h₂, -, -, hshort, hlast⟩ := toNat_of_canFollow h₂
  have h₃ := toNat_of_follows h₃
  have h₄ := toNat_of_follows h₄
  have hvalid : (((b₁.toNat % 2 ^ 3 * 64 + b₂.toNat % 64) * 64 + b₃.toNat % 64) * 64 +
      b₄.toNat % 64).isValidChar := by
    simp only [Nat.isValidChar]
    omega
  refine (utf8EncodeChar_ofNat hvalid).trans ?_
  rw [if_neg (by omega), if_neg (by omega), if_neg (by omega), ofNat_eq_of_eq (b := b₁) (by omega),
    ofNat_eq_of_eq (b := b₂) (by omega), ofNat_eq_of_eq (b := b₃) (by omega),
    ofNat_eq_of_eq (b := b₄) (by omega)]

end Bytes

/-- What bytes are that begin a character. -/
theorem Begins.cases {begun : List UInt8} {missing : Nat} (h : Begins begun missing) :
    (∃ b₁, begun = [b₁] ∧ widthOf b₁ = missing + 1 ∧ 1 ≤ missing) ∨
      (∃ b₁ b₂, begun = [b₁, b₂] ∧ widthOf b₁ = missing + 2 ∧ 1 ≤ missing ∧
        canFollow b₁ b₂ = true) ∨
      ∃ b₁ b₂ b₃, begun = [b₁, b₂, b₃] ∧ widthOf b₁ = missing + 3 ∧ 1 ≤ missing ∧
        canFollow b₁ b₂ = true ∧ (0x80 ≤ b₃ && b₃ < 0xc0) = true := by
  induction h with
  | @first b n h => exact .inl ⟨b, rfl, h, Nat.le_add_left 1 n⟩
  | @next begun b n h hb ih =>
    rcases ih with ⟨b₁, rfl, hwidth, -⟩ | ⟨b₁, b₂, rfl, hwidth, -, hsecond⟩ |
      ⟨b₁, b₂, b₃, rfl, hwidth, -, -⟩
    · exact .inr (.inl ⟨b₁, b, rfl, hwidth, Nat.le_add_left 1 n, hb⟩)
    · exact .inr (.inr ⟨b₁, b₂, b, rfl, hwidth, Nat.le_add_left 1 n, hsecond, hb⟩)
    · -- no character has more than four bytes
      have hmost := (toNat_of_widthOf (b := b₁)).2.2.2.2
      omega

/-- With its last byte a character is spelled. -/
theorem Begins.utf8EncodeChar {begun : List UInt8} {b : UInt8} (h : Begins begun 1)
    (hb : goesOn begun b = true) :
    String.utf8EncodeChar (charOf (begun ++ [b])) = begun ++ [b] := by
  rcases h.cases with ⟨b₁, rfl, hwidth, -⟩ | ⟨b₁, b₂, rfl, hwidth, -, hsecond⟩ |
    ⟨b₁, b₂, b₃, rfl, hwidth, -, hsecond, hthird⟩
  · exact utf8EncodeChar_two hwidth hb
  · exact utf8EncodeChar_three hwidth hsecond hb
  · exact utf8EncodeChar_four hwidth hsecond hthird hb

/-- A run that spells nothing keeps its bytes. -/
theorem flatMap_brokenOf (begun : List UInt8) :
    (brokenOf begun).flatMap Chunk.bytes = begun := by
  cases begun <;> simp [brokenOf, Chunk.bytes]

/-- No byte is lost on the way, whatever was begun. -/
theorem flatMap_chunksFrom {begun : List UInt8} {missing : Nat}
    (h : begun = [] ∨ Begins begun missing) (t : OsText) :
    (chunksFrom begun missing t).flatMap Chunk.bytes = begun ++ t := by
  induction t generalizing begun missing with
  | nil => rw [chunksFrom, flatMap_brokenOf, List.append_nil]
  | cons b rest ih =>
    rw [chunksFrom]
    split
    case isTrue hgoes =>
      have hbegins : Begins begun missing := by
        rcases h with rfl | h
        · cases hgoes
        · exact h
      split
      case isTrue hlast =>
        have hmissing : missing = 1 := by
          rcases hbegins.cases with ⟨_, -, -, hpos, -⟩ | ⟨_, _, -, -, hpos, -⟩ |
            ⟨_, _, _, -, -, hpos, -⟩ <;> omega
        subst hmissing
        rw [List.flatMap_cons, ih (.inl rfl), Chunk.bytes, hbegins.utf8EncodeChar hgoes]
        simp
      case isFalse hmore =>
        obtain ⟨n, rfl⟩ : ∃ n, missing = n + 2 := ⟨missing - 2, by omega⟩
        rw [Nat.add_sub_cancel_right (n + 1) 1, ih (.inr (hbegins.next hgoes)),
          List.append_assoc, List.singleton_append]
    case isFalse =>
      rw [List.flatMap_append, flatMap_brokenOf]
      congr 1
      split
      case h_1 => rw [List.flatMap_cons, ih (.inl rfl)]; rfl
      case h_2 hwidth =>
        rw [List.flatMap_cons, ih (.inl rfl), Chunk.bytes, utf8EncodeChar_one hwidth]
        rfl
      case h_3 n hwidth => exact ih (.inr (.first hwidth))

/-- The chunks of a string have its bytes. -/
theorem flatMap_chunks (t : OsText) : (chunks t).flatMap Chunk.bytes = t :=
  flatMap_chunksFrom (.inl rfl) t

/-- A small character that is displayed is in the string. -/
theorem mem_of_mem_display {c : Char} (hc : c.toNat < 0x80) {t : OsText}
    (h : c ∈ t.display.toList) : UInt8.ofNat c.toNat ∈ t := by
  rw [display, String.toList_ofList] at h
  obtain ⟨chunk, hchunk, rfl⟩ := List.mem_map.mp h
  rw [← flatMap_chunks t]
  cases chunk with
  | char c => exact List.mem_flatMap.mpr ⟨_, hchunk, (mem_utf8EncodeChar_iff hc).mpr rfl⟩
  | broken bytes =>
    have hlarge : ¬ '\ufffd'.toNat < 0x80 := by decide
    exact (hlarge hc).elim

/-- A display without U+FFFD shows the string itself. -/
theorem eq_ofText_of_display {t : OsText} {s : String} (h : t.display = s)
    (hs : '\ufffd' ∉ s.toList) : t = ofText s := by
  have hlist : (chunks t).map Chunk.display = s.toList := by
    rw [← h, display, String.toList_ofList]
  have hchunks : chunks t = s.toList.map .char := by
    rw [← hlist, List.map_map]
    refine (List.map_id _).symm.trans (List.map_congr_left fun chunk hchunk => ?_)
    cases chunk with
    | char c => rfl
    | broken bytes => exact (hs (hlist ▸ List.mem_map_of_mem hchunk)).elim
  rw [← flatMap_chunks t, hchunks, ofText_eq_flatMap, List.flatMap_map]
  rfl

/-- A string is a text exactly if its display is stored as it. -/
theorem isSome_toText?_iff {t : OsText} : t.toText?.isSome = true ↔ ofText t.display = t := by
  rw [Option.isSome_iff_exists]
  constructor
  · rintro ⟨s, hs⟩
    rw [toText?_eq_some.mp hs, display_ofText]
  · intro h
    exact ⟨t.display, toText?_eq_some.mpr h.symm⟩

end DispatchGen.OsText

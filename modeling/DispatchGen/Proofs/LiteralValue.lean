/-
DispatchGen/Proofs/LiteralValue.lean

What a literal stands for in a program, and what it folds to.

A literal is a list of `Element`s between two equal marks.  An element has a text, which is how it
is written, and `units`, which are the UTF-16 code units that a program sees in its place.
`isValid` is the grammar of JavaScript, for strings without octal escapes and for templates without
substitutions.  Nothing of this knows how escapes are read here.

The reading follows the elements one by one (`Element.unescape_append`) and never yields fewer code
units than the program sees (`Element.units_compare`).  So no element can make up for another, and
a literal folds to its value exactly if each of its elements is faithful.  Three are not: the escape
of a single surrogate, which is kept as it is written even where two of them make up a character; a
line continuation before a line or paragraph separator, which leaves that character behind; and a
line of a template that ends in a carriage return, which is not read as a line feed.

Main statement: `fold_literal_iff_faithful`.
-/
import DispatchGen.Proofs.ConstantFolding
import DispatchGen.Proofs.Quotation

namespace DispatchGen.Literal

open Syntax Text

/-! ### Code units -/

/-- The code units of a code point: itself, or a leading and a trailing surrogate. -/
def codeUnits (n : Nat) : List Nat :=
  if n < 0x10000 then [n]
  else [0xd800 + (n - 0x10000) / 0x400, 0xdc00 + (n - 0x10000) % 0x400]

/-- A text in code units. -/
def utf16 (cs : List Char) : List Nat := cs.flatMap fun c => codeUnits c.toNat

/-- Whether a number is half of a pair that encodes one character. -/
def isSurrogate (n : Nat) : Bool := 0xd800 ≤ n && n ≤ 0xdfff

@[simp] theorem utf16_nil : utf16 [] = [] := rfl

@[simp] theorem utf16_cons (c : Char) (cs : List Char) :
    utf16 (c :: cs) = codeUnits c.toNat ++ utf16 cs := rfl

theorem codeUnits_of_lt {n : Nat} (h : n < 0x10000) : codeUnits n = [n] := if_pos h

theorem length_codeUnits_pos (n : Nat) : 0 < (codeUnits n).length := by
  unfold codeUnits
  split <;> simp

theorem length_le_length_utf16 (cs : List Char) : cs.length ≤ (utf16 cs).length := by
  induction cs with
  | nil => simp
  | cons c cs ih =>
    have hpos := length_codeUnits_pos c.toNat
    rw [utf16_cons, List.length_append, List.length_cons]
    omega

/-- The code units of a character can be told from what follows them. -/
theorem codeUnits_append_inj {c d : Char} {us vs : List Nat}
    (h : codeUnits c.toNat ++ us = codeUnits d.toNat ++ vs) : c = d ∧ us = vs := by
  have hc : c.toNat.isValidChar := c.valid
  have hd : d.toNat.isValidChar := d.valid
  unfold Nat.isValidChar at hc hd
  have hnat : c.toNat = d.toNat ∧ us = vs := by
    unfold codeUnits at h
    split at h <;> split at h <;>
      simp only [List.cons_append, List.nil_append, List.cons.injEq] at h
    · exact h
    -- no character is a surrogate
    · omega
    · omega
    · obtain ⟨hlead, htrail, hrest⟩ := h
      exact ⟨by omega, hrest⟩
  exact ⟨Char.toNat_inj.mp hnat.1, hnat.2⟩

theorem utf16_injective : Function.Injective utf16 := by
  intro cs
  induction cs with
  | nil =>
    intro ds h
    have hlength := length_le_length_utf16 ds
    rw [← h] at hlength
    exact (List.length_eq_zero_iff.mp (Nat.le_zero.mp hlength)).symm
  | cons c cs ih =>
    intro ds h
    cases ds with
    | nil =>
      have hlength := length_le_length_utf16 (c :: cs)
      rw [h] at hlength
      exact absurd hlength (by simp)
    | cons d ds =>
      obtain ⟨rfl, hrest⟩ := codeUnits_append_inj h
      rw [ih hrest]

/-! ### Elements of a literal -/

/-- A hexadecimal digit, in either case. -/
structure Digit where
  value : Fin 16
  capital : Bool

def Digit.char (d : Digit) : Char :=
  if d.capital then (Nat.digitChar d.value).toUpper else Nat.digitChar d.value

/-- The number that digits write, the most significant first. -/
def numberOf (ds : List Digit) : Nat := ds.foldl (fun n d => 16 * n + (d.value : Nat)) 0

/-- What ends a line of source text. -/
inductive LineEnd where
  | feed | carriage | carriageFeed | lineSeparator | paragraphSeparator
deriving DecidableEq

def LineEnd.text : LineEnd → List Char
  | feed => ['\n']
  | carriage => ['\r']
  | carriageFeed => ['\r', '\n']
  | lineSeparator => ['\u2028']
  | paragraphSeparator => ['\u2029']

/-- Whether a line ends as a whole before `after`: a carriage return takes the line feed after it
with it. -/
def LineEnd.isWhole (after : List Char) : LineEnd → Bool
  | carriage => after.head? ≠ some '\n'
  | _ => true

/-- The marks that a literal stands between. -/
inductive Mark where
  | single | double | backtick
deriving DecidableEq

def Mark.char : Mark → Char
  | single => '\''
  | double => '"'
  | backtick => '`'

def Mark.kind : Mark → NodeKind
  | backtick => .templateString
  | _ => .string

/-- The parts that a literal is made of. -/
inductive Element where
  /-- A character that stands for itself. -/
  | plain (c : Char)
  /-- The end of a line of a template. -/
  | lineEnd (e : LineEnd)
  /-- A backslash and one character. -/
  | escaped (c : Char)
  /-- The escape `\0`. -/
  | null
  /-- The escape `\xHH`. -/
  | byte (h l : Digit)
  /-- The escape `\uHHHH`. -/
  | code (a b c d : Digit)
  /-- The escape `\u{H…}`. -/
  | braced (ds : List Digit)
  /-- A backslash at the end of a line. -/
  | continuation (e : LineEnd)

namespace Element

/-- How an element is written. -/
def text : Element → List Char
  | plain c => [c]
  | lineEnd e => e.text
  | escaped c => ['\\', c]
  | null => ['\\', '0']
  | byte h l => ['\\', 'x', h.char, l.char]
  | code a b c d => ['\\', 'u', a.char, b.char, c.char, d.char]
  | braced ds => ['\\', 'u', '\x7b'] ++ ds.map Digit.char ++ ['\x7d']
  | continuation e => '\\' :: e.text

/-- The character that an escaped one stands for. -/
def controlOf : Char → Char
  | 'b' => '\x08'
  | 't' => '\t'
  | 'n' => '\n'
  | 'v' => '\x0b'
  | 'f' => '\x0c'
  | 'r' => '\r'
  | c => c

/-- The code units that a program sees in the place of an element. -/
def units : Element → List Nat
  | plain c => codeUnits c.toNat
  | lineEnd .lineSeparator => codeUnits 0x2028
  | lineEnd .paragraphSeparator => codeUnits 0x2029
  | lineEnd _ => codeUnits 0xa
  | escaped c => codeUnits (controlOf c).toNat
  | null => [0]
  | byte h l => [numberOf [h, l]]
  | code a b c d => [numberOf [a, b, c, d]]
  | braced ds => codeUnits (numberOf ds)
  | continuation _ => []

/-- Whether an element can stand in a literal between such marks, with `after` behind it. -/
def fits (mark : Mark) (after : List Char) : Element → Bool
  | plain c =>
      c ≠ mark.char && c ≠ '\\' &&
      (!endsLine c || mark ≠ .backtick && (c = '\u2028' || c = '\u2029')) &&
      !(mark = .backtick && c = '$' && after.head? = some '\x7b')
  | lineEnd e => mark = .backtick && e.isWhole after
  | escaped c =>
      !endsLine c && c ≠ 'x' && c ≠ 'u' &&
      (!c.isDigit || mark ≠ .backtick && (c = '8' || c = '9'))
  | null => !after.head?.any Char.isDigit
  | byte _ _ => true
  | code _ _ _ _ => true
  | braced ds => !ds.isEmpty && numberOf ds ≤ 0x10ffff
  | continuation e => e.isWhole after

/-- Whether an element is read as what a program sees. -/
def isFaithful : Element → Bool
  | lineEnd e => e ≠ .carriage && e ≠ .carriageFeed
  | code a b c d => !isSurrogate (numberOf [a, b, c, d])
  | braced ds => !isSurrogate (numberOf ds)
  | continuation e => e ≠ .lineSeparator && e ≠ .paragraphSeparator
  | _ => true

/-- What an element is read as. -/
def read : Element → List Char
  | plain c => [c]
  | lineEnd e => e.text
  | escaped c => [controlOf c]
  | null => ['\x00']
  | byte h l => codePoint ['\\', 'x'] ([h, l].map Digit.char)
  | code a b c d => codePoint ['\\', 'u'] ([a, b, c, d].map Digit.char)
  | braced ds => codePoint ['\\', 'u'] (ds.map Digit.char)
  | continuation .lineSeparator => ['\u2028']
  | continuation .paragraphSeparator => ['\u2029']
  | continuation _ => []

end Element

/-- The text of a literal between its marks. -/
def textOf (es : List Element) : List Char := es.flatMap Element.text

/-- The value of a literal in a program. -/
def unitsOf (es : List Element) : List Nat := es.flatMap Element.units

/-- Whether elements can stand one after another in a literal. -/
def isValid (mark : Mark) : List Element → Bool
  | [] => true
  | e :: es => e.fits mark (textOf es) && isValid mark es

/-- The node `n` is the literal with these elements. -/
structure IsLiteral (n : Node) (mark : Mark) (es : List Element) : Prop where
  kind : n.kind = mark.kind
  text : n.text.toList = mark.char :: (textOf es ++ [mark.char])
  constant : ∀ child ∈ n.children, child.kind ≠ .templateSubstitution

/-! ### Digits -/

theorem Digit.hexDigit?_char (d : Digit) : hexDigit? d.char = some d.value := by
  obtain ⟨value, capital⟩ := d
  revert value capital
  decide

theorem Digit.char_ne (d : Digit) : d.char ≠ '+' ∧ d.char ≠ '\x7b' ∧ d.char ≠ '\x7d' := by
  obtain ⟨value, capital⟩ := d
  revert value capital
  decide

theorem hexDigits?_digits (ds : List Digit) (value : Nat) :
    hexDigits? value (ds.map Digit.char)
      = some (ds.foldl (fun n d => 16 * n + (d.value : Nat)) value) := by
  induction ds generalizing value with
  | nil => rfl
  | cons d ds ih => simp [hexDigits?, d.hexDigit?_char, ih]

theorem hexNumber?_digits {ds : List Digit} (h : ds ≠ []) :
    hexNumber? (ds.map Digit.char) = some (numberOf ds) := by
  cases ds with
  | nil => exact absurd rfl h
  | cons d ds =>
    rw [List.map_cons, hexNumber?_cons d.char_ne.1, ← List.map_cons]
    exact hexDigits?_digits (d :: ds) 0

theorem isValidChar_iff {n : Nat} (h : n ≤ 0x10ffff) :
    n.isValidChar ↔ isSurrogate n = false := by
  simp only [Nat.isValidChar, isSurrogate, Bool.and_eq_false_iff, decide_eq_false_iff_not]
  omega

/-- A code that denotes no character is kept as it is written. -/
theorem codePoint_digits {ds : List Digit} (introducer : List Char) (hne : ds ≠ [])
    (hmax : numberOf ds ≤ 0x10ffff) :
    codePoint introducer (ds.map Digit.char)
      = if isSurrogate (numberOf ds) then introducer ++ ds.map Digit.char
        else [Char.ofNat (numberOf ds)] := by
  simp only [codePoint, hexNumber?_digits hne, isValidChar_iff hmax]
  cases isSurrogate (numberOf ds) <;> simp

theorem utf16_ofNat {n : Nat} (hmax : n ≤ 0x10ffff) (h : isSurrogate n = false) :
    utf16 [Char.ofNat n] = codeUnits n := by
  have hvalid : n.isValidChar := (isValidChar_iff hmax).mpr h
  have hchar : Char.ofNat n = Char.ofNatAux n hvalid := dif_pos hvalid
  rw [hchar, utf16_cons, utf16_nil, List.append_nil]
  rfl

theorem codeUnits_of_isSurrogate {n : Nat} (h : isSurrogate n) : codeUnits n = [n] := by
  simp only [isSurrogate, Bool.and_eq_true, decide_eq_true_eq] at h
  exact codeUnits_of_lt (by omega)

/-! ### One element -/

variable {mark : Mark} {after : List Char} {e : Element}

/-- The reading of a code in code units: where it differs from the code, it is longer. -/
theorem utf16_codePoint {ds : List Digit} {introducer : List Char}
    (hlong : 1 < introducer.length) (hne : ds ≠ []) (hmax : numberOf ds ≤ 0x10ffff) :
    (codeUnits (numberOf ds)).length ≤ (utf16 (codePoint introducer (ds.map Digit.char))).length ∧
      (utf16 (codePoint introducer (ds.map Digit.char)) = codeUnits (numberOf ds)
        ↔ isSurrogate (numberOf ds) = false) := by
  rw [codePoint_digits introducer hne hmax]
  cases hsur : isSurrogate (numberOf ds) with
  | false =>
    rw [if_neg Bool.false_ne_true, utf16_ofNat hmax hsur]
    exact ⟨Nat.le_refl _, iff_of_true rfl rfl⟩
  | true =>
    have hlength := length_le_length_utf16 (introducer ++ ds.map Digit.char)
    rw [List.length_append] at hlength
    rw [if_pos rfl, codeUnits_of_isSurrogate hsur]
    refine ⟨by rw [List.length_singleton]; omega, fun h => ?_, nofun⟩
    rw [h, List.length_singleton] at hlength
    omega

namespace Element

theorem escapeAhead_escaped {c : Char} (hline : endsLine c = false) (hx : c ≠ 'x') (hu : c ≠ 'u')
    (hzero : c ≠ '0') (cs : List Char) : escapeAhead (c :: cs) = ([controlOf c], 1) := by
  simp only [endsLine, Bool.or_eq_false_iff, decide_eq_false_iff_not] at hline
  obtain ⟨⟨⟨hfeed, hreturn⟩, -⟩, -⟩ := hline
  have hone : escapeAhead (c :: cs) = (escapedChar c, 1) := by
    unfold escapeAhead
    split <;> simp_all
  have hchar : escapedChar c = [controlOf c] := by
    unfold escapedChar controlOf
    split_ifs <;> simp_all
  rw [hone, hchar]

/-- Four digits after a `u`, if no brace is there. -/
theorem escapeAhead_code (a b c d : Digit) (cs : List Char) :
    escapeAhead ('u' :: ([a, b, c, d].map Digit.char ++ cs))
      = (codePoint ['\\', 'u'] ([a, b, c, d].map Digit.char), 5) := by
  simp [escapeAhead, a.char_ne]

/-- An element is read by itself, whatever follows. -/
theorem unescape_append (h : e.fits mark after) :
    unescape (e.text ++ after) = e.read ++ unescape after := by
  cases e with
  | plain c =>
    simp only [fits, Bool.and_eq_true, decide_eq_true_eq] at h
    exact unescape_cons_of_ne h.1.1.2 after
  | lineEnd e =>
    cases e <;> simp [text, read, LineEnd.text, unescape_cons_of_ne]
  | escaped c =>
    simp only [fits, Bool.and_eq_true, Bool.not_eq_true', decide_eq_true_eq] at h
    obtain ⟨⟨⟨hline, hx⟩, hu⟩, hdigit⟩ := h
    have hzero : c ≠ '0' := by
      rintro rfl
      simp at hdigit
    show unescape ('\\' :: c :: after) = [controlOf c] ++ unescape after
    rw [unescape_backslash, escapeAhead_escaped hline hx hu hzero]
    rfl
  | null => rfl
  | byte h l => rfl
  | code a b c d =>
    show unescape ('\\' :: ('u' :: ([a, b, c, d].map Digit.char ++ after))) = _
    rw [unescape_backslash, escapeAhead_code]
    rfl
  | braced ds =>
    have hclose : ∀ c ∈ ds.map Digit.char, c ≠ '\x7d' := by
      intro c hc
      obtain ⟨d, -, rfl⟩ := List.mem_map.mp hc
      exact d.char_ne.2.2
    have hahead : escapeAhead ('u' :: '\x7b' :: (ds.map Digit.char ++ ['\x7d'] ++ after))
        = (codePoint ['\\', 'u'] (ds.map Digit.char), (ds.map Digit.char).length + 3) := by
      rw [List.append_assoc]
      exact escapeAhead_braced hclose after
    have hdrop : (ds.map Digit.char ++ ['\x7d'] ++ after).drop ((ds.map Digit.char).length + 1)
        = after := List.drop_left' (by simp)
    show unescape ('\\' :: 'u' :: '\x7b' :: (ds.map Digit.char ++ ['\x7d'] ++ after)) = _
    rw [unescape_backslash, hahead]
    show _ ++ unescape ((ds.map Digit.char ++ ['\x7d'] ++ after).drop _) = _
    rw [hdrop]
    rfl
  | continuation e =>
    cases e with
    | carriage =>
      -- the line feed behind a carriage return would go with it
      simp only [fits, LineEnd.isWhole, decide_eq_true_eq] at h
      show unescape ('\\' :: '\r' :: after) = unescape after
      have hahead : escapeAhead ('\r' :: after) = ([], 1) := by
        cases after with
        | nil => rfl
        | cons c cs =>
          have hfeed : c ≠ '\n' := by simpa using h
          simp [escapeAhead, escapedChar, hfeed]
      rw [unescape_backslash, hahead]
      rfl
    | _ => rfl

/-- An element stands for no more code units than are read, and for the same ones exactly if it is
faithful. -/
theorem units_compare (h : e.fits mark after) :
    e.units.length ≤ (utf16 e.read).length ∧ (utf16 e.read = e.units ↔ e.isFaithful) := by
  have hlong : ∀ c : Char, 1 < ['\\', c].length := fun _ => Nat.lt_succ_self 1
  cases e with
  | plain c => simp [units, read, isFaithful]
  | lineEnd e => cases e <;> simp [units, read, isFaithful, LineEnd.text, codeUnits]
  | escaped c => simp [units, read, isFaithful]
  | null => simp [units, read, isFaithful, codeUnits]
  | byte a b =>
    have hlt : numberOf [a, b] < 0x100 := by
      simp only [numberOf, List.foldl_cons, List.foldl_nil]
      omega
    have hsur : isSurrogate (numberOf [a, b]) = false := by
      simp only [isSurrogate, Bool.and_eq_false_iff, decide_eq_false_iff_not]
      omega
    have hcode := utf16_codePoint (hlong 'x') (List.cons_ne_nil a [b]) (by omega)
    rw [codeUnits_of_lt (by omega)] at hcode
    simpa [units, read, isFaithful, hsur] using hcode
  | code a b c d =>
    have hlt : numberOf [a, b, c, d] < 0x10000 := by
      simp only [numberOf, List.foldl_cons, List.foldl_nil]
      omega
    have hcode := utf16_codePoint (hlong 'u') (List.cons_ne_nil a [b, c, d]) (by omega)
    rw [codeUnits_of_lt hlt] at hcode
    show 1 ≤ _ ∧ (_ ↔ (!isSurrogate (numberOf [a, b, c, d])) = true)
    rw [Bool.not_eq_true']
    exact hcode
  | braced ds =>
    simp only [fits, Bool.and_eq_true, Bool.not_eq_true', List.isEmpty_eq_false_iff,
      decide_eq_true_eq] at h
    have hcode := utf16_codePoint (hlong 'u') h.1 h.2
    simpa [units, read, isFaithful] using hcode
  | continuation e => cases e <;> simp [units, read, isFaithful, codeUnits]

end Element

/-! ### Whole literals -/

variable {es : List Element} {n : Node}

theorem exists_fits (h : isValid mark es) : ∀ e ∈ es, ∃ after, e.fits mark after := by
  induction es with
  | nil => exact fun e he => absurd he List.not_mem_nil
  | cons e es ih =>
    simp only [isValid, Bool.and_eq_true] at h
    exact List.forall_mem_cons.mpr ⟨⟨textOf es, h.1⟩, ih h.2⟩

/-- The elements of a literal are read one after another. -/
theorem unescape_textOf (h : isValid mark es) : unescape (textOf es) = es.flatMap Element.read := by
  induction es with
  | nil => rfl
  | cons e es ih =>
    simp only [isValid, Bool.and_eq_true] at h
    show unescape (e.text ++ textOf es) = _
    rw [Element.unescape_append h.1, ih h.2, List.flatMap_cons]

theorem IsLiteral.fold_eq (hn : IsLiteral n mark es) (h : isValid mark es) :
    fold n = .ok (String.ofList (es.flatMap Element.read)) := by
  have hquote : isQuote mark.char := by cases mark <;> rfl
  have hunquote : unquote n.text = String.ofList (es.flatMap Element.read) := by
    rw [unquote, hn.text, stripQuotes_between hquote, unescape_textOf h]
  rw [← hunquote]
  have hkind := hn.kind
  cases mark with
  | backtick =>
    rw [fold_template hkind, hasSubstitution_eq_false_iff.mpr hn.constant]
    rfl
  | _ => exact fold_string hkind

theorem length_flatMap_le {α β : Type} {f g : α → List β} {xs : List α}
    (h : ∀ x ∈ xs, (f x).length ≤ (g x).length) :
    (xs.flatMap f).length ≤ (xs.flatMap g).length := by
  induction xs with
  | nil => exact Nat.le_refl _
  | cons x xs ih =>
    obtain ⟨hx, hxs⟩ := List.forall_mem_cons.mp h
    rw [List.flatMap_cons, List.flatMap_cons, List.length_append, List.length_append]
    exact Nat.add_le_add hx (ih hxs)

/-- Where no part is longer on one side, the whole is the same only if all parts are. -/
theorem flatMap_eq_flatMap_iff {α β : Type} {f g : α → List β} {xs : List α}
    (h : ∀ x ∈ xs, (f x).length ≤ (g x).length) :
    xs.flatMap g = xs.flatMap f ↔ ∀ x ∈ xs, g x = f x := by
  induction xs with
  | nil => simp
  | cons x xs ih =>
    obtain ⟨hx, hxs⟩ := List.forall_mem_cons.mp h
    rw [List.forall_mem_cons, ← ih hxs, List.flatMap_cons, List.flatMap_cons]
    constructor
    · intro heq
      have hlength := congrArg List.length heq
      have hrest := length_flatMap_le hxs
      rw [List.length_append, List.length_append] at hlength
      exact List.append_inj heq (by omega)
    · rintro ⟨hhead, htail⟩
      rw [hhead, htail]

/-- **What a literal folds to.**  A string literal without octal escapes, or a template without
substitutions, always folds.  If `value` is what it stands for in a program, it folds to `value`
exactly if every element of it is faithful: no code of a single surrogate, no line continuation
before a line or paragraph separator, and no line of a template that ends in a carriage return. -/
theorem fold_literal_iff_faithful (mark : Mark) (es : List Element) (n : Node) (value : String)
    (hvalid : isValid mark es) (hn : IsLiteral n mark es)
    (hvalue : utf16 value.toList = unitsOf es) :
    ∃ text, fold n = .ok text ∧ (text = value ↔ ∀ e ∈ es, e.isFaithful) := by
  have hcompare : ∀ e ∈ es, e.units.length ≤ (utf16 e.read).length ∧
      (utf16 e.read = e.units ↔ e.isFaithful) := by
    intro e he
    obtain ⟨after, hfits⟩ := exists_fits hvalid e he
    exact Element.units_compare hfits
  refine ⟨_, hn.fold_eq hvalid, ?_⟩
  calc String.ofList (es.flatMap Element.read) = value
      ↔ es.flatMap Element.read = value.toList := by
        rw [← String.toList_inj, String.toList_ofList]
    _ ↔ utf16 (es.flatMap Element.read) = unitsOf es := by
        rw [← hvalue, utf16_injective.eq_iff]
    _ ↔ es.flatMap (fun e => utf16 e.read) = es.flatMap Element.units := by
        rw [utf16, List.flatMap_assoc]
        rfl
    _ ↔ ∀ e ∈ es, utf16 e.read = e.units := flatMap_eq_flatMap_iff fun e he => (hcompare e he).1
    _ ↔ ∀ e ∈ es, e.isFaithful := forall₂_congr fun e he => (hcompare e he).2

/-- An escape of every kind, and a separator that stands for itself. -/
def escapes : List Element :=
  [.plain 'a', .escaped 'n', .escaped '$', .null, .byte ⟨4, false⟩ ⟨10, true⟩,
    .code ⟨0, false⟩ ⟨0, false⟩ ⟨14, false⟩ ⟨9, false⟩,
    .braced [⟨1, false⟩, ⟨15, true⟩, ⟨6, false⟩, ⟨0, false⟩, ⟨0, false⟩],
    .continuation .carriageFeed, .plain '\u2028']

def escapesLiteral : Node :=
  leaf .string "'a\\n\\$\\0\\x4A\\u00e9\\u\x7b1F600\x7d\\\r\n\u2028'"

/-- A literal of faithful elements folds to what it stands for. -/
theorem fold_literal_iff_faithful_escapes :
    fold escapesLiteral = .ok "a\n$\x00Jé😀\u2028" := by
  obtain ⟨text, hfold, htext⟩ := fold_literal_iff_faithful .single escapes escapesLiteral
    "a\n$\x00Jé😀\u2028" (by decide) ⟨rfl, by decide +kernel, nofun⟩ (by decide +kernel)
  rw [hfold, htext.mpr (by decide +kernel)]

/-- The two surrogates of a character, each by its code. -/
def surrogatePair : List Element :=
  [.code ⟨13, false⟩ ⟨8, false⟩ ⟨3, false⟩ ⟨13, false⟩,
    .code ⟨13, false⟩ ⟨14, false⟩ ⟨0, false⟩ ⟨0, false⟩]

/-- Not every literal folds to what it stands for: the codes of two surrogates that make up a
character stay as they are written. -/
theorem not_forall_fold_literal :
    ¬ ∀ (mark : Mark) (es : List Element) (n : Node) (value : String), isValid mark es →
      IsLiteral n mark es → utf16 value.toList = unitsOf es → fold n = .ok value := by
  intro hall
  have hfold := hall .single surrogatePair (leaf .string "'\\ud83d\\ude00'") "😀" (by decide)
    ⟨rfl, by decide +kernel, nofun⟩ (by decide +kernel)
  rw [fold_string rfl] at hfold
  exact absurd (Except.ok.inj hfold) (by decide +kernel)

end DispatchGen.Literal

/-
DispatchGen/Proofs/Quotation.lean

Quoted values hold together.

`scanLiteral` is the reading that a compiler gives to a single-quoted literal:
a backslash protects the character after it, the first unprotected quote closes,
and no line may end inside.  It knows nothing of how values are written.

The two sides meet one character at a time.  An `Escape`
is one of the three shapes in which a character is written; the scan and the
reading of escapes are followed through each shape once, whatever comes after
it, and both results on whole values are one induction over the value.

Main statements: `scanLiteral_quote`, `unquote_quote`, `literals_quote_append`.
-/
import DispatchGen.Text.Quoted
import Mathlib.Logic.Function.Basic
import Mathlib.Tactic.SplitIfs

namespace DispatchGen.Text

/-! ### Scanning a literal -/

/-- The characters that end a line of source text. -/
def endsLine (c : Char) : Bool := c = '\n' || c = '\r' || c = '\u2028' || c = '\u2029'

/-- What is left of a literal after its opening quote, and the text behind it;
`guarded` says that a backslash protects the next character. -/
def scanBody (guarded : Bool) : List Char → Option (List Char × List Char)
  | [] => none
  | c :: cs =>
      if endsLine c then none
      else if !guarded && c = '\'' then some (['\''], cs)
      else (scanBody (!guarded && c = '\\') cs).map fun (literal, rest) => (c :: literal, rest)

/-- The single-quoted literal that a text starts with, and the text behind it. -/
def scanLiteral : List Char → Option (List Char × List Char)
  | '\'' :: cs => (scanBody false cs).map fun (literal, rest) => ('\'' :: literal, rest)
  | _ => none

/-- Put characters in front of what a scan has found. -/
def prepend (cs : List Char) (found : Option (List Char × List Char)) :
    Option (List Char × List Char) :=
  found.map fun (literal, rest) => (cs ++ literal, rest)

@[simp] theorem prepend_nil (found : Option (List Char × List Char)) :
    prepend [] found = found := by
  cases found <;> rfl

@[simp] theorem prepend_some (cs literal rest : List Char) :
    prepend cs (some (literal, rest)) = some (cs ++ literal, rest) := rfl

theorem prepend_append (cs ds : List Char) (found : Option (List Char × List Char)) :
    prepend (cs ++ ds) found = prepend cs (prepend ds found) := by
  cases found <;> simp [prepend]

/-- A character that means nothing inside a literal. -/
def isPlain (c : Char) : Bool := !endsLine c && c ≠ '\'' && c ≠ '\\'

theorem scanBody_cons_plain {c : Char} (h : isPlain c) (cs : List Char) :
    scanBody false (c :: cs) = prepend [c] (scanBody false cs) := by
  simp only [isPlain, Bool.and_eq_true, Bool.not_eq_true', decide_eq_true_eq] at h
  obtain ⟨⟨hline, hquote⟩, hslash⟩ := h
  simp [scanBody, prepend, hline, hquote, hslash]

/-- Plain characters are scanned over. -/
theorem scanBody_append_plain {ds : List Char} (h : ∀ d ∈ ds, isPlain d) (cs : List Char) :
    scanBody false (ds ++ cs) = prepend ds (scanBody false cs) := by
  induction ds with
  | nil => simp
  | cons d ds ih =>
    rw [List.cons_append, scanBody_cons_plain (h d List.mem_cons_self),
      ih fun e he => h e (List.mem_cons_of_mem d he), ← prepend_append]
    rfl

/-- A backslash and the character it protects. -/
theorem scanBody_backslash {e : Char} (h : endsLine e = false) (cs : List Char) :
    scanBody false ('\\' :: e :: cs) = prepend ['\\', e] (scanBody false cs) := by
  have hslash : endsLine '\\' = false := by decide
  cases hscan : scanBody false cs <;> simp [scanBody, prepend, hslash, h, hscan]

/-! ### Hexadecimal digits -/

theorem hexDigit?_digitChar : ∀ d < 16, hexDigit? (Nat.digitChar d) = some d := by
  decide

theorem isPlain_digitChar : ∀ d < 16, isPlain (Nat.digitChar d) ∧ Nat.digitChar d ≠ '\x7d' ∧
    Nat.digitChar d ≠ '+' := by
  decide

/-- A number is spelled in hexadecimal digits. -/
theorem exists_digit_of_mem_hexText {n : Nat} {c : Char} (h : c ∈ hexText n) :
    ∃ d < 16, c = Nat.digitChar d := by
  induction n using Nat.strongRecOn with
  | _ n ih =>
    rw [hexText, Nat.toDigits_eq_if (by decide)] at h
    split at h
    case isTrue hn => exact ⟨n, hn, List.mem_singleton.mp h⟩
    case isFalse hn =>
      rcases List.mem_append.mp h with hhigh | hlow
      · exact ih (n / 16) (Nat.div_lt_self (by omega) (by decide)) hhigh
      · exact ⟨n % 16, Nat.mod_lt n (by decide), List.mem_singleton.mp hlow⟩

/-- No hexadecimal digit ends an escape or a literal. -/
theorem isPlain_of_mem_hexText {n : Nat} {c : Char} (h : c ∈ hexText n) :
    isPlain c ∧ c ≠ '\x7d' ∧ c ≠ '+' := by
  obtain ⟨d, hd, rfl⟩ := exists_digit_of_mem_hexText h
  exact isPlain_digitChar d hd

theorem hexDigits?_append (value : Nat) (cs ds : List Char) :
    hexDigits? value (cs ++ ds) = (hexDigits? value cs).bind fun v => hexDigits? v ds := by
  induction cs generalizing value with
  | nil => rfl
  | cons c cs ih =>
    cases h : hexDigit? c with
    | none => simp [hexDigits?, h]
    | some d => simp [hexDigits?, h, ih]

/-- A number is read from its hexadecimal spelling. -/
theorem hexDigits?_hexText (n : Nat) : hexDigits? 0 (hexText n) = some n := by
  induction n using Nat.strongRecOn with
  | _ n ih =>
    rw [hexText, Nat.toDigits_eq_if (by decide)]
    split
    case isTrue hn => simp [hexDigits?, hexDigit?_digitChar n hn]
    case isFalse hn =>
      -- the digits of `n / 16`, and one more
      have hlow := hexDigit?_digitChar (n % 16) (Nat.mod_lt n (by decide))
      have hhigh := ih (n / 16) (Nat.div_lt_self (by omega) (by decide))
      rw [hexText] at hhigh
      rw [hexDigits?_append, hhigh, Option.bind_some]
      simp only [hexDigits?, hlow, Option.some.injEq]
      omega

theorem hexNumber?_cons {c : Char} (h : c ≠ '+') (cs : List Char) :
    hexNumber? (c :: cs) = hexDigits? 0 (c :: cs) := by
  unfold hexNumber?
  split <;> simp_all

/-- A number written in hexadecimal digits reads as that number. -/
theorem hexNumber?_hexText (n : Nat) : hexNumber? (hexText n) = some n := by
  have hread := hexDigits?_hexText n
  rcases hdigits : hexText n with - | ⟨c, cs⟩
  · exact absurd hdigits Nat.toDigits_ne_nil
  · have hplus : c ≠ '+' := (isPlain_of_mem_hexText (n := n) (by simp [hdigits])).2.2
    rw [hdigits] at hread
    rw [hexNumber?_cons hplus, hread]

/-! ### One character -/

/-- The three shapes of an escape: the character itself, a backslash and one
character that stands for it, or a backslash and its code. -/
inductive Escape (c : Char) : List Char → Prop
  | plain : isPlain c → Escape c [c]
  | letter {e : Char} : endsLine e = false → (∀ cs, escapeAhead (e :: cs) = ([c], 1)) →
      Escape c ['\\', e]
  | code (ds : List Char) : (∀ d ∈ ds, isPlain d) →
      (∀ cs, escapeAhead ('u' :: ds ++ cs) = ([c], ds.length + 1)) → Escape c ('\\' :: 'u' :: ds)

/-- A code between braces reaches to the first closing one. -/
theorem escapeAhead_braced {hex : List Char} (h : ∀ d ∈ hex, d ≠ '\x7d') (cs : List Char) :
    escapeAhead ('u' :: '\x7b' :: (hex ++ '\x7d' :: cs))
      = (codePoint ['\\', 'u'] hex, hex.length + 3) := by
  have htake : (hex ++ '\x7d' :: cs).takeWhile (fun d => !decide (d = '\x7d')) = hex := by
    rw [List.takeWhile_append_of_pos (by simpa using h)]
    simp
  simp [escapeAhead, htake]

/-- The code of a character between braces. -/
theorem escapeAhead_braces (c : Char) (cs : List Char) :
    escapeAhead ('u' :: ('\x7b' :: hexText c.toNat ++ ['\x7d']) ++ cs)
      = ([c], (hexText c.toNat).length + 3) := by
  have hclose : ∀ d ∈ hexText c.toNat, d ≠ '\x7d' := fun d hd => (isPlain_of_mem_hexText hd).2.1
  have hvalid : c.toNat.isValidChar := c.valid
  simp [escapeAhead_braced hclose, codePoint, hexNumber?_hexText, hvalid]

/-- A character is written as an escape that is read as it. -/
theorem escapeChar_escape (c : Char) : Escape c (escapeChar c) := by
  unfold escapeChar
  split_ifs with hslash hquote hfeed hreturn htab hline hparagraph hcontrol
  · subst hslash
    exact .letter (by decide) fun _ => rfl
  · subst hquote
    exact .letter (by decide) fun _ => rfl
  · subst hfeed
    exact .letter (by decide) fun _ => rfl
  · subst hreturn
    exact .letter (by decide) fun _ => rfl
  · subst htab
    exact .letter (by decide) fun _ => rfl
  · subst hline
    exact .code ['2', '0', '2', '8'] (by simp [isPlain, endsLine]) fun _ => rfl
  · subst hparagraph
    exact .code ['2', '0', '2', '9'] (by simp [isPlain, endsLine]) fun _ => rfl
  · -- any other control character, by its code between braces
    refine .code ('\x7b' :: hexText c.toNat ++ ['\x7d']) ?_ fun cs => ?_
    · intro d hd
      simp only [List.cons_append, List.mem_cons, List.mem_append, List.not_mem_nil,
        or_false] at hd
      rcases hd with rfl | hd | rfl
      · decide
      · exact (isPlain_of_mem_hexText hd).1
      · decide
    · simpa using escapeAhead_braces c cs
  · exact .plain (by simp [isPlain, endsLine, hslash, hquote, hfeed, hreturn, hline, hparagraph])

/-- A scan takes the escape of a character as a whole and stays unguarded. -/
theorem Escape.scanBody_append {c : Char} {w : List Char} (h : Escape c w) (cs : List Char) :
    scanBody false (w ++ cs) = prepend w (scanBody false cs) := by
  cases h with
  | plain h => exact scanBody_cons_plain h cs
  | letter h _ => exact scanBody_backslash h cs
  | code ds h _ =>
    have hu : endsLine 'u' = false := by decide
    rw [List.cons_append, List.cons_append, scanBody_backslash hu, scanBody_append_plain h,
      ← prepend_append]
    rfl

/-- No shape of an escape ends a line. -/
theorem Escape.feed_notMem {c : Char} {w : List Char} (h : Escape c w) : '\n' ∉ w := by
  have hplain : isPlain '\n' = false := rfl
  intro hmem
  cases h with
  | plain h =>
    rw [← List.mem_singleton.mp hmem, hplain] at h
    cases h
  | letter h _ =>
    have hletter : endsLine '\n' = true := rfl
    simp only [List.mem_cons, List.not_mem_nil, or_false] at hmem
    rcases hmem with hslash | rfl
    · exact absurd hslash (by decide)
    · rw [hletter] at h
      cases h
  | code ds h _ =>
    have hds : '\n' ∉ ds := fun hd => by simpa [hplain] using h _ hd
    simp [hds] at hmem

/-- The escape of a character stands for that character. -/
theorem Escape.unescape_append {c : Char} {w : List Char} (h : Escape c w) (cs : List Char) :
    unescape (w ++ cs) = c :: unescape cs := by
  cases h with
  | plain h =>
    have hslash : c ≠ '\\' := by
      rintro rfl
      exact absurd h (by decide)
    exact unescape_cons_of_ne hslash cs
  | @letter e _ h =>
    -- two characters are read, the backslash and `e`
    show unescape ('\\' :: e :: cs) = c :: unescape cs
    rw [unescape_backslash, h]
    rfl
  | code ds _ h =>
    show unescape ('\\' :: ('u' :: ds ++ cs)) = c :: unescape cs
    rw [unescape_backslash, h]
    simp

/-! ### Whole values -/

theorem toList_quote (value : String) :
    (quote value).toList = '\'' :: (value.toList.flatMap escapeChar ++ ['\'']) := by
  simp [quote]

/-- Escaped text is scanned up to the quote behind it. -/
theorem scanBody_flatMap_escapeChar (cs rest : List Char) :
    scanBody false (cs.flatMap escapeChar ++ '\'' :: rest)
      = some (cs.flatMap escapeChar ++ ['\''], rest) := by
  induction cs with
  | nil => rfl
  | cons c cs ih =>
    rw [List.flatMap_cons, List.append_assoc, (escapeChar_escape c).scanBody_append, ih,
      prepend_some, List.append_assoc]

/-- A scan that starts at a quoted value ends with it, whatever follows. -/
theorem scanLiteral_quote (value : String) (rest : List Char) :
    scanLiteral ((quote value).toList ++ rest) = some ((quote value).toList, rest) := by
  have hbody := scanBody_flatMap_escapeChar value.toList rest
  simp [toList_quote, scanLiteral, hbody]

/-- Escaped text is read as the text. -/
theorem unescape_flatMap_escapeChar (cs : List Char) :
    unescape (cs.flatMap escapeChar) = cs := by
  induction cs with
  | nil => rfl
  | cons c cs ih => rw [List.flatMap_cons, (escapeChar_escape c).unescape_append, ih]

/-- White space is trimmed off a text that neither begins nor ends with it to no effect. -/
theorem trim_between {c d : Char} (hc : isBlank c = false) (hd : isBlank d = false)
    (cs : List Char) : trim (c :: (cs ++ [d])) = c :: (cs ++ [d]) := by
  have hend : ∀ cs, trimEnd (cs ++ [d]) = cs ++ [d] := by
    intro cs
    induction cs with
    | nil => simp [trimEnd, hd]
    | cons e cs ih =>
      rw [List.cons_append, trimEnd, ih]
      split <;> simp_all
  rw [trim, List.dropWhile_cons_of_neg (by simp [hc]), ← List.cons_append, hend]

/-- A text between two quotes of one kind loses them and nothing else. -/
theorem stripQuotes_between {c : Char} (h : isQuote c) (cs : List Char) :
    stripQuotes (c :: (cs ++ [c])) = cs := by
  have hblank : isBlank c = false := by
    simp only [isQuote, Bool.or_eq_true, decide_eq_true_eq] at h
    rcases h with (rfl | rfl) | rfl <;> decide
  rw [stripQuotes, trim_between hblank hblank]
  simp [h]

theorem stripQuotes_quote (value : String) :
    stripQuotes (quote value).toList = value.toList.flatMap escapeChar := by
  rw [toList_quote, stripQuotes_between rfl]

/-- The reading of a quoted value is the value. -/
theorem unquote_quote (value : String) : unquote (quote value) = value := by
  rw [unquote, stripQuotes_quote, unescape_flatMap_escapeChar, String.ofList_toList]

/-- No two values are quoted alike, since each is read from its literal. -/
theorem quote_injective : Function.Injective quote :=
  Function.LeftInverse.injective unquote_quote

/-! ### All literals of a text -/

/-- Something is scanned over, so that the search for literals ends. -/
theorem length_of_scanBody {guarded : Bool} {cs literal rest : List Char}
    (h : scanBody guarded cs = some (literal, rest)) : rest.length < cs.length := by
  induction cs generalizing guarded literal with
  | nil => simp [scanBody] at h
  | cons c cs ih =>
    rw [scanBody] at h
    split at h
    · cases h
    · split at h
      · cases h
        exact Nat.lt_succ_self _
      · obtain ⟨⟨inner, rest'⟩, hinner, heq⟩ := Option.map_eq_some_iff.mp h
        cases heq
        exact Nat.lt_succ_of_lt (ih hinner)

/-- The single-quoted literals that a text holds, read from its start; none at
all if one of them does not close. -/
def literals : List Char → Option (List (List Char))
  | [] => some []
  | c :: cs =>
      if c = '\'' then
        match _h : scanBody false cs with
        | some (literal, rest) => (literals rest).map (('\'' :: literal) :: ·)
        | none => none
      else literals cs
termination_by cs => cs.length
decreasing_by
  · exact Nat.lt_succ_of_lt (length_of_scanBody _h)
  · exact Nat.lt_succ_self _

/-- There is no literal before the first quote. -/
theorem literals_append_of_not_mem {ds : List Char} (h : '\'' ∉ ds) (cs : List Char) :
    literals (ds ++ cs) = literals cs := by
  induction ds with
  | nil => rfl
  | cons d ds ih =>
    obtain ⟨hd, hds⟩ := not_or.mp (mt List.mem_cons.mpr h)
    rw [List.cons_append, literals, if_neg (Ne.symm hd), ih hds]

/-- A quoted value is one literal, whatever follows. -/
theorem literals_quote_append (value : String) (cs : List Char) :
    literals ((quote value).toList ++ cs)
      = (literals cs).map ((quote value).toList :: ·) := by
  have hbody := scanBody_flatMap_escapeChar value.toList cs
  rw [toList_quote, List.cons_append, List.append_assoc, List.singleton_append, literals,
    if_pos rfl]
  split
  case h_1 literal rest hscan =>
    rw [hbody] at hscan
    cases hscan
    rfl
  case h_2 hscan =>
    rw [hbody] at hscan
    cases hscan

end DispatchGen.Text

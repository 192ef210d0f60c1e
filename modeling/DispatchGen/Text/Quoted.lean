/-
DispatchGen/Text/Quoted.lean

String literals of generated and scanned code.

`quote` writes a value as a single-quoted literal: backslash, quote and line
terminators get an escape, and so does every other control character.  `unquote`
reads a literal in any of the three quote styles, escapes included; an escape
that denotes no character stays as it was written.
-/
import DispatchGen.Text.Blank
import DispatchGen.Text.Hex

namespace DispatchGen.Text

/-! ### Writing -/

/-- The characters of the general category Cc. -/
def isControl (c : Char) : Bool := c.toNat ≤ 0x1f || (0x7f ≤ c.toNat && c.toNat ≤ 0x9f)

/-- How a character is written between single quotes. -/
def escapeChar (c : Char) : List Char :=
  if c = '\\' then ['\\', '\\']
  else if c = '\'' then ['\\', '\'']
  else if c = '\n' then ['\\', 'n']
  else if c = '\r' then ['\\', 'r']
  else if c = '\t' then ['\\', 't']
  else if c = '\u2028' then ['\\', 'u', '2', '0', '2', '8']
  else if c = '\u2029' then ['\\', 'u', '2', '0', '2', '9']
  else if isControl c then ['\\', 'u', '\x7b'] ++ hexText c.toNat ++ ['\x7d']
  else [c]

/-- `value` as a single-quoted string literal. -/
def quote (value : String) : String :=
  String.ofList ('\'' :: value.toList.flatMap escapeChar ++ ['\''])

/-! ### Reading -/

/-- A quote that can open and close a literal. -/
def isQuote (c : Char) : Bool := c = '"' || c = '\'' || c = '`'

/-- The text between the quotes, if the trimmed text begins and ends with the
same one; else the trimmed text. -/
def stripQuotes (raw : List Char) : List Char :=
  let body := trim raw
  match body with
  | c :: rest =>
      if isQuote c && rest.getLast? = some c then rest.dropLast else body
  | [] => []

/-- The character with the given hexadecimal code, or else the escape as it was
written, `introducer` first. -/
def codePoint (introducer hex : List Char) : List Char :=
  match hexNumber? hex with
  | some n => if n.isValidChar then [Char.ofNat n] else introducer ++ hex
  | none => introducer ++ hex

/-- The text that a backslash and one character stand for: a control character
that has a letter of its own, nothing if the character ends a line, and else the
character itself. -/
def escapedChar (c : Char) : List Char :=
  if c = 'n' then ['\n']
  else if c = 'r' then ['\r']
  else if c = 't' then ['\t']
  else if c = 'b' then ['\x08']
  else if c = 'f' then ['\x0c']
  else if c = 'v' then ['\x0b']
  else if c = '0' then ['\x00']
  else if c = '\n' || c = '\r' then []
  else [c]

/-- The text that a backslash before `cs` stands for, and how many characters of
`cs` it takes with it.  A backslash at the very end stands for itself. -/
def escapeAhead : List Char → List Char × Nat
  | [] => (['\\'], 0)
  | '\r' :: '\n' :: _ => ([], 2)
  | 'x' :: cs => (codePoint ['\\', 'x'] (cs.take 2), 3)
  | 'u' :: '\x7b' :: cs =>
      let hex := cs.takeWhile (· ≠ '\x7d')
      (codePoint ['\\', 'u'] hex, hex.length + 3)
  | 'u' :: cs => (codePoint ['\\', 'u'] (cs.take 4), 5)
  | c :: _ => (escapedChar c, 1)

/-- The text that `cs` stands for after its first `skip` characters. -/
def unescapeFrom : Nat → List Char → List Char
  | _, [] => []
  | skip + 1, _ :: cs => unescapeFrom skip cs
  | 0, c :: cs =>
      if c = '\\' then
        let (text, taken) := escapeAhead cs
        text ++ unescapeFrom taken cs
      else c :: unescapeFrom 0 cs

/-- The text that an escaped one stands for. -/
def unescape (cs : List Char) : List Char := unescapeFrom 0 cs

theorem unescapeFrom_eq_drop (skip : Nat) (cs : List Char) :
    unescapeFrom skip cs = unescape (cs.drop skip) := by
  induction cs generalizing skip with
  | nil => simp [unescape, unescapeFrom]
  | cons c cs ih =>
    cases skip with
    | zero => rfl
    | succ skip => exact ih skip

@[simp] theorem unescape_nil : unescape [] = [] := rfl

/-- A character that is no backslash stands for itself. -/
theorem unescape_cons_of_ne {c : Char} (h : c ≠ '\\') (cs : List Char) :
    unescape (c :: cs) = c :: unescape cs := by
  simp [unescape, unescapeFrom, h]

/-- A backslash stands for what it makes of the text after it. -/
theorem unescape_backslash (cs : List Char) :
    unescape ('\\' :: cs)
      = (escapeAhead cs).1 ++ unescape (cs.drop (escapeAhead cs).2) := by
  rw [← unescapeFrom_eq_drop]
  rfl

/-- The value of the string literal `raw`. -/
def unquote (raw : String) : String :=
  String.ofList (unescape (stripQuotes raw.toList))

end DispatchGen.Text

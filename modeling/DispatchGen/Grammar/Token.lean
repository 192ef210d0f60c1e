/-
DispatchGen/Grammar/Token.lean

Tokens, scanned one at a time from a position.

A `>` is always a token of its own, so that it can close a list of type
arguments; the expression grammar joins it with what follows.  A `/` is always
punctuation: whoever expects an expression there scans a regular expression
instead.  A token remembers whether a line ended before it.
-/
import DispatchGen.Grammar.Source
import DispatchGen.Text.Hex

namespace DispatchGen.Grammar

inductive TokenKind where
  /-- An identifier or keyword. -/
  | word
  /-- A `#name`. -/
  | privateName
  | number
  /-- A quoted string, with the positions of its malformed escapes. -/
  | string (malformed : List Nat)
  | mark
  /-- Text that starts no token, an unterminated string among it. -/
  | unknown
  | endOfText
deriving DecidableEq, Repr, Inhabited

structure Token where
  kind : TokenKind
  text : String
  start : Nat
  stop : Nat
  afterNewline : Bool
deriving Repr, Inhabited

def Token.isString (t : Token) : Bool :=
  match t.kind with
  | .string _ => true
  | _ => false

/-! ### Character classes -/

/-- White space between tokens. -/
def isSpace (c : Char) : Bool :=
  let n := c.toNat
  (9 ≤ n && n ≤ 13) || n = 0x20 || n = 0xa0 || n = 0x1680 || (0x2000 ≤ n && n ≤ 0x200b) ||
    n = 0x2028 || n = 0x2029 || n = 0x202f || n = 0x205f || n = 0x2060 || n = 0x3000 || n = 0xfeff

/-- Characters that end a line for the purpose of a missing semicolon. -/
def endsLine (c : Char) : Bool := c = '\n' || c = '\u2028' || c = '\u2029'

/-- Characters that end a line comment. -/
def endsComment (c : Char) : Bool := endsLine c || c = '\r'

/-- Characters of an identifier: all but controls, white space and marks. -/
def isWordPart (c : Char) : Bool :=
  !(c.toNat < 0x20 || isSpace c || ":;`\"'@#.,|^&<=>+-*/\\%?!~()[]\x7b\x7d".toList.contains c)

def isWordStart (c : Char) : Bool := isWordPart c && !('0' ≤ c && c ≤ '9')

def isDigit (c : Char) : Bool := '0' ≤ c && c ≤ '9'

namespace Source

/-! ### White space and comments -/

/-- The end of a block comment whose inside starts at `i`, and whether a line
ends in it; nothing if the comment does not end. -/
def blockCommentEnd? (s : Source) (newline : Bool) (i : Nat) : Option (Nat × Bool) :=
  if h : i < s.chars.size then
    if s.chars[i] = '*' && s.at? (i + 1) = some '/' then some (i + 2, newline)
    else s.blockCommentEnd? (newline || endsLine s.chars[i]) (i + 1)
  else none
termination_by s.chars.size - i

/-- The start of the next token at or after `i`, and whether a line ends
before it; `fuel` bounds the number of blanks and comments. -/
def skipBlanks (s : Source) : Nat → Bool → Nat → Nat × Bool
  | 0, newline, i => (i, newline)
  | fuel + 1, newline, i =>
      match s.at? i with
      | none => (i, newline)
      | some c =>
          if isSpace c then s.skipBlanks fuel (newline || endsLine c) (i + 1)
          else if s.hasAt i ['/', '/'] then
            s.skipBlanks fuel newline (s.skipWhile (!endsComment ·) i)
          else if s.hasAt i ['/', '*'] then
            match s.blockCommentEnd? newline (i + 2) with
            | some (stop, newline) => s.skipBlanks fuel newline stop
            | none => (i, newline)
          else (i, newline)

/-! ### Escapes -/

/-- How many characters from `i` on are hexadecimal digits. -/
def hexRun (s : Source) (i : Nat) : Nat := s.skipWhile (fun c => (Text.hexDigit? c).isSome) i - i

/-- Whether the escape whose backslash stands at `i` is well formed. -/
def escapeOk (s : Source) (i : Nat) : Bool :=
  match s.at? (i + 1) with
  | some 'x' => 2 ≤ s.hexRun (i + 2)
  | some 'u' =>
      if s.at? (i + 2) = some '\x7b' then
        let n := s.hexRun (i + 3)
        1 ≤ n && s.at? (i + 3 + n) = some '\x7d'
      else 4 ≤ s.hexRun (i + 2)
  | _ => true

/-- How many characters an escape at `i` covers as far as scanning goes: a
backslash, what it protects, and both halves of a line break. -/
def escapeWidth (s : Source) (i : Nat) : Nat :=
  if s.hasAt (i + 1) ['\r', '\n'] then 3 else 2

/-! ### Literals -/

/-- The end of a string in the given quotes whose inside starts at `i`, and the
positions of malformed escapes; nothing if a line ends first. -/
def stringEnd (s : Source) (quote : Char) (i : Nat) : Option (Nat × List Nat) :=
  if h : i < s.chars.size then
    let c := s.chars[i]
    if c = quote then some (i + 1, [])
    else if c = '\n' || c = '\r' then none
    else if c = '\\' then
      match s.stringEnd quote (i + s.escapeWidth i) with
      | some (stop, malformed) => some (stop, if s.escapeOk i then malformed else i :: malformed)
      | none => none
    else s.stringEnd quote (i + 1)
  else none
termination_by s.chars.size - i
decreasing_by
  · simp only [escapeWidth]; split <;> omega
  · omega

/-- The end of the regular expression whose inside starts at `i`, flags
included; nothing if a line ends first. -/
def regexEnd (s : Source) (inClass : Bool) (i : Nat) : Option Nat :=
  if h : i < s.chars.size then
    let c := s.chars[i]
    if endsComment c then none
    else if c = '\\' then s.regexEnd inClass (i + 2)
    else if c = '[' then s.regexEnd true (i + 1)
    else if c = ']' then s.regexEnd false (i + 1)
    else if c = '/' && !inClass then some (s.skipWhile isWordPart (i + 1))
    else s.regexEnd inClass (i + 1)
  else none
termination_by s.chars.size - i

/-- The end of the number that starts at `i`. -/
def numberEnd (s : Source) (i : Nat) : Nat :=
  let digits := s.skipWhile (fun c => isDigit c || c = '_')
  let radix := s.at? i = some '0' &&
    (match s.at? (i + 1) with
      | some c => "xXoObB".toList.contains c
      | none => false)
  if radix then s.skipWhile isWordPart i
  else
    let whole := digits i
    let fraction := if s.at? whole = some '.' then digits (whole + 1) else whole
    let exponent :=
      match s.at? fraction with
      | some 'e' | some 'E' =>
          let sign := match s.at? (fraction + 1) with
            | some '+' | some '-' => fraction + 2
            | _ => fraction + 1
          if (s.at? sign).any isDigit then digits sign else fraction
      | _ => fraction
    if s.at? exponent = some 'n' then exponent + 1 else exponent

/-- The end of the identifier that starts at `i`, escapes included. -/
def wordEnd (s : Source) (fuel : Nat) (i : Nat) : Nat :=
  match fuel with
  | 0 => i
  | fuel + 1 =>
      let stop := s.skipWhile isWordPart i
      if s.hasAt stop ['\\', 'u'] && s.escapeOk stop then
        let close :=
          if s.at? (stop + 2) = some '\x7b' then stop + 4 + s.hexRun (stop + 3) else stop + 6
        s.wordEnd fuel close
      else stop

end Source

/-! ### Marks -/

/-- Marks of more than one character, longest first. -/
def longMarks : List String :=
  ["...", "===", "!==", "**=", "<<=", "&&=", "||=", "??=",
    "=>", "==", "!=", "<=", "++", "--", "&&", "||", "??", "?.", "+=", "-=", "*=", "/=", "%=",
    "&=", "|=", "^=", "<<", "**"]

/-- The mark at `i`, if one stands there.  `?.` before a digit is a `?`. -/
def Source.markAt? (s : Source) (i : Nat) : Option String :=
  match longMarks.find? fun m => s.hasAt i m.toList with
  | some "?." => if (s.at? (i + 2)).any isDigit then some "?" else some "?."
  | some m => some m
  | none =>
      match s.at? i with
      | some c =>
          if "\x7b\x7d()[];,<>+-*/%&|^!~?:=.@#`".toList.contains c then some (String.singleton c)
          else none
      | none => none

/-- The token at or after `i`. -/
def Source.tokenAt (s : Source) (i : Nat) : Token :=
  let (start, afterNewline) := s.skipBlanks (s.size + 1) false i
  let token := fun kind stop => Token.mk kind (s.slice start stop) start stop afterNewline
  match s.at? start with
  | none => ⟨.endOfText, "", start, start, afterNewline⟩
  | some c =>
      if isDigit c || (c = '.' && (s.at? (start + 1)).any isDigit) then
        token .number (s.numberEnd start)
      else if c = '"' || c = '\'' then
        match s.stringEnd c (start + 1) with
        | some (stop, malformed) => token (.string malformed) stop
        | none => token .unknown (s.skipWhile (!endsComment ·) start)
      else if isWordStart c || (s.hasAt start ['\\', 'u'] && s.escapeOk start) then
        token .word (s.wordEnd (s.size + 1) start)
      else if c = '#' && (s.at? (start + 1)).any isWordStart then
        token .privateName (s.wordEnd (s.size + 1) (start + 1))
      else
        match s.markAt? start with
        | some m => token .mark (start + m.length)
        | none => token .unknown (start + 1)

/-- Where the tokens of a file begin: after a first line that names an
interpreter. -/
def Source.firstPosition (s : Source) : Nat :=
  if s.hasAt 0 ['#', '!'] then s.skipWhile (!endsComment ·) 0 else 0

end DispatchGen.Grammar

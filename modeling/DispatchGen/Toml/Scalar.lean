/-
DispatchGen/Toml/Scalar.lean

Strings, numbers, dates and keys of a document, each read from the front of a
list of characters.
-/
import DispatchGen.Text.Hex
import DispatchGen.Text.Shortest
import DispatchGen.Toml.Value

namespace DispatchGen.Toml

/-- What is read from the front of a text, and the rest of the text. -/
abbrev Scan (α : Type) := List Char → Option (α × List Char)

/-! ### White space -/

def isGap (c : Char) : Bool := c = ' ' || c = '\t'

def skipGaps (cs : List Char) : List Char := cs.dropWhile isGap

/-- Characters that may not stand in comments and strings. -/
def isForbidden (c : Char) : Bool := (c.toNat < 0x20 && c ≠ '\t') || c.toNat = 0x7f

/-- The rest after a line break. -/
def lineBreak? : List Char → Option (List Char)
  | '\n' :: cs => some cs
  | '\r' :: '\n' :: cs => some cs
  | _ => none

/-- The rest after a comment, if one is there and holds no forbidden
character. -/
def skipComment (cs : List Char) : Option (List Char) :=
  match cs with
  | '#' :: rest =>
      let after := rest.dropWhile fun c => !isForbidden c
      match after with
      | [] => some []
      | _ => if (lineBreak? after).isSome then some after else none
  | _ => some cs

/-- The rest after white space, comments and line breaks. -/
def skipLines : Nat → List Char → Option (List Char)
  | 0, cs => some cs
  | fuel + 1, cs =>
      match skipComment (skipGaps cs) with
      | none => none
      | some rest =>
          match lineBreak? rest with
          | some next => skipLines fuel next
          | none => some rest

/-! ### Strings -/

/-- The character with the hexadecimal code in the first `n` characters. -/
def codeEscape (n : Nat) (cs : List Char) : Option (Char × List Char) :=
  let digits := cs.take n
  if digits.length = n && digits.all (fun c => (Text.hexDigit? c).isSome) then
    match Text.hexDigits? 0 digits with
    | some code => if code.isValidChar then some (Char.ofNat code, cs.drop n) else none
    | none => none
  else none

/-- The character an escape denotes, read after its backslash. -/
def escape? : Scan Char
  | 'b' :: cs => some ('\x08', cs)
  | 't' :: cs => some ('\t', cs)
  | 'n' :: cs => some ('\n', cs)
  | 'f' :: cs => some ('\x0c', cs)
  | 'r' :: cs => some ('\r', cs)
  | 'e' :: cs => some ('\x1b', cs)
  | '"' :: cs => some ('"', cs)
  | '\\' :: cs => some ('\\', cs)
  | 'x' :: cs => codeEscape 2 cs
  | 'u' :: cs => codeEscape 4 cs
  | 'U' :: cs => codeEscape 8 cs
  | _ => none

/-- A string on one line, from after its opening quote. -/
def plainString (quote : Char) (escapes : Bool) : Nat → Scan (List Char)
  | 0, _ => none
  | _ + 1, [] => none
  | fuel + 1, c :: cs =>
      if c = quote then some ([], cs)
      else if c = '\\' && escapes then do
        let (d, rest) ← escape? cs
        let (text, rest) ← plainString quote escapes fuel rest
        return (d :: text, rest)
      else if isForbidden c then none
      else do
        let (text, rest) ← plainString quote escapes fuel cs
        return (c :: text, rest)

/-- The rest after a backslash that ends its line, all white space after it
included; nothing if the line does not end there. -/
def joinLines? (cs : List Char) : Option (List Char) :=
  match lineBreak? (skipGaps cs) with
  | some rest => some (rest.dropWhile fun c => isGap c || c = '\n' || c = '\r')
  | none => none

/-- A string over several lines, from after its opening quotes.  Up to two
quotes may stand before the three that close it. -/
def longString (quote : Char) (escapes : Bool) : Nat → Scan (List Char)
  | 0, _ => none
  | _ + 1, [] => none
  | fuel + 1, c :: cs =>
      if c = quote then
        let run := (cs.takeWhile (· = quote)).length + 1
        if run ≥ 6 then none
        else if run ≥ 3 then some (List.replicate (run - 3) quote, cs.drop (run - 1))
        else do
          let (text, rest) ← longString quote escapes fuel cs
          return (c :: text, rest)
      else if c = '\\' && escapes then
        match joinLines? cs with
        | some rest => longString quote escapes fuel rest
        | none => do
            let (d, rest) ← escape? cs
            let (text, rest) ← longString quote escapes fuel rest
            return (d :: text, rest)
      else
        match lineBreak? (c :: cs) with
        | some rest => do
            let (text, rest) ← longString quote escapes fuel rest
            return ('\n' :: text, rest)
        | none =>
            if isForbidden c then none
            else do
              let (text, rest) ← longString quote escapes fuel cs
              return (c :: text, rest)

/-- A string in any of the four styles, its quotes included. -/
def string? (cs : List Char) : Option (String × List Char) := do
  let (text, rest) ←
    match cs with
    | '"' :: '"' :: '"' :: inside =>
        longString '"' true (inside.length + 1) ((lineBreak? inside).getD inside)
    | '\'' :: '\'' :: '\'' :: inside =>
        longString '\'' false (inside.length + 1) ((lineBreak? inside).getD inside)
    | '"' :: inside => plainString '"' true (inside.length + 1) inside
    | '\'' :: inside => plainString '\'' false (inside.length + 1) inside
    | _ => none
  return (String.ofList text, rest)

/-! ### Keys -/

def isBareKey (c : Char) : Bool :=
  ('a' ≤ c && c ≤ 'z') || ('A' ≤ c && c ≤ 'Z') || ('0' ≤ c && c ≤ '9') || c = '_' || c = '-'

/-- One part of a key. -/
def keyPart? (cs : List Char) : Option (String × List Char) :=
  match cs with
  | '"' :: inside => do
      let (text, rest) ← plainString '"' true (inside.length + 1) inside
      return (String.ofList text, rest)
  | '\'' :: inside => do
      let (text, rest) ← plainString '\'' false (inside.length + 1) inside
      return (String.ofList text, rest)
  | _ =>
      match cs.takeWhile isBareKey with
      | [] => none
      | name => some (String.ofList name, cs.dropWhile isBareKey)

/-- A key with its dots. -/
def key? : Nat → Scan (List String)
  | 0, _ => none
  | fuel + 1, cs => do
      let (part, rest) ← keyPart? cs
      match skipGaps rest with
      | '.' :: more => do
          let (parts, rest) ← key? fuel (skipGaps more)
          return (part :: parts, rest)
      | rest => return ([part], rest)

/-! ### Numbers -/

def isDigit (c : Char) : Bool := '0' ≤ c && c ≤ '9'

/-- The text without the underscores between digits in the class `p`; nothing
if one stands elsewhere or a character is in neither. -/
def digitsOnly? (p : Char → Bool) : List Char → Option (List Char)
  | [] => none
  | [c] => if p c then some [c] else none
  | c :: '_' :: d :: cs =>
      if p c && p d then (digitsOnly? p (d :: cs)).map (c :: ·) else none
  | c :: cs => if p c then (digitsOnly? p cs).map (c :: ·) else none

/-- The value of digits in the given base. -/
def valueOf (base : Nat) (digits : List Char) : Nat :=
  digits.foldl (fun n c => base * n + (Text.hexDigit? c).getD 0) 0

/-- An unsigned decimal without a leading zero. -/
def decimal? (cs : List Char) : Option (List Char) :=
  match digitsOnly? isDigit cs with
  | some ('0' :: _ :: _) => none
  | found => found

/-- A sign and what follows it. -/
def signed (cs : List Char) : Bool × List Char :=
  match cs with
  | '-' :: rest => (true, rest)
  | '+' :: rest => (false, rest)
  | _ => (false, cs)

def integer? (cs : List Char) : Option Int :=
  let inBase := fun (base : Nat) (p : Char → Bool) (digits : List Char) =>
    (digitsOnly? p digits).map fun found => (valueOf base found : Int)
  match cs with
  | '0' :: 'x' :: digits => inBase 16 (fun c => (Text.hexDigit? c).isSome) digits
  | '0' :: 'o' :: digits => inBase 8 (fun c => '0' ≤ c && c ≤ '7') digits
  | '0' :: 'b' :: digits => inBase 2 (fun c => c = '0' || c = '1') digits
  | _ =>
      let (negative, digits) := signed cs
      (decimal? digits).map fun found =>
        let n : Int := valueOf 10 found
        if negative then -n else n

/-- The exponent of a float, from after its letter. -/
def exponent? (cs : List Char) : Option Int :=
  let (negative, digits) := signed cs
  (digitsOnly? isDigit digits).map fun found =>
    let n : Int := valueOf 10 found
    if negative then -n else n

/-- A float, as messages show it. -/
def float? (cs : List Char) : Option String := do
  let (negative, body) := signed cs
  let show_ := fun (x : Float) => Text.floatText (if negative then -x else x)
  if body = "inf".toList then return show_ (1.0 / 0.0)
  else if body = "nan".toList then return "NaN"
  else
    let isMark := fun c => c = '.' || c = 'e' || c = 'E'
    let whole ← decimal? (body.takeWhile (!isMark ·))
    let rest := body.dropWhile (!isMark ·)
    let isLetter := fun c => c = 'e' || c = 'E'
    let (fraction, rest) ← match rest with
      | '.' :: more => do
          let digits ← digitsOnly? isDigit (more.takeWhile (!isLetter ·))
          pure (digits, more.dropWhile (!isLetter ·))
      | [] => none
      | _ => pure ([], rest)
    let exponent ← match rest with
      | [] => pure 0
      | _ :: more => exponent? more
    let scale := exponent - fraction.length
    return show_ (Float.ofScientific (valueOf 10 (whole ++ fraction)) (scale < 0) scale.natAbs)

/-! ### Dates -/

/-- The number in exactly `n` digits at the front. -/
def fixed? (n : Nat) (cs : List Char) : Option (Nat × List Char) :=
  let digits := cs.take n
  if digits.length = n && digits.all isDigit then some (valueOf 10 digits, cs.drop n) else none

def daysIn (year month : Nat) : Nat :=
  if month = 2 then
    if year % 4 = 0 && (year % 100 ≠ 0 || year % 400 = 0) then 29 else 28
  else if [4, 6, 9, 11].contains month then 30
  else 31

/-- The rest after a calendar date. -/
def calendar? (cs : List Char) : Option (List Char) := do
  let (year, rest) ← fixed? 4 cs
  let '-' :: rest := rest | none
  let (month, rest) ← fixed? 2 rest
  let '-' :: rest := rest | none
  let (day, rest) ← fixed? 2 rest
  if 1 ≤ month && month ≤ 12 && 1 ≤ day && day ≤ daysIn year month then return rest else none

/-- The rest after a time of day; seconds and their fraction may be left out. -/
def clock? (cs : List Char) : Option (List Char) := do
  let (hour, rest) ← fixed? 2 cs
  let ':' :: rest := rest | none
  let (minute, rest) ← fixed? 2 rest
  if hour > 23 || minute > 59 then none
  match rest with
  | ':' :: rest => do
      let (second, rest) ← fixed? 2 rest
      if second > 60 then none
      match rest with
      | '.' :: more =>
          if (more.takeWhile isDigit).isEmpty then none else return more.dropWhile isDigit
      | _ => return rest
  | _ => return rest

/-- Whether the text is an offset from universal time. -/
def isOffset (cs : List Char) : Bool :=
  match cs with
  | ['Z'] | ['z'] => true
  | sign :: more =>
      (sign = '+' || sign = '-') &&
        match fixed? 2 more with
        | some (hour, ':' :: rest) =>
            match fixed? 2 rest with
            | some (minute, []) => hour ≤ 23 && minute ≤ 59
            | _ => false
        | _ => false
  | [] => false

/-- Whether the text is a date, a time, or both with or without an offset. -/
def isDate (cs : List Char) : Bool :=
  match calendar? cs with
  | some [] => true
  | some (mark :: more) =>
      (mark = 'T' || mark = 't' || mark = ' ') &&
        match clock? more with
        | some rest => rest.isEmpty || isOffset rest
        | none => false
  | none => clock? cs = some []

/-! ### Words -/

/-- Characters of a value that is not quoted. -/
def isWordChar (c : Char) : Bool := isBareKey c || c = '+' || c = '.' || c = ':'

/-- The text of an unquoted value: a run of its characters, or a date and a
time with a blank between them. -/
def scalarText (cs : List Char) : List Char × List Char :=
  let first := cs.takeWhile isWordChar
  let rest := cs.dropWhile isWordChar
  match calendar? first, rest with
  | some [], ' ' :: more =>
      if (clock? (more.takeWhile isWordChar)).isSome then
        (first ++ ' ' :: more.takeWhile isWordChar, more.dropWhile isWordChar)
      else (first, rest)
  | _, _ => (first, rest)

/-- The value an unquoted text denotes. -/
def scalar? (cs : List Char) : Option Value :=
  if cs = "true".toList then some (.boolean true)
  else if cs = "false".toList then some (.boolean false)
  else
    match integer? cs with
    | some n => some (.integer n)
    | none =>
        match float? cs with
        | some shown => some (.float shown)
        | none => if isDate cs then some .date else none

end DispatchGen.Toml

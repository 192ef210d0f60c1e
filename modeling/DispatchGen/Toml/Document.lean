/-
DispatchGen/Toml/Document.lean

Reading a whole document: headers and assignments, one to a line, with values
that may nest.  The fuel of the value readers is the length of the text; each
step takes at least one character.
-/
import DispatchGen.Toml.Scalar
import DispatchGen.Toml.Table

namespace DispatchGen.Toml

/-! ### Values -/

mutual

/-- A value. -/
def value? : Nat → Scan Value
  | 0, _ => none
  | fuel + 1, cs =>
      match cs with
      | '"' :: _ | '\'' :: _ => (string? cs).map fun (s, rest) => (.string s, rest)
      | '[' :: inside => (elements? fuel inside).map fun (vs, rest) => (.array vs, rest)
      | '\x7b' :: inside =>
          (members? fuel [] inside).map fun (entries, rest) =>
            (.table (finishEntries entries), rest)
      | _ =>
          let (text, rest) := scalarText cs
          (scalar? text).map fun v => (v, rest)

/-- The elements of an array, from after its bracket or a comma. -/
def elements? : Nat → Scan (List Value)
  | 0, _ => none
  | fuel + 1, cs => do
      let cs ← skipLines (cs.length + 1) cs
      match cs with
      | ']' :: rest => return ([], rest)
      | _ => do
          let (v, rest) ← value? fuel cs
          let rest ← skipLines (rest.length + 1) rest
          match rest with
          | ',' :: more => do
              let (vs, rest) ← elements? fuel more
              return (v :: vs, rest)
          | ']' :: rest => return ([v], rest)
          | _ => none

/-- The members of an inline table, from after its brace or a comma. -/
def members? : Nat → Entries → Scan Entries
  | 0, _, _ => none
  | fuel + 1, entries, cs => do
      let cs ← skipLines (cs.length + 1) cs
      match cs with
      | '\x7d' :: rest => return (entries, rest)
      | _ => do
          let (path, rest) ← key? (cs.length + 1) cs
          match skipGaps rest with
          | '=' :: more => do
              let (v, rest) ← value? fuel (skipGaps more)
              let entries ← Entries.assign v path entries
              let rest ← skipLines (rest.length + 1) rest
              match rest with
              | ',' :: more => members? fuel entries more
              | '\x7d' :: rest => return (entries, rest)
              | _ => none
          | _ => none

end

/-! ### Lines -/

/-- One line of a document. -/
inductive Line where
  | header (path : List String)
  | element (path : List String)
  | assignment (path : List String) (v : Value)

/-- A header with the given number of brackets. -/
def header? (path : Scan (List String)) (brackets : Nat) (cs : List Char) :
    Option (List String × List Char) := do
  let (keys, rest) ← path (skipGaps (cs.drop brackets))
  let rest := skipGaps rest
  if rest.take brackets = List.replicate brackets ']' then return (keys, rest.drop brackets)
  else none

/-- A line without what may follow it. -/
def line? (cs : List Char) : Option (Line × List Char) :=
  let path := key? (cs.length + 1)
  match cs with
  | '[' :: '[' :: _ => (header? path 2 cs).map fun (keys, rest) => (.element keys, rest)
  | '[' :: _ => (header? path 1 cs).map fun (keys, rest) => (.header keys, rest)
  | _ => do
      let (keys, rest) ← path cs
      match skipGaps rest with
      | '=' :: more => do
          let (v, rest) ← value? (more.length + 1) (skipGaps more)
          return (.assignment keys v, rest)
      | _ => none

/-- All lines of a text; each must end its line. -/
def lines? : Nat → List Char → Option (List Line)
  | 0, _ => none
  | fuel + 1, cs => do
      let cs ← skipLines (cs.length + 1) cs
      if cs.isEmpty then return []
      else
        let (line, rest) ← line? cs
        let rest ← skipComment (skipGaps rest)
        if rest.isEmpty then return [line]
        else
          let rest ← lineBreak? rest
          return line :: (← lines? fuel rest)

/-- The tables that lines describe, where `here` is the header in force. -/
def build? (here : List String) (entries : Entries) : List Line → Option Entries
  | [] => some entries
  | .header path :: rest => (entries.openTable path).bind fun opened => build? path opened rest
  | .element path :: rest => (entries.openElement path).bind fun opened => build? path opened rest
  | .assignment path v :: rest =>
      (Entries.descend (Entries.assign v path) here entries).bind fun assigned =>
        build? here assigned rest

/-- The document that a text writes; a byte order mark may precede it. -/
def read? (text : String) : Option Value := do
  let cs := match text.toList with
    | '\ufeff' :: cs => cs
    | cs => cs
  let lines ← lines? (cs.length + 1) cs
  let entries ← build? [] [] lines
  return .table (finishEntries entries)

end DispatchGen.Toml

/-
DispatchGen/Grammar/Recovery.lean

Going on after a syntax error.

A statement or class member that does not parse becomes an error node, and
reading resumes where the next one plausibly begins: after a semicolon, after
the block the broken part ends with, before the brace that closes what surrounds
it, or at the first line from the error on that opens with a keyword or a
decorator.  The braces of an import hold no block, so they are skipped like any
other token.
-/
import DispatchGen.Grammar.Reading

namespace DispatchGen.Grammar.Reading

open Syntax

/-- Words that begin a statement when they begin a line. -/
def openers : List String :=
  ["abstract", "class", "const", "declare", "do", "enum", "export", "for", "function", "if",
    "import", "interface", "let", "namespace", "return", "switch", "throw", "try", "type", "var",
    "while"]

/-- Whether the token begins something new, where a part that starts at `start`
broke at `position`. -/
def opensAfter (start position : Nat) (token : Token) : Bool :=
  token.start > start && token.start ≥ position && token.afterNewline &&
    match token.kind with
    | .word => openers.contains token.text
    | .mark => token.text = "@"
    | _ => false

/-- The brackets still open after a closing one. -/
def closeBracket (close : String) : List String → List String
  | "(" :: rest => if close = ")" then rest else "(" :: rest
  | "[" :: rest => if close = "]" then rest else "[" :: rest
  | stack => stack

/-- Skip what is left of a broken part that starts at `start`, where `stack`
holds the brackets opened in it; `blocks` if its braces hold blocks. -/
def skipBroken (start : Nat) (blocks : Bool) (fault : Fault) : Nat → List String → Reading Unit
  | 0, _ => return
  | fuel + 1, stack => do
      let token ← peek
      let inBraces := blocks && stack.contains "\x7b"
      if token.kind = .endOfText then return
      else if blocks && token.kind = .mark && token.text = "\x7d" then
        if inBraces then
          discard advance
          let rest := (stack.dropWhile (· ≠ "\x7b")).drop 1
          if rest.isEmpty && token.start > fault.position then return
          skipBroken start blocks fault fuel rest
      else if token.kind = .mark && token.text = ";" && !inBraces then discard advance
      else if !inBraces && opensAfter start fault.position token then return
      else
        discard advance
        let stack :=
          if token.kind != .mark then stack
          else if ["(", "[", "\x7b"].contains token.text then token.text :: stack
          else closeBracket token.text stack
        skipBroken start blocks fault fuel stack

/-- The part read by `p`, or the error node it turns out to be. -/
def recovering (p : Reading (List Node)) : Reading (List Node) := do
  let start := (← peek).start
  let blocks := !(← isWord "import")
  tryCatch p fun fault => do
    skipBroken start blocks fault ((← source).size + 1) []
    let broken ← node .error start []
    return [{ broken with line := fault.line, hasError := true }]

end DispatchGen.Grammar.Reading

/-
DispatchGen/Grammar/Source.lean

A source text with random access, and the line of every position.
-/

namespace DispatchGen.Grammar

/-- A source text.  `lines` holds, for each position and for the end, the line
it is on; lines are counted from one and only a line feed ends one. -/
structure Source where
  chars : Array Char
  lines : Array Nat

namespace Source

def ofChars (cs : List Char) : Source :=
  let step := fun (acc : Array Nat × Nat) (c : Char) =>
    let next := if c = '\n' then acc.2 + 1 else acc.2
    (acc.1.push next, next)
  ⟨cs.toArray, (cs.foldl step (#[1], 1)).1⟩

def size (s : Source) : Nat := s.chars.size

/-- The character at a position; past the end there is none. -/
def at? (s : Source) (i : Nat) : Option Char := s.chars[i]?

def lineAt (s : Source) (i : Nat) : Nat := s.lines.getD i 1

/-- The text from `start` up to `stop`. -/
def slice (s : Source) (start stop : Nat) : String :=
  String.ofList (s.chars.extract start stop).toList

/-- Whether `text` stands at a position. -/
def hasAt (s : Source) (i : Nat) : List Char → Bool
  | [] => true
  | c :: cs => s.at? i = some c && s.hasAt (i + 1) cs

/-- The end of the run of characters in `p` that starts at `i`. -/
def skipWhile (s : Source) (p : Char → Bool) (i : Nat) : Nat :=
  if h : i < s.chars.size then
    if p s.chars[i] then s.skipWhile p (i + 1) else i
  else i
termination_by s.chars.size - i

end Source

end DispatchGen.Grammar

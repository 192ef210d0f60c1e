/-
DispatchGen/Text/Os.lean

Text as the system holds it.

A file name is a string of bytes that need not be UTF-8.  Read as text it falls into chunks: the
characters that are spelled in it, and runs of bytes that spell none.  Such a run is as long as it
can be while a character could still begin with it, or else a single byte.  A file name is
displayed with U+FFFD for each run, so two names may be displayed alike.
-/

namespace DispatchGen

/-- A string of the system. -/
abbrev OsText := List UInt8

namespace OsText

/-- A text, as it is stored. -/
def ofText (s : String) : OsText := s.toUTF8.data.toList

/-- The text that is stored, if the bytes are UTF-8. -/
def toText? (t : OsText) : Option String := String.fromUTF8? ⟨t.toArray⟩

/-! ### Chunks -/

inductive Chunk where
  | char (c : Char)
  /-- Bytes that spell no character. -/
  | broken (bytes : List UInt8)
deriving DecidableEq, Repr

/-- How many bytes a character has that begins with `b`; none begins with `b` if it is zero. -/
def widthOf (b : UInt8) : Nat :=
  if b < 0x80 then 1
  else if b < 0xc2 then 0
  else if b < 0xe0 then 2
  else if b < 0xf0 then 3
  else if b < 0xf5 then 4
  else 0

/-- Whether `b` can be the second byte of a character that begins with `first`.  Some bytes would
spell a character that has a shorter spelling, a surrogate, or a number past the last character. -/
def canFollow (first b : UInt8) : Bool :=
  if first = 0xe0 then 0xa0 ≤ b && b < 0xc0
  else if first = 0xed then 0x80 ≤ b && b < 0xa0
  else if first = 0xf0 then 0x90 ≤ b && b < 0xc0
  else if first = 0xf4 then 0x80 ≤ b && b < 0x90
  else 0x80 ≤ b && b < 0xc0

/-- Whether a character can go on with `b` after the bytes in `begun`. -/
def goesOn (begun : List UInt8) (b : UInt8) : Bool :=
  match begun with
  | [] => false
  | [first] => canFollow first b
  | _ => 0x80 ≤ b && b < 0xc0

/-- The character that bytes spell. -/
def charOf : List UInt8 → Char
  | [] => '\x00'
  | [b] => Char.ofNat b.toNat
  | b :: more =>
      Char.ofNat (more.foldl (fun n b => n * 64 + b.toNat % 64)
        (b.toNat % Nat.pow 2 (6 - more.length)))

/-- A run of bytes that spells nothing, if it is one. -/
def brokenOf (begun : List UInt8) : List Chunk := if begun.isEmpty then [] else [.broken begun]

/-- The chunks of a string of which some bytes were read that begin a character, with `missing`
more to come. -/
def chunksFrom (begun : List UInt8) (missing : Nat) : OsText → List Chunk
  | [] => brokenOf begun
  | b :: rest =>
      if goesOn begun b then
        if missing ≤ 1 then .char (charOf (begun ++ [b])) :: chunksFrom [] 0 rest
        else chunksFrom (begun ++ [b]) (missing - 1) rest
      else
        brokenOf begun ++
          match widthOf b with
          | 0 => .broken [b] :: chunksFrom [] 0 rest
          | 1 => .char (charOf [b]) :: chunksFrom [] 0 rest
          | n + 2 => chunksFrom [b] (n + 1) rest

def chunks (t : OsText) : List Chunk := chunksFrom [] 0 t

/-- The character that stands for a chunk. -/
def Chunk.display : Chunk → Char
  | char c => c
  | broken _ => '\ufffd'

/-- The text that is displayed. -/
def display (t : OsText) : String := String.ofList (t.chunks.map Chunk.display)

end OsText

instance : Coe String OsText := ⟨OsText.ofText⟩

end DispatchGen

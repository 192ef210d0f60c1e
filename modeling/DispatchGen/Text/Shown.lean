/-
DispatchGen/Text/Shown.lean

Text between double quotes, as messages show it: quotes, backslashes, line
breaks and characters that would not print are escaped.  File names are shown
with their single quotes escaped too, other values are not; bytes of a file name
that spell no character are shown by their numbers.
-/
import DispatchGen.Text.Hex
import DispatchGen.Text.Os
import DispatchGen.Text.Printable

namespace DispatchGen.Text

/-- How a character is shown between double quotes. -/
def showChar (escapeSingle : Bool) (c : Char) : List Char :=
  if c = '\x00' then ['\\', '0']
  else if c = '\t' then ['\\', 't']
  else if c = '\r' then ['\\', 'r']
  else if c = '\n' then ['\\', 'n']
  else if c = '"' || c = '\\' then ['\\', c]
  else if c = '\'' && escapeSingle then ['\\', c]
  else if isPrintable c then [c]
  else ['\\', 'u', '\x7b'] ++ hexText c.toNat ++ ['\x7d']

/-- A value between double quotes. -/
def showValue (s : String) : String :=
  String.ofList ('"' :: s.toList.flatMap (showChar false) ++ ['"'])

/-- A byte that spells nothing, by its two hexadecimal digits. -/
def showByte (b : UInt8) : List Char :=
  ['\\', 'x', (Nat.digitChar (b.toNat / 16)).toUpper, (Nat.digitChar (b.toNat % 16)).toUpper]

def showChunk : OsText.Chunk → List Char
  | .char c => showChar true c
  | .broken bytes => bytes.flatMap showByte

/-- A file name between double quotes. -/
def showFileName (t : OsText) : String :=
  String.ofList ('"' :: t.chunks.flatMap showChunk ++ ['"'])

end DispatchGen.Text

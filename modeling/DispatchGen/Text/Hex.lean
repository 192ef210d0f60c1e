/-
DispatchGen/Text/Hex.lean

Hexadecimal numbers, read and written.
-/

namespace DispatchGen.Text

/-- The value of a hexadecimal digit in either case. -/
def hexDigit? (c : Char) : Option Nat :=
  let n := c.toNat
  if '0' ≤ c ∧ c ≤ '9' then some (n - 48)
  else if 'a' ≤ c ∧ c ≤ 'f' then some (n - 87)
  else if 'A' ≤ c ∧ c ≤ 'F' then some (n - 55)
  else none

/-- The number written by the digits `cs`, most significant first, continuing
from `value`. -/
def hexDigits? (value : Nat) : List Char → Option Nat
  | [] => some value
  | c :: cs =>
      match hexDigit? c with
      | some d => hexDigits? (16 * value + d) cs
      | none => none

/-- A number written with at least one digit; a `+` may stand before them. -/
def hexNumber? : List Char → Option Nat
  | [] => none
  | ['+'] => none
  | '+' :: cs => hexDigits? 0 cs
  | cs => hexDigits? 0 cs

/-- `n` in lowercase hexadecimal digits. -/
def hexText (n : Nat) : List Char := Nat.toDigits 16 n

end DispatchGen.Text

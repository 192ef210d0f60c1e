/-
DispatchGen/Text/Shortest.lean

The shortest decimal of a binary floating point number: the fewest digits that
read back as the number, and of those the nearest.

A finite number is `m · 2 ^ q`, and the reals that round to it form an interval
around it whose ends belong to it exactly if `m` is even.  For each number of
digits the two neighbours of the number on that decimal grid are tried.
-/

namespace DispatchGen.Text

/-- A positive number as a fraction. -/
structure Fraction where
  num : Nat
  den : Nat

namespace Fraction

/-- `n · b ^ e` -/
def scaled (n b : Nat) (e : Int) : Fraction :=
  if e < 0 then ⟨n, b.pow e.natAbs⟩ else ⟨n * b.pow e.natAbs, 1⟩

def lt (x y : Fraction) : Bool := x.num * y.den < y.num * x.den

def le (x y : Fraction) : Bool := x.num * y.den ≤ y.num * x.den

/-- The distance of two fractions. -/
def dist (x y : Fraction) : Fraction :=
  ⟨x.num * y.den - y.num * x.den + (y.num * x.den - x.num * y.den), x.den * y.den⟩

/-- The exponent of the first decimal place above the number, found by counting
up or down from `e`. -/
def places (x : Fraction) : Nat → Int → Int
  | 0, e => e
  | fuel + 1, e =>
      if (scaled 1 10 e).le x then x.places fuel (e + 1)
      else if x.lt (scaled 1 10 (e - 1)) then x.places fuel (e - 1)
      else e

end Fraction

/-- The reals that round to one number. -/
structure Interval where
  low : Fraction
  middle : Fraction
  high : Fraction
  closed : Bool

def Interval.contains (i : Interval) (x : Fraction) : Bool :=
  if i.closed then i.low.le x && x.le i.high else i.low.lt x && x.lt i.high

/-- The decimal `digits · 10 ^ exponent`. -/
structure Decimal where
  digits : Nat
  exponent : Int

def Decimal.fraction (d : Decimal) : Fraction := .scaled d.digits 10 d.exponent

/-- The nearer neighbour on the grid of the given exponent that lies in the
interval. -/
def Interval.onGrid? (i : Interval) (exponent : Int) : Option Decimal :=
  let unit := Fraction.scaled 1 10 exponent
  let below := i.middle.num * unit.den / (i.middle.den * unit.num)
  let candidates := [Decimal.mk below exponent, Decimal.mk (below + 1) exponent].filter
    fun d => i.contains d.fraction
  match candidates with
  | [a, b] =>
      if (b.fraction.dist i.middle).lt (a.fraction.dist i.middle) then some b else some a
  | [a] => some a
  | _ => none

/-- The shortest decimal in the interval. -/
def Interval.shortest (i : Interval) : Decimal :=
  let top := i.middle.places 700 0
  let tries := (List.range 17).filterMap fun (n : Nat) => i.onGrid? (top - Int.ofNat (n + 1))
  tries.head?.getD ⟨0, 0⟩

/-- The interval of the positive number with the given bits. -/
def Interval.ofBits (bits : Nat) : Interval :=
  let unit := Nat.pow 2 52
  let field := bits / unit
  let mantissa := bits % unit
  let m := if field = 0 then mantissa else mantissa + unit
  let q : Int := Int.ofNat (if field = 0 then 1 else field) - 1075
  let below := if mantissa = 0 && field > 1 then 1 else 2
  { low := .scaled (4 * m - below) 2 (q - 2)
    middle := .scaled (4 * m) 2 (q - 2)
    high := .scaled (4 * m + 2) 2 (q - 2)
    closed := m % 2 = 0 }

/-- The decimal in positional notation, with at least one digit after the
point. -/
def Decimal.positional (d : Decimal) : String :=
  let digits := (toString d.digits).toList
  match d.exponent with
  | .ofNat e => String.ofList (digits ++ List.replicate e '0') ++ ".0"
  | .negSucc e =>
      let behind := e + 1
      let padded := List.replicate (behind + 1 - digits.length) '0' ++ digits
      let whole := padded.take (padded.length - behind)
      let rest := padded.drop (padded.length - behind)
      String.ofList (whole ++ '.' :: rest)

/-- The text of a floating point number: never an exponent, always a point. -/
def floatText (x : Float) : String :=
  if x.isNaN then "NaN"
  else
    let signBit := Nat.pow 2 63
    let sign := if x.toBits.toNat ≥ signBit then "-" else ""
    let bits := x.toBits.toNat % signBit
    sign ++
      (if x.isInf then "inf"
       else if bits = 0 then "0.0"
       else (Interval.ofBits bits).shortest.positional)

end DispatchGen.Text

/-!
# The shortest decimal of a binary number

A binary64 number stands for all reals that round to it. Of the decimals among them, the shortest is
the one with the fewest digits, and of those the one nearest to the number; of two equally near ones
the greater. It is found by exact arithmetic: for one digit, two digits and so on, the two points of
that decimal grid next to the number are tested, and the first grid with a hit decides. Seventeen
digits always suffice.

`shortestText` writes it without an exponent and without a superfluous point.
-/

namespace Headway

/-- A positive binary number `significand · 2 ^ exponent`. The reals that round to it reach half a
step up and half a step down, or a quarter where the step below is half as wide, and include both
ends when the significand is even. -/
structure Binary where
  significand : Nat
  exponent : Int
  narrowBelow : Bool

/-- A number `digits · 10 ^ exponent`. -/
structure Decimal where
  digits : Nat
  exponent : Int

namespace Binary

/-- The number encoded by the bits below the sign, when it is positive and finite. -/
def ofBits (bits : Nat) : Binary :=
  let fraction := bits % 4503599627370496
  let biased := bits / 4503599627370496 % 2048
  if biased = 0 then ⟨fraction, -1074, false⟩
  else ⟨fraction + 4503599627370496, (biased : Int) - 1075, fraction = 0 && 1 < biased⟩

/-- A quarter of the step, over a common denominator. -/
def quarter (b : Binary) : Nat × Nat :=
  let e := b.exponent - 2
  if 0 ≤ e then (Nat.pow 2 e.toNat, 1) else (1, Nat.pow 2 (-e).toNat)

/-- The number itself, in quarters of the step. -/
def quarters (b : Binary) : Nat := 4 * b.significand

/-- The power of ten just not above the number. -/
def magnitude (b : Binary) : Int :=
  let (num, den) := b.quarter
  ((toString (b.quarters * num * Nat.pow 10 400 / den)).length : Int) - 401

/-- Compares `d` with `n` quarters of the step. -/
def compareDecimal (b : Binary) (d : Decimal) (n : Nat) : Ordering :=
  let (num, den) := b.quarter
  if 0 ≤ d.exponent then compare (d.digits * Nat.pow 10 d.exponent.toNat * den) (n * num)
  else compare (d.digits * den) (n * num * Nat.pow 10 (-d.exponent).toNat)

/-- A decimal rounds to the number. -/
def roundsFrom (b : Binary) (d : Decimal) : Bool :=
  let low := b.compareDecimal d (b.quarters - if b.narrowBelow then 1 else 2)
  let high := b.compareDecimal d (b.quarters + 2)
  let even := b.significand % 2 == 0
  (low == .gt || even && low == .eq) && (high == .lt || even && high == .eq)

/-- The greatest point of a decimal grid that is not above the number. -/
def below (b : Binary) (exponent : Int) : Decimal :=
  let (num, den) := b.quarter
  let n := b.quarters * num
  let digits :=
    if 0 ≤ exponent then n / (den * Nat.pow 10 exponent.toNat)
    else n * Nat.pow 10 (-exponent).toNat / den
  ⟨digits, exponent⟩

/-- The decimal on a grid that rounds to the number, if there is one. -/
def onGrid? (b : Binary) (exponent : Int) : Option Decimal :=
  let low := b.below exponent
  let high : Decimal := ⟨low.digits + 1, exponent⟩
  match b.roundsFrom low, b.roundsFrom high with
  | true, true =>
    -- the middle of the two neighbours, on a grid with one more digit
    let middle : Decimal := ⟨low.digits * 10 + 5, exponent - 1⟩
    if b.compareDecimal middle b.quarters == .gt then some low else some high
  | true, false => some low
  | false, true => some high
  | false, false => none

/-- The shortest decimal, tried with the given numbers of digits. -/
def shortest (b : Binary) : Decimal :=
  let first := b.magnitude
  match (List.range 17).findSome? fun (k : Nat) => b.onGrid? (first - k) with
  | some d => d
  | none => b.below (first - 16)

end Binary

/-- Drops zeros at the end of a run of digits. -/
def dropEndZeros (ds : List Char) : List Char := (ds.reverse.dropWhile (· = '0')).reverse

/-- Writes a decimal without an exponent. -/
def Decimal.text (d : Decimal) : String :=
  let ds := (toString d.digits).toList
  if 0 ≤ d.exponent then String.ofList (ds ++ List.replicate d.exponent.toNat '0')
  else
    let places := (-d.exponent).toNat
    let ds := List.replicate (places + 1 - ds.length) '0' ++ ds
    let whole := ds.take (ds.length - places)
    let fraction := dropEndZeros (ds.drop (ds.length - places))
    String.ofList (if fraction.isEmpty then whole else whole ++ '.' :: fraction)

/-- The shortest decimal that reads back as a number, written without an exponent. -/
def shortestText (x : Float) : String :=
  if x.isNaN then "NaN"
  else
    let bits := x.toBits.toNat
    let sign := if 9223372036854775808 ≤ bits then "-" else ""
    let rest := bits % 9223372036854775808
    if x.isInf then sign ++ "inf"
    else if rest = 0 then sign ++ "0"
    else sign ++ (Binary.ofBits rest).shortest.text

end Headway

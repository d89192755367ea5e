import Headway.Text.Digits

/-!
# Numerals

A number as it is written: a sign, decimal digits, a power of ten, and whether it was written as a
whole number, without point and exponent. What it stands for depends on who asks: an integer only if
it is written as one, a binary64 number always, rounded to the nearest.

`Numeral.read` reads the numerals of both JSON and YAML, which differ in what may be left out.
-/

namespace Headway

/-- The number `± digits · 10 ^ exponent`. -/
structure Numeral where
  negative : Bool
  digits : Nat
  exponent : Int
  /-- Written without point and exponent. -/
  whole : Bool
  deriving DecidableEq

namespace Numeral

/-- The integer that a whole numeral writes. Minus zero is none. -/
def integer? (n : Numeral) : Option Int :=
  if n.whole && !(n.negative && n.digits == 0) then
    some (if n.negative then -(n.digits : Int) else n.digits)
  else
    none

/-- The magnitude as the nearest binary64 number. Magnitudes that are certainly out of range are
decided by their number of digits. -/
def magnitude (n : Numeral) : Float :=
  let order := ((toString n.digits).length : Int) + n.exponent
  if n.digits = 0 ∨ order < -400 then 0
  else if 400 < order then 1 / 0
  else Float.ofScientific n.digits (n.exponent < 0) n.exponent.natAbs

/-- The nearest binary64 number. -/
def toFloat (n : Numeral) : Float := if n.negative then -n.magnitude else n.magnitude

/-- What may be left out of a numeral. -/
structure Style where
  /-- Digits before the point are needed, and a zero there stands alone. -/
  plainWhole : Bool
  /-- Digits after the point are needed. -/
  fullFraction : Bool

/-- The exponent that follows a mantissa: zero when there is none, and no result when it has no
digits. -/
def readExponent (cs : List Char) : Option (Int × Bool × List Char) :=
  match cs with
  | e :: rest =>
    if e = 'e' ∨ e = 'E' then
      let (negative, rest) :=
        match rest with
        | '+' :: r => (false, r)
        | '-' :: r => (true, r)
        | _ => (false, rest)
      (readNumber none rest).map fun (n, r) => (if negative then -(n : Int) else n, true, r)
    else
      some (0, false, cs)
  | [] => some (0, false, cs)

/-- The digits after a point, if there is one. -/
def readFraction (style : Style) (cs : List Char) : Option (Option (List Char) × List Char) :=
  match cs with
  | '.' :: rest =>
    let ds := rest.takeWhile isDigit
    if ds.isEmpty && style.fullFraction then none else some (some ds, rest.drop ds.length)
  | _ => some (none, cs)

/-- The digits before a point are as the style wants them. -/
def wholeAllowed (style : Style) (ds : List Char) : Bool :=
  if style.plainWhole then !ds.isEmpty && (ds.length == 1 || ds.head? != some '0') else true

/-- Reads an unsigned numeral from the front. -/
def read (style : Style) (negative : Bool) (cs : List Char) : Option (Numeral × List Char) := do
  let ds := cs.takeWhile isDigit
  if !wholeAllowed style ds then none
  let (fraction, cs) ← readFraction style (cs.drop ds.length)
  let places := fraction.getD []
  if ds.isEmpty && places.isEmpty then none
  let (exponent, hasExponent, cs) ← readExponent cs
  return ({ negative
            digits := ofDigits (ds ++ places)
            exponent := exponent - places.length
            whole := fraction.isNone && !hasExponent }, cs)

end Numeral

end Headway

/-!
# Decimal digits

Reading and writing whole numbers in decimal. A run of digits is split off the front of a list of
characters.
-/

namespace Headway

/-- An ASCII digit. -/
def isDigit (c : Char) : Bool := '0' ≤ c && c ≤ '9'

/-- The number that a digit stands for. -/
def digitValue (c : Char) : Nat := c.toNat - '0'.toNat

/-- The number that a run of digits writes. -/
def ofDigits (cs : List Char) : Nat := cs.foldl (fun n c => n * 10 + digitValue c) 0

/-- The digits at the front, at most `width` of them when a width is given. -/
def leadingDigits (width : Option Nat) (cs : List Char) : List Char :=
  match width with
  | some w => (cs.take w).takeWhile isDigit
  | none => cs.takeWhile isDigit

/-- Reads the number at the front, from at least one digit and at most `width`. -/
def readNumber (width : Option Nat) (cs : List Char) : Option (Nat × List Char) :=
  let ds := leadingDigits width cs
  if ds.isEmpty then none else some (ofDigits ds, cs.drop ds.length)

/-- A number with zeros in front up to a width. -/
def padded (width n : Nat) : String :=
  let ds := (toString n).toList
  String.ofList (List.replicate (width - ds.length) '0' ++ ds)

/-- A year: four digits between 0 and 9999, and a sign with at least four digits otherwise. -/
def yearText (year : Int) : String :=
  if 0 ≤ year ∧ year ≤ 9999 then padded 4 year.toNat
  else (if year < 0 then "-" else "+") ++ padded 4 year.natAbs

end Headway

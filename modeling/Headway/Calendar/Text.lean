import Headway.Calendar.Instant
import Headway.Text.Blank
import Headway.Text.Digits

/-!
# Days and instants as text

A day is written `2024-03-11`; years outside 0 to 9999 carry a sign. An instant is written
`2024-03-11T08:00:00.125Z`, in UTC, with no fraction or with the fewest of 3, 6 or 9 digits that
lose nothing; a leap second shows as second 60. In running text the same instant is
`2024-03-11 08:00:00.125 UTC`.

Reading is more liberal. Blanks may stand before a number and around the separators, a number may
have fewer digits, the letter between date and time may be `T`, `t` or a blank, digits past the
ninth of a fraction are dropped, and the offset is `Z`, `UTC` in any case, or a signed number of
hours and minutes.
-/

namespace Headway

/-! ## Writing -/

/-- A day as year, month and day of the month. -/
def Day.text (d : Day) : String :=
  let c := d.civil
  yearText c.year ++ "-" ++ padded 2 c.month ++ "-" ++ padded 2 c.day

/-- The nanoseconds of a second, as the shortest fraction of 3, 6 or 9 digits. -/
def fractionText (nano : Nat) : String :=
  if nano = 0 then ""
  else if nano % 1000000 = 0 then "." ++ padded 3 (nano / 1000000)
  else if nano % 1000 = 0 then "." ++ padded 6 (nano / 1000)
  else "." ++ padded 9 nano

/-- The time of day. A leap second counts as one second more. -/
def Instant.timeText (t : Instant) : String :=
  let s := t.secondOfDay.toNat
  let leap := if t.isLeap then 1 else 0
  padded 2 (s / 3600) ++ ":" ++ padded 2 (s / 60 % 60) ++ ":" ++ padded 2 (s % 60 + leap) ++
    fractionText (t.nano - leap * 1000000000)

/-- An instant as a machine reads it. -/
def Instant.text (t : Instant) : String := t.day.text ++ "T" ++ t.timeText ++ "Z"

/-- An instant as a message shows it. -/
def Instant.spokenText (t : Instant) : String := t.day.text ++ " " ++ t.timeText ++ " UTC"

/-! ## Reading -/

namespace Reading

/-- Reads one given character. -/
def char (c : Char) (cs : List Char) : Option (List Char) :=
  match cs with
  | d :: rest => if c = d then some rest else none
  | [] => none

/-- Reads a number of at most two digits, after blanks. -/
def pair (cs : List Char) : Option (Nat × List Char) := readNumber (some 2) (skipBlanks cs)

/-- Reads a year: four digits at most, or any number of digits after a sign. -/
def year (cs : List Char) : Option (Int × List Char) :=
  match skipBlanks cs with
  | '-' :: rest => (readNumber none rest).map fun (n, r) => (-(n : Int), r)
  | '+' :: rest => (readNumber none rest).map fun (n, r) => ((n : Int), r)
  | rest => (readNumber (some 4) rest).map fun (n, r) => ((n : Int), r)

/-- Reads a date, up to and including the day of the month. -/
def date (cs : List Char) : Option (Day × List Char) := do
  let (y, cs) ← year cs
  let cs ← char '-' (skipBlanks cs)
  let (m, cs) ← pair cs
  let cs ← char '-' (skipBlanks cs)
  let (d, cs) ← pair cs
  let day ← Day.ofCivil? y m d
  return (day, cs)

/-- The nanoseconds that the digits of a fraction write; digits past the ninth are dropped. -/
def nanosOfFraction (ds : List Char) : Nat :=
  let kept := ds.take 9
  ofDigits kept * Nat.pow 10 (9 - kept.length)

/-- Reads a fraction of a second, or nothing. A point without a digit is an error. -/
def fraction (cs : List Char) : Option (Nat × List Char) :=
  match cs with
  | '.' :: rest =>
    let ds := rest.takeWhile isDigit
    if ds.isEmpty then none else some (nanosOfFraction ds, rest.drop ds.length)
  | _ => some (0, cs)

/-- A time of day: seconds, and nanoseconds that reach 10⁹ in a leap second. -/
structure TimeOfDay where
  second : Nat
  nano : Nat

/-- Reads a time of day, with the blanks after it. -/
def timeOfDay (cs : List Char) : Option (TimeOfDay × List Char) := do
  let (h, cs) ← pair cs
  let cs ← char ':' (skipBlanks cs)
  let (m, cs) ← pair cs
  let cs ← char ':' (skipBlanks cs)
  let (s, cs) ← pair cs
  let (nano, cs) ← fraction cs
  if 23 < h ∨ 59 < m ∨ 60 < s then none
  else if s = 60 then
    some ({ second := h * 3600 + m * 60 + 59, nano := nano + 1000000000 }, skipBlanks cs)
  else
    some ({ second := h * 3600 + m * 60 + s, nano := nano }, skipBlanks cs)

/-- Reads hours and minutes of an offset, both with two digits, into seconds. -/
def offsetDigits (cs : List Char) : Option (Int × List Char) :=
  match cs with
  | h₁ :: h₂ :: rest =>
    match rest.dropWhile fun c => c = ':' || isBlank c with
    | m₁ :: m₂ :: rest =>
      if isDigit h₁ && isDigit h₂ && isDigit m₁ && isDigit m₂ then
        let hours := ofDigits [h₁, h₂]
        let minutes := ofDigits [m₁, m₂]
        if 23 < hours ∨ 59 < minutes then none
        else some ((hours * 3600 + minutes * 60 : Nat), rest)
      else
        none
    | _ => none
  | _ => none

/-- Reads the offset from UTC, in seconds. -/
def offset (cs : List Char) : Option (Int × List Char) :=
  match cs with
  | 'Z' :: rest => some (0, rest)
  | 'z' :: rest => some (0, rest)
  | '+' :: rest => offsetDigits rest
  | '-' :: rest => (offsetDigits rest).map fun (s, r) => (-s, r)
  | '−' :: rest => (offsetDigits rest).map fun (s, r) => (-s, r)
  | u :: t :: c :: rest =>
    if [u.toUpper, t.toUpper, c.toUpper] = ['U', 'T', 'C'] then some (0, rest) else none
  | _ => none

end Reading

/-- Reads a day. -/
def Day.ofText? (s : String) : Option Day :=
  match Reading.date s.toList with
  | some (d, rest) => if allBlank rest then some d else none
  | none => none

/-- Reads an instant. -/
def Instant.ofText? (s : String) : Option Instant := do
  let (d, cs) ← Reading.date s.toList
  let cs ← match cs with
    | c :: rest => if c = 'T' ∨ c = 't' ∨ c = ' ' then some rest else none
    | [] => none
  let (time, cs) ← Reading.timeOfDay cs
  let (offset, cs) ← Reading.offset cs
  if allBlank cs then Instant.of? (d.number * 86400 + time.second - offset) time.nano else none

end Headway

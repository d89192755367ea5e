import Headway.Calendar.Text
import Headway.Document.Basic

/-!
# Decoders

A decoder takes a document for a value of some type, or says why it cannot. The decoders here are
those of single values and of lists; records are read by shapes (`Shape`).

A plain word of YAML is taken for what is wanted: a text takes any word, a whole number may be
written in decimal, hexadecimal, octal or binary, and the empty word stands for an empty list or
record and for a missing value.
-/

namespace Headway

/-- Takes a document for a value. -/
abbrev Decoder (α : Type) := Document → Except Misfit α

namespace Decoder

variable {α β : Type}

/-- What is wrong with a document that is of another kind than wanted. -/
def refuse : Document → Except Misfit α
  | .broken => .error .malformed
  | _ => .error .unsuited

/-- A value that must exist. -/
def need (x : Option α) : Except Misfit α :=
  match x with
  | some a => .ok a
  | none => .error .unsuited

/-- Goes on with a value, where not every value will do. -/
def narrow (d : Decoder α) (f : α → Option β) : Decoder β := fun doc => do need (f (← d doc))

/-! ## Plain words -/

/-- The value of a digit in a base up to sixteen. -/
def digitIn? (base : Nat) (c : Char) : Option Nat :=
  let v :=
    if isDigit c then digitValue c
    else if 'a' ≤ c ∧ c ≤ 'f' then c.toNat - 'a'.toNat + 10
    else if 'A' ≤ c ∧ c ≤ 'F' then c.toNat - 'A'.toNat + 10
    else base
  if v < base then some v else none

/-- The number that digits write in a base; at least one digit is needed. -/
def inBase? (base : Nat) (cs : List Char) : Option Nat :=
  if cs.isEmpty then none
  else cs.foldlM (fun n c => (digitIn? base c).map (n * base + ·)) 0

/-- An unsigned whole number. Several digits do not start with a zero. -/
def wholeDigits? : List Char → Option Nat
  | '0' :: 'x' :: ds => inBase? 16 ds
  | '0' :: 'o' :: ds => inBase? 8 ds
  | '0' :: 'b' :: ds => inBase? 2 ds
  | '0' :: _ :: _ => none
  | ds => inBase? 10 ds

/-- The whole number that a plain word writes. -/
def wordWhole? (word : String) : Option Int :=
  match word.toList with
  | '-' :: ds => (wholeDigits? ds).map fun n => -(n : Int)
  | '+' :: ds => (wholeDigits? ds).map Int.ofNat
  | ds => (wholeDigits? ds).map Int.ofNat

/-- The numerals of plain words: either side of the point may be empty. -/
def wordStyle : Numeral.Style := ⟨false, false⟩

/-- The unsigned number that a plain word writes, which must not exceed all binary64 numbers. -/
def wordMagnitude? (negative : Bool) (cs : List Char) : Option Float :=
  match Numeral.read wordStyle negative cs with
  | some (n, []) => if n.toFloat.isFinite then some n.toFloat else none
  | _ => none

/-- The number that a plain word writes. -/
def wordFraction? (word : String) : Option Float :=
  if [".inf", ".Inf", ".INF", "+.inf", "+.Inf", "+.INF"].contains word then some (1 / 0)
  else if ["-.inf", "-.Inf", "-.INF"].contains word then some (-1 / 0)
  else if [".nan", ".NaN", ".NAN"].contains word then some (0 / 0)
  else
    match word.toList with
    | '-' :: cs => wordMagnitude? true cs
    | '+' :: cs => wordMagnitude? false cs
    | cs => wordMagnitude? false cs

/-- The truth value that a plain word writes. -/
def wordTruth? (word : String) : Option Bool :=
  if ["true", "True", "TRUE"].contains word then some true
  else if ["false", "False", "FALSE"].contains word then some false
  else none

/-- A plain word that stands for a missing value. -/
def isNullWord (word : String) : Bool := ["", "~", "null", "Null", "NULL"].contains word

/-! ## Single values -/

/-- A text. -/
def text : Decoder String
  | .text s => .ok s
  | .plain w => .ok w
  | doc => refuse doc

/-- An integer between two bounds. -/
def integer (least greatest : Int) : Decoder Int := fun doc => do
  let n ← match doc with
    | .number n => need n.integer?
    | .plain w => need (wordWhole? w)
    | doc => refuse doc
  if least ≤ n ∧ n ≤ greatest then return n else .error .unsuited

/-- A natural number up to a bound. A plain word with a minus sign is none, not even for zero. -/
def natural (greatest : Nat) : Decoder Nat := fun doc =>
  match doc with
  | .plain w =>
    if w.startsWith "-" then .error .unsuited else (integer 0 greatest doc).map Int.toNat
  | doc => (integer 0 greatest doc).map Int.toNat

/-- A signed 32-bit integer. -/
def int32 : Decoder Int := integer (-2147483648) 2147483647

/-- A signed 64-bit integer. -/
def int64 : Decoder Int := integer (-9223372036854775808) 9223372036854775807

/-- An unsigned 32-bit integer. -/
def nat32 : Decoder Nat := natural 4294967295

/-- An unsigned 64-bit integer. -/
def nat64 : Decoder Nat := natural 18446744073709551615

/-- A binary64 number. -/
def fraction : Decoder Float
  | .number n => .ok n.toFloat
  | .plain w => need (wordFraction? w)
  | doc => refuse doc

/-- A truth value. -/
def truth : Decoder Bool
  | .bool b => .ok b
  | .plain w => need (wordTruth? w)
  | doc => refuse doc

/-- A day. -/
def day : Decoder Day := text.narrow Day.ofText?

/-- An instant. -/
def instant : Decoder Instant := text.narrow Instant.ofText?

/-- One of several words, each of which stands for a value. JSON may also give the word as the only
key of a record, with null as its value; anything else there breaks the text. -/
def choice (words : List (String × α)) : Decoder α
  | .text w => need (words.lookup w)
  | .plain w => need (words.lookup w)
  | .record ((key, value) :: rest) complete => do
    let a ← need (words.lookup (← text key))
    match value with
    | .null => if rest.isEmpty && complete then .ok a else .error .malformed
    | value => refuse value
  | .sequence _ => .error .unsuited
  | .mapping _ => .error .unsuited
  | _ => .error .malformed

/-! ## Values that may be missing, and lists -/

/-- A value or null. -/
def optional (d : Decoder α) : Decoder (Option α)
  | .null => .ok none
  | .plain w => if isNullWord w then .ok none else (d (.plain w)).map some
  | doc => (d doc).map some

/-- A list of values of one kind. -/
def listOf (d : Decoder α) : Decoder (List α)
  | .list items complete => do
    let values ← items.mapM d
    if complete then return values else .error .malformed
  | .sequence items => items.mapM d
  | .plain w => if w.isEmpty then .ok [] else .error .unsuited
  | doc => refuse doc

end Decoder

end Headway

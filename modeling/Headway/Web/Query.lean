import Headway.Document.Shape
import Headway.Text.Utf8

/-!
# Queries

A query is a list of fields and values, joined by `&` and `=`. In both a plus sign is a blank, and a
percent sign with two hexadecimal digits is a byte. Empty parts are passed over, and a part without
`=` is a field with the empty value.

A query is used like any record (`Query.decode?`), where all values are texts.
-/

namespace Headway

namespace Web

/-- Fields and values in order. -/
abbrev Query := List (String × String)

namespace Query

/-- The value of a hexadecimal digit, as a byte. -/
def hexValue? (b : Nat) : Option Nat := Decoder.digitIn? 16 (Char.ofNat b)

/-- Reads the bytes that percent signs stand for. -/
def percentDecode : List Nat → List Nat
  | [] => []
  | 0x25 :: a :: b :: rest =>
    match hexValue? a, hexValue? b with
    | some x, some y => (x * 16 + y) :: percentDecode rest
    | _, _ => 0x25 :: percentDecode (a :: b :: rest)
  | b :: rest => b :: percentDecode rest

/-- The text of a field or a value. -/
def component (bytes : List Nat) : String :=
  Utf8.text (percentDecode (bytes.map fun b => if b = 0x2B then 0x20 else b))

/-- Cuts a list at every member of a kind. -/
def split (sep : Nat) : List Nat → List (List Nat)
  | [] => [[]]
  | b :: rest =>
    if b = sep then [] :: split sep rest
    else
      match split sep rest with
      | [] => [[b]]
      | part :: parts => (b :: part) :: parts

/-- The field and the value of a part. -/
def entry (part : List Nat) : String × String :=
  let name := part.takeWhile (· ≠ 0x3D)
  (component name, component (part.drop (name.length + 1)))

/-- Reads a query. -/
def ofText (s : String) : Query :=
  ((split 0x26 (Utf8.bytes s)).filter fun part => !part.isEmpty).map entry

/-- Decodes a query. -/
def decode? {α : Type} (shape : Shape α) (q : Query) : Option α :=
  (shape.decode (.mapping (q.map fun e => (.text e.1, .text e.2)))).toOption

/-! ## Values -/

/-- A natural number up to a bound, with or without a plus sign. -/
def nat? (greatest : Nat) (s : String) : Option Nat :=
  let ds := match s.toList with
    | '+' :: ds => ds
    | ds => ds
  match Decoder.inBase? 10 ds with
  | some n => if n ≤ greatest then some n else none
  | none => none

/-- A natural number of 32 bits. -/
def nat32 : Decoder Nat := Decoder.text.narrow (nat? 4294967295)

/-- A signed number of 32 bits. -/
def int32? (s : String) : Option Int :=
  match s.toList with
  | '-' :: ds =>
    (Decoder.inBase? 10 ds).bind fun n => if n ≤ 2147483648 then some (-(n : Int)) else none
  | _ => (nat? 2147483647 s).map Int.ofNat

/-- A signed number of 32 bits. -/
def int32 : Decoder Int := Decoder.text.narrow int32?

/-- A truth value. -/
def truth : Decoder Bool :=
  Decoder.text.narrow fun s => [("true", true), ("false", false)].lookup s

end Query

/-- A field of a query that may be left out. -/
def optionalField {α : Type} (name : String) (d : Decoder α) : Shape (Option α) :=
  .withDefault name (fun doc => (d doc).map some) none

end Web

end Headway

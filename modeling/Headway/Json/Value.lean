import Headway.Decimal.Shortest

/-!
# Writing JSON

The values that answers are made of, and their text. Whole numbers and fractional ones are kept
apart, so that a fraction is written with a point even when it is whole. A number that is not finite
has no text in JSON and is written as null.
-/

namespace Headway

/-- A value of an answer. -/
inductive Json where
  | null
  | bool (value : Bool)
  | whole (value : Int)
  | fraction (value : Float)
  | text (value : String)
  | list (items : List Json)
  | record (entries : List (String × Json))
  deriving Inhabited

namespace Json

/-- A value that may be missing, as null. -/
def ofOption {α : Type} (f : α → Json) : Option α → Json
  | some a => f a
  | none => .null

/-- A list of values. -/
def ofList {α : Type} (f : α → Json) (xs : List α) : Json := .list (xs.map f)

/-- A natural number. -/
def ofNat (n : Nat) : Json := .whole n

/-! ## Text -/

/-- A hexadecimal digit. -/
def hexDigit (n : Nat) : Char := if n < 10 then Char.ofNat (48 + n) else Char.ofNat (87 + n)

/-- A character inside quotes. -/
def quotedChar (c : Char) : List Char :=
  match c with
  | '"' => ['\\', '"']
  | '\\' => ['\\', '\\']
  | '\n' => ['\\', 'n']
  | '\r' => ['\\', 'r']
  | '\t' => ['\\', 't']
  | c =>
    if c.toNat < 0x20 then ['\\', 'u', '0', '0', hexDigit (c.toNat / 16), hexDigit (c.toNat % 16)]
    else [c]

/-- A text in quotes. -/
def quoted (s : String) : String := String.ofList ('"' :: s.toList.flatMap quotedChar ++ ['"'])

/-- A fractional number, with a point. -/
def fractionText (x : Float) : String :=
  if x.isFinite then
    let s := shortestText x
    if s.contains '.' then s else s ++ ".0"
  else
    "null"

mutual

/-- The text of a value, without space. -/
def render : Json → String
  | .null => "null"
  | .bool true => "true"
  | .bool false => "false"
  | .whole n => toString n
  | .fraction x => fractionText x
  | .text s => quoted s
  | .list items => "[" ++ renderItems items ++ "]"
  | .record entries => "\x7b" ++ renderEntries entries ++ "\x7d"

/-- The text of the values of a list. -/
def renderItems : List Json → String
  | [] => ""
  | [v] => v.render
  | v :: rest => v.render ++ "," ++ renderItems rest

/-- The text of the entries of a record. -/
def renderEntries : List (String × Json) → String
  | [] => ""
  | [(k, v)] => quoted k ++ ":" ++ v.render
  | (k, v) :: rest => quoted k ++ ":" ++ v.render ++ "," ++ renderEntries rest

end

end Json

end Headway

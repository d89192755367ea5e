import Headway.Document.Decoder

/-!
# Reading JSON

A text is read from left to right into a document. At the first character that cannot stand where it
stands reading ends, and the document shows how far it went. A number beyond all binary64 numbers,
and a string with half of a surrogate pair, are well written but cannot be represented: reading goes
on after them, and only whoever wants such a value meets the fault.

`Json.decode` reads a whole text and decodes it. What follows the value must be blank, which is
asked last.
-/

namespace Headway

namespace Json

/-- Separates the parts of a JSON text. -/
def isSpace (c : Char) : Bool := c = ' ' || c = '\n' || c = '\r' || c = '\t'

/-- Drops the space in front. -/
def skipSpace (cs : List Char) : List Char := cs.dropWhile isSpace

/-! ## Strings -/

/-- The character that a letter after a backslash stands for. -/
def escaped? : Char → Option Char
  | '"' => some '"'
  | '\\' => some '\\'
  | '/' => some '/'
  | 'b' => some '\x08'
  | 'f' => some '\x0c'
  | 'n' => some '\n'
  | 'r' => some '\r'
  | 't' => some '\t'
  | _ => none

/-- The number that four hexadecimal digits write. -/
def hex4? (a b c d : Char) : Option Nat := Decoder.inBase? 16 [a, b, c, d]

/-- Is the first half of a surrogate pair. -/
def isHighSurrogate (n : Nat) : Bool := 0xD800 ≤ n && n < 0xDC00

/-- Is the second half of a surrogate pair. -/
def isLowSurrogate (n : Nat) : Bool := 0xDC00 ≤ n && n < 0xE000

/-- The character of a surrogate pair. -/
def ofSurrogates (high low : Nat) : Char :=
  Char.ofNat (0x10000 + (high - 0xD800) * 0x400 + (low - 0xDC00))

/-- A string that is being read: its characters in reverse, and the first half of a surrogate pair
that waits for the second. The characters are lost once there was half of a pair alone. -/
structure Sofar where
  chars : Option (List Char)
  high : Option Nat

namespace Sofar

/-- Nothing read yet. -/
def start : Sofar := ⟨some [], none⟩

/-- Takes a character. -/
def push (s : Sofar) (c : Char) : Sofar :=
  match s.high with
  | some _ => ⟨none, none⟩
  | none => ⟨s.chars.map (c :: ·), none⟩

/-- Takes a 16-bit unit. -/
def pushUnit (s : Sofar) (n : Nat) : Sofar :=
  match s.high with
  | some high =>
    if isLowSurrogate n then ⟨s.chars.map (ofSurrogates high n :: ·), none⟩ else ⟨none, none⟩
  | none =>
    if isHighSurrogate n then ⟨s.chars, some n⟩
    else if isLowSurrogate n then ⟨none, none⟩
    else ⟨s.chars.map (Char.ofNat n :: ·), none⟩

/-- The string, if it can be represented. -/
def string? (s : Sofar) : Option String :=
  match s.high with
  | some _ => none
  | none => s.chars.map fun cs => String.ofList cs.reverse

end Sofar

/-- Reads a string after its opening quote. The text is broken when there is no result. -/
def readString (sofar : Sofar) : List Char → Option (Option String × List Char)
  | [] => none
  | '"' :: rest => some (sofar.string?, rest)
  | '\\' :: 'u' :: a :: b :: c :: d :: rest =>
    match hex4? a b c d with
    | some n => readString (sofar.pushUnit n) rest
    | none => none
  | '\\' :: c :: rest =>
    match escaped? c with
    | some x => readString (sofar.push x) rest
    | none => none
  | c :: rest => if c.toNat < 0x20 then none else readString (sofar.push c) rest

/-! ## Values -/

/-- The numerals of JSON. -/
def numeralStyle : Numeral.Style := ⟨true, true⟩

/-- A document with the text after it; there is none when the text is broken in the document. -/
abbrev Read := Document × Option (List Char)

/-- Reads a number after its sign. -/
def readNumber (negative : Bool) (cs : List Char) : Read :=
  match Numeral.read numeralStyle negative cs with
  | some (n, rest) => (if n.toFloat.isFinite then .number n else .broken, some rest)
  | none => (.broken, none)

/-- Reads a quoted text after its opening quote. -/
def readText (cs : List Char) : Read :=
  match readString .start cs with
  | some (s, rest) => ((s.map Document.text).getD .broken, some rest)
  | none => (.broken, none)

mutual

/-- Reads a value, with a bound on the steps. -/
def readValue : Nat → List Char → Read
  | 0, _ => (.broken, none)
  | n + 1, cs =>
    match skipSpace cs with
    | '"' :: rest => readText rest
    | '[' :: rest =>
      match skipSpace rest with
      | ']' :: rest => (.list [] true, some rest)
      | rest => let (items, rest) := readItems n rest; (.list items rest.isSome, rest)
    | '\x7b' :: rest =>
      match skipSpace rest with
      | '\x7d' :: rest => (.record [] true, some rest)
      | rest => let (entries, rest) := readEntries n rest; (.record entries rest.isSome, rest)
    | 'n' :: 'u' :: 'l' :: 'l' :: rest => (.null, some rest)
    | 't' :: 'r' :: 'u' :: 'e' :: rest => (.bool true, some rest)
    | 'f' :: 'a' :: 'l' :: 's' :: 'e' :: rest => (.bool false, some rest)
    | '-' :: rest => readNumber true rest
    | rest => readNumber false rest

/-- Reads the values of a list up to its closing bracket; there is at least one. -/
def readItems : Nat → List Char → List Document × Option (List Char)
  | 0, _ => ([], none)
  | n + 1, cs =>
    match readValue n cs with
    | (doc, none) => ([doc], none)
    | (doc, some rest) =>
      match skipSpace rest with
      | ',' :: rest => let (docs, rest) := readItems n rest; (doc :: docs, rest)
      | ']' :: rest => ([doc], some rest)
      | _ => ([doc], none)

/-- Reads the entries of a record up to its closing brace; there is at least one. A key is noted
even if the text breaks right after it. -/
def readEntries : Nat → List Char → List (Document × Document) × Option (List Char)
  | 0, _ => ([], none)
  | n + 1, cs =>
    match skipSpace cs with
    | '"' :: rest =>
      match readText rest with
      | (key, some rest) =>
        match skipSpace rest with
        | ':' :: rest =>
          match readValue n rest with
          | (doc, none) => ([(key, doc)], none)
          | (doc, some rest) =>
            match skipSpace rest with
            | ',' :: rest =>
              let (entries, rest) := readEntries n rest
              ((key, doc) :: entries, rest)
            | '\x7d' :: rest => ([(key, doc)], some rest)
            | _ => ([(key, doc)], none)
        | _ => ([(key, .broken)], none)
      | _ => ([], none)
    | _ => ([], none)

end

/-- The document at the front of a text, and what follows it. -/
def read (s : String) : Read := readValue (s.length + 1) s.toList

/-- Nothing but space is left. -/
def atEnd (rest : Option (List Char)) : Bool := rest.any fun cs => cs.all isSpace

/-- Decodes a whole text. -/
def decode {α : Type} (d : Decoder α) (s : String) : Except Misfit α := do
  let (doc, rest) := read s
  let a ← d doc
  if atEnd rest then return a else .error .malformed

end Json

/-! ## Sound documents -/

mutual

/-- Nothing in a document is broken. -/
def Document.isSound : Document → Bool
  | .broken => false
  | .list items complete => complete && allSound items
  | .sequence items => allSound items
  | .record entries complete => complete && allEntriesSound entries
  | .mapping entries => allEntriesSound entries
  | _ => true

/-- Nothing in a list of documents is broken. -/
def Document.allSound : List Document → Bool
  | [] => true
  | doc :: rest => doc.isSound && allSound rest

/-- Nothing in a list of entries is broken. -/
def Document.allEntriesSound : List (Document × Document) → Bool
  | [] => true
  | (key, doc) :: rest => key.isSound && doc.isSound && allEntriesSound rest

end

mutual

/-- How many lists and records stand around the innermost value. -/
def Document.depth : Document → Nat
  | .list items _ => depthOfAll items + 1
  | .sequence items => depthOfAll items + 1
  | .record entries _ => depthOfEntries entries + 1
  | .mapping entries => depthOfEntries entries + 1
  | _ => 0

/-- The greatest depth in a list of documents. -/
def Document.depthOfAll : List Document → Nat
  | [] => 0
  | doc :: rest => max doc.depth (depthOfAll rest)

/-- The greatest depth in a list of entries. -/
def Document.depthOfEntries : List (Document × Document) → Nat
  | [] => 0
  | (key, doc) :: rest => max (max key.depth doc.depth) (depthOfEntries rest)

end

/-- The greatest depth of a document that is kept as a whole. -/
def Json.depthLimit : Nat := 127

/-- The document of a text without any fault. -/
def Json.read? (s : String) : Option Document :=
  let (doc, rest) := Json.read s
  if doc.isSound && doc.depth ≤ Json.depthLimit && Json.atEnd rest then some doc else none

end Headway

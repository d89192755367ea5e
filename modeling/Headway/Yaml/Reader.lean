import Headway.Yaml.Indented

/-!
# Reading YAML

The plain part of YAML: one document with lists and mappings, written by indentation or between
brackets, with comments and with plain and quoted scalars. Tags, anchors, directives and literal
blocks are not part of it and are refused.

A document may start with three hyphens, and may end with lines of three dots.
-/

namespace Headway

namespace Yaml

/-- The ways to end a line as one, but for the separators of lines and of paragraphs. -/
def unifyBreaks : List Char → List Char
  | [] => []
  | '\r' :: '\n' :: rest => '\n' :: unifyBreaks rest
  | c :: rest => (if c = '\r' || c = '\u0085' then '\n' else c) :: unifyBreaks rest

/-- The characters that may occur, as ranges with both ends included. -/
def allowedRanges : List (Nat × Nat) :=
  [(0x09, 0x0A), (0x0D, 0x0D), (0x20, 0x7E), (0x85, 0x85), (0xA0, 0xD7FF), (0xE000, 0xFFFD),
    (0x10000, 0x10FFFF)]

/-- May occur in a text. -/
def isAllowed (c : Char) : Bool := allowedRanges.any fun r => r.1 ≤ c.toNat && c.toNat ≤ r.2

/-- Reads the node of a document, after its start if that is marked. -/
def readRoot (n : Nat) (s : Spot) : Option (Document × Spot) :=
  if s.column = 0 && isStartMarker s.chars then readNode n 0 (s.forward 3).next
  else if s.column = 0 && isEndMarker s.chars then none
  else readNode n 0 s

/-- Nothing follows but marks of an end, given a bound on their number. -/
def isEnd : Nat → Spot → Bool
  | 0, s => s.chars.isEmpty
  | n + 1, s =>
    s.chars.isEmpty || s.column = 0 && isEndMarker s.chars && isEnd n (s.forward 3).next

/-- The document of a text. A text without a document has the empty word for one. -/
def read? (s : String) : Option Document := do
  let cs := s.toList
  if !cs.all isAllowed then none
  let cs := unifyBreaks cs
  let (doc, t) ← readRoot (2 * cs.length + 8) (Spot.start cs).next
  if isEnd cs.length t then some doc else none

/-- Decodes a text. A blank text has the empty word for a document, whatever its blanks are. -/
def decode? {α : Type} (d : Decoder α) (s : String) : Option α :=
  match if allBlank s.toList then some (.plain "") else read? s with
  | some doc => (d doc).toOption
  | none => none

end Yaml

end Headway

import Headway.Yaml.Brackets

/-!
# YAML by indentation

The entries of a list or mapping stand in one column. What belongs to an entry stands further right;
only a list that belongs to an entry of a mapping may stand in the mapping's own column.

A key and its colon stand on one line, and a value on that line is a scalar or stands between
brackets. After a question mark stands a key of any kind, whose value follows a colon in the same
column.
-/

namespace Headway

namespace Yaml

/-- Reads a scalar or what stands between brackets. -/
def readInline (indent n : Nat) (s : Spot) : Option (Document × Spot) :=
  match s.chars with
  | '[' :: _ => readInside indent n s
  | '\x7b' :: _ => readInside indent n s
  | _ => readScalar false indent s

mutual

/-- Reads a node that stands in a column not left of `indent`, up to the next token. Where there is
no node it is the empty word. -/
def readNode : Nat → Nat → Spot → Option (Document × Spot)
  | 0, _, _ => none
  | n + 1, indent, s =>
    if s.isOver || s.column < indent then some (emptyWord, s)
    else if s.isDash then
      if s.fresh then (readList n s.column s).map fun (items, s) => (.sequence items, s)
      else none
    else if s.isQuestion then
      if s.fresh then (readMapping n s.column s).map fun (entries, s) => (.mapping entries, s)
      else none
    else do
      let (doc, after) ← readInline indent n s
      let t := after.next
      if t.isColon && !t.fresh then
        if s.fresh && s.isKeyFor t then
          (readMapping n s.column s).map fun (entries, s) => (.mapping entries, s)
        else
          none
      else
        some (doc, t)

/-- Reads the entries of a list whose dashes stand in a column. -/
def readList : Nat → Nat → Spot → Option (List Document × Spot)
  | 0, _, _ => none
  | n + 1, column, s => do
    let (doc, t) ← readNode n (column + 1) s.afterSign.next
    if t.isAt column && t.isDash then (readList n column t).map fun (docs, s) => (doc :: docs, s)
    else some ([doc], t)

/-- Reads a key after its question mark, or a value after its colon, in a mapping whose keys stand
in a column. -/
def readPart : Nat → Nat → Spot → Option (Document × Spot)
  | 0, _, _ => none
  | n + 1, column, s =>
    if s.isAt column && s.isDash then
      (readList n column s).map fun (items, s) => (.sequence items, s)
    else
      readNode n (column + 1) s

/-- Reads the entries of a mapping whose keys stand in a column. -/
def readMapping : Nat → Nat → Spot → Option (List (Document × Document) × Spot)
  | 0, _, _ => none
  | n + 1, column, s => do
    let (key, value, t) ←
      if s.isQuestion then do
        let (key, t) ← readPart n column s.afterSign.next
        if t.isAt column && t.isColon then do
          let (value, t) ← readPart n column t.afterSign.next
          some (key, value, t)
        else
          some (key, emptyWord, t)
      else do
        let (key, after) ← readInline (column + 1) n s
        let colon := after.next
        if colon.isColon && s.isKeyFor colon then do
          let (value, t) ← readPart n column (colon.forward 1).next
          some (key, value, t)
        else
          none
    if t.isAt column && !t.isOver then
      (readMapping n column t).map fun (entries, s) => ((key, value) :: entries, s)
    else some ([(key, value)], t)

end

end Yaml

end Headway

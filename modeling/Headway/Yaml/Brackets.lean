import Headway.Yaml.Scalar

/-!
# YAML between brackets

Lists in square brackets and mappings in braces. Lines and indentation mean nothing there, but a key
and its colon stand on one line. After a question mark stands a key of any length.

A key alone has the empty word for its value. In a list, a single entry of a mapping may stand
without braces.
-/

namespace Headway

namespace Yaml

/-- Where nothing is written stands the empty word. -/
def emptyWord : Document := .plain ""

/-- The value that follows a key, when there is a colon; given how values are read, and where the
colon may stand. -/
def readAfterColon (read : Spot → Option (Document × Spot)) (belongs : Spot → Bool) (s : Spot) :
    Option (Option Document × Spot) :=
  match s.chars with
  | ':' :: _ =>
    if !belongs s then none
    else
      let v := (s.forward 1).nextInside
      match v.chars with
      | ',' :: _ => some (some emptyWord, v)
      | ']' :: _ => some (some emptyWord, v)
      | '\x7d' :: _ => some (some emptyWord, v)
      | _ => (read v).map fun (doc, s) => (some doc, s.nextInside)
  | _ => some (none, s)

/-- The key and the value after a question mark. Where the key is missing, a list passes over the
sign that stands in its place. -/
def readAfterQuestion (read : Spot → Option (Document × Spot)) (inList : Bool) (s : Spot) :
    Option ((Document × Document) × Spot) := do
  let k := (s.forward 1).nextInside
  let missing := some (emptyWord, if inList then (k.forward 1).nextInside else k)
  let (key, t) ← match k.chars with
    | ':' :: _ => missing
    | ',' :: _ => missing
    | '\x7d' :: _ => if inList then none else missing
    | _ => (read k).map fun (doc, s) => (doc, s.nextInside)
  let (value, t) ← readAfterColon read (fun _ => true) t
  return ((key, value.getD emptyWord), t)

mutual

/-- Reads a value between brackets, with a bound on the steps. -/
def readInside (indent : Nat) : Nat → Spot → Option (Document × Spot)
  | 0, _ => none
  | n + 1, s =>
    if s.isOver then none
    else
      match s.chars with
      | '[' :: _ =>
        (readItems indent n (s.forward 1).nextInside).map fun (items, s) => (.sequence items, s)
      | '\x7b' :: _ =>
        (readPairs indent n (s.forward 1).nextInside).map fun (pairs, s) => (.mapping pairs, s)
      | _ => readScalar true indent s

/-- Reads the values of a list. -/
def readItems (indent : Nat) : Nat → Spot → Option (List Document × Spot)
  | 0, _ => none
  | n + 1, s =>
    match s.chars with
    | ']' :: _ => some ([], s.forward 1)
    | _ => do
      let (item, t) ← match s.chars with
        | '?' :: _ =>
          (readAfterQuestion (readInside indent n) true s).map fun (pair, t) =>
            (Document.mapping [pair], t)
        | _ => do
          let (doc, after) ← readInside indent n s
          let (value, t) ← readAfterColon (readInside indent n) s.isKeyFor after.nextInside
          match value with
          | some v => some (Document.mapping [(doc, v)], t)
          | none => some (doc, t)
      match t.chars with
      | ',' :: _ =>
        (readItems indent n (t.forward 1).nextInside).map fun (items, s) => (item :: items, s)
      | ']' :: _ => some ([item], t.forward 1)
      | _ => none

/-- Reads the entries of a mapping. -/
def readPairs (indent : Nat) : Nat → Spot → Option (List (Document × Document) × Spot)
  | 0, _ => none
  | n + 1, s =>
    match s.chars with
    | '\x7d' :: _ => some ([], s.forward 1)
    | _ => do
      let (pair, t) ← match s.chars with
        | '?' :: _ => readAfterQuestion (readInside indent n) false s
        | _ => do
          let (key, after) ← readInside indent n s
          let (value, t) ← readAfterColon (readInside indent n) s.isKeyFor after.nextInside
          some ((key, value.getD emptyWord), t)
      match t.chars with
      | ',' :: _ =>
        (readPairs indent n (t.forward 1).nextInside).map fun (pairs, s) => (pair :: pairs, s)
      | '\x7d' :: _ => some ([pair], t.forward 1)
      | _ => none

end

end Yaml

end Headway

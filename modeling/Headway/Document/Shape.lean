import Headway.Document.Decoder

/-!
# Shapes of records

A shape says which fields a record has and how each is decoded. Entries that are no field are passed
over; a field that comes twice is a fault, and so is one that is missing without a default.

A record can have several faults. Each has a place, which is the entry it is met at; faults of the
record as a whole come after those of its entries. The fault that comes first is the one reported,
so the order in which a shape lists its fields does not matter for it. At a key that is no text the
record ends.

JSON may give a record as a list of the fields' values, in the order of the shape.
-/

namespace Headway

/-- What is wrong with a record, and with which of its entries. -/
structure Fault where
  place : Nat
  misfit : Misfit

/-- The fault that comes first. -/
def Fault.first (a b : Fault) : Fault := if b.place < a.place then b else a

/-- A record that is decoded: the names of its fields in order, and how its entries are read. -/
structure Shape (α : Type) where
  names : List String
  read : List (String × Document) → Except Fault α

namespace Shape

variable {α β : Type}

/-- No fields. -/
def pure (a : α) : Shape α := ⟨[], fun _ => .ok a⟩

/-- Reads the fields of two shapes. -/
def seq (f : Shape (α → β)) (x : Unit → Shape α) : Shape β where
  names := f.names ++ (x ()).names
  read entries :=
    match f.read entries, (x ()).read entries with
    | .ok g, .ok a => .ok (g a)
    | .error e, .ok _ => .error e
    | .ok _, .error e => .error e
    | .error e, .error e' => .error (e.first e')

instance : Functor Shape where
  map f x := ⟨x.names, fun entries => (x.read entries).map f⟩

instance : Applicative Shape where
  pure := pure
  seq := seq

/-- Reads the entries of one field, given the number of entries before the ones given. -/
def readField (name : String) (d : Decoder α) (absent : Except Misfit α) :
    Nat → List (String × Document) → Except Fault α
  | place, [] => absent.mapError (Fault.mk place)
  | place, (key, doc) :: rest =>
    if key = name then
      match d doc with
      | .error misfit => .error ⟨place, misfit⟩
      | .ok a =>
        match rest.findIdx? fun e => e.1 = name with
        | some i => .error ⟨place + 1 + i, .unsuited⟩
        | none => .ok a
    else
      readField name d absent (place + 1) rest

/-- A field that must be there. -/
def required (name : String) (d : Decoder α) : Shape α :=
  ⟨[name], readField name d (.error .unsuited) 0⟩

/-- A field with a value for when it is not there. -/
def withDefault (name : String) (d : Decoder α) (value : α) : Shape α :=
  ⟨[name], readField name d (.ok value) 0⟩

/-- A field that may be missing or null. -/
def optional (name : String) (d : Decoder α) : Shape (Option α) :=
  withDefault name d.optional none

/-- The entries before the first key that is no text, and what is wrong with that key. -/
def named : List (Document × Document) → List (String × Document) × Option Misfit
  | [] => ([], none)
  | (key, doc) :: rest =>
    match Decoder.text key with
    | .ok name => let (entries, ending) := named rest; ((name, doc) :: entries, ending)
    | .error misfit => ([], some misfit)

/-- What is wrong at the end of entries that may not be complete. -/
def breakUnless (complete : Bool) : Option Misfit := if complete then none else some .malformed

/-- Reads entries, of which something may be wrong with the end. That is met after all entries. -/
def readEntries (s : Shape α) (entries : List (String × Document)) (ending : Option Misfit) :
    Except Misfit α :=
  match s.read entries, ending with
  | .ok a, none => .ok a
  | .ok _, some misfit => .error misfit
  | .error fault, none => .error fault.misfit
  | .error fault, some misfit =>
    .error (if fault.place < entries.length then fault.misfit else misfit)

/-- Decodes a record of the shape. More values than fields break a list. -/
def decode (s : Shape α) : Decoder α
  | .record entries complete =>
    let (entries, ending) := named entries
    s.readEntries entries (ending <|> breakUnless complete)
  | .mapping entries => let (entries, ending) := named entries; s.readEntries entries ending
  | .list items complete =>
    s.readEntries (s.names.zip items)
      (breakUnless (complete && items.length ≤ s.names.length))
  | .plain w => if w.isEmpty then s.readEntries [] none else .error .unsuited
  | doc => Decoder.refuse doc

end Shape

end Headway

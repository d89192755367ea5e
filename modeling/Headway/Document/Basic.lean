import Headway.Document.Numeral

/-!
# Documents

What a reader of JSON or YAML hands on, before it is known what the text is about. Order and
repetitions of entries are kept, for it is the use of a document that decides about them. The keys
of entries are documents too: only where a record is wanted must they be texts.

A text can be broken in the middle. Its document then goes as far as the text could be read: the
value at the break is `broken`, and the lists and records around it are not complete. So whoever
uses a document meets its faults in the order in which they stand in the text.
-/

namespace Headway

/-- The content of a text.

`null`, `bool`, `number`, `list` and `record` come from JSON, and `plain`, `sequence` and `mapping`
from YAML; a `text` was quoted in either. A list of JSON may stand for a record with its fields in
order, and a plain word of YAML stands for whatever is wanted. -/
inductive Document where
  | null
  | bool (value : Bool)
  | number (value : Numeral)
  | text (value : String)
  | list (items : List Document) (complete : Bool)
  | record (entries : List (Document × Document)) (complete : Bool)
  | plain (word : String)
  | sequence (items : List Document)
  | mapping (entries : List (Document × Document))
  /-- What stands here cannot be read, or cannot be represented. -/
  | broken
  deriving Inhabited

/-- Why a document cannot be used. -/
inductive Misfit where
  /-- Its text is broken. -/
  | malformed
  /-- Its text is sound, but it is not of the kind that is wanted. -/
  | unsuited
  deriving DecidableEq

end Headway

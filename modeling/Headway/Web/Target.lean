import Headway.Text.Digits
import Headway.Text.Utf8

/-!
# Request targets

What a request is about: a path, and perhaps a query. A target is written as a path with a query, as
a whole address from the scheme on, as a host alone, or as an asterisk. What follows a number sign
does not belong to it. A host alone has the empty path, and an address that ends with its host has
the root as its path.
-/

namespace Headway

namespace Web

/-- A path and the query after it. -/
structure Target where
  path : String
  query : Option String
  deriving DecidableEq

/-- A letter or a digit of ASCII. -/
def isAlphanumeric (c : Char) : Bool :=
  isDigit c || ('a' ≤ c && c ≤ 'z') || ('A' ≤ c && c ≤ 'Z')

/-- A character that may be part of a token, such as a method or a media type. -/
def isTokenChar (c : Char) : Bool :=
  isAlphanumeric c ||
    ['!', '#', '$', '%', '&', '\'', '*', '+', '-', '.', '^', '_', '\x60', '|', '~'].contains c

namespace Target

/-- The numbers of the characters that may stand in a path, as ranges with both ends included.
Characters outside ASCII stand for themselves, and so do quotes and braces. -/
def pathRanges : List (Nat × Nat) :=
  [(0x21, 0x22), (0x24, 0x3B), (0x3D, 0x3D), (0x40, 0x5F), (0x61, 0x7E), (0x80, 0x10FFFF)]

/-- The numbers of the characters that may stand in a query. -/
def queryRanges : List (Nat × Nat) :=
  [(0x21, 0x21), (0x24, 0x3B), (0x3D, 0x3D), (0x3F, 0x7E), (0x80, 0x10FFFF)]

/-- The number of a character lies in one of some ranges. -/
def within (ranges : List (Nat × Nat)) (c : Char) : Bool :=
  ranges.any fun r => r.1 ≤ c.toNat && c.toNat ≤ r.2

/-- Up to the number sign, if there is one. -/
def beforeFragment (cs : List Char) : List Char := cs.takeWhile (· ≠ '#')

/-- Reads a path with a query. An empty path is the root. -/
def ofPath? (cs : List Char) : Option Target :=
  let cs := beforeFragment cs
  let path := cs.takeWhile (· ≠ '?')
  let query := (cs.drop path.length).tail?
  if path.all (within pathRanges) && (query.getD []).all (within queryRanges) then
    some ⟨if path.isEmpty then "/" else String.ofList path, query.map String.ofList⟩
  else
    none

/-! ## Addresses -/

/-- A character of a host, or of the user before it or the number after it. -/
def isHostChar (c : Char) : Bool :=
  isAlphanumeric c ||
    ['!', '$', '%', '&', '\'', '(', ')', '*', '+', ',', '-', '.', ':', ';', '=', '@', '[', ']', '_',
      '~'].contains c

/-- What has been seen of a host. -/
structure HostScan where
  colons : Nat
  opened : Bool
  closed : Bool
  percent : Bool
  afterAt : Bool

/-- Takes one more character of a host. Colons and percent signs count only after the user and
outside of brackets. -/
def HostScan.step (s : HostScan) (c : Char) : Option HostScan :=
  if !isHostChar c then none
  else if c = ':' then
    if 8 ≤ s.colons then none else some { s with colons := s.colons + 1, afterAt := false }
  else if c = '[' then
    if s.percent || s.opened then none else some { s with opened := true, afterAt := false }
  else if c = ']' then
    if !s.opened || s.closed then none
    else some { s with closed := true, colons := 0, percent := false, afterAt := false }
  else if c = '@' then some { s with colons := 0, percent := false, afterAt := true }
  else some { s with percent := s.percent || c = '%', afterAt := false }

/-- A host, with the user before it and the number after it, is well formed. -/
def isHost (cs : List Char) : Bool :=
  match cs.foldlM HostScan.step ⟨0, false, false, false, false⟩ with
  | some s => s.opened == s.closed && s.colons ≤ 1 && !s.percent && !s.afterAt
  | none => false

/-- A character of a scheme. -/
def isSchemeChar (c : Char) : Bool := isAlphanumeric c || ['+', '-', '.', '~'].contains c

/-- The number of characters in the longest scheme. -/
def schemeLimit : Nat := 64

/-- What follows a scheme, if there is one. -/
def afterScheme? (cs : List Char) : Option (List Char) :=
  let scheme := cs.takeWhile isSchemeChar
  match cs.drop scheme.length with
  | ':' :: '/' :: '/' :: rest => if scheme.length ≤ schemeLimit then some rest else none
  | _ => none

/-- Reads an address without its scheme. -/
def ofAddress? (cs : List Char) : Option Target :=
  let host := cs.takeWhile fun c => c ≠ '/' && c ≠ '?' && c ≠ '#'
  if host.isEmpty || !isHost host then none else ofPath? (cs.drop host.length)

/-- The number of bytes in the longest target. -/
def lengthLimit : Nat := 65534

/-- Reads a target. -/
def ofText? (s : String) : Option Target :=
  if lengthLimit < s.utf8ByteSize then none
  else
    match s.toList with
    | [] => none
    | ['*'] => some ⟨"*", none⟩
    | '/' :: rest => ofPath? ('/' :: rest)
    | cs =>
      match afterScheme? cs with
      | some rest => ofAddress? rest
      | none => if isHost cs then some ⟨"", none⟩ else none

end Target

end Web

end Headway

/-!
# UTF-8 with gaps

Bytes as text where they are UTF-8, and the replacement character where they are not. A sequence
that breaks off counts as one gap, up to the byte that does not belong to it; a byte that starts no
sequence is a gap of its own.
-/

namespace Headway

namespace Utf8

/-- The character that stands for bytes that are no text. -/
def replacement : Char := '\ufffd'

/-- What a first byte announces: how many bytes follow, the bits that it carries, and the bounds on
the byte after it. -/
structure Lead where
  following : Nat
  bits : Nat
  low : Nat
  high : Nat

/-- What a byte announces as the first of several, if it can be that. -/
def lead? (b : Nat) : Option Lead :=
  if 0xC2 ≤ b ∧ b ≤ 0xDF then some ⟨1, b - 0xC0, 0x80, 0xBF⟩
  else if b = 0xE0 then some ⟨2, 0, 0xA0, 0xBF⟩
  else if b = 0xED then some ⟨2, 0xD, 0x80, 0x9F⟩
  else if 0xE1 ≤ b ∧ b ≤ 0xEF then some ⟨2, b - 0xE0, 0x80, 0xBF⟩
  else if b = 0xF0 then some ⟨3, 0, 0x90, 0xBF⟩
  else if b = 0xF4 then some ⟨3, 4, 0x80, 0x8F⟩
  else if 0xF1 ≤ b ∧ b ≤ 0xF3 then some ⟨3, b - 0xF0, 0x80, 0xBF⟩
  else none

/-- A sequence that has begun: how many bytes are still to come, the bits so far, and the bounds on
the next byte. -/
abbrev Pending := Lead

/-- Reads bytes, of which some may belong to a sequence that has begun. -/
def decode (pending : Option Pending) : List Nat → List Char
  | [] => if pending.isSome then [replacement] else []
  | b :: rest =>
    let fresh (_ : Unit) : List Char :=
      if b < 0x80 then Char.ofNat b :: decode none rest
      else
        match lead? b with
        | some l => decode (some l) rest
        | none => replacement :: decode none rest
    match pending with
    | none => fresh ()
    | some p =>
      if p.low ≤ b ∧ b ≤ p.high then
        let bits := p.bits * 64 + (b - 0x80)
        if p.following ≤ 1 then Char.ofNat bits :: decode none rest
        else decode (some ⟨p.following - 1, bits, 0x80, 0xBF⟩) rest
      else
        replacement :: fresh ()

/-- The text of some bytes. -/
def text (bytes : List Nat) : String := String.ofList (decode none bytes)

/-- The bytes of a text. -/
def bytes (s : String) : List Nat := s.toUTF8.toList.map UInt8.toNat

end Utf8

end Headway

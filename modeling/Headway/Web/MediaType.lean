import Headway.Web.Target

/-!
# Media types

Whether a media type says that a body is JSON: its type is `application`, and its subtype is `json`
or ends in `+json`. The case of letters does not count, and parameters may follow as long as they
are well formed.
-/

namespace Headway

namespace Web

namespace MediaType

/-- Where one is in the parameters of a media type. -/
inductive ParameterState where
  /-- Before a parameter, where blanks may stand. -/
  | start
  /-- In the name of a parameter. -/
  | name
  /-- At the beginning of a value. -/
  | valueStart
  /-- In a value. -/
  | value
  /-- At the beginning of a quoted value. -/
  | quoteStart
  /-- In a quoted value. -/
  | quote
  /-- After a quoted value. -/
  | after

/-- Takes one more character of the parameters. -/
def ParameterState.step (state : ParameterState) (c : Char) : Option ParameterState :=
  match state with
  | .start => if c = ' ' then some .start else if isTokenChar c then some .name else none
  | .name => if isTokenChar c then some .name else if c = '=' then some .valueStart else none
  | .valueStart => if c = '"' then some .quoteStart else if isTokenChar c then some .value else none
  | .value => if isTokenChar c then some .value else if c = ';' then some .start else none
  | .quoteStart => if 32 ≤ c.toNat && c.toNat < 127 then some .quote else none
  | .quote =>
    if c = '"' then some .after else if 32 ≤ c.toNat && c.toNat < 127 then some .quote else none
  | .after => if c = ' ' then some .after else if c = ';' then some .start else none

/-- The parameters of a media type may end here. -/
def ParameterState.final : ParameterState → Bool
  | .start => true
  | .valueStart => true
  | .value => true
  | .after => true
  | _ => false

/-- The parameters after the first semicolon are well formed. -/
def parametersAllowed (cs : List Char) : Bool :=
  match cs.foldlM ParameterState.step .start with
  | some state => state.final
  | none => false

/-- A subtype of JSON: it is `json` up to its last plus sign, or from there on. -/
def isJsonSubtype (subtype : List Char) : Bool :=
  let reversed := subtype.reverse
  let suffix := (reversed.takeWhile (· ≠ '+')).reverse
  let stem := (reversed.drop (suffix.length + 1)).reverse
  if stem.isEmpty then subtype == "json".toList
  else suffix == "json".toList || stem == "json".toList

/-- A media type of JSON. -/
def isJson (s : String) : Bool :=
  let cs := s.toList
  let name := cs.takeWhile isTokenChar
  match cs.drop name.length with
  | '/' :: rest =>
    let subtype := rest.takeWhile isTokenChar
    let parameters := rest.drop subtype.length
    let sound := match parameters with
      | [] => true
      | ';' :: ps => !subtype.isEmpty && parametersAllowed ps
      | _ => false
    sound && name.map Char.toLower == "application".toList &&
      isJsonSubtype (subtype.map Char.toLower)
  | _ => false

end MediaType

end Web

end Headway

import Headway.Json.Value
import Headway.Web.Target

/-!
# Requests and answers

A request names a method and a target and may carry a body with its media type. Texts of which no
request can be made are told apart here (`Request.of?`); whatever a request asks for, it gets an
answer with a status.
-/

namespace Headway

namespace Web

/-- A request. -/
structure Request where
  method : String
  target : Target
  contentType : Option String
  body : String

/-- A method is a token. -/
def isMethod (s : String) : Bool := !s.isEmpty && s.toList.all isTokenChar

/-- The value of a header has no control characters but tabs. -/
def isHeaderValue (s : String) : Bool :=
  s.toList.all fun c => c = '\t' || (32 ≤ c.toNat && c.toNat ≠ 127)

/-- The request with the given parts, if they make one. -/
def Request.of? (method target : String) (contentType : Option String) (body : String) :
    Option Request := do
  let t ← Target.ofText? target
  if isMethod method && contentType.all isHeaderValue then some ⟨method, t, contentType, body⟩
  else none

/-- An answer: a status, and a body if it is JSON. -/
structure Answer where
  status : Nat
  body : Option Json

namespace Answer

/-- What was asked for. -/
def ok (body : Json) : Answer := ⟨200, some body⟩

/-- An answer that only says what was wrong. -/
def failed (status : Nat) (message : String) : Answer :=
  ⟨status, some (.record [("error", .text message)])⟩

/-- The answer without its body. -/
def headOnly (a : Answer) : Answer := { a with body := none }

end Answer

/-- Why a request is turned away before it reaches the service. -/
inductive Refusal where
  /-- There is nothing at the path. -/
  | noSuchPath
  /-- The method does not fit the path. -/
  | otherMethod
  /-- The query lacks a field, repeats one, or has one of another kind than wanted. -/
  | badQuery
  /-- The body is not said to be JSON. -/
  | otherMedia
  /-- The body is no JSON. -/
  | brokenBody
  /-- The body is JSON for something else. -/
  | otherBody
  deriving DecidableEq

namespace Refusal

/-- The status of a refusal. -/
def status : Refusal → Nat
  | .noSuchPath => 404
  | .otherMethod => 405
  | .badQuery => 400
  | .otherMedia => 415
  | .brokenBody => 400
  | .otherBody => 422

/-- The answer to a request that is turned away. -/
def answer (r : Refusal) : Answer := ⟨r.status, none⟩

end Refusal

end Web

end Headway

import Headway.Document.Basic
import Headway.Json.Reader
import Headway.Web.MediaType
import Headway.Web.Query
import Headway.Web.Request

/-!
# Routes

The things that can be asked for, each at one path. What only reads is asked for by `GET` or `HEAD`,
and what changes the service or needs a body by `POST`. Paths are compared as they are written.
-/

namespace Headway

namespace Web

/-- Something that can be asked for. -/
inductive Route where
  | events
  | predictLeg
  | predictTrip
  | mean
  | meanKeys
  | filterError
  | filterErrorKeys
  | runHistory
  | hold
  | holdKeys
  | health
  deriving DecidableEq

namespace Route

/-- The paths. -/
def paths : List (String × Route) :=
  [("/api/events", .events), ("/api/predictions/stop-path", .predictLeg),
    ("/api/predictions/trip", .predictTrip), ("/api/cache/historical-average", .mean),
    ("/api/cache/historical-average/keys", .meanKeys), ("/api/cache/kalman-error", .filterError),
    ("/api/cache/kalman-error/keys", .filterErrorKeys), ("/api/cache/trip-history", .runHistory),
    ("/api/holding", .hold), ("/api/holding/keys", .holdKeys), ("/api/health", .health)]

/-- What is at a path. -/
def ofPath? (path : String) : Option Route := paths.lookup path

/-- Is asked for with a body. -/
def takesBody : Route → Bool
  | .events => true
  | .predictLeg => true
  | .predictTrip => true
  | .hold => true
  | _ => false

/-- A method fits. -/
def allows (r : Route) (method : String) : Bool :=
  if r.takesBody then method == "POST" else method == "GET" || method == "HEAD"

/-- The route of a request. -/
def ofRequest (request : Request) : Except Refusal Route :=
  match ofPath? request.target.path with
  | none => .error .noSuchPath
  | some r => if r.allows request.method then .ok r else .error .otherMethod

end Route

namespace Request

/-- The query, decoded. -/
def decodeQuery {α : Type} (request : Request) (shape : Shape α) : Except Refusal α :=
  match (Query.ofText (request.target.query.getD "")).decode? shape with
  | some a => .ok a
  | none => .error .badQuery

/-- The body, decoded. It must be said to be JSON. -/
def decodeBody {α : Type} (request : Request) (shape : Shape α) : Except Refusal α :=
  if request.contentType.any MediaType.isJson then
    match Json.decode shape.decode request.body with
    | .ok a => .ok a
    | .error .malformed => .error .brokenBody
    | .error .unsuited => .error .otherBody
  else
    .error .otherMedia

end Request

end Web

end Headway

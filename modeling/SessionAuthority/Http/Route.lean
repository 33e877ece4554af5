import SessionAuthority.Http.Message

/-!
# Routes

The paths that the service answers, each with one method.  A path is compared as it stands: no
letter case, no escapes, no slash at the end.  `HEAD` is taken wherever `GET` is.
-/
set_option autoImplicit false

namespace SessionAuthority

inductive Route where
  | health
  | document
  | metrics
  | login
  | refresh
  | logout
  | status
  | profile
  deriving DecidableEq, Repr

namespace Route

def all : List Route := [health, document, metrics, login, refresh, logout, status, profile]

def path : Route → String
  | health => "/health"
  | document => "/api-docs/openapi.json"
  | metrics => "/metrics"
  | login => "/api/auth/login"
  | refresh => "/api/auth/refresh"
  | logout => "/api/auth/logout"
  | status => "/api/auth/session"
  | profile => "/api/users/me"

def ofPath? (p : String) : Option Route := all.find? (·.path == p)

/-- Whether a route is for posting to; the others are for reading. -/
def posts : Route → Bool
  | login | refresh | logout => true
  | _ => false

def takes (r : Route) (method : String) : Bool :=
  if r.posts then method == "POST" else method == "GET" || method == "HEAD"

def allow (r : Route) : String := if r.posts then "POST" else "GET,HEAD"

def guarded : Route → Bool
  | logout | profile => true
  | _ => false

end Route

end SessionAuthority

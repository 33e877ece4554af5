import SessionAuthority.Http.Message

/-!
# Other origins

Every response tells a browser which origin may read it: the one that asked, if it is among the
allowed ones, octet for octet.  A request with the method `OPTIONS` only asks what would be allowed
and goes no further.
-/
set_option autoImplicit false

namespace SessionAuthority.Origin

def isValueOctet (b : UInt8) : Bool := b == 0x09 || (0x20 ≤ b && b != 0x7F)

def usable (allowed : List String) : List Bytes :=
  (allowed.map Bytes.ofString).filter fun o => o.all isValueOctet

/-- The octets that would allow every origin. -/
def wildcard : Bytes := [0x2A]

/-- The origin of a request, if it is allowed. -/
def granted? (allowed : List Bytes) (request : Headers) : Option Bytes :=
  (request.first? "origin").filter allowed.contains

def fields (allowed : List Bytes) (request : Headers) : Headers :=
  [("access-control-allow-credentials", Response.value "true"),
    ("vary", Response.value
      "origin, access-control-request-method, access-control-request-headers")] ++
    match granted? allowed request with
    | some origin => [("access-control-allow-origin", origin)]
    | none => []

def share (allowed : List Bytes) (request : Headers) (r : Response) : Response :=
  { r with headers := r.headers ++ fields allowed request }

def preflight (allowed : List Bytes) (request : Headers) : Response :=
  share allowed request
    ⟨200, [("access-control-allow-methods", Response.value "GET,POST,OPTIONS"),
      ("access-control-allow-headers", Response.value "authorization,content-type,accept")], []⟩

end SessionAuthority.Origin

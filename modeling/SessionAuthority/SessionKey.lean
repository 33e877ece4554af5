import SessionAuthority.Json.Record
import SessionAuthority.Json.Render
import SessionAuthority.Uuid

/-!
# Session keys and records

What is stored for a subject while it is logged in, and where.  The key is the subject's alone,
behind a prefix of the service if it has one.  The record holds the nonces of the access token and
the refresh token that count.  Any stored octets can be read; those that are no such record give
none.
-/
set_option autoImplicit false

namespace SessionAuthority

def sessionKey (pre : String) (subject : Uuid) : String :=
  if pre = "" then "token-" ++ subject.toText else pre ++ ":token-" ++ subject.toText

/-- The two tokens of a pair. -/
inductive Slot where
  | access
  | refresh
  deriving DecidableEq, Repr

/-- The nonces of a subject's current token pair. -/
structure SessionRecord where
  access : String
  refresh : String
  deriving DecidableEq, Repr

namespace SessionRecord

def nonce (r : SessionRecord) : Slot → String
  | .access => r.access
  | .refresh => r.refresh

def shape : Json.Shape := ⟨"SessionRecord", ["access_token", "refresh_token"]⟩

def render (r : SessionRecord) : Bytes :=
  Json.render (.object [("access_token", .str r.access), ("refresh_token", .str r.refresh)])

def read? (stored : Bytes) : Option SessionRecord :=
  match shape.parse stored with
  | .ok [access, refresh] => some ⟨access, refresh⟩
  | _ => none

end SessionRecord

end SessionAuthority

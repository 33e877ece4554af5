import SessionAuthority.Http.Credential
import SessionAuthority.Session.Authority

/-!
# Access

Whether a request speaks for a live session is decided in two stages.  `present` looks for a token,
reads it and refuses nothing: what it finds is `Presented`.  `authorize` asks for a token that was
read, an identity in it, and a session that it is live in.
-/
set_option autoImplicit false

namespace SessionAuthority

inductive Presented where
  | missing
  | rejected (why : AuthError)
  | verified (claims : Claims)
  deriving Repr

namespace Presented

def claims : Presented → Except AuthError Claims
  | missing => .error .noCredential
  | rejected why => .error why
  | verified claims => .ok claims

def identity (p : Presented) : Except AuthError (Claims × Identity) := do
  let claims ← p.claims
  let identity ← Identity.ofClaims claims
  pure (claims, identity)

end Presented

namespace Authority

def present (a : Authority) (now : Instant) (headers : Headers) : Program Presented :=
  match Credential.token? headers with
  | none => .done .missing
  | some token =>
      match a.parse now token with
      | .ok claims => .done (.verified claims)
      | .refused why => .done (.rejected why)
      | .crashed c => .crash c

/-- Whom a presented token speaks for, if it is live as an access token. -/
def authorize (a : Authority) (p : Presented) : Action Identity :=
  match p.identity with
  | .error why => throw why
  | .ok (claims, identity) => do
      a.checkLive claims .access
      pure identity

/-- What the owner of a live session is answered, with the session's time started again beside it;
anybody else is refused, and counted. -/
def guard (a : Authority) (p : Presented) (answer : Identity → Program Response) :
    Program Response := do
  match ← (a.authorize p).run with
  | .error why => do
      Program.ask (.count (.rejected why.kind))
      pure (ApiError.ofAuth why).response
  | .ok identity => do
      a.detachProlong identity.id
      answer identity

end Authority

end SessionAuthority

import SessionAuthority.Login.Body
import SessionAuthority.Password
import SessionAuthority.Session.Authority

/-!
# Logging in and going on

A password is exchanged for a token pair by `login`, a live refresh token by `renew`.  Who is not
listed and who has the wrong password are told the same.
-/
set_option autoImplicit false

namespace SessionAuthority

/-- What a refused login is told, whatever the reason. -/
def invalidCredentials : ApiError := .unauthorized "invalid credentials provided"

namespace Authority

def refuseLogin (why : LoginFailure) : Program (Except ApiError TokenPair) := do
  Program.ask (.count (.loginFailed why))
  pure (.error invalidCredentials)

def login (a : Authority) (now : Instant) (r : LoginRequest) :
    Program (Except ApiError TokenPair) := do
  match ← Program.ask (.lookup r.email) with
  | .error _ => pure (.error .internal)
  | .ok none => refuseLogin .unknownIdentity
  | .ok (some user) =>
      if Password.verify r.password user.passwordHash then
        match ← (a.issue now ⟨user.id, user.email⟩).run with
        | .error why => pure (.error (.ofAuth why))
        | .ok pair => do
            Program.ask (.count .loginSucceeded)
            pure (.ok pair)
      else refuseLogin .badPassword

/-- A new pair for the identity of a live refresh token. -/
def renew (a : Authority) (now : Instant) (token : String) : Action TokenPair := do
  let (claims, identity) ← Action.ofOutcome (a.identify now token)
  a.checkLive claims .refresh
  a.issue now identity.subject

def refresh (a : Authority) (now : Instant) (r : RefreshRequest) :
    Program (Except ApiError TokenPair) := do
  match ← (a.renew now r.token).run with
  | .ok pair => do
      Program.ask (.count (.refreshed true))
      pure (.ok pair)
  | .error why => do
      Program.ask (.count (.refreshed false))
      Program.ask (.count (.rejected why.kind))
      pure (.error (.ofAuth why))

end Authority

end SessionAuthority

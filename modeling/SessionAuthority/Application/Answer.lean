import SessionAuthority.Application
import SessionAuthority.Http.Document
import SessionAuthority.Login.Exchange
import SessionAuthority.Session.Access

/-!
# What each route answers

`Application.answer` is the program of a request on a route.  On the routes of the interface the
token is looked at first, on the guarded ones its session is asked for next, and only then does the
method of the request count.
-/
set_option autoImplicit false

namespace SessionAuthority

def TokenPair.toJson (p : TokenPair) : Json :=
  .object [("accessToken", .str p.access), ("refreshToken", .str p.refresh),
    ("exp", .int p.accessExpiry.seconds)]

/-- A member that is there only with a value. -/
def member {α : Type} (name : String) (f : α → Json) : Option α → List (String × Json)
  | some a => [(name, f a)]
  | none => []

/-- Whether a request carries a token that can be read, and what it says. -/
structure TokenStatus where
  authenticated : Bool
  username : Option String := none
  expiresAt : Option Int := none
  problem : Option String := none
  deriving DecidableEq, Repr

def TokenStatus.toJson (s : TokenStatus) : Json :=
  .object (("authenticated", .bool s.authenticated) :: member "username" .str s.username ++
    member "expires_at" .int s.expiresAt ++ member "error" .str s.problem)

/-- The status of what a request shows; no session is asked for. -/
def Presented.status (p : Presented) : TokenStatus :=
  match p with
  | .missing => { authenticated := false }
  | _ =>
      match p.identity with
      | .ok (_, identity) =>
          { authenticated := true, username := some identity.username,
            expiresAt := identity.expiresAt }
      | .error why => { authenticated := false, problem := some why.publicMessage }

/-- The owner of a session, with the name under which it is listed. -/
structure Profile where
  identity : Identity
  name : Option String
  deriving DecidableEq, Repr

def Profile.toJson (p : Profile) : Json :=
  .object ([("id", .str p.identity.id.toText), ("username", .str p.identity.username)] ++
    member "name" .str p.name ++ member "expires_at" .int p.identity.expiresAt)

/-- The name of a listed user, if it is still the one of the identity. -/
def listedName (identity : Identity) : Except DirectoryError (Option User) → Option String
  | .ok (some user) => if user.id = identity.id then some user.name else none
  | _ => none

def exchanged : Except ApiError TokenPair → Response
  | .ok pair => .json 200 pair.toJson
  | .error e => e.response

namespace Application

def onBody {α : Type} (kind : BodyKind α) (req : Request)
    (exchange : α → Program (Except ApiError TokenPair)) : Program Response :=
  match kind.accept req.headers req.body with
  | .error e => pure e.response
  | .ok a => do
      let result ← exchange a
      pure (exchanged result)

def profile (identity : Identity) : Program Response := do
  let listed ← Program.ask (.lookup identity.username)
  pure (.json 200 (Profile.toJson ⟨identity, listedName identity listed⟩))

def logout (app : Application) (identity : Identity) : Program Response := do
  match ← (app.authority.revoke identity.id).run with
  | .error why => pure (ApiError.ofAuth why).response
  | .ok () => pure (.json 200 (.object [("message", .str "User logged out")]))

def metrics (app : Application) : Program Response :=
  if app.showsMetrics then do
    let tally ← Program.ask .report
    pure ⟨200, [("content-type", Response.value "text/plain; charset=utf-8")],
      Bytes.ofString (Tally.page tally)⟩
  else pure (.bare 404)

/-- What a route answers to a method that it takes, and to any other. -/
def onMethod (route : Route) (req : Request) (answer : Program Response) : Program Response :=
  if route.takes req.method then answer else pure (.bare 405)

/-- What a request is answered on a route, with the wall clock at its start. -/
def answer (app : Application) (now : Instant) (req : Request) (route : Route) :
    Program Response :=
  let presented := app.authority.present now req.headers
  match route with
  | .health => onMethod route req (pure (.json 200 (.object [("status", .str "ok")])))
  | .document => onMethod route req (pure (.json 200 Document.document))
  | .metrics => onMethod route req app.metrics
  | .login => do
      let _ ← presented
      onMethod route req (onBody LoginRequest.kind req (app.authority.login now))
  | .refresh => do
      let _ ← presented
      onMethod route req (onBody RefreshRequest.kind req (app.authority.refresh now))
  | .status => do
      let p ← presented
      onMethod route req (pure (.json 200 p.status.toJson))
  | .logout => do
      let p ← presented
      app.authority.guard p fun identity => onMethod route req (app.logout identity)
  | .profile => do
      let p ← presented
      app.authority.guard p fun identity => onMethod route req (profile identity)

end Application

end SessionAuthority

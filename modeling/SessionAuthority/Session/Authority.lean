import SessionAuthority.Codec
import SessionAuthority.Program
import SessionAuthority.SessionKey

/-!
# The authority

The authority issues token pairs and says which of them still count.  A subject has at most one
session, stored under its key for the inactivity window.  `issue` writes it anew, so that every
earlier pair of the subject stops to be live whatever its expiry says; `checkLive` compares a token
with it, `prolong` starts its time again and `revoke` removes it.

The instant that a program is given is the wall clock when the work begins.
-/
set_option autoImplicit false

namespace SessionAuthority

structure Lifetimes where
  access : Span
  refresh : Span
  inactivity : Span
  deriving DecidableEq, Repr

structure Subject where
  id : Uuid
  username : String
  deriving DecidableEq, Repr

def Identity.subject (i : Identity) : Subject := ⟨i.id, i.username⟩

structure Token where
  text : String
  nonce : Uuid
  expiry : Instant
  deriving DecidableEq, Repr

structure TokenPair where
  access : String
  refresh : String
  accessExpiry : Instant
  deriving DecidableEq, Repr

/-- Issues tokens and says which are live. -/
structure Authority where
  codec : Codec
  keyPrefix : String
  lifetimes : Lifetimes
  deriving DecidableEq, Repr

/-- The longest lifetime that can be added to a date: 63 bits of milliseconds. -/
def longestLifetime : Span := .ofMillis 0x7FFFFFFFFFFFFFFF

def tokenClaims (subject : Subject) (nonce : Uuid) (expiry issued : Instant) : Claims :=
  .ofMembers [("id", .str subject.id.toText), ("username", .str subject.username),
    ("uid", .str nonce.toText), ("exp", .int expiry.seconds), ("iat", .int issued.seconds)]

namespace Authority

def key (a : Authority) (subject : Uuid) : String := sessionKey a.keyPrefix subject

/-! ## Issue -/

/-- The text of a token; a refusal to sign is an internal failure. -/
def sign (a : Authority) (claims : Claims) : Except AuthError String :=
  match a.codec.encode claims with
  | .ok text => .ok text
  | .error (.internal detail) => .error (.internal detail)
  | .error e => .error (.internal ("failed to sign token: " ++ e.message))

/-- A token with a nonce of its own. -/
def mint (a : Authority) (now : Instant) (subject : Subject) (lifetime : Span) :
    Action Token := do
  if longestLifetime.nanos < lifetime.nanos then
    throw (.internal
      ("token lifetime out of range: " ++
        "Source duration value is out of range for the target type"))
  let expiry : Instant := now + lifetime.nanos
  if lastDateSecond < expiry.seconds then
    ExceptT.lift (.crash .dateRange)
  let nonce ← Action.ask .nonce
  match a.sign (tokenClaims subject nonce expiry now) with
  | .ok text => pure ⟨text, nonce, expiry⟩
  | .error e => throw e

/-- A fresh pair, which becomes the subject's session. -/
def issue (a : Authority) (now : Instant) (subject : Subject) : Action TokenPair := do
  let access ← a.mint now subject a.lifetimes.access
  let refresh ← a.mint now subject a.lifetimes.refresh
  let record : SessionRecord := ⟨access.nonce.toText, refresh.nonce.toText⟩
  let stored ← Action.ask (.set (a.key subject.id) record.render a.lifetimes.inactivity)
  Action.ofStore stored
  Action.ask (.count .pairIssued)
  pure ⟨access.text, refresh.text, access.expiry⟩

/-! ## Verification -/

def parse (a : Authority) (now : Instant) (token : String) : Outcome AuthError Claims :=
  a.codec.decode now.seconds token

def identify (a : Authority) (now : Instant) (token : String) :
    Outcome AuthError (Claims × Identity) :=
  (a.parse now token).bind fun claims =>
    (Outcome.ofExcept (Identity.ofClaims claims)).bind fun identity => .ok (claims, identity)

/-- Whether stored octets make a nonce that of the current pair. -/
def isLive (stored : Option Bytes) (slot : Slot) (nonce : String) : Bool :=
  match stored.bind SessionRecord.read? with
  | some record => record.nonce slot == nonce
  | none => false

/-- Refuses claims whose nonce is not the one stored for their subject. -/
def checkLive (a : Authority) (claims : Claims) (slot : Slot) : Action Unit :=
  match claims.subject?, claims.uid? with
  | some subject, some nonce => do
      let answer ← Action.ask (.get (a.key subject))
      let stored ← Action.ofStore answer
      if isLive stored slot nonce then pure () else throw .noActiveSession
  | _, _ => throw .noActiveSession

/-! ## The life of a session -/

/-- Start the time of a session again; a store that refuses is only counted. -/
def prolong (a : Authority) (subject : Uuid) : Program Unit := do
  match ← Program.ask (.expire (a.key subject) a.lifetimes.inactivity) with
  | .ok _ => pure ()
  | .error _ => Program.ask (.count .prolongFailed)

def detachProlong (a : Authority) (subject : Uuid) : Program Unit :=
  Program.ask (.detach (a.key subject) a.lifetimes.inactivity)

def revoke (a : Authority) (subject : Uuid) : Action Unit := do
  let answer ← Action.ask (.delete (a.key subject))
  Action.ofStore answer
  Action.ask (.count .sessionRevoked)

end Authority

end SessionAuthority

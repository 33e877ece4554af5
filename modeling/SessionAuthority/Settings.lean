import SessionAuthority.Bytes
import SessionAuthority.Codec
import SessionAuthority.Files
import SessionAuthority.Text.Blank
import SessionAuthority.Text.Lower

/-!
# Settings

Settings come from named variables.  One that is missing, blank or no UTF-8 is not set; a number
that does not read, or is out of range, is as good as not set.  Numbers may have white space around
them, texts are taken as they are.
-/
set_option autoImplicit false

namespace SessionAuthority

abbrev Environment := List (String × Bytes)

namespace Environment

def var? (env : Environment) (name : String) : Option String :=
  (env.lookup name).bind Bytes.toString?

/-- The text of a variable that is not blank. -/
def text? (env : Environment) (name : String) : Option String :=
  (env.var? name).filter fun s => !Text.blank s

/-- The number in a variable, up to `max`. -/
def natural (env : Environment) (name : String) (max default : Nat) : Nat :=
  (((env.var? name).bind fun s => Text.natural? max (Text.trimChars s.toList))).getD default

def integer (env : Environment) (name : String) (default : Int) : Int :=
  (((env.var? name).bind fun s => Text.integer? (Text.trimChars s.toList))).getD default

end Environment

/-- A number of seconds that may be negative, as a span that may not. -/
def clampedSpan (seconds : Int) : Span := .ofSeconds seconds.toNat

structure TokenSettings where
  algorithm : String := "HS256"
  secret : Option String := none
  privateKeyPath : Option String := none
  publicKeyPath : Option String := none
  accessExpiry : Int := 1800
  refreshExpiry : Int := 7200
  clockSkew : Nat := 30
  deriving DecidableEq, Repr

namespace TokenSettings

def ofEnvironment (env : Environment) : TokenSettings :=
  let default : TokenSettings := {}
  { algorithm := (env.text? "JWT_ALGORITHM").getD default.algorithm
    secret := env.text? "JWT_SECRET"
    privateKeyPath := env.text? "JWT_PRIVATE_KEY_PATH"
    publicKeyPath := env.text? "JWT_PUBLIC_KEY_PATH"
    accessExpiry := env.integer "JWT_ACCESS_EXPIRY" default.accessExpiry
    refreshExpiry := env.integer "JWT_REFRESH_EXPIRY" default.refreshExpiry
    clockSkew := env.natural "JWT_CLOCK_SKEW" 0xFFFFFFFFFFFFFFFF default.clockSkew }

def accessLifetime (s : TokenSettings) : Span := clampedSpan s.accessExpiry

def refreshLifetime (s : TokenSettings) : Span := clampedSpan s.refreshExpiry

/-- The grace given to an expiry. -/
def skew (s : TokenSettings) : Span := .ofSeconds s.clockSkew

def readKey (files : Files) (path : String) : Except AuthError Bytes :=
  (files.read path).mapError fun why => .invalidKey (path ++ ": " ++ why.message)

def codec (s : TokenSettings) (files : Files) : Except AuthError Codec := do
  let some algorithm := Algorithm.ofName? (Text.trim s.algorithm)
    | throw (.unsupportedAlgorithm s.algorithm)
  let some family := algorithm.family?
    | throw (.unsupportedAlgorithm algorithm.name)
  let (signing, verifying) ←
    match family with
    | .secret _ => pure (s.secret.map Bytes.ofString, none)
    | _ => do
        let signing ← s.privateKeyPath.mapM (readKey files)
        let verifying ← s.publicKeyPath.mapM (readKey files)
        pure (signing, verifying)
  if signing.isNone && verifying.isNone then
    throw (.invalidKey ("no key material configured for " ++ algorithm.name))
  Codec.new algorithm signing verifying s.skew

end TokenSettings

inductive Backend where
  | remote
  | memory
  deriving DecidableEq, Repr

def Backend.ofName? (s : String) : Option Backend :=
  let name := String.ofList (Text.lowerAscii (Text.trimChars s.toList))
  if name = "redis" then some .remote
  else if name = "memory" ∨ name = "in-memory" then some .memory
  else none

structure SessionSettings where
  backend : Backend := .remote
  remoteUrl : String := "redis://127.0.0.1:6379"
  keyPrefix : String := "tokengate"
  inactivitySeconds : Nat := 900
  deriving DecidableEq, Repr

namespace SessionSettings

def ofEnvironment (env : Environment) : SessionSettings :=
  let default : SessionSettings := {}
  { backend := ((env.text? "SESSION_STORE").bind Backend.ofName?).getD .remote
    remoteUrl := (env.text? "REDIS_URL").getD default.remoteUrl
    keyPrefix := (env.text? "SESSION_KEY_PREFIX").getD default.keyPrefix
    inactivitySeconds :=
      env.natural "SESSION_INACTIVITY_SECONDS" 0xFFFFFFFFFFFFFFFF default.inactivitySeconds }

def inactivityWindow (s : SessionSettings) : Span := .ofSeconds s.inactivitySeconds

/-- Whether an unused session ends before its refresh token does. -/
def checkAgainst (s : SessionSettings) (tokens : TokenSettings) : Bool :=
  s.inactivityWindow.nanos < tokens.refreshLifetime.nanos

end SessionSettings

structure ServerSettings where
  host : String := "0.0.0.0"
  port : Nat := 3000
  requestTimeoutSeconds : Nat := 30
  allowedOrigins : List String := ["http://localhost:3000"]
  userDirectoryPath : Option String := none
  metricsEnabled : Bool := true
  deriving DecidableEq, Repr

namespace ServerSettings

/-- The origins in a list with commas; blank ones are dropped. -/
def originsOf (raw : String) : List String :=
  (((Text.splitChars ',' raw.toList).map Text.trimChars).filter (!·.isEmpty)).map String.ofList

/-- Whether a switch is on: anything but `false` and `0`. -/
def switchedOn (s : String) : Bool := Text.lower s != "false" && s != "0"

def ofEnvironment (env : Environment) : ServerSettings :=
  let default : ServerSettings := {}
  { host := (env.text? "HOST").getD default.host
    port := env.natural "PORT" 0xFFFF default.port
    requestTimeoutSeconds :=
      env.natural "REQUEST_TIMEOUT_SECONDS" 0xFFFFFFFFFFFFFFFF default.requestTimeoutSeconds
    allowedOrigins :=
      ((env.text? "CORS_ALLOWED_ORIGINS").map originsOf).getD default.allowedOrigins
    userDirectoryPath := env.text? "USER_DIRECTORY_PATH"
    metricsEnabled := ((env.text? "METRICS_ENABLED").map switchedOn).getD default.metricsEnabled }

def bindAddress (s : ServerSettings) : String := s.host ++ ":" ++ toString s.port

def requestTimeout (s : ServerSettings) : Span := .ofSeconds s.requestTimeoutSeconds

end ServerSettings

end SessionAuthority

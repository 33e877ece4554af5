import SessionAuthority.Directory
import SessionAuthority.Http.Origin
import SessionAuthority.Session.Authority
import SessionAuthority.Settings

/-!
# The application

What a running service is configured with, and how it comes from an environment.  The first setting
that cannot be used decides why there is no application: the token codec, the store, the directory
and then the allowed origins, among which the one for all crashes.
-/
set_option autoImplicit false

namespace SessionAuthority

/-- What a service is configured with. -/
structure Application where
  authority : Authority
  directory : Directory
  timeout : Span
  origins : List Bytes
  showsMetrics : Bool
  deriving DecidableEq, Repr

inductive StartupError where
  | codec (why : AuthError)
  | remoteStore
  | directory (why : DirectoryError)
  deriving DecidableEq, Repr

namespace Application

def build (authority : Authority) (directory : Directory) (timeout : Span) (origins : List String)
    (showsMetrics : Bool) : Outcome StartupError Application :=
  let origins := Origin.usable origins
  if origins.contains Origin.wildcard then .crashed .wildcardOrigin
  else .ok ⟨authority, directory, timeout, origins, showsMetrics⟩

def lifetimesOf (tokens : TokenSettings) (sessions : SessionSettings) : Lifetimes :=
  ⟨tokens.accessLifetime, tokens.refreshLifetime, sessions.inactivityWindow⟩

/-- The directory that the settings name; without one nobody is listed. -/
def directoryOf (server : ServerSettings) (files : Files) : Except DirectoryError Directory :=
  match server.userDirectoryPath with
  | none => .ok .empty
  | some path => Directory.ofFile files path

/-- The application that an environment describes.  No remote store is in reach. -/
def ofEnvironment (env : Environment) (files : Files) (showsMetrics : Bool) :
    Outcome StartupError Application :=
  let tokens := TokenSettings.ofEnvironment env
  let sessions := SessionSettings.ofEnvironment env
  let server := ServerSettings.ofEnvironment env
  match tokens.codec files with
  | .error why => .refused (.codec why)
  | .ok codec =>
      match sessions.backend with
      | .remote => .refused .remoteStore
      | .memory =>
          match directoryOf server files with
          | .error why => .refused (.directory why)
          | .ok directory =>
              build ⟨codec, sessions.keyPrefix, lifetimesOf tokens sessions⟩ directory
                server.requestTimeout server.allowedOrigins showsMetrics

end Application

end SessionAuthority

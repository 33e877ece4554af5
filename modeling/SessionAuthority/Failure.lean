/-!
# Failures of authentication, and crashes

`AuthError` lists why a credential or a key is refused.  Credential failures are the client's and
carry no detail; everything else is internal, and its detail never reaches a client
(`AuthError.publicMessage`).

A `Crash` is different: a computation that gives no result at all.  `Outcome` keeps the two apart.
-/
set_option autoImplicit false

namespace SessionAuthority

inductive AuthError where
  | noCredential
  | malformed
  | signatureInvalid
  | expired
  | noActiveSession
  | signingKeyMissing
  | verificationKeyMissing
  | invalidKey (detail : String)
  | unsupportedAlgorithm (name : String)
  | internal (detail : String)
  deriving DecidableEq, Repr

namespace AuthError

/-- Whether the failure is that of the credential a client presented. -/
def isCredentialFailure : AuthError → Bool
  | noCredential | malformed | signatureInvalid | expired | noActiveSession => true
  | _ => false

def message : AuthError → String
  | noCredential => "no credential supplied"
  | malformed => "token is not a well-formed signed token"
  | signatureInvalid => "token signature or algorithm did not verify"
  | expired => "token expired beyond the accepted clock skew"
  | noActiveSession => "token does not match an active session"
  | signingKeyMissing => "codec has no signing key configured"
  | verificationKeyMissing => "codec has no verification key configured"
  | invalidKey detail => "invalid key material: " ++ detail
  | unsupportedAlgorithm name => "unsupported signing algorithm: " ++ name
  | internal detail => "internal error: " ++ detail

/-- What a client is told. -/
def publicMessage : AuthError → String
  | noCredential => "no token found"
  | malformed | signatureInvalid | noActiveSession => "token is unauthorized"
  | expired => "token is expired"
  | _ => "internal error"

/-- A short name for reports. -/
def kind : AuthError → String
  | noCredential => "no_credential"
  | malformed => "malformed"
  | signatureInvalid => "signature_invalid"
  | expired => "expired"
  | noActiveSession => "no_active_session"
  | signingKeyMissing => "signing_key_missing"
  | verificationKeyMissing => "verification_key_missing"
  | invalidKey _ => "invalid_key"
  | unsupportedAlgorithm _ => "unsupported_algorithm"
  | internal _ => "internal"

def ofKind? (kind detail : String) : Option AuthError :=
  [noCredential, malformed, signatureInvalid, expired, noActiveSession, signingKeyMissing,
    verificationKeyMissing, invalidKey detail, unsupportedAlgorithm detail,
    internal detail].find? (·.kind == kind)

def status (e : AuthError) : Nat := if e.isCredentialFailure then 401 else 500

end AuthError

/-- Why a computation ends without a result. -/
inductive Crash where
  | subtraction
  | dateRange
  | wildcardOrigin
  | collaborator (detail : String)
  deriving DecidableEq, Repr

def Crash.message : Crash → String
  | subtraction => "attempt to subtract with overflow"
  | dateRange => "`DateTime + TimeDelta` overflowed"
  | wildcardOrigin =>
      "Wildcard origin (`*`) cannot be passed to `AllowOrigin::list`. Use `AllowOrigin::any()` " ++
        "instead"
  | collaborator detail => detail

/-- A result, a refusal or a crash. -/
inductive Outcome (ε α : Type) where
  | ok (a : α)
  | refused (e : ε)
  | crashed (c : Crash)
  deriving Repr

namespace Outcome

variable {ε α β : Type}

def bind : Outcome ε α → (α → Outcome ε β) → Outcome ε β
  | ok a, next => next a
  | refused e, _ => refused e
  | crashed c, _ => crashed c

instance : Monad (Outcome ε) where
  pure := ok
  bind := bind

def ofExcept : Except ε α → Outcome ε α
  | .ok a => ok a
  | .error e => refused e

end Outcome

end SessionAuthority

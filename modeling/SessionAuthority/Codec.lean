import SessionAuthority.Base64
import SessionAuthority.Claims
import SessionAuthority.Codec.Header
import SessionAuthority.Codec.Key
import SessionAuthority.Codec.Registered
import SessionAuthority.Text.Blank

/-!
# Signed tokens

A token is `header.payload.signature`, each part in base 64 for URLs.  A `Codec` is bound to one
algorithm: `encode` signs a claim set, `decode` gives back the claims of a token that this codec's
key signed and that has not expired by more than the skew.

`decode` looks at nothing before what authenticates it: the header decides whether the algorithm is
the codec's own, then the signature is checked over the text as it stands, and only then is the
payload read.
-/
set_option autoImplicit false

namespace SessionAuthority

/-- A signer and verifier of tokens for one algorithm.  Either key may be missing. -/
structure Codec where
  algorithm : Algorithm
  family : Algorithm.Family
  signing : Option Bytes
  verifying : Option Bytes
  skew : Nat
  deriving DecidableEq, Repr

namespace Codec

/-- A codec from key material.  A secret without a verifying one serves for both. -/
def new (algorithm : Algorithm) (signing verifying : Option Bytes) (skew : Span) :
    Except AuthError Codec := do
  let some family := algorithm.family?
    | throw (.unsupportedAlgorithm algorithm.name)
  let verifying :=
    match family, verifying with
    | .secret _, none => signing
    | _, given => given
  let signer ← signing.mapM (signingKey family)
  let verifier ← verifying.mapM (verifyingKey family)
  pure ⟨algorithm, family, signer, verifier, skew.seconds⟩

def ofSecret (algorithm : Algorithm) (secret : Bytes) (skew : Span) : Except AuthError Codec :=
  new algorithm (some secret) none skew

def canSign (c : Codec) : Bool := c.signing.isSome

/-- A description without any key material. -/
def describe (c : Codec) : String :=
  let flag (b : Bool) := if b then "true" else "false"
  "TokenCodec \x7b algorithm: " ++ c.algorithm.name ++ ", can_sign: " ++ flag c.canSign ++
    ", can_verify: " ++ flag c.verifying.isSome ++ ", skew_secs: " ++ toString c.skew ++ ", .. \x7d"

/-! ## Encoding -/

/-- Octets in the alphabet of tokens. -/
def segment (b : Bytes) : List Char := Base64.encode Base64.url b

/-- The text that is signed: header, point, payload. -/
def signingText (algorithm : Algorithm) (claims : Claims) : List Char :=
  segment (Header.render algorithm) ++ '.' :: segment (Json.render claims.toJson)

def octets (cs : List Char) : Bytes := Bytes.ofString (String.ofList cs)

def encode (c : Codec) (claims : Claims) : Except AuthError String :=
  match c.signing with
  | none => .error .signingKeyMissing
  | some key =>
      let text := signingText c.algorithm claims
      match sign c.family key (octets text) with
      | .error why => .error (.internal ("failed to sign token: " ++ why))
      | .ok signature => .ok (String.ofList (text ++ '.' :: segment signature))

/-! ## Decoding -/

structure Parts where
  header : List Char
  payload : List Char
  signature : List Char
  deriving DecidableEq, Repr

/-- The parts between the last two points of a text and around them. -/
def Parts.ofText? (token : String) : Option Parts :=
  match Text.cutLast? '.' token.toList with
  | none => none
  | some (message, signature) =>
      match Text.cutLast? '.' message with
      | none => none
      | some (header, payload) => some ⟨header, payload, signature⟩

def Parts.message (p : Parts) : List Char := p.header ++ '.' :: p.payload

def Parts.algorithm? (p : Parts) : Option Algorithm :=
  (Base64.decode? Base64.url p.header).bind Header.parse?

/-- Whether the signature verifies; for a secret it has to be the very text that signing writes. -/
def Parts.verify (p : Parts) (family : Algorithm.Family) (key : Bytes) : Except AuthError Unit :=
  match family with
  | .secret hash =>
      if p.signature = segment (Digest.hmac hash key (octets p.message)) then .ok ()
      else .error .signatureInvalid
  | .modulus padding hash =>
      match Base64.decode? Base64.url p.signature with
      | none => .error .malformed
      | some s =>
          if Key.Modulus.verify padding hash key (octets p.message) s then .ok ()
          else .error .signatureInvalid
  | .curve curve =>
      match Base64.decode? Base64.url p.signature with
      | none => .error .malformed
      | some s =>
          if Key.Curve.verify curve key (octets p.message) s then .ok ()
          else .error .signatureInvalid

/-- The members of the object in the payload, as they are written. -/
def Parts.members? (p : Parts) : Option (List (String × Json)) :=
  match Base64.decode? Base64.url p.payload with
  | none => none
  | some text =>
      match Json.parse text with
      | .ok (.object members) => some members
      | _ => none

/-- The claims of members that stand the test of the clock. -/
def accept (skew now : Nat) (members : List (String × Json)) : Outcome AuthError Claims :=
  let claims := Claims.ofMembers members
  let guarded :=
    match claims.get? "exp" with
    | some v => if v.isNumber then Outcome.ok claims else .refused .malformed
    | none => .ok claims
  if Registered.wellFormed members then
    match Registered.expiry? members with
    | none => guarded
    | some e =>
        if now < skew then .crashed .subtraction
        else if e < now - skew then .refused .expired
        else guarded
  else .refused .malformed

/-- The claims of a token at a time in seconds. -/
def decode (c : Codec) (now : Nat) (token : String) : Outcome AuthError Claims :=
  match c.verifying with
  | none => .refused .verificationKeyMissing
  | some key =>
      match Parts.ofText? token with
      | none => .refused .malformed
      | some parts =>
          match parts.algorithm? with
          | none => .refused .malformed
          | some algorithm =>
              if algorithm ≠ c.algorithm then .refused .signatureInvalid
              else
                match parts.verify c.family key with
                | .error e => .refused e
                | .ok () =>
                    match parts.members? with
                    | none => .refused .malformed
                    | some members => accept c.skew now members

end Codec

end SessionAuthority

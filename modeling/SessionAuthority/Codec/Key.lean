import SessionAuthority.Failure
import SessionAuthority.Key.Armor
import SessionAuthority.Key.Curve
import SessionAuthority.Key.Modulus
import SessionAuthority.Key.Tagged

/-!
# Keys of a codec

A key is taken from its material once, and what it is good for shows when it is used: `material`
only finds out that a textual key holds bits of the right kind, `sign` and `verify` read them.
-/
set_option autoImplicit false

namespace SessionAuthority.Codec

open Algorithm (Family Padding Curve)

inductive Kind where
  | modulus
  | curve
  | edwards
  deriving DecidableEq, Repr

def Kind.ofArcs? (arcs : List Nat) : Option Kind :=
  if arcs = [1, 2, 840, 10045, 2, 1] then some .curve
  else if arcs = [1, 2, 840, 113549, 1, 1, 1] then some .modulus
  else if arcs = [1, 3, 101, 112] then some .edwards
  else none

/-- A textual key after a first look: a bare modulus document, or a wrapped one. -/
inductive Document where
  | bare (content : Bytes)
  | wrapped (kind : Kind) (secret : Bool) (content : Bytes) (values : List Key.Tagged)

def Document.parse? (material : Bytes) : Option Document := do
  let block ← Key.Block.parse? material
  let values ← Key.Tagged.parse? block.content
  if block.label = "RSA PRIVATE KEY" ∨ block.label = "RSA PUBLIC KEY" then
    pure (.bare block.content)
  else if block.label = "PRIVATE KEY" ∨ block.label = "PUBLIC KEY" ∨
      block.label = "CERTIFICATE" then
    let kind ← Key.Tagged.firstKnownIn? Kind.ofArcs? values
    pure (.wrapped kind (block.label = "PRIVATE KEY") block.content values)
  else none

def invalidFormat : AuthError := .invalidKey "InvalidKeyFormat"

/-- Why material that should hold a string of bits is not a key. -/
def invalidPoint : AuthError := .invalidKey "InvalidEcdsaKey"

/-- The modulus document in a textual key, private or public. -/
def modulusKey (material : Bytes) : Except AuthError Bytes :=
  match Document.parse? material with
  | some (.bare content) => .ok content
  | some (.wrapped .modulus _ _ values) =>
      match Key.Tagged.firstStringIn? values with
      | some content => .ok content
      | none => .error invalidPoint
  | _ => .error invalidFormat

def curveSigningKey (material : Bytes) : Except AuthError Bytes :=
  match Document.parse? material with
  | some (.wrapped .curve true content _) => .ok content
  | _ => .error invalidFormat

def curveVerifyingKey (material : Bytes) : Except AuthError Bytes :=
  match Document.parse? material with
  | some (.wrapped .curve false _ values) =>
      match Key.Tagged.firstStringIn? values with
      | some content => .ok content
      | none => .error invalidPoint
  | _ => .error invalidFormat

/-- A secret shared by signer and verifier; not empty. -/
def secretKey (material : Bytes) : Except AuthError Bytes :=
  if material.isEmpty then .error (.invalidKey "empty HMAC secret") else .ok material

def signingKey : Family → Bytes → Except AuthError Bytes
  | .secret _ => secretKey
  | .modulus _ _ => modulusKey
  | .curve _ => curveSigningKey

def verifyingKey : Family → Bytes → Except AuthError Bytes
  | .secret _ => secretKey
  | .modulus _ _ => modulusKey
  | .curve _ => curveVerifyingKey

/-- The signature of a message, or the words for why the key cannot sign. -/
def sign (family : Family) (key message : Bytes) : Except String Bytes :=
  match family with
  | .secret hash => .ok (Digest.hmac hash key message)
  | .modulus padding hash =>
      match Key.Modulus.sign padding hash key message with
      | .ok signature => .ok signature
      | .error fault => .error ("RSA key invalid: " ++ fault.text)
  | .curve curve =>
      match Key.Curve.sign? curve key message with
      | some signature => .ok signature
      | none => .error "InvalidEcdsaKey"

end SessionAuthority.Codec

import SessionAuthority.Digest.Sha2

/-!
# Signing algorithms

The names a token header can carry, sorted into the families that decide which keys they take.
-/
set_option autoImplicit false

namespace SessionAuthority

/-- An algorithm that a token header can name. -/
inductive Algorithm where
  | hs256
  | hs384
  | hs512
  | es256
  | es384
  | rs256
  | rs384
  | rs512
  | ps256
  | ps384
  | ps512
  | edDsa
  deriving DecidableEq, Repr

namespace Algorithm

/-- How a signature with a modulus is padded. -/
inductive Padding where
  | fixed
  | salted
  deriving DecidableEq, Repr

inductive Curve where
  | p256
  | p384
  deriving DecidableEq, Repr

/-- What kind of key an algorithm takes, and how it uses it. -/
inductive Family where
  | secret (hash : Digest.Hash)
  | modulus (padding : Padding) (hash : Digest.Hash)
  | curve (curve : Curve)
  deriving DecidableEq, Repr

def name : Algorithm → String
  | hs256 => "HS256"
  | hs384 => "HS384"
  | hs512 => "HS512"
  | es256 => "ES256"
  | es384 => "ES384"
  | rs256 => "RS256"
  | rs384 => "RS384"
  | rs512 => "RS512"
  | ps256 => "PS256"
  | ps384 => "PS384"
  | ps512 => "PS512"
  | edDsa => "EdDSA"

def all : List Algorithm :=
  [hs256, hs384, hs512, es256, es384, rs256, rs384, rs512, ps256, ps384, ps512, edDsa]

def ofName? (s : String) : Option Algorithm := all.find? (·.name == s)

/-- The family of an algorithm that keys can be given for. -/
def family? : Algorithm → Option Family
  | hs256 => some (.secret .sha256)
  | hs384 => some (.secret .sha384)
  | hs512 => some (.secret .sha512)
  | es256 => some (.curve .p256)
  | es384 => some (.curve .p384)
  | rs256 => some (.modulus .fixed .sha256)
  | rs384 => some (.modulus .fixed .sha384)
  | rs512 => some (.modulus .fixed .sha512)
  | ps256 => some (.modulus .salted .sha256)
  | ps384 => some (.modulus .salted .sha384)
  | ps512 => some (.modulus .salted .sha512)
  | edDsa => none

end Algorithm

end SessionAuthority

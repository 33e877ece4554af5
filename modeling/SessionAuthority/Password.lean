import SessionAuthority.Base64
import SessionAuthority.Digest.Blowfish
import SessionAuthority.Text.Blank

/-!
# Passwords

A stored hash is `$version$cost$`, 22 characters of salt and 31 of digest, in an alphabet of its
own.  Only the first 72 octets of a password count, the closing zero among them.  A text that is no
such hash matches no password.
-/
set_option autoImplicit false

namespace SessionAuthority.Password

/-- The alphabet of hashes. -/
def alphabet : List Char :=
  "./ABCDEFGHIJKLMNOPQRSTUVWXYZabcdefghijklmnopqrstuvwxyz0123456789".toList

/-- Characters of this alphabet as those of the alphabet of tokens, which the reader of base 64
knows; nothing for a character that is not in it. -/
def respell? (cs : List Char) : Option (List Char) :=
  cs.mapM fun c =>
    (alphabet.findIdx? (· == c)).map fun i => Base64.url.symbol i

def decode? (cs : List Char) : Option Bytes := (respell? cs).bind (Base64.decode? Base64.url)

structure Hash where
  cost : Nat
  salt : Bytes
  digest : Bytes
  deriving DecidableEq, Repr

/-- The versions in use; they do not differ. -/
def versions : List (List Char) := [['2', 'a'], ['2', 'b'], ['2', 'x'], ['2', 'y']]

/-- The hash that a text writes: three parts between dollar signs, empty ones aside. -/
def Hash.parse? (s : String) : Option Hash :=
  match (Text.splitChars '$' s.toList).filter (!·.isEmpty) with
  | [version, cost, body] => do
      guard (versions.contains version)
      let cost ← Text.natural? 0xFFFFFFFF cost
      guard (body.length = 53)
      let salt ← decode? (body.take 22)
      let digest ← decode? (body.drop 22)
      guard (4 ≤ cost ∧ cost ≤ 31)
      pure ⟨cost, salt, digest⟩
  | _ => none

/-- The octets of a password that count. -/
def significant (password : String) : Bytes := (Bytes.ofString password ++ [0]).take 72

def verify (password hash : String) : Bool :=
  match Hash.parse? hash with
  | none => false
  | some h => (Digest.Blowfish.digest h.cost (significant password) h.salt).take 23 == h.digest

end SessionAuthority.Password

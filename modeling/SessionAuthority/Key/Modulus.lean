import SessionAuthority.Algorithm
import SessionAuthority.Key.Field

/-!
# Signatures under a modulus

Two paddings over one private power.  The fixed padding is a function of the digest; the salted one
also takes a salt, here derived from the digest so that signing is a function.  Verification takes
any salt as long as a digest.
-/
set_option autoImplicit false

namespace SessionAuthority.Key.Modulus

open Digest (Hash)
open Algorithm (Padding)

inductive KeyFault where
  | invalidEncoding
  | versionNotSupported
  | tooSmall
  | tooLarge
  | invalidComponent
  | inconsistentComponents
  deriving DecidableEq, Repr

def KeyFault.text : KeyFault → String
  | invalidEncoding => "InvalidEncoding"
  | versionNotSupported => "VersionNotSupported"
  | tooSmall => "TooSmall"
  | tooLarge => "TooLarge"
  | invalidComponent => "InvalidComponent"
  | inconsistentComponents => "InconsistentComponents"

def bitLength (n : Nat) : Nat := if n = 0 then 0 else n.log2 + 1

def octetLength (n : Nat) : Nat := (bitLength n + 7) / 8

structure Public where
  modulus : Nat
  exponent : Nat
  deriving DecidableEq, Repr

structure Private where
  toPublic : Public
  secret : Nat
  deriving DecidableEq, Repr

/-- The modulus is odd and its size, rounded up to octets, in range; the exponent is odd and in
range. -/
def Public.check (minBits maxBits minExponent : Nat) (key : Public) : Except KeyFault Unit :=
  if key.modulus % 2 = 0 then .error .invalidComponent
  else if 8 * octetLength key.modulus < minBits then .error .tooSmall
  else if bitLength key.modulus > maxBits then .error .tooLarge
  else if octetLength key.exponent > 5 then .error .tooLarge
  else if key.exponent < minExponent then .error .tooSmall
  else if key.exponent % 2 = 0 then .error .invalidComponent
  else if key.exponent > 0x1FFFFFFFF then .error .tooLarge
  else .ok ()

def Private.parse (input : Bytes) : Except KeyFault Private :=
  match Field.sequence? input with
  | none => .error .invalidEncoding
  | some (body, behind) =>
      match Field.small? body with
      | none => .error .invalidEncoding
      | some (version, body) =>
          if version ≠ 0 then .error .versionNotSupported
          else
            match Field.naturals? 8 body with
            | some ([n, e, d, p, q, dp, dq, qInv], rest) =>
                match Public.check 2048 4096 65537 ⟨n, e⟩ with
                | .error f => .error f
                | .ok () =>
                    if bitLength p * 2 ≠ bitLength n ∨ bitLength q * 2 ≠ bitLength n ∨
                        p * q ≠ n then
                      .error .inconsistentComponents
                    else if d ≥ n ∨ d % 2 = 0 ∨ d % (p - 1) ≠ dp ∨ d % (q - 1) ≠ dq ∨
                        q * qInv % p ≠ 1 then
                      .error .inconsistentComponents
                    else if rest ≠ [] ∨ behind ≠ [] then .error .invalidEncoding
                    else .ok ⟨⟨n, e⟩, d⟩
            | _ => .error .invalidEncoding

def Public.parse? (input : Bytes) : Option Public :=
  match Field.sequence? input with
  | some (body, []) =>
      match Field.naturals? 2 body with
      | some ([n, e], []) =>
          match Public.check 2048 8192 3 ⟨n, e⟩ with
          | .ok () => some ⟨n, e⟩
          | .error _ => none
      | _ => none
  | _ => none

/-- What names a digest in the fixed padding. -/
def digestInfo : Hash → Bytes
  | .sha256 => [0x30, 0x31, 0x30, 0x0D, 0x06, 0x09, 0x60, 0x86, 0x48, 0x01, 0x65, 0x03, 0x04, 0x02,
      0x01, 0x05, 0x00, 0x04, 0x20]
  | .sha384 => [0x30, 0x41, 0x30, 0x0D, 0x06, 0x09, 0x60, 0x86, 0x48, 0x01, 0x65, 0x03, 0x04, 0x02,
      0x02, 0x05, 0x00, 0x04, 0x30]
  | .sha512 => [0x30, 0x51, 0x30, 0x0D, 0x06, 0x09, 0x60, 0x86, 0x48, 0x01, 0x65, 0x03, 0x04, 0x02,
      0x03, 0x05, 0x00, 0x04, 0x40]

def fixedPadding (h : Hash) (size : Nat) (digest : Bytes) : Bytes :=
  let tail := 0x00 :: digestInfo h ++ digest
  0x00 :: 0x01 :: List.replicate (size - 2 - tail.length) 0xFF ++ tail

/-- Octets derived from a seed, as many as asked for. -/
def mask (h : Hash) (seed : Bytes) (size : Nat) : Bytes :=
  ((List.range ((size + h.size - 1) / h.size)).flatMap fun i =>
    h.digest (seed ++ Bytes.ofNat 4 i)).take size

/-- What a salted padding binds together. -/
def saltedDigest (h : Hash) (digest salt : Bytes) : Bytes :=
  h.digest (List.replicate 8 0 ++ digest ++ salt)

/-- A number with its bits from `count` on cleared, as octets. -/
def clearAbove (count : Nat) (b : Bytes) : Bytes :=
  Bytes.ofNat b.length (Bytes.toNat b % Nat.pow 2 count)

def saltedPadding (h : Hash) (bits : Nat) (digest salt : Bytes) : Bytes :=
  let size := (bits + 7) / 8
  let bound := saltedDigest h digest salt
  let block := List.replicate (size - salt.length - h.size - 2) 0 ++ 0x01 :: salt
  let width := size - h.size - 1
  clearAbove (bits - 8 * (size - width)) (Bytes.xor block (mask h bound width)) ++ bound ++ [0xBC]

/-- Whether the octets are a salted padding of the digest, whatever the salt. -/
def isSaltedPadding (h : Hash) (bits : Nat) (digest padded : Bytes) : Bool :=
  let size := (bits + 7) / 8
  let width := size - h.size - 1
  if padded.length ≠ size ∨ size < 2 * h.size + 2 then false
  else
    let masked := padded.take width
    let bound := (padded.drop width).take h.size
    let top := bits - 8 * (size - width)
    let block := clearAbove top (Bytes.xor masked (mask h bound width))
    let salt := block.drop (width - h.size)
    padded.getLast? == some 0xBC && masked == clearAbove top masked &&
      block.take (width - h.size) == List.replicate (width - h.size - 1) 0 ++ [0x01] &&
      bound == saltedDigest h digest salt

def sign (padding : Padding) (h : Hash) (document message : Bytes) : Except KeyFault Bytes :=
  match Private.parse document with
  | .error f => .error f
  | .ok key =>
      let n := key.toPublic.modulus
      let digest := h.digest message
      let padded :=
        match padding with
        | .fixed => fixedPadding h (octetLength n) digest
        | .salted => saltedPadding h (bitLength n - 1) digest (h.digest digest)
      .ok (Bytes.ofNat (octetLength n) (power n (Bytes.toNat padded) key.secret))

def verify (padding : Padding) (h : Hash) (document message signature : Bytes) : Bool :=
  match Public.parse? document with
  | none => false
  | some key =>
      let n := key.modulus
      let s := Bytes.toNat signature
      if signature.length ≠ octetLength n ∨ s = 0 ∨ s ≥ n then false
      else
        let opened := power n s key.exponent
        let digest := h.digest message
        match padding with
        | .fixed => Bytes.ofNat (octetLength n) opened == fixedPadding h (octetLength n) digest
        | .salted =>
            let bits := bitLength n - 1
            let size := (bits + 7) / 8
            opened < Nat.pow 256 size && isSaltedPadding h bits digest (Bytes.ofNat size opened)

end SessionAuthority.Key.Modulus

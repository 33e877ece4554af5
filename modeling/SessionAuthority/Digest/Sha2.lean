import SessionAuthority.Bytes

/-!
# SHA-2

One construction over words of 32 or 64 bits.  A member of the family is a `Sha2`: the rotations of
its mixing functions, its round constants (fractional bits of the cube roots of the first primes),
its initial registers (of the square roots) and how much of the last registers is the digest.

A keyed digest (`hmac`) hashes the message twice, under the key mixed with two different constants.
-/
set_option autoImplicit false

namespace SessionAuthority.Digest

/-- What the construction asks of its words. -/
class Word (W : Type) extends Add W, AndOp W, XorOp W, OrOp W, Complement W where
  /-- Bits of a word. -/
  bits : Nat
  /-- The low bits of a number. -/
  ofNat : Nat → W
  /-- The number a word writes. -/
  toNat : W → Nat
  /-- Shift to the right, zeros coming in. -/
  shiftDown : W → Nat → W
  /-- Shift to the left. -/
  shiftUp : W → Nat → W

instance : Word UInt32 where
  bits := 32
  ofNat := Nat.toUInt32
  toNat := UInt32.toNat
  shiftDown w n := w >>> n.toUInt32
  shiftUp w n := w <<< n.toUInt32

instance : Word UInt64 where
  bits := 64
  ofNat := Nat.toUInt64
  toNat := UInt64.toNat
  shiftDown w n := w >>> n.toUInt64
  shiftUp w n := w <<< n.toUInt64

def Word.rotate {W : Type} [Word W] (w : W) (n : Nat) : W :=
  Word.shiftDown w n ||| Word.shiftUp w (Word.bits W - n)

structure Sha2 (W : Type) where
  big₀ : Nat × Nat × Nat
  big₁ : Nat × Nat × Nat
  small₀ : Nat × Nat × Nat
  small₁ : Nat × Nat × Nat
  constants : List W
  initial : List W
  size : Nat

namespace Sha2

variable {W : Type} [Word W]

def wordSize (W : Type) [Word W] : Nat := Word.bits W / 8

def blockSize (W : Type) [Word W] : Nat := 16 * wordSize W

/-- Three rotations, mixed. -/
def mix (r : Nat × Nat × Nat) (w : W) : W :=
  Word.rotate w r.1 ^^^ Word.rotate w r.2.1 ^^^ Word.rotate w r.2.2

/-- Two rotations and a shift, mixed. -/
def stir (r : Nat × Nat × Nat) (w : W) : W :=
  Word.rotate w r.1 ^^^ Word.rotate w r.2.1 ^^^ Word.shiftDown w r.2.2

structure Registers (W : Type) where
  a : W
  b : W
  c : W
  d : W
  e : W
  f : W
  g : W
  h : W

def Registers.ofList (ws : List W) : Registers W :=
  let at_ n := ws.getD n (Word.ofNat 0)
  ⟨at_ 0, at_ 1, at_ 2, at_ 3, at_ 4, at_ 5, at_ 6, at_ 7⟩

def Registers.toList (r : Registers W) : List W := [r.a, r.b, r.c, r.d, r.e, r.f, r.g, r.h]

def Registers.add (x y : Registers W) : Registers W :=
  ⟨x.a + y.a, x.b + y.b, x.c + y.c, x.d + y.d, x.e + y.e, x.f + y.f, x.g + y.g, x.h + y.h⟩

def round (v : Sha2 W) (k w : W) (r : Registers W) : Registers W :=
  let choice := (r.e &&& r.f) ^^^ (~~~r.e &&& r.g)
  let majority := (r.a &&& r.b) ^^^ (r.a &&& r.c) ^^^ (r.b &&& r.c)
  let t₁ := r.h + mix v.big₁ r.e + choice + k + w
  let t₂ := mix v.big₀ r.a + majority
  ⟨t₁ + t₂, r.a, r.b, r.c, r.d + t₁, r.e, r.f, r.g⟩

/-- The word that follows sixteen words of the schedule. -/
def nextWord (v : Sha2 W) (window : List W) : W :=
  let at_ n := window.getD n (Word.ofNat 0)
  stir v.small₁ (at_ 14) + at_ 9 + stir v.small₀ (at_ 1) + at_ 0

/-- The rounds; `window` holds the next sixteen words of the schedule. -/
def rounds (v : Sha2 W) : (constants window : List W) → Registers W → Registers W
  | [], _, r => r
  | _ :: _, [], r => r
  | k :: ks, w :: ws, r => rounds v ks (ws ++ [nextWord v (w :: ws)]) (round v k w r)

def words (block : Bytes) : List W :=
  (List.range 16).map fun i =>
    Word.ofNat (Bytes.toNat ((block.drop (i * wordSize W)).take (wordSize W)))

def compress (v : Sha2 W) (r : Registers W) (block : Bytes) : Registers W :=
  r.add (rounds v v.constants (words block) r)

/-- The message, a one bit, zeros, and the count of its bits in two words: whole blocks. -/
def pad (W : Type) [Word W] (message : Bytes) : Bytes :=
  let tail := 1 + 2 * wordSize W
  let fill := (blockSize W - (message.length + tail) % blockSize W) % blockSize W
  message ++ 0x80 :: List.replicate fill 0 ++ Bytes.ofNat (2 * wordSize W) (8 * message.length)

def absorb (v : Sha2 W) : (fuel : Nat) → Registers W → Bytes → Registers W
  | 0, r, _ => r
  | fuel + 1, r, input =>
      if input.isEmpty then r
      else absorb v fuel (compress v r (input.take (blockSize W))) (input.drop (blockSize W))

def hash (v : Sha2 W) (message : Bytes) : Bytes :=
  let input := pad W message
  let final := absorb v (input.length / blockSize W) (Registers.ofList v.initial) input
  (final.toList.flatMap fun w => Bytes.ofNat (wordSize W) (Word.toNat w)).take v.size

end Sha2

def constants32 : List UInt32 := [
  0x428A2F98, 0x71374491, 0xB5C0FBCF, 0xE9B5DBA5, 0x3956C25B, 0x59F111F1, 0x923F82A4, 0xAB1C5ED5,
  0xD807AA98, 0x12835B01, 0x243185BE, 0x550C7DC3, 0x72BE5D74, 0x80DEB1FE, 0x9BDC06A7, 0xC19BF174,
  0xE49B69C1, 0xEFBE4786, 0x0FC19DC6, 0x240CA1CC, 0x2DE92C6F, 0x4A7484AA, 0x5CB0A9DC, 0x76F988DA,
  0x983E5152, 0xA831C66D, 0xB00327C8, 0xBF597FC7, 0xC6E00BF3, 0xD5A79147, 0x06CA6351, 0x14292967,
  0x27B70A85, 0x2E1B2138, 0x4D2C6DFC, 0x53380D13, 0x650A7354, 0x766A0ABB, 0x81C2C92E, 0x92722C85,
  0xA2BFE8A1, 0xA81A664B, 0xC24B8B70, 0xC76C51A3, 0xD192E819, 0xD6990624, 0xF40E3585, 0x106AA070,
  0x19A4C116, 0x1E376C08, 0x2748774C, 0x34B0BCB5, 0x391C0CB3, 0x4ED8AA4A, 0x5B9CCA4F, 0x682E6FF3,
  0x748F82EE, 0x78A5636F, 0x84C87814, 0x8CC70208, 0x90BEFFFA, 0xA4506CEB, 0xBEF9A3F7, 0xC67178F2]

def constants64 : List UInt64 := [
  0x428A2F98D728AE22, 0x7137449123EF65CD, 0xB5C0FBCFEC4D3B2F, 0xE9B5DBA58189DBBC,
  0x3956C25BF348B538, 0x59F111F1B605D019, 0x923F82A4AF194F9B, 0xAB1C5ED5DA6D8118,
  0xD807AA98A3030242, 0x12835B0145706FBE, 0x243185BE4EE4B28C, 0x550C7DC3D5FFB4E2,
  0x72BE5D74F27B896F, 0x80DEB1FE3B1696B1, 0x9BDC06A725C71235, 0xC19BF174CF692694,
  0xE49B69C19EF14AD2, 0xEFBE4786384F25E3, 0x0FC19DC68B8CD5B5, 0x240CA1CC77AC9C65,
  0x2DE92C6F592B0275, 0x4A7484AA6EA6E483, 0x5CB0A9DCBD41FBD4, 0x76F988DA831153B5,
  0x983E5152EE66DFAB, 0xA831C66D2DB43210, 0xB00327C898FB213F, 0xBF597FC7BEEF0EE4,
  0xC6E00BF33DA88FC2, 0xD5A79147930AA725, 0x06CA6351E003826F, 0x142929670A0E6E70,
  0x27B70A8546D22FFC, 0x2E1B21385C26C926, 0x4D2C6DFC5AC42AED, 0x53380D139D95B3DF,
  0x650A73548BAF63DE, 0x766A0ABB3C77B2A8, 0x81C2C92E47EDAEE6, 0x92722C851482353B,
  0xA2BFE8A14CF10364, 0xA81A664BBC423001, 0xC24B8B70D0F89791, 0xC76C51A30654BE30,
  0xD192E819D6EF5218, 0xD69906245565A910, 0xF40E35855771202A, 0x106AA07032BBD1B8,
  0x19A4C116B8D2D0C8, 0x1E376C085141AB53, 0x2748774CDF8EEB99, 0x34B0BCB5E19B48A8,
  0x391C0CB3C5C95A63, 0x4ED8AA4AE3418ACB, 0x5B9CCA4F7763E373, 0x682E6FF3D6B2B8A3,
  0x748F82EE5DEFB2FC, 0x78A5636F43172F60, 0x84C87814A1F0AB72, 0x8CC702081A6439EC,
  0x90BEFFFA23631E28, 0xA4506CEBDE82BDE9, 0xBEF9A3F7B2C67915, 0xC67178F2E372532B,
  0xCA273ECEEA26619C, 0xD186B8C721C0C207, 0xEADA7DD6CDE0EB1E, 0xF57D4F7FEE6ED178,
  0x06F067AA72176FBA, 0x0A637DC5A2C898A6, 0x113F9804BEF90DAE, 0x1B710B35131C471B,
  0x28DB77F523047D84, 0x32CAAB7B40C72493, 0x3C9EBE0A15C9BEBC, 0x431D67C49C100D4C,
  0x4CC5D4BECB3E42B6, 0x597F299CFC657E2A, 0x5FCB6FAB3AD6FAEC, 0x6C44198C4A475817]

def sha256 : Sha2 UInt32 where
  big₀ := (2, 13, 22)
  big₁ := (6, 11, 25)
  small₀ := (7, 18, 3)
  small₁ := (17, 19, 10)
  constants := constants32
  initial := [
  0x6A09E667, 0xBB67AE85, 0x3C6EF372, 0xA54FF53A, 0x510E527F, 0x9B05688C, 0x1F83D9AB, 0x5BE0CD19]
  size := 32

def sha512 : Sha2 UInt64 where
  big₀ := (28, 34, 39)
  big₁ := (14, 18, 41)
  small₀ := (1, 8, 7)
  small₁ := (19, 61, 6)
  constants := constants64
  initial := [
  0x6A09E667F3BCC908, 0xBB67AE8584CAA73B, 0x3C6EF372FE94F82B, 0xA54FF53A5F1D36F1,
  0x510E527FADE682D1, 0x9B05688C2B3E6C1F, 0x1F83D9ABFB41BD6B, 0x5BE0CD19137E2179]
  size := 64

/-- The member with 384 bits: as the one with 512, from other registers, and cut short. -/
def sha384 : Sha2 UInt64 :=
  { sha512 with
    initial := [
  0xCBBB9D5DC1059ED8, 0x629A292A367CD507, 0x9159015A3070DD17, 0x152FECD8F70E5939,
  0x67332667FFC00B31, 0x8EB44A8768581511, 0xDB0C2E0D64F98FA7, 0x47B5481DBEFA4FA4]
    size := 48 }

inductive Hash where
  | sha256
  | sha384
  | sha512
  deriving DecidableEq, Repr

def Hash.digest : Hash → Bytes → Bytes
  | .sha256 => Digest.sha256.hash
  | .sha384 => Digest.sha384.hash
  | .sha512 => Digest.sha512.hash

def Hash.size : Hash → Nat
  | .sha256 => 32
  | .sha384 => 48
  | .sha512 => 64

def Hash.blockSize : Hash → Nat
  | .sha256 => 64
  | .sha384 => 128
  | .sha512 => 128

/-! ## Keyed digests -/

/-- The key as one block: hashed when longer, then filled with zeros. -/
def hmacBlock (h : Hash) (key : Bytes) : Bytes :=
  let short := if key.length > h.blockSize then h.digest key else key
  short ++ List.replicate (h.blockSize - short.length) 0

def hmac (h : Hash) (key message : Bytes) : Bytes :=
  let block := hmacBlock h key
  h.digest (block.map (· ^^^ 0x5C) ++ h.digest (block.map (· ^^^ 0x36) ++ message))

end SessionAuthority.Digest

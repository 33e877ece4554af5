import SessionAuthority.Algorithm
import SessionAuthority.Key.Field

/-!
# Signatures on a curve

Points of `y² = x³ - 3x + b` over a prime field, in projective coordinates with weights 2 and 3.
The number that a signer must never use twice is derived from the key and the digest.
-/
set_option autoImplicit false

namespace SessionAuthority.Key.Curve

open Algorithm (Curve)
open Digest (Hash)

/-- A curve: its field, its constant, its base point and that point's order. -/
structure Domain where
  prime : Nat
  b : Nat
  baseX : Nat
  baseY : Nat
  order : Nat
  size : Nat
  hash : Hash
  identifier : Bytes

def domain : Curve → Domain
  | .p256 =>
    { prime := 0xFFFFFFFF00000001000000000000000000000000FFFFFFFFFFFFFFFFFFFFFFFF
      b := 0x5AC635D8AA3A93E7B3EBBD55769886BC651D06B0CC53B0F63BCE3C3E27D2604B
      baseX := 0x6B17D1F2E12C4247F8BCE6E563A440F277037D812DEB33A0F4A13945D898C296
      baseY := 0x4FE342E2FE1A7F9B8EE7EB4A7C0F9E162BCE33576B315ECECBB6406837BF51F5
      order := 0xFFFFFFFF00000000FFFFFFFFFFFFFFFFBCE6FAADA7179E84F3B9CAC2FC632551
      size := 32
      hash := .sha256
      identifier := [0x06, 0x08, 0x2A, 0x86, 0x48, 0xCE, 0x3D, 0x03, 0x01, 0x07] }
  | .p384 =>
    { prime :=
        0xFFFFFFFFFFFFFFFFFFFFFFFFFFFFFFFFFFFFFFFFFFFFFFFFFFFFFFFFFFFFFFFEFFFFFFFF0000000000000000FFFFFFFF
      b :=
        0xB3312FA7E23EE7E4988E056BE3F82D19181D9C6EFE8141120314088F5013875AC656398D8A2ED19D2A85C8EDD3EC2AEF
      baseX :=
        0xAA87CA22BE8B05378EB1C71EF320AD746E1D3B628BA79B9859F741E082542A385502F25DBF55296C3A545E3872760AB7
      baseY :=
        0x3617DE4A96262C6F5D9E98BF9292DC29F8F41DBD289A147CE9DA3113B5F0B8C00A60B1CE1D7E819D7A431D7C90EA0E5F
      order :=
        0xFFFFFFFFFFFFFFFFFFFFFFFFFFFFFFFFFFFFFFFFFFFFFFFFC7634D81F4372DDF581A0DB248B0A77AECEC196ACCC52973
      size := 48
      hash := .sha384
      identifier := [0x06, 0x05, 0x2B, 0x81, 0x04, 0x00, 0x22] }

/-- What names a key on some curve. -/
def keyIdentifier : Bytes := [0x06, 0x07, 0x2A, 0x86, 0x48, 0xCE, 0x3D, 0x02, 0x01]

/-- A point `(x / z ^ 2, y / z ^ 3)`; the neutral element has `z = 0`. -/
structure Point where
  x : Nat
  y : Nat
  z : Nat

namespace Point

def neutral : Point := ⟨1, 1, 0⟩

variable (p : Nat)

def double (a : Point) : Point :=
  if a.z = 0 ∨ a.y = 0 then neutral
  else
    let delta := a.z * a.z % p
    let gamma := a.y * a.y % p
    let beta := a.x * gamma % p
    let alpha := 3 * ((a.x + p - delta) * (a.x + delta)) % p
    let x := (alpha * alpha + 8 * (p - beta)) % p
    let z := 2 * a.y * a.z % p
    let y := (alpha * (4 * beta + p - x) + 8 * (p - gamma * gamma % p)) % p
    ⟨x, y, z⟩

def add (a b : Point) : Point :=
  if a.z = 0 then b
  else if b.z = 0 then a
  else
    let za := a.z * a.z % p
    let zb := b.z * b.z % p
    let u₁ := a.x * zb % p
    let u₂ := b.x * za % p
    let s₁ := a.y * zb % p * b.z % p
    let s₂ := b.y * za % p * a.z % p
    if u₁ = u₂ then
      if s₁ = s₂ then double p a else neutral
    else
      let h := (u₂ + p - u₁) % p
      let r := (s₂ + p - s₁) % p
      let hh := h * h % p
      let hhh := h * hh % p
      let v := u₁ * hh % p
      let x := (r * r + (p - hhh) + 2 * (p - v)) % p
      let y := (r * (v + p - x) + (p - s₁) * hhh) % p
      ⟨x, y, h * a.z % p * b.z % p⟩

/-- `n` times a point, plus `acc`; `fuel` bits of `n` are looked at. -/
def timesOnto : (fuel : Nat) → (acc base : Point) → (n : Nat) → Point
  | 0, acc, _, _ => acc
  | fuel + 1, acc, base, n =>
      if n = 0 then acc
      else timesOnto fuel (if n % 2 = 1 then add p acc base else acc) (double p base) (n / 2)

def times (n : Nat) (a : Point) : Point := timesOnto p (n.log2 + 1) neutral a n

def coordinates? (a : Point) : Option (Nat × Nat) :=
  if a.z = 0 then none
  else
    let w := inverse p a.z
    let ww := w * w % p
    some (a.x * ww % p, a.y * ww % p * w % p)

end Point

def Domain.base (d : Domain) : Point := ⟨d.baseX, d.baseY, 1⟩

/-- The point that uncompressed octets write, if it is on the curve. -/
def Domain.point? (d : Domain) : Bytes → Option Point
  | 0x04 :: rest =>
      if rest.length ≠ 2 * d.size then none
      else
        let x := Bytes.toNat (rest.take d.size)
        let y := Bytes.toNat (rest.drop d.size)
        if x < d.prime ∧ y < d.prime ∧
            y * y % d.prime = (x * x % d.prime * x + 3 * (d.prime - x) + d.b) % d.prime then
          some ⟨x, y, 1⟩
        else none
  | _ => none

def Domain.octets (d : Domain) (a : Point) : Bytes :=
  match a.coordinates? d.prime with
  | some (x, y) => 0x04 :: Bytes.ofNat d.size x ++ Bytes.ofNat d.size y
  | none => []

/-- What stands in the wrapper around a private key on this curve. -/
def Domain.wrapper (d : Domain) : Bytes := keyIdentifier ++ d.identifier

/-- The secret number in a private key document, its public point checked against it. -/
def Domain.secret? (d : Domain) (document : Bytes) : Option Nat := do
  let (body, behind) ← Field.sequence? document
  guard behind.isEmpty
  let (version, body) ← Field.small? body
  guard (version = 0)
  let (wrapper, body) ← Field.sequence? body
  guard (wrapper = d.wrapper)
  let (inner, attributes) ← Field.octets? body
  let attributes := ((Field.take? 0xA0 attributes).map (·.2)).getD attributes
  guard attributes.isEmpty
  let (body, behind) ← Field.sequence? inner
  guard behind.isEmpty
  let (version, body) ← Field.small? body
  guard (version = 1)
  let (secret, body) ← Field.octets? body
  let body ←
    match Field.take? 0xA0 body with
    | some (curve, body) => if curve = d.identifier then some body else none
    | none => some body
  let (holder, behind) ← Field.take? 0xA1 body
  guard behind.isEmpty
  let (point, behind) ← Field.bits? holder
  guard behind.isEmpty
  let n := Bytes.toNat secret
  guard (secret.length = d.size ∧ 0 < n ∧ n < d.order)
  guard (d.octets (d.base.times d.prime n) = point)
  pure n

/-- The digest of a message as a number, cut to the bits of the order. -/
def Domain.digest (d : Domain) (message : Bytes) : Nat :=
  Bytes.toNat ((d.hash.digest message).take d.size) % d.order

/-- A signature with this one-time number, unless it would be degenerate. -/
def Domain.signWith? (d : Domain) (secret digest once : Nat) : Option Bytes := do
  let (x, _) ← (d.base.times d.prime once).coordinates? d.prime
  let r := x % d.order
  let s := inverse d.order once * ((digest + r * secret) % d.order) % d.order
  guard (once ≠ 0 ∧ r ≠ 0 ∧ s ≠ 0)
  pure (Bytes.ofNat d.size r ++ Bytes.ofNat d.size s)

def Domain.once (d : Domain) (secret digest attempt : Nat) : Nat :=
  Bytes.toNat
    (Hash.sha512.digest (Bytes.ofNat d.size secret ++ Bytes.ofNat d.size digest ++
      Bytes.ofNat 1 attempt)) % d.order

/-- The signature of a message; nothing if the document is no private key on this curve. -/
def sign? (curve : Curve) (document message : Bytes) : Option Bytes :=
  let d := domain curve
  match d.secret? document with
  | none => none
  | some secret =>
      let digest := d.digest message
      (List.range 8).findSome? fun i => d.signWith? secret digest (d.once secret digest i)

def verify (curve : Curve) (point message signature : Bytes) : Bool :=
  let d := domain curve
  match d.point? point with
  | none => false
  | some q =>
      let r := Bytes.toNat (signature.take d.size)
      let s := Bytes.toNat (signature.drop d.size)
      if signature.length ≠ 2 * d.size ∨ r = 0 ∨ r ≥ d.order ∨ s = 0 ∨ s ≥ d.order then false
      else
        let w := inverse d.order s
        let sum := Point.add d.prime (d.base.times d.prime (d.digest message * w % d.order))
          (q.times d.prime (r * w % d.order))
        match sum.coordinates? d.prime with
        | some (x, _) => x % d.order == r
        | none => false

end SessionAuthority.Key.Curve

import SessionAuthority.Bytes

/-!
# Base 64

Two alphabets and one strict reading.  `encode` writes three octets as four characters;
`decode?` accepts exactly what `encode` can produce: a last group of one character, bits left over
that are not zero, padding where none belongs (or none where it does) and any other character are
all refused, so every octet string has one written form.
-/
set_option autoImplicit false

namespace SessionAuthority.Base64

/-- The last two characters of an alphabet, and whether groups are padded to four. -/
structure Variant where
  plus : Char
  slash : Char
  padded : Bool
  deriving DecidableEq, Repr

/-- The alphabet of tokens: safe in a URL, without padding. -/
def url : Variant := ⟨'-', '_', false⟩

/-- The alphabet of textual keys, padded. -/
def standard : Variant := ⟨'+', '/', true⟩

def Variant.symbol (v : Variant) (n : Nat) : Char :=
  if n < 26 then Char.ofNat (65 + n)
  else if n < 52 then Char.ofNat (71 + n)
  else if n < 62 then Char.ofNat (n - 4)
  else if n = 62 then v.plus
  else v.slash

def Variant.index? (v : Variant) (c : Char) : Option Nat :=
  let n := c.toNat
  if 65 ≤ n ∧ n ≤ 90 then some (n - 65)
  else if 97 ≤ n ∧ n ≤ 122 then some (n - 71)
  else if 48 ≤ n ∧ n ≤ 57 then some (n + 4)
  else if c = v.plus then some 62
  else if c = v.slash then some 63
  else none

/-- What stands in for the characters that a short last group lacks. -/
def Variant.filler (v : Variant) (n : Nat) : List Char :=
  if v.padded then List.replicate n '=' else []

/-- The characters of one group of three octets. -/
def Variant.group (v : Variant) (a b c : UInt8) : List Char :=
  let n := a.toNat * 65536 + b.toNat * 256 + c.toNat
  [v.symbol (n / 262144), v.symbol (n / 4096 % 64), v.symbol (n / 64 % 64), v.symbol (n % 64)]

/-- The characters of the octets, after those already written in reverse order. -/
def encodeOnto (v : Variant) : (done : List Char) → Bytes → List Char
  | done, [] => done.reverse
  | done, [a] => done.reverse ++ ((v.group a 0 0).take 2 ++ v.filler 2)
  | done, [a, b] => done.reverse ++ ((v.group a b 0).take 3 ++ v.filler 1)
  | done, a :: b :: c :: rest => encodeOnto v ((v.group a b c).reverse ++ done) rest

def encode (v : Variant) (b : Bytes) : List Char := encodeOnto v [] b

/-- The octets of a last group of two or three characters, if no bit is left over. -/
def Variant.lastGroup? (v : Variant) : List Char → Option Bytes
  | [] => some []
  | [a, b] => do
      let n := (← v.index? a) * 64 + (← v.index? b)
      if n % 16 = 0 then some [(n / 16).toUInt8] else none
  | [a, b, c] => do
      let n := (← v.index? a) * 4096 + (← v.index? b) * 64 + (← v.index? c)
      if n % 4 = 0 then some [(n / 1024).toUInt8, (n / 4 % 256).toUInt8] else none
  | _ => none

def Variant.fullGroup? (v : Variant) (a b c d : Char) : Option Bytes := do
  let n := (← v.index? a) * 262144 + (← v.index? b) * 4096 + (← v.index? c) * 64 + (← v.index? d)
  some [(n / 65536).toUInt8, (n / 256 % 256).toUInt8, (n % 256).toUInt8]

/-- The octets of unpadded characters, after those already read in reverse order. -/
def decodeOnto? (v : Variant) : (done : Bytes) → List Char → Option Bytes
  | done, a :: b :: c :: d :: rest =>
      match v.fullGroup? a b c d with
      | some three => decodeOnto? v (three.reverse ++ done) rest
      | none => none
  | done, last => (v.lastGroup? last).map (done.reverse ++ ·)

/-- The characters without their padding, if they are padded as the variant asks. -/
def Variant.unpad? (v : Variant) (cs : List Char) : Option (List Char) :=
  if v.padded then
    let body := (cs.reverse.dropWhile (· == '=')).reverse
    if body ++ List.replicate ((4 - body.length % 4) % 4) '=' = cs then some body else none
  else some cs

def decode? (v : Variant) (cs : List Char) : Option Bytes :=
  (v.unpad? cs).bind (decodeOnto? v [])

end SessionAuthority.Base64

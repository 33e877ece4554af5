import SessionAuthority.Bytes

/-!
# Fields and powers

What both kinds of keys are read and used with.  Before a key is used its document is read again,
now with every length in its shortest form and every field in its place: a field reader takes the
front of the octets and gives the rest.  Powers are by repeated squaring, with the exponent's bits
as the measure.
-/
set_option autoImplicit false

namespace SessionAuthority.Key

namespace Field

/-- The content of the value in front, if it has this tag. -/
def take? (tag : UInt8) : Bytes → Option (Bytes × Bytes)
  | t :: n :: rest =>
      if t ≠ tag then none
      else
        let cut (length : Nat) (rest : Bytes) :=
          if rest.length < length then none else some (rest.take length, rest.drop length)
        if n < 0x80 then cut n.toNat rest
        else
          match n, rest with
          | 0x81, a :: rest => if a < 0x80 then none else cut a.toNat rest
          | 0x82, a :: b :: rest =>
              let length := a.toNat * 256 + b.toNat
              if length < 256 then none else cut length rest
          | _, _ => none
  | _ => none

def sequence? (input : Bytes) : Option (Bytes × Bytes) := take? 0x30 input

def octets? (input : Bytes) : Option (Bytes × Bytes) := take? 0x04 input

/-- A string of whole octets of bits. -/
def bits? (input : Bytes) : Option (Bytes × Bytes) :=
  match take? 0x03 input with
  | some (0 :: content, rest) => some (content, rest)
  | _ => none

/-- An integer that is not negative, in its shortest form. -/
def natural? (input : Bytes) : Option (Nat × Bytes) :=
  match take? 0x02 input with
  | some ([], _) => none
  | some (b :: content, rest) =>
      if b ≥ 0x80 then none
      else if b = 0 ∧ content ≠ [] ∧ content.headD 0 < 0x80 then none
      else some (Bytes.toNat (b :: content), rest)
  | none => none

def small? (input : Bytes) : Option (Nat × Bytes) :=
  match natural? input with
  | some (n, rest) => if n < 256 then some (n, rest) else none
  | none => none

def naturals? : (count : Nat) → Bytes → Option (List Nat × Bytes)
  | 0, input => some ([], input)
  | count + 1, input => do
      let (n, input) ← natural? input
      let (more, input) ← naturals? count input
      pure (n :: more, input)

end Field

/-! ## Modular powers -/

/-- `base ^ exponent` modulo `modulus`, times `acc`; `fuel` bits of the exponent are looked at. -/
def powerOnto (modulus : Nat) : (fuel acc base exponent : Nat) → Nat
  | 0, acc, _, _ => acc
  | fuel + 1, acc, base, exponent =>
      if exponent = 0 then acc
      else
        powerOnto modulus fuel (if exponent % 2 = 1 then acc * base % modulus else acc)
          (base * base % modulus) (exponent / 2)

def power (modulus base exponent : Nat) : Nat :=
  powerOnto modulus (exponent.log2 + 1) (1 % modulus) (base % modulus) exponent

/-- The inverse modulo a prime. -/
def inverse (prime n : Nat) : Nat := power prime n (prime - 2)

end SessionAuthority.Key

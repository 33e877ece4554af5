import SessionAuthority.Hex

/-!
# Subject identifiers

An identifier is 128 bits.  Its canonical text (`Uuid.toText`) is 32 lower-case digits in groups of
8, 4, 4, 4 and 12.  `parse?` takes digits in either case in four forms: grouped, without hyphens,
grouped between braces, and grouped behind `urn:uuid:`.
-/
set_option autoImplicit false

namespace SessionAuthority

structure Uuid where
  bits : BitVec 128
  deriving DecidableEq, Repr

namespace Uuid

def ofNat (n : Nat) : Uuid := ⟨BitVec.ofNat 128 n⟩

def chars (u : Uuid) : List Char :=
  let digits := Hex.ofNat 32 u.bits.toNat
  digits.take 8 ++ '-' :: (digits.drop 8).take 4 ++ '-' :: (digits.drop 12).take 4 ++
    '-' :: (digits.drop 16).take 4 ++ '-' :: digits.drop 20

def toText (u : Uuid) : String := String.ofList u.chars

def ofDigits? (cs : List Char) : Option Uuid :=
  if cs.length = 32 then (Hex.toNat? cs).map ofNat else none

def ofGroups? (cs : List Char) : Option Uuid :=
  let hyphen n := cs.getD n ' ' == '-'
  if cs.length = 36 && hyphen 8 && hyphen 13 && hyphen 18 && hyphen 23 then
    ofDigits? (cs.take 8 ++ (cs.drop 9).take 4 ++ (cs.drop 14).take 4 ++ (cs.drop 19).take 4 ++
      cs.drop 24)
  else none

/-- What may stand in front of a grouped identifier. -/
def urn : List Char := "urn:uuid:".toList

/-- The identifier that a text writes in one of the four forms. -/
def parse? (s : String) : Option Uuid :=
  let cs := s.toList
  if cs.length = 32 then ofDigits? cs
  else if cs.length = 36 then ofGroups? cs
  else if cs.length = 38 then
    if cs.head? = some '\x7b' ∧ cs.getLast? = some '\x7d' then ofGroups? ((cs.drop 1).take 36)
    else none
  else if cs.length = 45 then
    if cs.take 9 = urn then ofGroups? (cs.drop 9) else none
  else none

/-- The `n`-th nonce of a supply: a random-looking identifier that counts in its last 48 bits. -/
def nonce (n : Nat) : Uuid := ofNat (0x40008000000000000000 + n % 0x1000000000000)

end Uuid

end SessionAuthority

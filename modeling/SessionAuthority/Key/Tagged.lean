import SessionAuthority.Bytes

/-!
# Tagged values, read generously

Key documents are trees of tagged values.  This reader takes any length form and keeps only what is
needed to find out what kind of key a document holds and where its bits are: sequences, identifiers
and strings of bits or octets.  Values of other universal types are still checked.
-/
set_option autoImplicit false

namespace SessionAuthority.Key

inductive Tagged where
  | sequence (items : List Tagged)
  | bits (content : Bytes)
  | octets (content : Bytes)
  | identifier (arcs : List Nat)
  | other
  deriving Inhabited, Repr

namespace Tagged

/-- A number in base 128: the high bit says that another octet follows. -/
def base128? : (sum : Nat) → Bytes → Option (Nat × Bytes)
  | _, [] => none
  | sum, b :: rest =>
      let sum := sum * 128 + (b &&& 0x7F).toNat
      if b < 0x80 then some (sum, rest) else base128? sum rest

/-- The numbers of an identifier after its first octet. -/
def arcs? : (fuel : Nat) → Bytes → Option (List Nat)
  | _, [] => some []
  | 0, _ => none
  | fuel + 1, input => do
      let (n, rest) ← base128? 0 input
      let more ← arcs? fuel rest
      pure (n :: more)

def identifier? : Bytes → Option (List Nat)
  | [] => none
  | b :: rest => do
      let more ← arcs? rest.length rest
      let n := b.toNat
      pure (if n < 40 then 0 :: n :: more else if n < 80 then 1 :: (n - 40) :: more
        else 2 :: (n - 80) :: more)

def tag? : Bytes → Option ((UInt8 × Nat) × Bytes)
  | [] => none
  | b :: rest =>
      if b &&& 0x1F = 0x1F then (base128? 0 rest).map fun r => ((b, r.1), r.2)
      else some ((b, (b &&& 0x1F).toNat), rest)

/-- A length of at most eight octets. -/
def length? : Bytes → Option (Nat × Bytes)
  | [] => none
  | b :: rest =>
      if b < 0x80 then some (b.toNat, rest)
      else
        let count := (b &&& 0x7F).toNat
        if count > 8 ∨ rest.length < count then none
        else some (Bytes.toNat (rest.take count), rest.drop count)

def isPrintable (b : UInt8) : Bool :=
  let c := Char.ofNat b.toNat
  c.isAlphanum || "'()+,-./:=? ".toList.contains c

def twoDigits? : Bytes → Option Nat
  | [a, b] =>
      if 0x30 ≤ a ∧ a ≤ 0x39 ∧ 0x30 ≤ b ∧ b ≤ 0x39 then
        some ((a.toNat - 48) * 10 + (b.toNat - 48))
      else none
  | _ => none

def monthDays (year month : Nat) : Nat :=
  if month = 2 then
    if year % 4 = 0 ∧ (year % 100 ≠ 0 ∨ year % 400 = 0) then 29 else 28
  else if month = 4 ∨ month = 6 ∨ month = 9 ∨ month = 11 then 30
  else 31

/-- Whether ten digits write a month, day, hour, minute and second of a year. -/
def isMoment (year : Nat) (digits : Bytes) : Bool :=
  let field n := twoDigits? ((digits.drop (2 * n)).take 2)
  match field 0, field 1, field 2, field 3, field 4 with
  | some month, some day, some hour, some minute, some second =>
      1 ≤ month && month ≤ 12 && 1 ≤ day && day ≤ monthDays year month && hour < 24 &&
        minute < 60 && second < 60
  | _, _, _, _, _ => false

def isShortMoment (content : Bytes) : Bool :=
  match twoDigits? (content.take 2) with
  | some y =>
      content.length = 13 && content.getLast? == some 0x5A &&
        isMoment (if y ≥ 50 then 1900 + y else 2000 + y) (content.drop 2)
  | none => false

def isLongMoment (content : Bytes) : Bool :=
  match twoDigits? (content.take 2), twoDigits? ((content.drop 2).take 2) with
  | some c, some y =>
      content.length ≥ 15 && content.getLast? == some 0x5A &&
        isMoment (c * 100 + y) ((content.drop 4).take 10) &&
        (match (content.drop 14).dropLast with
          | [] => true
          | point :: places => point == 0x2E && places.all fun b => 0x30 ≤ b && b ≤ 0x39)
  | _, _ => false

/-- A value of a universal type that has no items. -/
def plain? (number : Nat) (content : Bytes) : Option Tagged :=
  match number with
  | 1 => if content.length = 1 then some other else none
  | 3 =>
      match content with
      | [] => some (bits [])
      | unused :: rest => if 8 * rest.length < unused.toNat then none else some (bits rest)
  | 4 => some (octets content)
  | 6 => (identifier? content).map identifier
  | 12 => content.toString?.map fun _ => other
  | 19 => if content.all isPrintable then some other else none
  | 20 => content.toString?.map fun _ => other
  | 22 => if content.all (· < 0x80) then some other else none
  | 23 => if isShortMoment content then some other else none
  | 24 => if isLongMoment content then some other else none
  | _ => some other

/-- The values of a run of octets, after those in `done` in reverse order; there must be one. -/
def read? : (fuel : Nat) → (done : List Tagged) → Bytes → Option (List Tagged)
  | _, done, [] => if done.isEmpty then none else some done.reverse
  | 0, _, _ => none
  | fuel + 1, done, input => do
      let ((first, number), input) ← tag? input
      let (length, input) ← length? input
      guard (length ≤ input.length)
      let content := input.take length
      let value ←
        if first ≥ 0x40 then some other
        else if number = 16 then (read? fuel [] content).map sequence
        else if number = 17 then (read? fuel [] content).map fun _ => other
        else plain? number content
      read? fuel (value :: done) (input.drop length)

def parse? (input : Bytes) : Option (List Tagged) := read? (2 * input.length + 2) [] input

mutual

/-- The first string of bits or octets, in order of writing. -/
def firstString? : Tagged → Option Bytes
  | sequence items => firstStringIn? items
  | bits content => some content
  | octets content => some content
  | _ => none

def firstStringIn? : List Tagged → Option Bytes
  | [] => none
  | v :: rest =>
      match firstString? v with
      | some content => some content
      | none => firstStringIn? rest

end

mutual

/-- The first identifier that `known` has a meaning for. -/
def firstKnown? {α : Type} (known : List Nat → Option α) : Tagged → Option α
  | sequence items => firstKnownIn? known items
  | identifier arcs => known arcs
  | _ => none

def firstKnownIn? {α : Type} (known : List Nat → Option α) : List Tagged → Option α
  | [] => none
  | v :: rest =>
      match firstKnown? known v with
      | some meaning => some meaning
      | none => firstKnownIn? known rest

end

end Tagged

end SessionAuthority.Key

import SessionAuthority.Algorithm
import SessionAuthority.Json.Record
import SessionAuthority.Json.Render

/-!
# Token headers

The header of a token names its algorithm.  It may carry nine more fields, whose values are held to
their types but otherwise ignored; members of other names are passed over.  It may also be written
as a list of all ten fields in order.
-/
set_option autoImplicit false

namespace SessionAuthority.Codec.Header

open SessionAuthority.Json

/-- The types of header fields. -/
inductive Slot where
  | text
  | texts
  | key
  | algorithm
  deriving DecidableEq, Repr

def slots : List (String × Slot) :=
  [("typ", .text), ("alg", .algorithm), ("cty", .text), ("jku", .text), ("jwk", .key),
    ("kid", .text), ("x5u", .text), ("x5c", .texts), ("x5t", .text), ("x5t#S256", .text)]

/-- Whether every one of these names stands at most once and, if it does, for a text or nothing. -/
def optionalTexts (members : List (String × Json)) (names : List String) : Bool :=
  names.all fun name =>
    match members.filter (·.1 == name) with
    | [] => true
    | [(_, .null)] => true
    | [(_, .str _)] => true
    | _ => false

/-- Whether the name stands exactly once, for a text that is allowed. -/
def oneText (members : List (String × Json)) (name : String) (allowed : String → Bool) : Bool :=
  match members.filter (·.1 == name) with
  | [(_, .str s)] => allowed s
  | _ => false

/-- Names of the operations that a key may be for are free texts. -/
def operations (members : List (String × Json)) : Bool :=
  match members.filter (·.1 == "key_ops") with
  | [] => true
  | [(_, .null)] => true
  | [(_, .array items)] => items.all fun v => (str? v).isSome
  | _ => false

def keyAlgorithms : List String :=
  Algorithm.all.map Algorithm.name ++ ["RSA1_5", "RSA-OAEP", "RSA-OAEP-256"]

def keyAlgorithm (members : List (String × Json)) : Bool :=
  match members.filter (·.1 == "alg") with
  | [] => true
  | [(_, .null)] => true
  | [(_, .str s)] => keyAlgorithms.contains s
  | _ => false

def certificates (members : List (String × Json)) : Bool :=
  match members.filter (·.1 == "x5c") with
  | [] => true
  | [(_, .null)] => true
  | [(_, .array items)] => items.all fun v => (str? v).isSome
  | _ => false

/-- Whether the members are those of one of the four kinds of key. -/
def isKeyKind (members : List (String × Json)) : Bool :=
  let curves := ["P-256", "P-384", "P-521", "Ed25519"]
  let any := fun (_ : String) => true
  (oneText members "kty" (· == "EC") && oneText members "crv" curves.contains &&
      oneText members "x" any && oneText members "y" any) ||
    (oneText members "kty" (· == "RSA") && oneText members "n" any && oneText members "e" any) ||
    (oneText members "kty" (· == "oct") && oneText members "k" any) ||
    (oneText members "kty" (· == "OKP") && oneText members "crv" curves.contains &&
      oneText members "x" any)

def isKey : Json → Bool
  | .object members =>
      isKeyKind members && operations members && keyAlgorithm members && certificates members &&
        optionalTexts members ["use", "kid", "x5u", "x5t", "x5t#S256"]
  | _ => false

/-- Whether a value fits a slot; an algorithm has to be there, all else may be nothing. -/
def Slot.fits : Slot → Json → Bool
  | .algorithm, _ => false
  | _, .null => true
  | .text, .str _ => true
  | .texts, .array items => items.all fun v => (str? v).isSome
  | .key, v => isKey v
  | _, _ => false

/-- The algorithm that a value names: its name, or an object whose one member has that name and
nothing for a value. -/
def algorithmOf? : Json → Option Algorithm
  | .str s => Algorithm.ofName? s
  | .object [(s, .null)] => Algorithm.ofName? s
  | _ => none

/-- One field's value; `none` if it does not fit, else the algorithm it names, if it is that one. -/
def readSlot? (slot : Slot) (input : Bytes) : Option (Option Algorithm × Bytes) :=
  match readValue (fuelFor input) (nesting - 1) input with
  | .error _ => none
  | .ok (v, rest) =>
      match slot with
      | .algorithm => (algorithmOf? v).map fun a => (some a, rest)
      | _ => if slot.fits v then some (none, rest) else none

/-- The members of a header from behind its opening brace or the last member read. -/
def readMembers? : (fuel : Nat) → (seen : List String) → (found : Option Algorithm) →
    (first : Bool) → Bytes → Option (Option Algorithm × Bytes)
  | 0, _, _, _, _ => none
  | fuel + 1, seen, found, first, input =>
      let member (input : Bytes) : Option (Option Algorithm × Bytes) :=
        match readString input with
        | .error _ => none
        | .ok (name, rest) =>
            if seen.contains name then none
            else
              match readColon rest with
              | .error _ => none
              | .ok (_, rest) =>
                  match slots.lookup name with
                  | some slot =>
                      match readSlot? slot rest with
                      | none => none
                      | some (a, rest) => readMembers? fuel (name :: seen) (a <|> found) false rest
                  | none =>
                      match skipValue rest with
                      | .error _ => none
                      | .ok (_, rest) => readMembers? fuel seen found false rest
      match skipBlank input with
      | [] => none
      | b :: rest =>
          if b = 0x7D then some (found, rest)
          else if first then (if b = 0x22 then member rest else none)
          else if b = 0x2C then
            match skipBlank rest with
            | b :: rest => if b = 0x22 then member rest else none
            | [] => none
          else none

def readItems? : (slots : List (String × Slot)) → (found : Option Algorithm) → (first : Bool) →
    Bytes → Option (Option Algorithm × Bytes)
  | [], found, _, input =>
      match readListEnd input with
      | .ok (_, rest) => some (found, rest)
      | .error _ => none
  | (_, slot) :: more, found, first, input =>
      match readNext first input with
      | .ok (true, rest) =>
          match readSlot? slot rest with
          | some (a, rest) => readItems? more (a <|> found) false rest
          | none => none
      | _ => none

def parse? (input : Bytes) : Option Algorithm :=
  let fields :=
    match skipBlank input with
    | b :: rest =>
        if b = 0x7B then readMembers? (fuelFor input) [] none true rest
        else if b = 0x5B then readItems? slots none true rest
        else none
    | [] => none
  match fields with
  | some (some a, rest) =>
      match readEnd rest with
      | .ok _ => some a
      | .error _ => none
  | _ => none

def render (a : Algorithm) : Bytes :=
  Json.render (.object [("typ", .str "JWT"), ("alg", .str a.name)])

end SessionAuthority.Codec.Header

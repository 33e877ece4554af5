import SessionAuthority.Json.Scan

/-!
# Reading JSON values

`readValue` reads one value with everything in it; `parse` a whole text.  Members stay in the order
of writing, repeated names and all.  At most 127 containers may be open at once.

The readers of items and members gather what they have read, so that a long list needs no deep
recursion.  The fuel that bounds them is three times the length of the input (`fuelFor`): at most
three calls in a row look at one octet before one of them reads it.
-/
set_option autoImplicit false

namespace SessionAuthority.Json

def nesting : Nat := 127

/-- From the colon behind a name to the value. -/
def readColon (input : Bytes) : Reading Unit :=
  match skipBlank input with
  | [] => faultPeek .endInObject []
  | b :: rest => if b = 0x3A then .ok ((), rest) else faultPeek .expectedColon (b :: rest)

mutual

/-- One value; `depth` more containers may be opened. -/
def readValue : (fuel depth : Nat) → Bytes → Reading Json
  | 0, _, input => faultPeek .endInValue input
  | fuel + 1, depth, input =>
      match skipBlank input with
      | [] => faultPeek .endInValue []
      | b :: rest =>
          if b = 0x6E then (readWord [0x75, 0x6C, 0x6C] rest).map fun r => (.null, r.2)
          else if b = 0x74 then (readWord [0x72, 0x75, 0x65] rest).map fun r => (.bool true, r.2)
          else if b = 0x66 then
            (readWord [0x61, 0x6C, 0x73, 0x65] rest).map fun r => (.bool false, r.2)
          else if b = 0x2D then readNumber false rest
          else if isDigit b then readNumber true (b :: rest)
          else if b = 0x22 then (readString rest).map fun r => (.str r.1, r.2)
          else if b = 0x5B then
            match depth with
            | 0 => faultPeek .recursionLimit (b :: rest)
            | depth + 1 => readItems fuel depth [] true rest
          else if b = 0x7B then
            match depth with
            | 0 => faultPeek .recursionLimit (b :: rest)
            | depth + 1 => readMembers fuel depth [] true rest
          else faultPeek .expectedValue (b :: rest)
termination_by structural fuel => fuel

/-- The items of a list after those in `done`, which are in reverse order. -/
def readItems : (fuel depth : Nat) → (done : List Json) → (first : Bool) → Bytes → Reading Json
  | 0, _, _, _, input => faultPeek .endInList input
  | fuel + 1, depth, done, first, input =>
      match skipBlank input with
      | [] => faultPeek .endInList []
      | b :: rest =>
          if b = 0x5D then .ok (.array done.reverse, rest)
          else if first then
            match readValue fuel depth (b :: rest) with
            | .error f => .error f
            | .ok (v, rest) => readItems fuel depth (v :: done) false rest
          else if b = 0x2C then
            match skipBlank rest with
            | [] => faultPeek .endInValue []
            | b :: rest =>
                if b = 0x5D then faultPeek .trailingComma (b :: rest)
                else
                  match readValue fuel depth (b :: rest) with
                  | .error f => .error f
                  | .ok (v, rest) => readItems fuel depth (v :: done) false rest
          else faultPeek .expectedListCommaOrEnd (b :: rest)
termination_by structural fuel => fuel

def readMembers : (fuel depth : Nat) → (done : List (String × Json)) → (first : Bool) → Bytes →
    Reading Json
  | 0, _, _, _, input => faultPeek .endInObject input
  | fuel + 1, depth, done, first, input =>
      match skipBlank input with
      | [] => faultPeek .endInObject []
      | b :: rest =>
          if b = 0x7D then .ok (.object done.reverse, rest)
          else if first then
            if b = 0x22 then
              match readMember fuel depth rest with
              | .error f => .error f
              | .ok (m, rest) => readMembers fuel depth (m :: done) false rest
            else faultPeek .keyMustBeString (b :: rest)
          else if b = 0x2C then
            match skipBlank rest with
            | [] => faultPeek .endInValue []
            | b :: rest =>
                if b = 0x22 then
                  match readMember fuel depth rest with
                  | .error f => .error f
                  | .ok (m, rest) => readMembers fuel depth (m :: done) false rest
                else if b = 0x7D then faultPeek .trailingComma (b :: rest)
                else faultPeek .keyMustBeString (b :: rest)
          else faultPeek .expectedObjectCommaOrEnd (b :: rest)
termination_by structural fuel => fuel

/-- A member, from behind the opening quote of its name. -/
def readMember : (fuel depth : Nat) → Bytes → Reading (String × Json)
  | 0, _, input => faultPeek .endInObject input
  | fuel + 1, depth, input =>
      match readString input with
      | .error f => .error f
      | .ok (name, rest) =>
          match readColon rest with
          | .error f => .error f
          | .ok (_, rest) => (readValue fuel depth rest).map fun r => ((name, r.1), r.2)
termination_by structural fuel => fuel

end

def fuelFor (input : Bytes) : Nat := 3 * input.length + 3

def readEnd (input : Bytes) : Except Fault Unit :=
  match skipBlank input with
  | [] => .ok ()
  | rest => faultPeek .trailingCharacters rest

def parse (input : Bytes) : Except Fault Json :=
  match readValue (fuelFor input) nesting input with
  | .error f => .error f
  | .ok (v, rest) => (readEnd rest).map fun _ => v

end SessionAuthority.Json

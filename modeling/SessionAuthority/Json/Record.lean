import SessionAuthority.Json.Skip

/-!
# Records in JSON

A record has a fixed list of named fields, each of them a string.  It is written as an object, in
any order and among members of other names, or as a list of exactly the fields' values.  A member
of an unknown name is passed over; a field may not be repeated and none may be missing.

A refusal carries the path to the value it arose in: the member's own name, the item's index, or
nothing when it concerns the record as a whole.
-/
set_option autoImplicit false

namespace SessionAuthority.Json

/-- What a record is called in messages, and the names of its fields. -/
structure Shape where
  title : String
  fields : List String
  deriving DecidableEq, Repr

/-- Where inside a record a fault arose. -/
inductive Place where
  | whole
  | member (name : String)
  | item (index : Nat)
  deriving DecidableEq, Repr

structure RecordFault where
  place : Place
  fault : Fault
  deriving DecidableEq, Repr

/-- A result of reading a record out of a prefix of the input. -/
abbrev RecordReading (α : Type) := Except RecordFault (α × Bytes)

def Place.of {α : Type} (place : Place) : Except Fault α → Except RecordFault α
  | .ok a => .ok a
  | .error f => .error ⟨place, f⟩

/-- A fault where a record or a string was expected and the next octet starts neither. -/
def refuseType {α : Type} (expected : String) (b : UInt8) (rest : Bytes) : Except Fault α :=
  let refuse (found : Found) (rest : Bytes) := faultAt (.invalidType found expected) rest
  let refuseNumber (number : Reading Json) :=
    match number with
    | .error f => .error f
    | .ok (.int i, rest) => refuse (.int i) rest
    | .ok (.float bits, rest) => refuse (.float bits) rest
    | .ok (_, rest) => refuse .null rest
  if b = 0x6E then
    (readWord [0x75, 0x6C, 0x6C] rest).bind fun r => refuse .null r.2
  else if b = 0x74 then (readWord [0x72, 0x75, 0x65] rest).bind fun r => refuse (.bool true) r.2
  else if b = 0x66 then
    (readWord [0x61, 0x6C, 0x73, 0x65] rest).bind fun r => refuse (.bool false) r.2
  else if b = 0x2D then refuseNumber (readNumber false rest)
  else if isDigit b then refuseNumber (readNumber true (b :: rest))
  else if b = 0x22 then (readString rest).bind fun r => refuse (.str r.1) r.2
  else if b = 0x5B then refuse .array (b :: rest)
  else if b = 0x7B then refuse .object (b :: rest)
  else faultPeek .expectedValue (b :: rest)

def readStringValue (input : Bytes) : Reading String :=
  match skipBlank input with
  | [] => faultPeek .endInValue []
  | b :: rest =>
      if b = 0x22 then readString rest else refuseType "a string" b rest

/-- The values of the fields read so far. -/
abbrev Filled := List (String × String)

def Filled.get? (filled : Filled) (name : String) : Option String := List.lookup name filled

/-- The values in field order; the first field without one is missing. -/
def Shape.complete (filled : Filled) : List String → Except String (List String)
  | [] => .ok []
  | name :: rest =>
      match filled.get? name with
      | none => .error name
      | some v => (Shape.complete filled rest).map (v :: ·)

/-- The value of the member `name`, from its colon on. -/
def Shape.readMember (shape : Shape) (name : String) (filled : Filled) (input : Bytes) :
    RecordReading Filled :=
  if name ∈ shape.fields then
    if (filled.get? name).isSome then Place.whole.of (faultAt (.duplicateField name) input)
    else
      (Place.member name).of <|
        match readColon input with
        | .error f => .error f
        | .ok (_, rest) => (readStringValue rest).map fun r => ((name, r.1) :: filled, r.2)
  else
    (Place.member name).of <|
      match readColon input with
      | .error f => .error f
      | .ok (_, rest) => (skipValue rest).map fun r => (filled, r.2)

/-- The members of a record from behind its opening brace or the last member read. -/
def Shape.readMembers (shape : Shape) : (fuel : Nat) → Filled → (first : Bool) → Bytes →
    RecordReading Filled
  | 0, _, _, input => Place.whole.of (faultPeek .endInObject input)
  | fuel + 1, filled, first, input =>
      let member (input : Bytes) :=
        match Place.whole.of (readString input) with
        | .error f => .error f
        | .ok (name, rest) =>
            match shape.readMember name filled rest with
            | .error f => .error f
            | .ok (filled, rest) => shape.readMembers fuel filled false rest
      match skipBlank input with
      | [] => Place.whole.of (faultPeek .endInObject [])
      | b :: rest =>
          if b = 0x7D then .ok (filled, rest)
          else if first then
            if b = 0x22 then member rest
            else Place.whole.of (faultPeek .keyMustBeString (b :: rest))
          else if b = 0x2C then
            match skipBlank rest with
            | [] => Place.whole.of (faultPeek .endInValue [])
            | b :: rest =>
                if b = 0x22 then member rest
                else if b = 0x7D then Place.whole.of (faultPeek .trailingComma (b :: rest))
                else Place.whole.of (faultPeek .keyMustBeString (b :: rest))
          else Place.whole.of (faultPeek .expectedObjectCommaOrEnd (b :: rest))

/-- Whether another item follows, and the input from it on. -/
def readNext (first : Bool) (input : Bytes) : Reading Bool :=
  match skipBlank input with
  | [] => faultPeek .endInList []
  | b :: rest =>
      if b = 0x5D then .ok (false, b :: rest)
      else if first then .ok (true, b :: rest)
      else if b = 0x2C then
        match skipBlank rest with
        | [] => faultPeek .endInValue []
        | b :: rest =>
            if b = 0x5D then faultPeek .trailingComma (b :: rest) else .ok (true, b :: rest)
      else faultPeek .expectedListCommaOrEnd (b :: rest)

/-- The closing bracket of a list that holds all it may. -/
def readListEnd (input : Bytes) : Reading Unit :=
  match skipBlank input with
  | [] => faultPeek .endInList []
  | b :: rest =>
      if b = 0x5D then .ok ((), rest)
      else if b = 0x2C then
        match skipBlank rest with
        | [] => faultPeek .trailingCharacters []
        | c :: rest =>
            if c = 0x5D then faultPeek .trailingComma (c :: rest)
            else faultPeek .trailingCharacters (c :: rest)
      else faultPeek .trailingCharacters (b :: rest)

/-- The words for what was expected in place of a record written as a list of another length. -/
def Shape.expectation (shape : Shape) : String :=
  let count := shape.fields.length
  "struct " ++ shape.title ++ " with " ++ toString count ++
    (if count = 1 then " element" else " elements")

/-- The items of a record written as a list; `index` of them are read. -/
def Shape.readItems (shape : Shape) : (fields : List String) → (index : Nat) → Bytes →
    RecordReading (List String)
  | [], _, input => .ok ([], input)
  | _ :: fields, index, input =>
      match Place.whole.of (readNext (index == 0) input) with
      | .error f => .error f
      | .ok (false, rest) =>
          Place.whole.of (faultAt (.invalidLength index shape.expectation) rest)
      | .ok (true, rest) =>
          match (Place.item index).of (readStringValue rest) with
          | .error f => .error f
          | .ok (v, rest) =>
              (shape.readItems fields (index + 1) rest).map fun r => (v :: r.1, r.2)

def Shape.read (shape : Shape) (input : Bytes) : RecordReading (List String) :=
  match skipBlank input with
  | [] => Place.whole.of (faultPeek .endInValue [])
  | b :: rest =>
      if b = 0x7B then
        match shape.readMembers (fuelFor input) [] true rest with
        | .error f => .error f
        | .ok (filled, rest) =>
            match Shape.complete filled shape.fields with
            | .ok values => .ok (values, rest)
            | .error name => Place.whole.of (faultAt (.missingField name) rest)
      else if b = 0x5B then
        match shape.readItems shape.fields 0 rest with
        | .error f => .error f
        | .ok (values, rest) =>
            (Place.whole.of (readListEnd rest)).map fun r => (values, r.2)
      else Place.whole.of (refuseType ("struct " ++ shape.title) b rest)

def Shape.parse (shape : Shape) (input : Bytes) : Except RecordFault (List String) :=
  match shape.read input with
  | .error f => .error f
  | .ok (values, rest) => (Place.whole.of (readEnd rest)).map fun _ => values

def Place.text : Place → String
  | .whole => ""
  | .member name => name ++ ": "
  | .item index => "[" ++ toString index ++ "]: "

def RecordFault.text (input : Bytes) (f : RecordFault) : String :=
  f.place.text ++ f.fault.text input

/-- The records of a list, each read by `shape`, after those in `done` in reverse order. -/
def Shape.readList (shape : Shape) : (fuel : Nat) → (done : List (List String)) → Bytes →
    RecordReading (List (List String))
  | 0, _, input => Place.whole.of (faultPeek .endInList input)
  | fuel + 1, done, input =>
      match Place.whole.of (readNext done.isEmpty input) with
      | .error f => .error f
      | .ok (false, rest) => .ok (done.reverse, rest.drop 1)
      | .ok (true, rest) =>
          match shape.read rest with
          | .error f => .error f
          | .ok (values, rest) => shape.readList fuel (values :: done) rest

def Shape.parseList (shape : Shape) (input : Bytes) : Except RecordFault (List (List String)) :=
  match skipBlank input with
  | [] => Place.whole.of (faultPeek .endInValue [])
  | b :: rest =>
      if b = 0x5B then
        match shape.readList (fuelFor input) [] rest with
        | .error f => .error f
        | .ok (records, rest) => (Place.whole.of (readEnd rest)).map fun _ => records
      else Place.whole.of (refuseType "a sequence" b rest)

end SessionAuthority.Json

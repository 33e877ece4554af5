import SessionAuthority.Json.Read

/-!
# Passing over JSON values

A member that nobody asked for is passed over rather than read.  Its text is held to the grammar,
but its strings may hold any octets and any escaped units, its numbers have no range, and it may be
nested to any depth: the open containers are a list, not a recursion.
-/
set_option autoImplicit false

namespace SessionAuthority.Json

/-- A container that is open while values are passed over. -/
inductive Bracket where
  | list
  | object
  deriving DecidableEq, Repr

def skipString : Bytes → Reading Unit
  | [] => faultAt .endInString []
  | b :: rest =>
      if b = 0x22 then .ok ((), rest)
      else if b = 0x5C then
        match rest with
        | [] => faultAt .endInString []
        | e :: rest =>
            if e = 0x75 then
              match rest with
              | h₁ :: h₂ :: h₃ :: h₄ :: rest =>
                  match hex4? h₁ h₂ h₃ h₄ with
                  | none => faultAt .invalidEscape rest
                  | some _ => skipString rest
              | _ => faultAt .endInString []
            else if (escaped? e).isSome then skipString rest
            else faultAt .invalidEscape rest
      else if b < 0x20 then faultAt .controlCharacter (b :: rest)
      else skipString rest

def skipExponent (input : Bytes) : Reading Unit :=
  let digits :=
    match input with
    | 0x2B :: rest => rest
    | 0x2D :: rest => rest
    | _ => input
  match digits with
  | [] => faultAt .invalidNumber []
  | b :: rest => if isDigit b then .ok ((), rest.dropWhile isDigit) else faultAt .invalidNumber rest

def skipFraction (input : Bytes) : Reading Unit :=
  match input with
  | [] => faultPeek .invalidNumber []
  | b :: rest =>
      if isDigit b then
        let rest := rest.dropWhile isDigit
        match exponentMark? rest with
        | some rest => skipExponent rest
        | none => .ok ((), rest)
      else faultPeek .invalidNumber (b :: rest)

def skipNumberTail (input : Bytes) : Reading Unit :=
  match input with
  | 0x2E :: rest => skipFraction rest
  | _ =>
      match exponentMark? input with
      | some rest => skipExponent rest
      | none => .ok ((), input)

def skipNumber : Bytes → Reading Unit
  | [] => faultAt .invalidNumber []
  | b :: rest =>
      if b = 0x30 then
        match rest with
        | c :: _ => if isDigit c then faultPeek .invalidNumber rest else skipNumberTail rest
        | [] => skipNumberTail []
      else if isDigit b then skipNumberTail (rest.dropWhile isDigit)
      else faultAt .invalidNumber rest

/-- A scalar whose first octet is `b`; nothing if no scalar starts so. -/
def skipScalar? (b : UInt8) (rest : Bytes) : Option (Reading Unit) :=
  if b = 0x6E then some (readWord [0x75, 0x6C, 0x6C] rest)
  else if b = 0x74 then some (readWord [0x72, 0x75, 0x65] rest)
  else if b = 0x66 then some (readWord [0x61, 0x6C, 0x73, 0x65] rest)
  else if b = 0x2D then some (skipNumber rest)
  else if isDigit b then some (skipNumber (b :: rest))
  else if b = 0x22 then some (skipString rest)
  else none

/-- What a passage is about to look for. -/
inductive Stage where
  | value
  | opened
  | closed
  deriving DecidableEq, Repr

def skipName (input : Bytes) : Reading Unit :=
  match skipBlank input with
  | [] => faultPeek .endInObject []
  | b :: rest =>
      if b = 0x22 then
        match skipString rest with
        | .error f => .error f
        | .ok (_, rest) => readColon rest
      else faultPeek .keyMustBeString (b :: rest)

/-- Pass over what is left of a value inside these open containers, innermost first. -/
def skipFrom : (fuel : Nat) → Stage → List Bracket → Bytes → Reading Unit
  | 0, _, _, input => faultPeek .endInValue input
  | fuel + 1, .value, open_, input =>
      match skipBlank input with
      | [] => faultPeek .endInValue []
      | b :: rest =>
          if b = 0x5B then skipFrom fuel .opened (.list :: open_) rest
          else if b = 0x7B then skipFrom fuel .opened (.object :: open_) rest
          else
            match skipScalar? b rest with
            | none => faultPeek .expectedValue (b :: rest)
            | some (.error f) => .error f
            | some (.ok (_, rest)) => skipFrom fuel .closed open_ rest
  | _ + 1, .opened, [], input => .ok ((), input)
  | fuel + 1, .opened, .list :: outer, input =>
      match skipBlank input with
      | [] => faultPeek .endInList []
      | b :: rest =>
          if b = 0x5D then skipFrom fuel .closed outer rest
          else skipFrom fuel .value (.list :: outer) (b :: rest)
  | fuel + 1, .opened, .object :: outer, input =>
      match skipBlank input with
      | [] => faultPeek .endInObject []
      | b :: rest =>
          if b = 0x7D then skipFrom fuel .closed outer rest
          else
            match skipName (b :: rest) with
            | .error f => .error f
            | .ok (_, rest) => skipFrom fuel .value (.object :: outer) rest
  | _ + 1, .closed, [], input => .ok ((), input)
  | fuel + 1, .closed, .list :: outer, input =>
      match skipBlank input with
      | [] => faultPeek .endInList []
      | b :: rest =>
          if b = 0x2C then skipFrom fuel .value (.list :: outer) rest
          else if b = 0x5D then skipFrom fuel .closed outer rest
          else faultPeek .expectedListCommaOrEnd (b :: rest)
  | fuel + 1, .closed, .object :: outer, input =>
      match skipBlank input with
      | [] => faultPeek .endInObject []
      | b :: rest =>
          if b = 0x2C then
            match skipName rest with
            | .error f => .error f
            | .ok (_, rest) => skipFrom fuel .value (.object :: outer) rest
          else if b = 0x7D then skipFrom fuel .closed outer rest
          else faultPeek .expectedObjectCommaOrEnd (b :: rest)

def skipValue (input : Bytes) : Reading Unit := skipFrom (fuelFor input) .value [] input

end SessionAuthority.Json

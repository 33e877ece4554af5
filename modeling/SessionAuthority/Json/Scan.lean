import SessionAuthority.Hex
import SessionAuthority.Json.Fault
import SessionAuthority.Json.Value

/-!
# Strings, numbers and words of JSON

Readers of a prefix of the input.  A string is gathered octet by octet and only then checked to be
UTF-8, so what is inside it is never decoded on the way.  A number is an exact integer when it is
written as one and fits 64 bits (with or without sign); everything else is a double, `-0` too.
-/
set_option autoImplicit false

namespace SessionAuthority.Json

def isBlank (b : UInt8) : Bool := b == 0x20 || b == 0x0A || b == 0x0D || b == 0x09

def skipBlank (input : Bytes) : Bytes := input.dropWhile isBlank

def isDigit (b : UInt8) : Bool := 0x30 ≤ b && b ≤ 0x39

def digitValue (b : UInt8) : Nat := b.toNat - 48

/-! ## Strings -/

/-- The octet that a letter after a backslash stands for. -/
def escaped? (b : UInt8) : Option UInt8 :=
  if b = 0x22 ∨ b = 0x5C ∨ b = 0x2F then some b
  else if b = 0x62 then some 0x08
  else if b = 0x66 then some 0x0C
  else if b = 0x6E then some 0x0A
  else if b = 0x72 then some 0x0D
  else if b = 0x74 then some 0x09
  else none

def hex4? (a b c d : UInt8) : Option Nat :=
  Hex.toNat? ([a, b, c, d].map fun x => Char.ofNat x.toNat)

def isLeading (n : Nat) : Bool := 0xD800 ≤ n && n ≤ 0xDBFF

def isTrailing (n : Nat) : Bool := 0xDC00 ≤ n && n ≤ 0xDFFF

/-- The UTF-8 octets of a code point, in reverse order. -/
def codePointReversed (n : Nat) : Bytes := (String.utf8EncodeChar (Char.ofNat n)).reverse

/-- The octets of a string, from behind its opening quote to its closing one; those already
gathered stand in `done` in reverse order. -/
def scanString (done : Bytes) : Bytes → Reading Bytes
  | [] => faultAt .endInString []
  | b :: rest =>
      if b = 0x22 then .ok (done.reverse, rest)
      else if b = 0x5C then
        match rest with
        | [] => faultAt .endInString []
        | e :: rest =>
            if e = 0x75 then
              match rest with
              | h₁ :: h₂ :: h₃ :: h₄ :: rest =>
                  match hex4? h₁ h₂ h₃ h₄ with
                  | none => faultAt .invalidEscape rest
                  | some n =>
                      if isTrailing n then faultAt .loneSurrogate rest
                      else if isLeading n then
                        match rest with
                        | [] => faultAt .endInString []
                        | b :: rest =>
                            if b ≠ 0x5C then faultAt .endOfHexEscape rest
                            else
                              match rest with
                              | [] => faultAt .endInString []
                              | b :: rest =>
                                  if b ≠ 0x75 then faultAt .endOfHexEscape rest
                                  else
                                    match rest with
                                    | h₁ :: h₂ :: h₃ :: h₄ :: rest =>
                                        match hex4? h₁ h₂ h₃ h₄ with
                                        | none => faultAt .invalidEscape rest
                                        | some m =>
                                            if isTrailing m then
                                              let point :=
                                                (n - 0xD800) * 1024 + (m - 0xDC00) + 0x10000
                                              scanString (codePointReversed point ++ done) rest
                                            else faultAt .loneSurrogate rest
                                    | _ => faultAt .endInString []
                      else scanString (codePointReversed n ++ done) rest
              | _ => faultAt .endInString []
            else
              match escaped? e with
              | some x => scanString (x :: done) rest
              | none => faultAt .invalidEscape rest
      else if b < 0x20 then faultAt .controlCharacter rest
      else scanString (b :: done) rest

def readString (input : Bytes) : Reading String :=
  match scanString [] input with
  | .error f => .error f
  | .ok (octets, rest) =>
      match octets.toString? with
      | some s => .ok (s, rest)
      | none => faultAt .invalidCodePoint rest

/-! ## Words -/

def readWord : (letters : Bytes) → Bytes → Reading Unit
  | [], rest => .ok ((), rest)
  | _ :: _, [] => faultAt .endInValue []
  | w :: letters, b :: rest => if b = w then readWord letters rest else faultAt .expectedIdent rest

/-! ## Numbers -/

def wordMax : Nat := 0xFFFFFFFFFFFFFFFF

/-- Greatest exponent that is told apart from those beyond it. -/
def exponentMax : Nat := 0x7FFFFFFF

/-- A double made of its parts, or a number out of range at `rest`. -/
def finish (positive : Bool) (significand : Nat) (exponent : Int) (rest : Bytes) :
    Reading Json :=
  match Double.ofParts? positive significand exponent with
  | some bits => .ok (.float bits, rest)
  | none => faultAt .numberOutOfRange rest

/-- The digits of an exponent, as long as they keep it in range. -/
def readExponentDigits (positive positiveExponent : Bool) (significand : Nat) (start : Int)
    (exponent : Nat) : Bytes → Reading Json
  | [] => close exponent []
  | b :: rest =>
      if isDigit b then
        let next := exponent * 10 + digitValue b
        if next > exponentMax then
          if significand ≠ 0 ∧ positiveExponent then faultAt .numberOutOfRange rest
          else .ok (.float (Double.zero positive), rest.dropWhile isDigit)
        else readExponentDigits positive positiveExponent significand start next rest
      else close exponent (b :: rest)
where
  /-- The number, its exponent complete. -/
  close (exponent : Nat) (rest : Bytes) : Reading Json :=
    finish positive significand (if positiveExponent then start + exponent else start - exponent)
      rest

def readExponent (positive : Bool) (significand : Nat) (start : Int) (input : Bytes) :
    Reading Json :=
  let (positiveExponent, digits) :=
    match input with
    | 0x2B :: rest => (true, rest)
    | 0x2D :: rest => (false, rest)
    | _ => (true, input)
  match digits with
  | [] => faultAt .endInValue []
  | b :: rest =>
      if isDigit b then
        readExponentDigits positive positiveExponent significand start (digitValue b) rest
      else faultAt .invalidNumber rest

def exponentMark? : Bytes → Option Bytes
  | b :: rest => if b = 0x65 ∨ b = 0x45 then some rest else none
  | [] => none

/-- What follows the last digit of a significand that will be a double. -/
def closeDouble (positive : Bool) (significand : Nat) (exponent : Int) (input : Bytes) :
    Reading Json :=
  match exponentMark? input with
  | some rest => readExponent positive significand exponent rest
  | none => finish positive significand exponent input

/-- Digits behind the point, as long as the significand fits 64 bits; later ones are dropped. -/
def readFraction (positive : Bool) (start : Int) (significand count : Nat) :
    Bytes → Reading Json
  | [] => close significand count []
  | b :: rest =>
      if isDigit b then
        let next := significand * 10 + digitValue b
        if next > wordMax then
          closeDouble positive significand (start - count) (rest.dropWhile isDigit)
        else readFraction positive start next (count + 1) rest
      else close significand count (b :: rest)
where
  /-- The end of the digits; there must have been one. -/
  close (significand count : Nat) (input : Bytes) : Reading Json :=
    if count = 0 then
      if input.isEmpty then faultPeek .endInValue input else faultPeek .invalidNumber input
    else closeDouble positive significand (start - count) input

/-- Digits of an integer part too long for 64 bits: each one dropped is a power of ten. -/
def readLongInteger (positive : Bool) (significand dropped : Nat) : Bytes → Reading Json
  | [] => closeDouble positive significand dropped []
  | b :: rest =>
      if isDigit b then readLongInteger positive significand (dropped + 1) rest
      else if b = 0x2E then readFraction positive dropped significand 0 rest
      else closeDouble positive significand dropped (b :: rest)

/-- A number whose digits were an integer that fits 64 bits. -/
def closeInteger (positive : Bool) (significand : Nat) (rest : Bytes) : Reading Json :=
  if positive then .ok (.int significand, rest)
  else if significand = 0 ∨ significand > 0x8000000000000000 then finish false significand 0 rest
  else .ok (.int (-(significand : Int)), rest)

/-- Digits of an integer part; a point or an exponent makes it a double. -/
def readInteger (positive : Bool) (significand : Nat) : Bytes → Reading Json
  | [] => closeInteger positive significand []
  | b :: rest =>
      if isDigit b then
        let next := significand * 10 + digitValue b
        if next > wordMax then readLongInteger positive significand 1 rest
        else readInteger positive next rest
      else if b = 0x2E then readFraction positive 0 significand 0 rest
      else if b = 0x65 ∨ b = 0x45 then readExponent positive significand 0 rest
      else closeInteger positive significand (b :: rest)

def readNumber (positive : Bool) : Bytes → Reading Json
  | [] => faultAt .endInValue []
  | b :: rest =>
      if b = 0x30 then
        match rest with
        | c :: _ =>
            if isDigit c then faultPeek .invalidNumber rest else readInteger positive 0 rest
        | [] => readInteger positive 0 rest
      else if isDigit b then readInteger positive (digitValue b) rest
      else faultAt .invalidNumber rest

end SessionAuthority.Json

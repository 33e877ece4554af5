import SessionAuthority.Bytes
import SessionAuthority.Text.Shown
import SessionAuthority.Json.Double

/-!
# Why a JSON text is refused

A fault is a cause and the place where it was noticed.  The place is kept as the octets still
unread; line and column are worked out only when a message is asked for.  A cause is either a
fault of the text itself or a well-formed value of the wrong shape (`Cause.isShape`).
-/
set_option autoImplicit false

namespace SessionAuthority.Json

/-- What was found where something else was expected. -/
inductive Found where
  | null
  | bool (b : Bool)
  | int (i : Int)
  | float (bits : UInt64)
  | str (s : String)
  | array
  | object
  deriving DecidableEq, Repr

inductive Cause where
  | endInList
  | endInObject
  | endInString
  | endInValue
  | expectedColon
  | expectedListCommaOrEnd
  | expectedObjectCommaOrEnd
  | expectedIdent
  | expectedValue
  | invalidEscape
  | invalidNumber
  | numberOutOfRange
  | invalidCodePoint
  | controlCharacter
  | keyMustBeString
  | loneSurrogate
  | trailingComma
  | trailingCharacters
  | endOfHexEscape
  | recursionLimit
  | invalidType (found : Found) (expected : String)
  | missingField (name : String)
  | duplicateField (name : String)
  | invalidLength (count : Nat) (expected : String)
  deriving DecidableEq, Repr

/-- A cause, the octets unread when it was noticed, and whether the next of them counts as read. -/
structure Fault where
  cause : Cause
  rest : Bytes
  peeked : Bool
  deriving DecidableEq, Repr

/-- What a reader of a prefix of the input gives: a result and the octets after it. -/
abbrev Reading (α : Type) := Except Fault (α × Bytes)

/-- A fault noticed after the octets before `rest` were read. -/
def faultAt {α : Type} (cause : Cause) (rest : Bytes) : Except Fault α :=
  .error ⟨cause, rest, false⟩

/-- A fault noticed by looking at the first octet of `rest`. -/
def faultPeek {α : Type} (cause : Cause) (rest : Bytes) : Except Fault α :=
  .error ⟨cause, rest, true⟩

/-- The text is well formed up to here, but not of the shape that was asked for. -/
def Cause.isShape : Cause → Bool
  | .invalidType .. | .missingField _ | .duplicateField _ | .invalidLength .. => true
  | _ => false

def Found.text : Found → String
  | .null => "null"
  | .bool b => "boolean `" ++ (if b then "true" else "false") ++ "`"
  | .int i => "integer `" ++ toString i ++ "`"
  | .float bits => "floating point `" ++ String.ofList (Double.text bits) ++ "`"
  | .str s => "string " ++ Text.quoted s
  | .array => "sequence"
  | .object => "map"

def Cause.text : Cause → String
  | .endInList => "EOF while parsing a list"
  | .endInObject => "EOF while parsing an object"
  | .endInString => "EOF while parsing a string"
  | .endInValue => "EOF while parsing a value"
  | .expectedColon => "expected `:`"
  | .expectedListCommaOrEnd => "expected `,` or `]`"
  | .expectedObjectCommaOrEnd => "expected `,` or `\x7d`"
  | .expectedIdent => "expected ident"
  | .expectedValue => "expected value"
  | .invalidEscape => "invalid escape"
  | .invalidNumber => "invalid number"
  | .numberOutOfRange => "number out of range"
  | .invalidCodePoint => "invalid unicode code point"
  | .controlCharacter => "control character (\\u0000-\\u001F) found while parsing a string"
  | .keyMustBeString => "key must be a string"
  | .loneSurrogate => "lone leading surrogate in hex escape"
  | .trailingComma => "trailing comma"
  | .trailingCharacters => "trailing characters"
  | .endOfHexEscape => "unexpected end of hex escape"
  | .recursionLimit => "recursion limit exceeded"
  | .invalidType found expected => "invalid type: " ++ found.text ++ ", expected " ++ expected
  | .missingField name => "missing field `" ++ name ++ "`"
  | .duplicateField name => "duplicate field `" ++ name ++ "`"
  | .invalidLength count expected =>
      "invalid length " ++ toString count ++ ", expected " ++ expected

/-- Line (from one) and column (octets since the last line feed) after a prefix of the input. -/
def position (before : Bytes) : Nat × Nat :=
  before.foldl (fun place b => if b = 0x0A then (place.1 + 1, 0) else (place.1, place.2 + 1)) (1, 0)

def Fault.consumed (input : Bytes) (f : Fault) : Bytes :=
  let read := input.length - f.rest.length
  input.take (if f.peeked then read + 1 else read)

def Fault.text (input : Bytes) (f : Fault) : String :=
  let (line, column) := position (f.consumed input)
  f.cause.text ++ " at line " ++ toString line ++ " column " ++ toString column

end SessionAuthority.Json

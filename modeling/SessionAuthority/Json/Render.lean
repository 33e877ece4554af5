import SessionAuthority.Json.Value
import SessionAuthority.Json.Double
import SessionAuthority.Hex

/-!
# Writing JSON values

The compact form: no white space, members in the order they stand in.  Inside a string only the
quote, the backslash and the control characters are escaped, five of the latter by a letter.
-/
set_option autoImplicit false

namespace SessionAuthority.Json

/-- An octet of a string, escaped if it cannot stand for itself. -/
def escapeOctet (b : UInt8) : Bytes :=
  if b = 0x22 then [0x5C, 0x22]
  else if b = 0x5C then [0x5C, 0x5C]
  else if b = 0x08 then [0x5C, 0x62]
  else if b = 0x0C then [0x5C, 0x66]
  else if b = 0x0A then [0x5C, 0x6E]
  else if b = 0x0D then [0x5C, 0x72]
  else if b = 0x09 then [0x5C, 0x74]
  else if b < 0x20 then [0x5C, 0x75] ++ Bytes.ofAscii (Hex.ofNat 4 b.toNat)
  else [b]

def renderString (s : String) : Bytes := 0x22 :: (Bytes.ofString s).flatMap escapeOctet ++ [0x22]

def renderInt : Int → Bytes
  | .ofNat n => Bytes.ofAscii (Nat.toDigits 10 n)
  | .negSucc n => 0x2D :: Bytes.ofAscii (Nat.toDigits 10 (n + 1))

mutual

def render : Json → Bytes
  | .null => [0x6E, 0x75, 0x6C, 0x6C]
  | .bool true => [0x74, 0x72, 0x75, 0x65]
  | .bool false => [0x66, 0x61, 0x6C, 0x73, 0x65]
  | .int i => renderInt i
  | .float bits => Bytes.ofAscii (Double.text bits)
  | .str s => renderString s
  | .array [] => [0x5B, 0x5D]
  | .array (v :: rest) => 0x5B :: render v ++ renderItems rest
  | .object [] => [0x7B, 0x7D]
  | .object ((name, v) :: rest) =>
      0x7B :: renderString name ++ 0x3A :: render v ++ renderMembers rest

/-- The items after the first, each behind its comma, and the closing bracket. -/
def renderItems : List Json → Bytes
  | [] => [0x5D]
  | v :: rest => 0x2C :: render v ++ renderItems rest

def renderMembers : List (String × Json) → Bytes
  | [] => [0x7D]
  | (name, v) :: rest => 0x2C :: renderString name ++ 0x3A :: render v ++ renderMembers rest

end

def renderText (v : Json) : String := (Bytes.toString? (render v)).getD ""

end SessionAuthority.Json

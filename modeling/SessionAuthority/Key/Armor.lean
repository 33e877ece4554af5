import SessionAuthority.Base64
import SessionAuthority.Text.Blank

/-!
# Textual keys

A textual key is base 64 between two boundary lines that carry the same label.  Anything may stand
in front of the first boundary and behind the second; only the first block counts.  A blank line
inside the block separates headers from the data, and every header has a colon.
-/
set_option autoImplicit false

namespace SessionAuthority.Key

structure Block where
  label : String
  content : Bytes
  deriving DecidableEq, Repr

/-- The octets before the first occurrence of `mark`, and those after it. -/
def cutAt? (mark : Bytes) : (done : Bytes) → Bytes → Option (Bytes × Bytes)
  | done, [] => if mark.isEmpty then some (done.reverse, []) else none
  | done, b :: rest =>
      if mark.isPrefixOf (b :: rest) then some (done.reverse, (b :: rest).drop mark.length)
      else cutAt? mark (b :: done) rest

def ascii (s : String) : Bytes := Bytes.ofAscii s.toList

def isSpace (b : UInt8) : Bool := b == 0x20 || b == 0x09 || b == 0x0A || b == 0x0D

def splitHeaders (body : Bytes) : Bytes × Bytes :=
  match cutAt? [0x0A, 0x0A] [] body with
  | some parts => parts
  | none =>
      match cutAt? [0x0D, 0x0A, 0x0D, 0x0A] [] body with
      | some parts => parts
      | none => ([], body)

/-- Whether every line has a colon; a last line that is empty does not count. -/
def headersOk (headers : String) : Bool :=
  match (Text.splitChars '\n' headers.toList).reverse with
  | [] => true
  | [] :: lines => lines.all (·.contains ':')
  | lines => lines.all (·.contains ':')

def Block.parse? (input : Bytes) : Option Block := do
  let (_, input) ← cutAt? (ascii "-----BEGIN ") [] input
  let (label, input) ← cutAt? (ascii "-----") [] input
  let (body, input) ← cutAt? (ascii "-----END ") [] (input.dropWhile isSpace)
  let (closing, _) ← cutAt? (ascii "-----") [] input
  let label ← label.toString?
  let closing ← closing.toString?
  guard (label ≠ "" ∧ label = closing)
  let (headers, data) := splitHeaders body
  let data ← data.toString?
  let content ← Base64.decode? Base64.standard (data.toList.filter fun c => !Text.isBlank c)
  let headers ← headers.toString?
  guard (headersOk headers)
  pure ⟨label, content⟩

end SessionAuthority.Key

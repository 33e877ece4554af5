import SessionAuthority.Hex
import SessionAuthority.Text.Blank

/-!
# Network addresses

The textual forms of addresses of 32 bits (four numbers, no leading zeros) and of 128 bits (eight
groups of up to four digits, one run of which may be left out, the last two of which may be written
as an address of 32 bits).
-/
set_option autoImplicit false

namespace SessionAuthority.Address

def isOctet (cs : List Char) : Bool :=
  match cs with
  | ['0'] => true
  | '0' :: _ => false
  | _ =>
      cs.length ≤ 3 &&
        match Text.digits? cs with
        | some n => n ≤ 255
        | none => false

/-- Whether the characters write an address of 32 bits. -/
def isShort (cs : List Char) : Bool :=
  let parts := Text.splitChars '.' cs
  parts.length == 4 && parts.all isOctet

def isGroup (cs : List Char) : Bool :=
  1 ≤ cs.length && cs.length ≤ 4 && cs.all fun c => (Hex.value? c).isSome

/-- How many groups a list of parts stands for; a last part may be a short address. -/
def groups? (shortAllowed : Bool) : List (List Char) → Option Nat
  | [] => some 0
  | [last] =>
      if isGroup last then some 1 else if shortAllowed && isShort last then some 2 else none
  | part :: rest => if isGroup part then (groups? shortAllowed rest).map (· + 1) else none

/-- The parts between colons; none in an empty text. -/
def parts (cs : List Char) : List (List Char) := if cs.isEmpty then [] else Text.splitChars ':' cs

def cutGap? : (before : List Char) → List Char → Option (List Char × List Char)
  | before, ':' :: ':' :: rest => some (before.reverse, rest)
  | before, c :: rest => cutGap? (c :: before) rest
  | _, [] => none

/-- Whether the characters write an address of 128 bits. -/
def isLong (cs : List Char) : Bool :=
  match cutGap? [] cs with
  | none => groups? true (parts cs) == some 8
  | some (before, after) =>
      match groups? false (parts before), groups? true (parts after) with
      | some m, some n => m + n ≤ 7
      | _, _ => false

def isAddress (cs : List Char) : Bool := isShort cs || isLong cs

end SessionAuthority.Address

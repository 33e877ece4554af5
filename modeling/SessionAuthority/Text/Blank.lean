/-!
# White space, pieces and numbers

The characters of the Unicode property White_Space, and the removal of runs of them at the two
ends of a text (`trim`).  Settings, credentials and cookies are trimmed this way; only the JSON
reader has a smaller class of its own.

A number in a setting is one or more decimal digits with an optional plus sign, or minus sign where
negative numbers are allowed, and nothing else.  Leading zeros do not matter; a number out of range
is no number.
-/
set_option autoImplicit false

namespace SessionAuthority.Text

/-- The Unicode property White_Space. -/
def isBlank (c : Char) : Bool :=
  let n := c.toNat
  (9 ≤ n && n ≤ 13) || n == 0x20 || n == 0x85 || n == 0xA0 || n == 0x1680 ||
    (0x2000 ≤ n && n ≤ 0x200A) || n == 0x2028 || n == 0x2029 || n == 0x202F || n == 0x205F ||
    n == 0x3000

def trimChars (cs : List Char) : List Char :=
  ((cs.dropWhile isBlank).reverse.dropWhile isBlank).reverse

def trim (s : String) : String := String.ofList (trimChars s.toList)

def blank (s : String) : Bool := s.toList.all isBlank

/-- Cut before every occurrence of `sep`; `n` separators make `n + 1` pieces. -/
def splitChars (sep : Char) (cs : List Char) : List (List Char) := cs.splitOnP (· == sep)

def cutFirst? (sep : Char) (cs : List Char) : Option (List Char × List Char) :=
  match cs.dropWhile (· != sep) with
  | [] => none
  | _ :: after => some (cs.takeWhile (· != sep), after)

def cutLast? (sep : Char) (cs : List Char) : Option (List Char × List Char) :=
  (cutFirst? sep cs.reverse).map fun (after, before) => (before.reverse, after.reverse)

def lowerAscii (cs : List Char) : List Char := cs.map Char.toLower

/-! ## Numbers -/

def digits? (cs : List Char) : Option Nat :=
  if cs.isEmpty || !cs.all Char.isDigit then none
  else some (cs.foldl (fun n c => n * 10 + (c.toNat - 48)) 0)

/-- A number from zero to `max`. -/
def natural? (max : Nat) (cs : List Char) : Option Nat :=
  let body :=
    match cs with
    | '+' :: rest => rest
    | _ => cs
  match digits? body with
  | some n => if n ≤ max then some n else none
  | none => none

/-- A number of 64 bits with sign. -/
def integer? (cs : List Char) : Option Int :=
  match cs with
  | '-' :: rest =>
      match digits? rest with
      | some n => if n ≤ 0x8000000000000000 then some (-(n : Int)) else none
      | none => none
  | _ => (natural? 0x7FFFFFFFFFFFFFFF cs).map Int.ofNat

end SessionAuthority.Text

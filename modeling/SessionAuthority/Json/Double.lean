import SessionAuthority.Decimal.Shortest

/-!
# Doubles in JSON text

How a double is written and how one is read.

Writing: the shortest digits that read back; positional with at least one digit after the point
from 1e-5 up to but not including 1e16, and for zero; otherwise scientific, with a sign in front
of every exponent.

Reading: the digits are gathered into a 64-bit significand as long as they fit, and the power of
ten is applied with one multiplication or division in double arithmetic.  The last bit of the
result is therefore that of this procedure, not always that of the nearest double.
-/
set_option autoImplicit false

namespace SessionAuthority.Json.Double

open SessionAuthority.Decimal

/-- The bits that are not the sign. -/
def magnitude (bits : UInt64) : UInt64 := bits &&& 0x7FFFFFFFFFFFFFFF

def negative (bits : UInt64) : Bool := bits >>> 63 == 1

def zeros (count : Nat) : List Char := List.replicate count '0'

/-- The text of a positive decimal. -/
def positional (s : Scientific) : List Char :=
  let digits := Nat.toDigits 10 s.digits
  let point : Int := digits.length + s.exponent
  if 0 ≤ s.exponent ∧ point ≤ 16 then digits ++ zeros s.exponent.toNat ++ ['.', '0']
  else if 0 < point ∧ point ≤ 16 then
    digits.take point.toNat ++ '.' :: digits.drop point.toNat
  else if -5 < point ∧ point ≤ 0 then ['0', '.'] ++ zeros (-point).toNat ++ digits
  else
    let power := point - 1
    let mark := (if power < 0 then ['e', '-'] else ['e', '+']) ++ Nat.toDigits 10 power.natAbs
    match digits with
    | [d] => d :: mark
    | d :: rest => d :: '.' :: rest ++ mark
    | [] => mark

def text (bits : UInt64) : List Char :=
  let sign := if negative bits then ['-'] else []
  if magnitude bits = 0 then sign ++ ['0', '.', '0']
  else sign ++ positional (shortest (Dyadic.ofBits bits)).trim

/-- Ten to the power `n`, as the nearest double, for `n` up to 308. -/
def powerOfTen (n : Nat) : Float := Float.ofScientific 1 false n

/-- `f · 10 ^ exponent` in double arithmetic: one operation, or several when the exponent is far
below the range.  Nothing when the result is not finite. -/
def scale? (f : Float) (exponent : Int) : Option Float :=
  if 0 ≤ exponent then
    if exponent ≤ 308 then
      let g := f * powerOfTen exponent.toNat
      if g.isInf then none else some g
    else if f == 0.0 then some f else none
  else down 20 f exponent.natAbs
where
  /-- Division by ten to the power `n`, 308 places at a time. -/
  down : (fuel : Nat) → Float → Nat → Option Float
    | 0, f, _ => some f
    | fuel + 1, f, n =>
        if n ≤ 308 then some (f / powerOfTen n)
        else if f == 0.0 then some f
        else down fuel (f / powerOfTen 308) (n - 308)

/-- The bits of `± significand · 10 ^ exponent`, if that is a finite double. -/
def ofParts? (positive : Bool) (significand : Nat) (exponent : Int) : Option UInt64 :=
  (scale? significand.toUInt64.toFloat exponent).map fun f =>
    (if positive then f else -f).toBits

def zero (positive : Bool) : UInt64 := if positive then 0 else 0x8000000000000000

/-- The non-negative integer nearest to the double, a half going up, when it is at least zero and
below 2 ^ 64. -/
def natural? (bits : UInt64) : Option Nat :=
  if magnitude bits = 0 then some 0
  else if negative bits || magnitude bits ≥ 0x43F0000000000000 then none
  else
    let d := Dyadic.ofBits bits
    if 0 ≤ d.exponent then some (d.mantissa * Nat.pow 2 d.exponent.toNat)
    else
      let unit := Nat.pow 2 d.exponent.natAbs
      some ((d.mantissa * 2 + unit) / (2 * unit))

end SessionAuthority.Json.Double

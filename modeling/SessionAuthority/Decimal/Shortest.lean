/-!
# The shortest decimal of a double

A finite double is an exact number `m · 2 ^ q`, and the reals that round to it form an interval
around it.  `shortest` takes the least count of significant digits for which some decimal
lies in that interval; of two such decimals it takes the nearer, and on a tie the even one.  All of
it is exact arithmetic on natural numbers.
-/
set_option autoImplicit false

namespace SessionAuthority.Decimal

/-- A positive double: the exact number `mantissa · 2 ^ exponent`. -/
structure Dyadic where
  mantissa : Nat
  exponent : Int
  deriving DecidableEq, Repr

/-- The magnitude that the bits of a finite double write, sign left out. -/
def Dyadic.ofBits (bits : UInt64) : Dyadic :=
  let field := (bits >>> 52).toNat % 2048
  let fraction := bits.toNat % 0x10000000000000
  if field = 0 then ⟨fraction, -1074⟩ else ⟨0x10000000000000 + fraction, field - 1075⟩

/-- A decimal: `digits · 10 ^ exponent`. -/
structure Scientific where
  digits : Nat
  exponent : Int
  deriving DecidableEq, Repr

namespace Shortest

/-- The numerator of `n · 2 ^ a · 10 ^ b` over the denominator that belongs to it. -/
def scaled (n : Nat) (a b : Int) : Nat := n * Nat.pow 2 a.toNat * Nat.pow 10 b.toNat

/-- Four times the double, its lower and its upper bound, and one unit of the grid
`10 ^ exponent`, over one common denominator. -/
structure Window where
  value : Nat
  lower : Nat
  upper : Nat
  unit : Nat
  closed : Bool

/-- The interval of the reals that round to `d`, measured on the grid `10 ^ exponent`. -/
def window (d : Dyadic) (exponent : Int) : Window :=
  let scale n := scaled n (d.exponent) (-exponent)
  -- the double below a power of two is twice as near, except at the bottom of the range
  let below := if d.mantissa = 0x10000000000000 ∧ d.exponent ≠ -1074 then 1 else 2
  { value := scale (4 * d.mantissa), lower := scale (4 * d.mantissa - below)
    upper := scale (4 * d.mantissa + 2)
    unit := 4 * scaled 1 (-d.exponent) exponent
    closed := d.mantissa % 2 = 0 }

def Window.holds (w : Window) (n : Nat) : Bool :=
  let x := n * w.unit
  if w.closed then w.lower ≤ x && x ≤ w.upper else w.lower < x && x < w.upper

def Window.nearest? (w : Window) : Option Nat :=
  let n := w.value / w.unit
  let low := w.value - n * w.unit
  let high := (n + 1) * w.unit - w.value
  match w.holds n, w.holds (n + 1) with
  | false, false => none
  | true, false => some n
  | false, true => some (n + 1)
  | true, true => if low < high ∨ (low = high ∧ n % 2 = 0) then some n else some (n + 1)

def digitCount (n : Nat) : Nat := (Nat.toDigits 10 n).length

/-- The exponent of the first significant digit: the greatest `k` with `10 ^ k` not above it. -/
def leading (d : Dyadic) : Int :=
  let num := scaled d.mantissa d.exponent 0
  let den := scaled 1 (-d.exponent) 0
  if den ≤ num then (digitCount (num / den) : Int) - 1
  else
    -- `num / den < 1`: the digit count of the quotient the other way round is within one of it
    let k := digitCount (den / num)
    if num * Nat.pow 10 (k - 1) < den then -(k : Int) else -((k : Int) - 1)

/-- The first grid, from `count` digits upwards, that has a point in the interval. -/
def search (d : Dyadic) (first : Int) : (fuel count : Nat) → Scientific
  | 0, count =>
      let e := first - count + 1
      ⟨(window d e).value / (window d e).unit, e⟩
  | fuel + 1, count =>
      let e := first - count + 1
      match (window d e).nearest? with
      | some n => ⟨n, e⟩
      | none => search d first fuel (count + 1)

end Shortest

/-- The shortest decimal that reads back as `d`; seventeen digits always suffice. -/
def shortest (d : Dyadic) : Scientific :=
  Shortest.search d (Shortest.leading d) 17 1

def Scientific.trim (s : Scientific) : Scientific :=
  go 40 s
where
  go : Nat → Scientific → Scientific
    | 0, s => s
    | fuel + 1, s =>
        if s.digits ≠ 0 ∧ s.digits % 10 = 0 then go fuel ⟨s.digits / 10, s.exponent + 1⟩ else s

end SessionAuthority.Decimal

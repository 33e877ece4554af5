/-!
# Binary digits of π

The initial state of the cipher behind password hashes is the fraction of π in binary.  It is
computed here from `π = 16 arctan (1/5) - 4 arctan (1/239)` with some bits to spare.
-/
set_option autoImplicit false

namespace SessionAuthority.Digest

/-- The series of `scale · arctan (1/x)` from the term with denominator `n`; `power` is
`scale / x ^ n`. -/
def arctanSeries (x : Nat) : (fuel power n : Nat) → Int
  | 0, _, _ => 0
  | fuel + 1, power, n =>
      if power = 0 then 0 else (power / n : Nat) - arctanSeries x fuel (power / (x * x)) (n + 2)

/-- `scale · arctan (1/x)`, up to one unit for every term. -/
def arctanInverse (scale x : Nat) : Int := arctanSeries x scale.log2 (scale / x) 1

/-- The first `count` words of the fraction of π. -/
def piWords (count : Nat) : Array UInt32 :=
  let spare := 64
  let scale := Nat.pow 2 (32 * count + spare)
  let pi := (16 * arctanInverse scale 5 - 4 * arctanInverse scale 239).toNat
  let fraction := pi % scale / Nat.pow 2 spare
  ((List.range count).map fun i => (fraction >>> (32 * (count - 1 - i))).toUInt32).toArray

end SessionAuthority.Digest

/-!
# Instants and spans of time

Both are whole nanoseconds: an `Instant` since the epoch, a `Span` as a length.  Wall-clock seconds
and the milliseconds of a store are the floors of these.
-/
set_option autoImplicit false

namespace SessionAuthority

/-- Nanoseconds since the epoch. -/
abbrev Instant := Nat

structure Span where
  nanos : Nat
  deriving DecidableEq, Repr, Inhabited

def Instant.seconds (t : Instant) : Nat := t / 1000000000

def Instant.millis (t : Instant) : Nat := t / 1000000

namespace Span

def ofSeconds (n : Nat) : Span := ⟨n * 1000000000⟩

def ofMillis (n : Nat) : Span := ⟨n * 1000000⟩

def seconds (s : Span) : Nat := s.nanos / 1000000000

/-- Nanoseconds beyond the whole seconds. -/
def subsecond (s : Span) : Nat := s.nanos % 1000000000

def millis (s : Span) : Nat := s.nanos / 1000000

/-- The last `width` digits of a number, zeros in front. -/
def paddedDigits (width n : Nat) : List Char :=
  let digits := Nat.toDigits 10 n
  List.replicate (width - digits.length) '0' ++ digits

/-- `whole` and, after a point, a fraction of `width` digits without its last zeros. -/
def decimalText (whole fraction width : Nat) : List Char :=
  let places := ((paddedDigits width fraction).reverse.dropWhile (· == '0')).reverse
  Nat.toDigits 10 whole ++ (if places.isEmpty then [] else '.' :: places)

/-- The span in the largest unit of s, ms, µs and ns that it reaches. -/
def text (s : Span) : String :=
  let n := s.nanos
  String.ofList <|
    if n ≥ 1000000000 then decimalText (n / 1000000000) (n % 1000000000) 9 ++ ['s']
    else if n ≥ 1000000 then decimalText (n / 1000000) (n % 1000000) 6 ++ ['m', 's']
    else if n ≥ 1000 then decimalText (n / 1000) (n % 1000) 3 ++ ['µ', 's']
    else Nat.toDigits 10 n ++ ['n', 's']

end Span

/-- The last second that a date can have. -/
def lastDateSecond : Nat := 8210266876799

def firstDateSecond : Int := -8334601228800

end SessionAuthority

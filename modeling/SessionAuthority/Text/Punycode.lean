/-!
# Punycode

Any text as letters, digits and hyphens: its ASCII characters first, then, behind a hyphen, where
the others go, as numbers of variable length in base 36.
-/
set_option autoImplicit false

namespace SessionAuthority.Text.Punycode

def digit (n : Nat) : Char := if n < 26 then Char.ofNat (97 + n) else Char.ofNat (22 + n)

def value? (c : Char) : Option Nat :=
  if c.isLower then some (c.toNat - 97)
  else if c.isUpper then some (c.toNat - 65)
  else if c.isDigit then some (c.toNat - 22)
  else none

/-- The bias after a number, from the size it had and the count of characters it was told by. -/
def adapt (delta count : Nat) (first : Bool) : Nat :=
  go 20 0 (let d := if first then delta / 700 else delta / 2; d + d / count)
where
  /-- Steps of 36 as long as the number is too large. -/
  go : (fuel k delta : Nat) → Nat
    | 0, k, _ => k
    | fuel + 1, k, delta =>
        if delta > 455 then go fuel (k + 36) (delta / 35) else k + 36 * delta / (delta + 38)

def threshold (k bias : Nat) : Nat := if k ≤ bias then 1 else if k ≥ bias + 26 then 26 else k - bias

/-- A number in digits, the last one below its threshold. -/
def encodeNumber (bias : Nat) : (fuel k n : Nat) → List Char
  | 0, _, _ => []
  | fuel + 1, k, n =>
      let t := threshold k bias
      if n < t then [digit n]
      else digit (t + (n - t) % (36 - t)) :: encodeNumber bias fuel (k + 36) ((n - t) / (36 - t))

/-- The state of the encoder while it goes over the text once for one character. -/
structure Encoder where
  delta : Nat
  bias : Nat
  handled : Nat
  first : Bool
  out : List Char

/-- One character of the text, when those below `n` are placed and `n` is next. -/
def Encoder.step (n : Nat) (s : Encoder) (c : Char) : Encoder :=
  if c.toNat < n then { s with delta := s.delta + 1 }
  else if c.toNat = n then
    { delta := 0, bias := adapt s.delta (s.handled + 1) s.first, handled := s.handled + 1
      first := false, out := s.out ++ encodeNumber s.bias 20 36 s.delta }
  else s

/-- Place the characters of the text that are not ASCII, in ascending order. -/
def Encoder.run (cs : List Char) : (fuel n : Nat) → Encoder → Encoder
  | 0, _, s => s
  | fuel + 1, n, s =>
      match ((cs.map Char.toNat).filter (· ≥ n)).min? with
      | none => s
      | some m =>
          let s := { s with delta := s.delta + (m - n) * (s.handled + 1) }
          let s := cs.foldl (Encoder.step m) s
          Encoder.run cs fuel (m + 1) { s with delta := s.delta + 1 }

def encode (cs : List Char) : List Char :=
  let basic := cs.filter fun c => c.toNat < 128
  let start : Encoder := ⟨0, 72, basic.length, true, []⟩
  let s := Encoder.run cs cs.length 128 start
  (if basic.isEmpty then [] else basic ++ ['-']) ++ s.out

/-- A number from digits: its value times its weight on top of `i`, and what follows. -/
def decodeNumber? (bias : Nat) : (k weight i : Nat) → List Char → Option (Nat × List Char)
  | _, _, _, [] => none
  | k, weight, i, c :: rest =>
      match value? c with
      | none => none
      | some d =>
          let i := i + d * weight
          let t := threshold k bias
          if i ≥ 0x100000000 then none
          else if d < t then some (i, rest)
          else decodeNumber? bias (k + 36) (weight * (36 - t)) i rest

/-- Insert the characters that the digits tell of. -/
def decodeOnto? : (fuel n i bias : Nat) → (done : List Char) → List Char → Option (List Char)
  | _, _, _, _, done, [] => some done
  | 0, _, _, _, _, _ => none
  | fuel + 1, n, i, bias, done, cs =>
      match decodeNumber? bias 36 1 i cs with
      | none => none
      | some (j, rest) =>
          let count := done.length + 1
          let n := n + j / count
          if n ≥ 0x110000 ∨ (0xD800 ≤ n ∧ n < 0xE000) then none
          else
            let at_ := j % count
            decodeOnto? fuel n (at_ + 1) (adapt (j - i) count (i == 0))
              (done.take at_ ++ Char.ofNat n :: done.drop at_) rest

def decode? (cs : List Char) : Option (List Char) :=
  let tail := (cs.reverse.takeWhile (· != '-')).reverse
  let basic := cs.take (cs.length - tail.length - 1)
  if !basic.all (fun c => c.toNat < 128) then none
  else decodeOnto? cs.length 128 0 72 basic tail

end SessionAuthority.Text.Punycode

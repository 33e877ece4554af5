import SessionAuthority.Json.Render
import SessionAuthority.Json.Scan

/-!
# Integers are read as they are written

An integer of 64 bits, with sign or without, is written without leading zeros and read back exactly
(`readNumber_toDigits`, `closeInteger_negative`), if what follows cannot go on with it (`Ends`): no
digit, point or exponent.
-/
set_option autoImplicit false

namespace SessionAuthority.Json

def Ends : Bytes → Prop
  | [] => True
  | b :: _ => isDigit b = false ∧ b ≠ 0x2E ∧ b ≠ 0x65 ∧ b ≠ 0x45

/-! ## Digits -/

theorem isDigit_ofAscii : ∀ n < 10, isDigit (Nat.digitChar n).toNat.toUInt8 = true ∧
    digitValue (Nat.digitChar n).toNat.toUInt8 = n := by decide

theorem digitChar_of_isDigit {c : Char} (digit : c.isDigit = true) :
    ∃ n < 10, Nat.digitChar n = c := by
  have range : 48 ≤ c.toNat ∧ c.toNat ≤ 57 := Char.isDigit_iff_toNat.1 digit
  refine ⟨c.toNat - 48, by omega, ?_⟩
  have ascii : ∀ n < 10, Nat.digitChar n = Char.ofNat (n + 48) := by decide
  rw [ascii _ (by omega), Nat.sub_add_cancel range.1, Char.ofNat_toNat]

theorem le_ofDigitChars (cs : List Char) (n : Nat) : n ≤ Nat.ofDigitChars 10 cs n := by
  induction cs generalizing n with
  | nil => exact Nat.le_refl n
  | cons c cs ih =>
      rw [Nat.ofDigitChars_cons]
      have := ih (10 * n + (c.toNat - '0'.toNat))
      omega

theorem ofAscii_cons (c : Char) (cs : List Char) :
    Bytes.ofAscii (c :: cs) = c.toNat.toUInt8 :: Bytes.ofAscii cs := rfl

/-- A positive number is written without a leading zero. -/
theorem toDigits_head {n : Nat} (pos : 0 < n) :
    ∃ d cs, 0 < d ∧ d < 10 ∧ Nat.toDigits 10 n = Nat.digitChar d :: cs := by
  induction n using Nat.strongRecOn with
  | _ n ih =>
    by_cases small : n < 10
    · exact ⟨n, [], pos, small, Nat.toDigits_of_lt_base small⟩
    · obtain ⟨d, cs, dpos, dlt, digits⟩ := ih (n / 10) (by omega) (by omega)
      refine ⟨d, cs ++ [Nat.digitChar (n % 10)], dpos, dlt, ?_⟩
      rw [Nat.toDigits_of_base_le (by omega) (by omega), digits, List.cons_append]

/-! ## Reading -/

theorem readNumber_zero {positive : Bool} {rest : Bytes} (ends : Ends rest) :
    readNumber positive (0x30 :: rest) = readInteger positive 0 rest := by
  rw [readNumber.eq_def]
  cases rest with
  | nil => simp
  | cons b rest => simp [ends.1]

theorem readNumber_digit {positive : Bool} {b : UInt8} (digit : isDigit b = true)
    (leading : b ≠ 0x30) (rest : Bytes) :
    readNumber positive (b :: rest) = readInteger positive (digitValue b) rest := by
  rw [readNumber.eq_def]
  simp [digit, leading]

theorem readInteger_end {positive : Bool} {significand : Nat} {rest : Bytes} (ends : Ends rest) :
    readInteger positive significand rest = closeInteger positive significand rest := by
  cases rest with
  | nil => rfl
  | cons b rest =>
      obtain ⟨digit, point, lower, upper⟩ := ends
      simp only [readInteger, digit, point, lower, upper, or_self, if_false, Bool.false_eq_true]

/-- The digits of an integer are gathered as long as 64 bits hold them. -/
theorem readInteger_digits (positive : Bool) {rest : Bytes} (ends : Ends rest) (cs : List Char)
    (significand : Nat) (digits : ∀ c ∈ cs, c.isDigit = true)
    (fits : Nat.ofDigitChars 10 cs significand ≤ wordMax) :
    readInteger positive significand (Bytes.ofAscii cs ++ rest) =
      closeInteger positive (Nat.ofDigitChars 10 cs significand) rest := by
  induction cs generalizing significand with
  | nil => exact readInteger_end ends
  | cons c cs ih =>
      obtain ⟨d, small, rfl⟩ := digitChar_of_isDigit (digits c List.mem_cons_self)
      obtain ⟨digit, value⟩ := isDigit_ofAscii d small
      rw [Nat.ofDigitChars_cons_digitChar_of_lt_ten small] at fits ⊢
      have next := le_ofDigitChars cs (10 * significand + d)
      rw [ofAscii_cons, List.cons_append, readInteger, if_pos digit, value]
      simp only []
      rw [if_neg (by omega), Nat.mul_comm significand 10]
      exact ih _ (fun c later => digits c (List.mem_cons_of_mem _ later)) fits

/-- **A written number is read back** as long as it fits 64 bits. -/
theorem readNumber_toDigits (positive : Bool) {rest : Bytes} (ends : Ends rest) {n : Nat}
    (fits : n ≤ wordMax) :
    readNumber positive (Bytes.ofAscii (Nat.toDigits 10 n) ++ rest) =
      closeInteger positive n rest := by
  rcases Nat.eq_zero_or_pos n with rfl | pos
  · -- The one number that is written with a zero in front is zero itself.
    have written : Bytes.ofAscii (Nat.toDigits 10 0) = [0x30] := by decide
    rw [written, List.cons_append, List.nil_append, readNumber_zero ends, readInteger_end ends]
  · have whole := Nat.ofDigitChars_ten_toDigits (n := n)
    have all := fun c (member : c ∈ Nat.toDigits 10 n) =>
      Nat.isDigit_of_mem_toDigits (by omega) (Nat.le_refl 10) member
    obtain ⟨d, cs, dpos, small, digits⟩ := toDigits_head pos
    rw [digits] at whole all ⊢
    rw [Nat.ofDigitChars_cons_digitChar_of_lt_ten small, Nat.mul_zero, Nat.zero_add] at whole
    obtain ⟨digit, value⟩ := isDigit_ofAscii d small
    have leading : ∀ d < 10, 0 < d → (Nat.digitChar d).toNat.toUInt8 ≠ 0x30 := by decide
    rw [ofAscii_cons, List.cons_append, readNumber_digit digit (leading d small dpos), value,
      readInteger_digits positive ends cs d (fun c later => all c (List.mem_cons_of_mem _ later))
        (by omega), whole]

theorem closeInteger_negative {n : Nat} (fits : n < 0x8000000000000000) (rest : Bytes) :
    closeInteger false (n + 1) rest = .ok (.int (.negSucc n), rest) := by
  rw [closeInteger]
  simp only [Bool.false_eq_true, if_false]
  rw [if_neg (by omega), Int.negSucc_eq]
  rfl

theorem head_toDigits (n : Nat) :
    ∃ b tail, Bytes.ofAscii (Nat.toDigits 10 n) = b :: tail ∧ isDigit b = true := by
  cases digits : Nat.toDigits 10 n with
  | nil => exact absurd digits Nat.toDigits_ne_nil
  | cons c cs =>
      have digit : c.isDigit = true :=
        Nat.isDigit_of_mem_toDigits (b := 10) (n := n) (by omega) (Nat.le_refl 10)
          (digits ▸ List.mem_cons_self)
      obtain ⟨d, small, rfl⟩ := digitChar_of_isDigit digit
      exact ⟨_, _, rfl, (isDigit_ofAscii d small).1⟩

end SessionAuthority.Json

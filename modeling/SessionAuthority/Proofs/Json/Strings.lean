import SessionAuthority.Json.Render
import SessionAuthority.Json.Scan

/-!
# Strings are read as they are written

`readString_escaped`: behind its opening quote, a written string is read back whole, whatever
its characters, and the reader stops right behind the closing quote.  Writing escapes octet by octet
and the reader gathers octet by octet, so one step of both (`scanString_escapeOctet`) carries the
argument and no character is ever decoded.
-/
set_option autoImplicit false

namespace SessionAuthority.Json

theorem escape_control : ∀ n < 32,
    (match Bytes.ofAscii (Hex.ofNat 4 n) with
      | [h₁, h₂, h₃, h₄] => hex4? h₁ h₂ h₃ h₄
      | _ => none) = some n ∧ codePointReversed n = [n.toUInt8] := by decide

/-! ## One step of the reader -/

theorem scanString_quote (done rest : Bytes) :
    scanString done (0x22 :: rest) = .ok (done.reverse, rest) := by
  rw [scanString.eq_def]; simp

theorem scanString_plain {b : UInt8} (quote : b ≠ 0x22) (backslash : b ≠ 0x5C)
    (control : ¬ b < 0x20) (done rest : Bytes) :
    scanString done (b :: rest) = scanString (b :: done) rest := by
  rw [scanString.eq_def]
  simp only [quote, backslash, control, if_false]

theorem scanString_letter {e x : UInt8} (unicode : e ≠ 0x75) (letter : escaped? e = some x)
    (done rest : Bytes) :
    scanString done (0x5C :: e :: rest) = scanString (x :: done) rest := by
  rw [scanString.eq_def]
  simp [unicode, letter]

theorem scanString_unit {h₁ h₂ h₃ h₄ : UInt8} {n : Nat} (hex : hex4? h₁ h₂ h₃ h₄ = some n)
    (low : n < 0xD800) (done rest : Bytes) :
    scanString done (0x5C :: 0x75 :: h₁ :: h₂ :: h₃ :: h₄ :: rest) =
      scanString (codePointReversed n ++ done) rest := by
  have single : isTrailing n = false ∧ isLeading n = false := by
    simp only [isTrailing, isLeading, Bool.and_eq_false_iff, decide_eq_false_iff_not]
    omega
  rw [scanString.eq_def]
  simp [hex, single]

/-- An octet that was escaped is gathered as itself. -/
theorem scanString_escapeOctet (b : UInt8) (done rest : Bytes) :
    scanString done (escapeOctet b ++ rest) = scanString (b :: done) rest := by
  by_cases quote : b = 0x22
  · subst quote; exact scanString_letter (by decide) (by decide) ..
  by_cases backslash : b = 0x5C
  · subst backslash; exact scanString_letter (by decide) (by decide) ..
  by_cases backspace : b = 0x08
  · subst backspace; exact scanString_letter (by decide) (by decide) ..
  by_cases formFeed : b = 0x0C
  · subst formFeed; exact scanString_letter (by decide) (by decide) ..
  by_cases lineFeed : b = 0x0A
  · subst lineFeed; exact scanString_letter (by decide) (by decide) ..
  by_cases carriage : b = 0x0D
  · subst carriage; exact scanString_letter (by decide) (by decide) ..
  by_cases tab : b = 0x09
  · subst tab; exact scanString_letter (by decide) (by decide) ..
  rw [escapeOctet, if_neg quote, if_neg backslash, if_neg backspace, if_neg formFeed,
    if_neg lineFeed, if_neg carriage, if_neg tab]
  by_cases control : b < 0x20
  · have small : b.toNat < 32 := UInt8.lt_iff_toNat_lt.1 control
    obtain ⟨hex, point⟩ := escape_control b.toNat small
    rw [if_pos control]
    split at hex
    · rename_i h₁ h₂ h₃ h₄ digits
      rw [digits]
      simp only [List.cons_append, List.nil_append]
      rw [scanString_unit hex (by omega), point]
      simp
    · cases hex
  · rw [if_neg control]
    exact scanString_plain quote backslash control done rest

theorem scanString_escaped (octets done rest : Bytes) :
    scanString done (octets.flatMap escapeOctet ++ 0x22 :: rest) =
      .ok (done.reverse ++ octets, rest) := by
  induction octets generalizing done with
  | nil => simp [scanString_quote]
  | cons b octets ih =>
      rw [List.flatMap_cons, List.append_assoc, scanString_escapeOctet, ih]
      simp

/-- **A written string is read back**, from behind its opening quote. -/
theorem readString_escaped (s : String) (rest : Bytes) :
    readString ((Bytes.ofString s).flatMap escapeOctet ++ 0x22 :: rest) = .ok (s, rest) := by
  simp [readString, scanString_escaped, Bytes.toString?_ofString]

theorem renderString_eq (s : String) (rest : Bytes) :
    renderString s ++ rest = 0x22 :: ((Bytes.ofString s).flatMap escapeOctet ++ 0x22 :: rest) := by
  simp [renderString]

end SessionAuthority.Json

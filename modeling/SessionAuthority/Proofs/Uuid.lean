import Mathlib.Algebra.Group.Nat.Defs
import SessionAuthority.SessionKey

/-!
# Identifiers in texts and keys

A written identifier is read back (`parse?_toText`), so equal texts are of equal identifiers.  All
of them are of one length, so a key is cut from its right-hand end into what it begins with and an
identifier; and what it begins with shows the prefix, be it empty or not.  So every prefix and
subject have a key of their own (`sessionKey_eq_iff`), whatever the prefix looks like.
-/
set_option autoImplicit false

namespace SessionAuthority

namespace Hex

theorem value?_digit : ∀ n < 16, value? (digit n) = some n := by decide

theorem length_ofNat (width n : Nat) : (ofNat width n).length = width := by
  induction width generalizing n with
  | zero => rfl
  | succ width ih => rw [ofNat, List.length_append, ih, List.length_singleton]

/-- Digits are read back as the number, up to what did not fit the width. -/
theorem toNat?_ofNat (width n : Nat) : toNat? (ofNat width n) = some (n % 16 ^ width) := by
  induction width generalizing n with
  | zero => simp [ofNat, toNat?, Nat.mod_one]
  | succ width ih =>
      have front := ih (n / 16)
      rw [toNat?] at front ⊢
      rw [ofNat, List.foldlM_append, front]
      have last := value?_digit (n % 16) (Nat.mod_lt _ (by decide))
      have whole : n / 16 % 16 ^ width * 16 + n % 16 = n % 16 ^ (width + 1) := by
        rw [Nat.pow_succ', Nat.mod_mul]
        omega
      simp [last, whole]

end Hex

namespace Uuid

/-- Digits in groups are read as the digits. -/
theorem ofGroups?_grouped {a b c d e : List Char} (ha : a.length = 8) (hb : b.length = 4)
    (hc : c.length = 4) (hd : d.length = 4) (he : e.length = 12) :
    ofGroups? (a ++ '-' :: b ++ '-' :: c ++ '-' :: d ++ '-' :: e) =
      ofDigits? (a ++ b ++ c ++ d ++ e) := by
  simp (disch := omega) [ofGroups?, List.drop_append, List.drop_of_length_le,
    List.getElem?_append, List.getElem?_cons_zero, ha, hb, hc, hd, he]

theorem regrouped (l : List Char) :
    l.take 8 ++ (l.drop 8).take 4 ++ (l.drop 12).take 4 ++ (l.drop 16).take 4 ++ l.drop 20 = l := by
  have third : (l.drop 16).take 4 ++ l.drop 20 = l.drop 16 := by
    rw [← List.drop_drop (i := 4) (j := 16)]; exact List.take_append_drop 4 _
  have second : (l.drop 12).take 4 ++ l.drop 16 = l.drop 12 := by
    rw [← List.drop_drop (i := 4) (j := 12)]; exact List.take_append_drop 4 _
  have first : (l.drop 8).take 4 ++ l.drop 12 = l.drop 8 := by
    rw [← List.drop_drop (i := 4) (j := 8)]; exact List.take_append_drop 4 _
  simp only [List.append_assoc, third, second, first, List.take_append_drop]

theorem length_chars (u : Uuid) : u.chars.length = 36 := by
  simp [chars, Hex.length_ofNat 32 u.bits.toNat]

/-- **A written identifier is read back.** -/
theorem parse?_toText (u : Uuid) : parse? u.toText = some u := by
  have width := Hex.length_ofNat 32 u.bits.toNat
  have grouped : ofGroups? u.chars = ofDigits? (Hex.ofNat 32 u.bits.toNat) := by
    rw [chars, ofGroups?_grouped (by simp [width]) (by simp [width]) (by simp [width])
      (by simp [width]) (by simp [width]), regrouped]
  have number : Hex.toNat? (Hex.ofNat 32 u.bits.toNat) = some u.bits.toNat := by
    rw [Hex.toNat?_ofNat, Nat.mod_eq_of_lt]
    exact u.bits.isLt
  simp [parse?, toText, length_chars, grouped, ofDigits?, width, number, ofNat]

theorem toText_inj {u v : Uuid} : u.toText = v.toText ↔ u = v := by
  refine ⟨fun same => ?_, congrArg toText⟩
  have read := congrArg parse? same
  rw [parse?_toText, parse?_toText] at read
  exact Option.some.inj read

end Uuid

/-! ## Keys -/

/-- What a key begins with. -/
def keyHead (pre : String) : String := if pre = "" then "token-" else pre ++ ":token-"

theorem sessionKey_eq_append (pre : String) (u : Uuid) :
    sessionKey pre u = keyHead pre ++ u.toText := by
  rw [sessionKey, keyHead]
  split <;> rfl

/-- The beginning shows the prefix: the one without a colon is shorter than any other. -/
theorem keyHead_inj {p q : String} : keyHead p = keyHead q ↔ p = q := by
  refine ⟨fun same => ?_, congrArg keyHead⟩
  have short (pre : String) : "token-" ≠ pre ++ ":token-" := fun same => by
    have lengths := congrArg String.length same
    have six : "token-".length = 6 := rfl
    have seven : ":token-".length = 7 := rfl
    rw [String.length_append, six, seven] at lengths
    omega
  by_cases bare : p = "" <;> by_cases bare' : q = ""
  · rw [bare, bare']
  · rw [keyHead, keyHead, if_pos bare, if_neg bare'] at same
    exact absurd same (short q)
  · rw [keyHead, keyHead, if_neg bare, if_pos bare'] at same
    exact absurd same.symm (short p)
  · rw [keyHead, keyHead, if_neg bare, if_neg bare'] at same
    exact (String.append_left_inj _).1 same

/-- **No two keys are the same**, neither behind one prefix nor behind two. -/
theorem sessionKey_eq_iff {p q : String} {u v : Uuid} :
    sessionKey p u = sessionKey q v ↔ p = q ∧ u = v := by
  refine ⟨fun same => ?_, fun ⟨here, there⟩ => here ▸ there ▸ rfl⟩
  rw [sessionKey_eq_append, sessionKey_eq_append] at same
  have listed := congrArg String.toList same
  rw [String.toList_append, String.toList_append] at listed
  -- both identifiers take the last 36 characters
  have width : u.toText.toList.length = v.toText.toList.length := by
    rw [Uuid.toText, Uuid.toText, String.toList_ofList, String.toList_ofList, Uuid.length_chars,
      Uuid.length_chars]
  obtain ⟨heads, texts⟩ := List.append_inj' listed width
  exact ⟨keyHead_inj.1 (String.toList_injective heads),
    Uuid.toText_inj.1 (String.toList_injective texts)⟩

/-- Behind one prefix no two subjects share a key. -/
theorem sessionKey_inj {pre : String} {u v : Uuid} :
    sessionKey pre u = sessionKey pre v ↔ u = v :=
  sessionKey_eq_iff.trans (and_iff_right rfl)

end SessionAuthority

import SessionAuthority.Proofs.Json.Grammar

/-!
# What is left of an input

Whatever the grammar takes from an input it takes from its front, so what is left is an end of the
input (`Value.suffix`).  A string that is met on the way therefore stands in the input as a whole
(`Spells`), however far the reading has come.
-/
set_option autoImplicit false

namespace SessionAuthority.Json

/-- What stands behind the first octet of an end of the input is an end of it too. -/
theorem suffix_behind {b : UInt8} {rest input : Bytes} (suffix : b :: rest <:+ input) :
    rest <:+ input :=
  (List.suffix_cons b rest).trans suffix

namespace Grammar

/-! ## Ends -/

theorem Blank.suffix {input left : Bytes} (blank : Blank input left) : left <:+ input := by
  induction blank with
  | none left => exact List.suffix_refl left
  | more _ _ ih => exact ih.trans (List.suffix_cons ..)

theorem Passed.suffix {input left : Bytes} (passed : Passed input left) : left <:+ input := by
  induction passed with
  | close left => exact List.suffix_cons ..
  | plain _ _ _ _ ih => exact ih.trans (List.suffix_cons ..)
  | letter _ _ ih => exact ih.trans (List.suffix_append [_, _] _)
  | unit _ _ ih => exact ih.trans (List.suffix_append [_, _, _, _, _, _] _)

theorem Digits.suffix {input left : Bytes} (digits : Digits input left) : left <:+ input := by
  induction digits with
  | none left => exact List.suffix_refl left
  | more _ _ ih => exact ih.trans (List.suffix_cons ..)

theorem Integral.suffix {input left : Bytes} (integral : Integral input left) : left <:+ input := by
  cases integral with
  | zero => exact List.suffix_cons ..
  | digits _ _ more => exact more.suffix.trans (List.suffix_cons ..)

theorem Fraction.suffix {input left : Bytes} (fraction : Fraction input left) : left <:+ input := by
  cases fraction with
  | absent => exact List.suffix_refl _
  | digits _ more => exact more.suffix.trans (List.suffix_append [_, _] _)

theorem Sign.suffix {input left : Bytes} (sign : Sign input left) : left <:+ input := by
  cases sign with
  | absent => exact List.suffix_refl _
  | plus => exact List.suffix_cons ..
  | minus => exact List.suffix_cons ..

theorem Exponent.suffix {input left : Bytes} (power : Exponent input left) : left <:+ input := by
  cases power with
  | absent => exact List.suffix_refl _
  | digits _ sign _ more =>
      exact more.suffix.trans ((suffix_behind sign.suffix).trans (List.suffix_cons ..))

theorem Number.suffix {input left : Bytes} (number : Number input left) : left <:+ input := by
  cases number with
  | parts integral fraction power =>
      exact power.suffix.trans (fraction.suffix.trans integral.suffix)

theorem Name.suffix {input left : Bytes} (name : Name input left) : left <:+ input := by
  cases name with
  | spelled quote name colon =>
      exact (suffix_behind colon.suffix).trans (name.suffix.trans (suffix_behind quote.suffix))

mutual

/-- **What is left behind a value is an end of the input.** -/
theorem Value.suffix : ∀ {input left : Bytes}, Value input left → left <:+ input
  | _, _, .null word => (List.suffix_append [_, _, _, _] _).trans word.suffix
  | _, _, .true word => (List.suffix_append [_, _, _, _] _).trans word.suffix
  | _, _, .false word => (List.suffix_append [_, _, _, _, _] _).trans word.suffix
  | _, _, .number blank number => number.suffix.trans blank.suffix
  | _, _, .negative minus number => number.suffix.trans (suffix_behind minus.suffix)
  | _, _, .string quote passed => passed.suffix.trans (suffix_behind quote.suffix)
  | _, _, .list bracket body => body.suffix.trans (suffix_behind bracket.suffix)
  | _, _, .object brace body => body.suffix.trans (suffix_behind brace.suffix)

theorem ListBody.suffix : ∀ {input left : Bytes}, ListBody input left → left <:+ input
  | _, _, .empty bracket => suffix_behind bracket.suffix
  | _, _, .filled first more => more.suffix.trans first.suffix

theorem Items.suffix : ∀ {input left : Bytes}, Items input left → left <:+ input
  | _, _, .close bracket => suffix_behind bracket.suffix
  | _, _, .next comma item more =>
      more.suffix.trans (item.suffix.trans (suffix_behind comma.suffix))

theorem ObjectBody.suffix : ∀ {input left : Bytes}, ObjectBody input left → left <:+ input
  | _, _, .empty brace => suffix_behind brace.suffix
  | _, _, .filled name first more => more.suffix.trans (first.suffix.trans name.suffix)

theorem Members.suffix : ∀ {input left : Bytes}, Members input left → left <:+ input
  | _, _, .close brace => suffix_behind brace.suffix
  | _, _, .next comma name member more =>
      more.suffix.trans (member.suffix.trans (name.suffix.trans (suffix_behind comma.suffix)))

end

end Grammar

open Grammar

/-! ## Strings in an input -/

/-- Somewhere in the input stands a string that spells this text. -/
def Spells (input : Bytes) (s : String) : Prop :=
  ∃ rest left, 0x22 :: rest <:+ input ∧ Spelled rest (Bytes.ofString s) left

theorem spells_of_readString {input rest left : Bytes} {s : String}
    (within : 0x22 :: rest <:+ input) (read : readString rest = .ok (s, left)) :
    Spells input s ∧ left <:+ input := by
  have spelled := readString_spelled read
  exact ⟨⟨rest, left, within, spelled⟩, spelled.passed.suffix.trans (suffix_behind within)⟩

end SessionAuthority.Json

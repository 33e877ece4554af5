import SessionAuthority.Json.Skip

/-!
# The grammar of JSON

The grammar is said without reference to any reader, as relations between an input and what is left
of it: `Value input left` holds if the input starts with a value and goes on with `left`.  A text
that is spelled by a string (`Spelled`) is given as its octets.

What is passed over is a value of this grammar (`skipValue_value`).  The passage keeps the open
containers in a list, so the argument is that it comes back: from in front of a value it gets behind
that value with the same containers open (`skipFrom_value`), and from behind an item or a member to
the end of its container (`skipFrom_items`, `skipFrom_members`).

The grammar is one of octets.  A string that is passed over need not be well-formed UTF-8, and its
escaped units need not be paired, so `Passed` asks for neither.
-/
set_option autoImplicit false

namespace SessionAuthority.Json

namespace Grammar

/-! ## White space and strings -/

inductive Blank : (input left : Bytes) → Prop where
  | none (left : Bytes) : Blank left left
  | more {b : UInt8} {rest left : Bytes} (blank : isBlank b = true) (more : Blank rest left) :
      Blank (b :: rest) left

/-- The rest of a string, from behind its opening quote, and the octets that it spells. -/
inductive Spelled : (input octets left : Bytes) → Prop where
  | close (left : Bytes) : Spelled (0x22 :: left) [] left
  | plain {b : UInt8} {rest octets left : Bytes} (quote : b ≠ 0x22) (backslash : b ≠ 0x5C)
      (control : ¬ b < 0x20) (more : Spelled rest octets left) :
      Spelled (b :: rest) (b :: octets) left
  | letter {e x : UInt8} {rest octets left : Bytes} (escaped : escaped? e = some x)
      (more : Spelled rest octets left) : Spelled (0x5C :: e :: rest) (x :: octets) left
  | unit {h₁ h₂ h₃ h₄ : UInt8} {n : Nat} {rest octets left : Bytes}
      (hex : hex4? h₁ h₂ h₃ h₄ = some n) (single : isTrailing n = false ∧ isLeading n = false)
      (more : Spelled rest octets left) :
      Spelled (0x5C :: 0x75 :: h₁ :: h₂ :: h₃ :: h₄ :: rest)
        (String.utf8EncodeChar (Char.ofNat n) ++ octets) left
  | pair {h₁ h₂ h₃ h₄ l₁ l₂ l₃ l₄ : UInt8} {n m : Nat} {rest octets left : Bytes}
      (first : hex4? h₁ h₂ h₃ h₄ = some n) (leading : isLeading n = true)
      (second : hex4? l₁ l₂ l₃ l₄ = some m) (trailing : isTrailing m = true)
      (more : Spelled rest octets left) :
      Spelled (0x5C :: 0x75 :: h₁ :: h₂ :: h₃ :: h₄ :: 0x5C :: 0x75 :: l₁ :: l₂ :: l₃ :: l₄ :: rest)
        (String.utf8EncodeChar (Char.ofNat ((n - 0xD800) * 1024 + (m - 0xDC00) + 0x10000)) ++
          octets) left

/-- The rest of a string of any octets and any escaped units. -/
inductive Passed : (input left : Bytes) → Prop where
  | close (left : Bytes) : Passed (0x22 :: left) left
  | plain {b : UInt8} {rest left : Bytes} (quote : b ≠ 0x22) (backslash : b ≠ 0x5C)
      (control : ¬ b < 0x20) (more : Passed rest left) : Passed (b :: rest) left
  | letter {e : UInt8} {rest left : Bytes} (escaped : (escaped? e).isSome)
      (more : Passed rest left) : Passed (0x5C :: e :: rest) left
  | unit {h₁ h₂ h₃ h₄ : UInt8} {rest left : Bytes} (hex : (hex4? h₁ h₂ h₃ h₄).isSome)
      (more : Passed rest left) : Passed (0x5C :: 0x75 :: h₁ :: h₂ :: h₃ :: h₄ :: rest) left

/-! ## Numbers -/

inductive Digits : (input left : Bytes) → Prop where
  | none (left : Bytes) : Digits left left
  | more {b : UInt8} {rest left : Bytes} (digit : isDigit b = true) (more : Digits rest left) :
      Digits (b :: rest) left

/-- An integer part: a zero alone, or digits that start with another one. -/
inductive Integral : (input left : Bytes) → Prop where
  | zero (left : Bytes) : Integral (0x30 :: left) left
  | digits {b : UInt8} {rest left : Bytes} (digit : isDigit b = true) (nonzero : b ≠ 0x30)
      (more : Digits rest left) : Integral (b :: rest) left

inductive Fraction : (input left : Bytes) → Prop where
  | absent (left : Bytes) : Fraction left left
  | digits {b : UInt8} {rest left : Bytes} (digit : isDigit b = true) (more : Digits rest left) :
      Fraction (0x2E :: b :: rest) left

inductive Sign : (input left : Bytes) → Prop where
  | absent (left : Bytes) : Sign left left
  | plus (left : Bytes) : Sign (0x2B :: left) left
  | minus (left : Bytes) : Sign (0x2D :: left) left

inductive Exponent : (input left : Bytes) → Prop where
  | absent (left : Bytes) : Exponent left left
  | digits {e b : UInt8} {signed rest left : Bytes} (mark : e = 0x65 ∨ e = 0x45)
      (sign : Sign signed (b :: rest)) (digit : isDigit b = true) (more : Digits rest left) :
      Exponent (e :: signed) left

inductive Number : (input left : Bytes) → Prop where
  | parts {input point exponent left : Bytes} (integral : Integral input point)
      (fraction : Fraction point exponent) (power : Exponent exponent left) : Number input left

/-! ## Values -/

inductive Name : (input left : Bytes) → Prop where
  | spelled {input rest behind left : Bytes} (quote : Blank input (0x22 :: rest))
      (name : Passed rest behind) (colon : Blank behind (0x3A :: left)) : Name input left

mutual

inductive Value : (input left : Bytes) → Prop where
  | null {input left : Bytes} (word : Blank input (0x6E :: 0x75 :: 0x6C :: 0x6C :: left)) :
      Value input left
  | true {input left : Bytes} (word : Blank input (0x74 :: 0x72 :: 0x75 :: 0x65 :: left)) :
      Value input left
  | false {input left : Bytes}
      (word : Blank input (0x66 :: 0x61 :: 0x6C :: 0x73 :: 0x65 :: left)) : Value input left
  | number {input digits left : Bytes} (blank : Blank input digits) (number : Number digits left) :
      Value input left
  | negative {input digits left : Bytes} (minus : Blank input (0x2D :: digits))
      (number : Number digits left) : Value input left
  | string {input rest left : Bytes} (quote : Blank input (0x22 :: rest))
      (passed : Passed rest left) : Value input left
  | list {input rest left : Bytes} (bracket : Blank input (0x5B :: rest))
      (body : ListBody rest left) : Value input left
  | object {input rest left : Bytes} (brace : Blank input (0x7B :: rest))
      (body : ObjectBody rest left) : Value input left

/-- A list from behind its opening bracket. -/
inductive ListBody : (input left : Bytes) → Prop where
  | empty {input left : Bytes} (bracket : Blank input (0x5D :: left)) : ListBody input left
  | filled {input behind left : Bytes} (first : Value input behind) (more : Items behind left) :
      ListBody input left

inductive Items : (input left : Bytes) → Prop where
  | close {input left : Bytes} (bracket : Blank input (0x5D :: left)) : Items input left
  | next {input rest behind left : Bytes} (comma : Blank input (0x2C :: rest))
      (item : Value rest behind) (more : Items behind left) : Items input left

inductive ObjectBody : (input left : Bytes) → Prop where
  | empty {input left : Bytes} (brace : Blank input (0x7D :: left)) : ObjectBody input left
  | filled {input value behind left : Bytes} (name : Name input value)
      (first : Value value behind) (more : Members behind left) : ObjectBody input left

inductive Members : (input left : Bytes) → Prop where
  | close {input left : Bytes} (brace : Blank input (0x7D :: left)) : Members input left
  | next {input rest value behind left : Bytes} (comma : Blank input (0x2C :: rest))
      (name : Name rest value) (member : Value value behind) (more : Members behind left) :
      Members input left

end

def Text (input : Bytes) : Prop := ∃ left, Value input left ∧ Blank left []

end Grammar

open Grammar

/-! ## White space, words and strings -/

theorem blank_skipBlank (input : Bytes) : Blank input (skipBlank input) := by
  induction input with
  | nil => exact .none []
  | cons b rest ih =>
      rw [skipBlank, List.dropWhile_cons]
      split
      · rename_i blank
        exact .more blank ih
      · exact .none _

theorem blank_of_skipBlank {input left : Bytes} (skipped : skipBlank input = left) :
    Blank input left := by
  rw [← skipped]
  exact blank_skipBlank input

theorem Grammar.Blank.trans {input middle left : Bytes} (first : Blank input middle)
    (second : Blank middle left) : Blank input left := by
  induction first with
  | none _ => exact second
  | more blank _ ih => exact .more blank (ih second)

/-- White space in front of a name belongs to it. -/
theorem Grammar.Name.blank {input middle left : Bytes} (name : Name middle left)
    (blank : Blank input middle) : Name input left := by
  cases name with
  | spelled quote name colon => exact .spelled (blank.trans quote) name colon

/-- White space in front of a value belongs to it. -/
theorem Grammar.Value.blank {input middle left : Bytes} (value : Value middle left)
    (blank : Blank input middle) : Value input left := by
  cases value with
  | null word => exact .null (blank.trans word)
  | true word => exact .true (blank.trans word)
  | false word => exact .false (blank.trans word)
  | number first number => exact .number (blank.trans first) number
  | negative minus number => exact .negative (blank.trans minus) number
  | string quote passed => exact .string (blank.trans quote) passed
  | list bracket body => exact .list (blank.trans bracket) body
  | object brace body => exact .object (blank.trans brace) body

theorem digits_dropWhile (input : Bytes) : Digits input (input.dropWhile isDigit) := by
  induction input with
  | nil => exact .none []
  | cons b rest ih =>
      rw [List.dropWhile_cons]
      split
      · rename_i digit
        exact .more digit ih
      · exact .none _

theorem eq_of_readWord {letters input left : Bytes}
    (read : readWord letters input = .ok ((), left)) : input = letters ++ left := by
  induction letters generalizing input with
  | nil =>
      cases read
      rfl
  | cons w letters ih =>
      cases input with
      | nil => cases read
      | cons b rest =>
          rw [readWord] at read
          split at read
          · rename_i same
            rw [same, ih read, List.cons_append]
          · cases read

/-- A string that spells octets can be passed over. -/
theorem Grammar.Spelled.passed {input octets left : Bytes} (spelled : Spelled input octets left) :
    Passed input left := by
  induction spelled with
  | close left => exact .close left
  | plain quote backslash control _ ih => exact .plain quote backslash control ih
  | letter escaped _ ih => exact .letter (by rw [escaped]; rfl) ih
  | unit hex _ _ ih => exact .unit (by rw [hex]; rfl) ih
  | pair first _ second _ _ ih =>
      exact .unit (by rw [first]; rfl) (.unit (by rw [second]; rfl) ih)

theorem skipString_passed {input left : Bytes} (skipped : skipString input = .ok ((), left)) :
    Passed input left := by
  fun_induction skipString input with
  | case2 rest =>
      cases skipped
      exact .close left
  | case5 h₁ h₂ h₃ h₄ rest n hex _ ih => exact .unit (by rw [hex]; rfl) (ih skipped)
  | case7 e rest _ escaped _ ih => exact .letter escaped (ih skipped)
  | case10 b rest quote backslash control ih => exact .plain quote backslash control (ih skipped)
  | _ => cases skipped

theorem reverse_codePoint (n : Nat) (done more : Bytes) :
    (codePointReversed n ++ done).reverse ++ more =
      done.reverse ++ (String.utf8EncodeChar (Char.ofNat n) ++ more) := by
  simp [codePointReversed]

/-- What a reader of strings gathers is what the string spells. -/
theorem scanString_spelled {done input octets left : Bytes}
    (scanned : scanString done input = .ok (octets, left)) :
    ∃ spelled, octets = done.reverse ++ spelled ∧ Spelled input spelled left := by
  fun_induction scanString done input with
  | case2 done rest =>
      cases scanned
      exact ⟨[], (List.append_nil _).symm, .close left⟩
  | case11 done h₁ h₂ h₃ h₄ n first _ leading b backslash b' unicode l₁ l₂ l₃ l₄ rest m second
      trailing point _ ih =>
      obtain rfl : b = 0x5C := Decidable.not_not.1 backslash
      obtain rfl : b' = 0x75 := Decidable.not_not.1 unicode
      obtain ⟨spelled, same, more⟩ := ih scanned
      exact ⟨_, same.trans (reverse_codePoint point done spelled),
        .pair first leading second trailing more⟩
  | case14 done h₁ h₂ h₃ h₄ rest n hex trailing leading _ ih =>
      obtain ⟨spelled, rfl, more⟩ := ih scanned
      have single := And.intro (Bool.eq_false_iff.2 trailing) (Bool.eq_false_iff.2 leading)
      exact ⟨_, reverse_codePoint _ done spelled, .unit hex single more⟩
  | case16 done e rest _ x escaped _ ih =>
      obtain ⟨spelled, rfl, more⟩ := ih scanned
      exact ⟨_, by simp, .letter escaped more⟩
  | case19 done b rest quote backslash control ih =>
      obtain ⟨spelled, rfl, more⟩ := ih scanned
      exact ⟨_, by simp, .plain quote backslash control more⟩
  | _ => cases scanned

/-- A string that is read is spelled by the input. -/
theorem readString_spelled {input left : Bytes} {s : String}
    (read : readString input = .ok (s, left)) : Spelled input (Bytes.ofString s) left := by
  unfold readString at read
  split at read
  · cases read
  · rename_i octets rest scanned
    obtain ⟨spelled, same, more⟩ := scanString_spelled scanned
    split at read
    · rename_i text decoded
      cases read
      rw [Bytes.ofString_of_toString? decoded, same]
      exact more
    · cases read

theorem readColon_blank {input left : Bytes} (read : readColon input = .ok ((), left)) :
    Blank input (0x3A :: left) := by
  unfold readColon at read
  split at read
  · cases read
  · rename_i b rest skipped
    split at read
    · rename_i colon
      cases read
      rw [← colon]
      exact blank_of_skipBlank skipped
    · cases read

/-! ## Numbers -/

theorem exponent_of_mark {input rest left : Bytes} (mark : exponentMark? input = some rest)
    (skipped : skipExponent rest = .ok ((), left)) : Exponent input left := by
  obtain ⟨e, marked, rfl⟩ : ∃ e, (e = 0x65 ∨ e = 0x45) ∧ input = e :: rest := by
    unfold exponentMark? at mark
    split at mark
    · split at mark
      · rename_i marked
        cases mark
        exact ⟨_, marked, rfl⟩
      · cases mark
    · cases mark
  unfold skipExponent at skipped
  dsimp only at skipped
  split at skipped
  · cases skipped
  rename_i b digits written
  have sign : Sign rest (b :: digits) := by
    split at written
    · rw [written]
      exact .plus _
    · rw [written]
      exact .minus _
    · rw [written]
      exact .absent _
  split at skipped
  · rename_i digit
    cases skipped
    exact .digits marked sign digit (digits_dropWhile _)
  · cases skipped

/-- What may follow an integer part: a fraction and an exponent. -/
theorem skipNumberTail_parts {input left : Bytes}
    (skipped : skipNumberTail input = .ok ((), left)) :
    ∃ behind, Fraction input behind ∧ Exponent behind left := by
  unfold skipNumberTail at skipped
  split at skipped
  · unfold skipFraction at skipped
    split at skipped
    · cases skipped
    split at skipped
    · rename_i digit
      refine ⟨_, .digits digit (digits_dropWhile _), ?_⟩
      dsimp only at skipped
      split at skipped
      · rename_i mark
        exact exponent_of_mark mark skipped
      · cases skipped
        exact .absent _
    · cases skipped
  · refine ⟨_, .absent _, ?_⟩
    split at skipped
    · rename_i mark
      exact exponent_of_mark mark skipped
    · cases skipped
      exact .absent _

theorem skipNumber_number {input left : Bytes} (skipped : skipNumber input = .ok ((), left)) :
    Number input left := by
  have number {behind : Bytes} (integral : Integral input behind)
      (skipped : skipNumberTail behind = .ok ((), left)) : Number input left := by
    obtain ⟨_, fraction, power⟩ := skipNumberTail_parts skipped
    exact .parts integral fraction power
  unfold skipNumber at skipped
  split at skipped
  · cases skipped
  split at skipped
  · rename_i zero
    subst zero
    split at skipped
    · split at skipped
      · cases skipped
      · exact number (.zero _) skipped
    · exact number (.zero _) skipped
  · rename_i nonzero
    split at skipped
    · rename_i digit
      exact number (.digits digit nonzero (digits_dropWhile _)) skipped
    · cases skipped

/-! ## Values -/

theorem skipScalar?_value {input rest left : Bytes} {b : UInt8} (blank : Blank input (b :: rest))
    (skipped : skipScalar? b rest = some (.ok ((), left))) : Value input left := by
  unfold skipScalar? at skipped
  split at skipped
  · rename_i same
    rw [same, eq_of_readWord (Option.some.inj skipped)] at blank
    exact .null blank
  split at skipped
  · rename_i same
    rw [same, eq_of_readWord (Option.some.inj skipped)] at blank
    exact .true blank
  split at skipped
  · rename_i same
    rw [same, eq_of_readWord (Option.some.inj skipped)] at blank
    exact .false blank
  split at skipped
  · rename_i same
    rw [same] at blank
    exact .negative blank (skipNumber_number (Option.some.inj skipped))
  split at skipped
  · exact .number blank (skipNumber_number (Option.some.inj skipped))
  split at skipped
  · rename_i same
    rw [same] at blank
    exact .string blank (skipString_passed (Option.some.inj skipped))
  · cases skipped

theorem skipName_name {input left : Bytes} (skipped : skipName input = .ok ((), left)) :
    Name input left := by
  unfold skipName at skipped
  split at skipped
  · cases skipped
  rename_i b rest blank
  split at skipped
  · rename_i quote
    split at skipped
    · cases skipped
    · rename_i behind passed
      rw [quote] at blank
      exact .spelled (blank_of_skipBlank blank) (skipString_passed passed) (readColon_blank skipped)
  · cases skipped

/-- What is still to come behind a value inside open containers, innermost first. -/
inductive Closes : List Bracket → (input left : Bytes) → Prop where
  | all (left : Bytes) : Closes [] left left
  | list {outer : List Bracket} {input behind left : Bytes} (items : Items input behind)
      (closes : Closes outer behind left) : Closes (.list :: outer) input left
  | object {outer : List Bracket} {input behind left : Bytes} (members : Members input behind)
      (closes : Closes outer behind left) : Closes (.object :: outer) input left

/-- What is still to come at a stage of a passage. -/
def Stage.Demands : Stage → List Bracket → (input left : Bytes) → Prop
  | .value, open_, input, left => ∃ behind, Value input behind ∧ Closes open_ behind left
  | .opened, [], input, left => input = left
  | .opened, .list :: outer, input, left =>
      ∃ behind, ListBody input behind ∧ Closes outer behind left
  | .opened, .object :: outer, input, left =>
      ∃ behind, ObjectBody input behind ∧ Closes outer behind left
  | .closed, open_, input, left => Closes open_ input left

/-- What was passed over is what was still to come. -/
theorem skipFrom_demands {fuel : Nat} {stage : Stage} {open_ : List Bracket} {input left : Bytes}
    (skipped : skipFrom fuel stage open_ input = .ok ((), left)) :
    stage.Demands open_ input left := by
  fun_induction skipFrom fuel stage open_ input with
  | case3 fuel open_ input rest bracket ih =>
      obtain ⟨behind, body, closes⟩ := ih skipped
      exact ⟨behind, .list (blank_of_skipBlank bracket) body, closes⟩
  | case4 fuel open_ input rest brace _ ih =>
      obtain ⟨behind, body, closes⟩ := ih skipped
      exact ⟨behind, .object (blank_of_skipBlank brace) body, closes⟩
  | case7 fuel open_ input b rest blank _ _ _ behind scalar ih =>
      exact ⟨behind, skipScalar?_value (blank_of_skipBlank blank) scalar, ih skipped⟩
  | case8 fuel input =>
      cases skipped
      exact rfl
  | case10 fuel outer input rest bracket ih =>
      exact ⟨rest, .empty (blank_of_skipBlank bracket), ih skipped⟩
  | case11 fuel outer input b rest blank _ ih =>
      obtain ⟨behind, first, closes⟩ := ih skipped
      cases closes with
      | list items closes =>
          exact ⟨_, .filled (first.blank (blank_of_skipBlank blank)) items, closes⟩
  | case13 fuel outer input rest brace ih =>
      exact ⟨rest, .empty (blank_of_skipBlank brace), ih skipped⟩
  | case15 fuel outer input b rest blank _ _ value named ih =>
      obtain ⟨behind, first, closes⟩ := ih skipped
      cases closes with
      | object members closes =>
          have name := (skipName_name named).blank (blank_of_skipBlank blank)
          exact ⟨_, .filled name first members, closes⟩
  | case16 fuel input =>
      cases skipped
      exact .all left
  | case18 fuel outer input rest comma ih =>
      obtain ⟨behind, item, closes⟩ := ih skipped
      cases closes with
      | list items closes => exact .list (.next (blank_of_skipBlank comma) item items) closes
  | case19 fuel outer input rest bracket _ ih =>
      exact .list (.close (blank_of_skipBlank bracket)) (ih skipped)
  | case23 fuel outer input rest _ value named comma ih =>
      obtain ⟨behind, member, closes⟩ := ih skipped
      cases closes with
      | object members closes =>
          exact .object (.next (blank_of_skipBlank comma) (skipName_name named) member members)
            closes
  | case24 fuel outer input rest brace _ ih =>
      exact .object (.close (blank_of_skipBlank brace)) (ih skipped)
  | _ => cases skipped

/-- **What is passed over is a value.** -/
theorem skipValue_value {input left : Bytes} (skipped : skipValue input = .ok ((), left)) :
    Value input left := by
  obtain ⟨behind, value, closes⟩ := skipFrom_demands skipped
  cases closes
  exact value

end SessionAuthority.Json

import SessionAuthority.Json.Read
import SessionAuthority.Proofs.Json.Numbers
import SessionAuthority.Proofs.Json.Strings

/-!
# Values are read as they are written

`parse_render`: the compact text of a value is read back as that very value, members in the order
they stood in, provided its numbers are integers of 64 bits (`isIntegral`) and it nests no deeper
than the reader goes (`depth`).  No other restriction is put on texts, names or size.

The induction is on the value, with the rest of the input, the fuel and the containers that may
still be opened left free.  Fuel enters only through the length of what is written, three calls an
octet.
-/
set_option autoImplicit false

namespace SessionAuthority.Json

mutual

/-- How many containers are open at once inside a value, itself included. -/
def depth : Json → Nat
  | .array items => itemsDepth items + 1
  | .object members => membersDepth members + 1
  | _ => 0

def itemsDepth : List Json → Nat
  | [] => 0
  | v :: rest => max v.depth (itemsDepth rest)

def membersDepth : List (String × Json) → Nat
  | [] => 0
  | (_, v) :: rest => max v.depth (membersDepth rest)

end

mutual

/-- Whether every number, at any depth, is an integer of 64 bits, with sign or without. -/
def isIntegral : Json → Bool
  | .int i => -0x8000000000000000 ≤ i ∧ i ≤ 0xFFFFFFFFFFFFFFFF
  | .float _ => false
  | .array items => itemsIntegral items
  | .object members => membersIntegral members
  | _ => true

def itemsIntegral : List Json → Bool
  | [] => true
  | v :: rest => v.isIntegral && itemsIntegral rest

def membersIntegral : List (String × Json) → Bool
  | [] => true
  | (_, v) :: rest => v.isIntegral && membersIntegral rest

end

/-! ## Scalars -/

theorem skipBlank_cons {b : UInt8} (solid : isBlank b = false) (rest : Bytes) :
    skipBlank (b :: rest) = b :: rest := by
  simp [skipBlank, solid]

theorem ne_of_isDigit {b c : UInt8} (digit : isDigit b = true) (other : isDigit c = false) :
    b ≠ c := by
  rintro rfl
  rw [digit] at other
  cases other

theorem solid_of_isDigit {b : UInt8} (digit : isDigit b = true) : isBlank b = false := by
  have away := fun c other => beq_eq_false_iff_ne.2 (ne_of_isDigit (c := c) digit other)
  rw [isBlank, away 0x20 (by decide), away 0x0A (by decide), away 0x0D (by decide),
    away 0x09 (by decide)]
  rfl

theorem readValue_digit {b : UInt8} (digit : isDigit b = true) (fuel depth : Nat) (rest : Bytes) :
    readValue (fuel + 1) depth (b :: rest) = readNumber true (b :: rest) := by
  have away := fun c other => ne_of_isDigit (c := c) digit other
  rw [readValue.eq_def]
  simp only [skipBlank_cons (solid_of_isDigit digit), away 0x6E (by decide), away 0x74 (by decide),
    away 0x66 (by decide), away 0x2D (by decide), digit, if_true, if_false]

theorem readValue_minus (fuel depth : Nat) (rest : Bytes) :
    readValue (fuel + 1) depth (0x2D :: rest) = readNumber false rest := by
  rw [readValue.eq_def]
  simp [skipBlank, isBlank]

theorem readValue_null (fuel depth : Nat) (rest : Bytes) :
    readValue (fuel + 1) depth (render .null ++ rest) = .ok (.null, rest) := by
  rw [readValue.eq_def]
  simp [render, skipBlank, isBlank, readWord, Except.map]

theorem readValue_bool (b : Bool) (fuel depth : Nat) (rest : Bytes) :
    readValue (fuel + 1) depth (render (.bool b) ++ rest) = .ok (.bool b, rest) := by
  rw [readValue.eq_def]
  cases b <;> simp [render, skipBlank, isBlank, readWord, Except.map]

theorem readValue_int {i : Int} (low : -0x8000000000000000 ≤ i) (high : i ≤ 0xFFFFFFFFFFFFFFFF)
    {rest : Bytes} (ends : Ends rest) (fuel depth : Nat) :
    readValue (fuel + 1) depth (render (.int i) ++ rest) = .ok (.int i, rest) := by
  cases i with
  | ofNat n =>
      obtain ⟨b, tail, written, digit⟩ := head_toDigits n
      have fits : n ≤ wordMax := Int.ofNat_le.1 high
      rw [render, renderInt, written, List.cons_append, readValue_digit digit, ← List.cons_append,
        ← written, readNumber_toDigits true ends fits]
      rfl
  | negSucc n =>
      have fits : n < 0x8000000000000000 := by omega
      rw [render, renderInt, List.cons_append, readValue_minus,
        readNumber_toDigits false ends (by simp only [wordMax]; omega),
        closeInteger_negative fits]

theorem readValue_str (s : String) (fuel depth : Nat) (rest : Bytes) :
    readValue (fuel + 1) depth (render (.str s) ++ rest) = .ok (.str s, rest) := by
  rw [render, renderString_eq, readValue.eq_def]
  simp [skipBlank, isBlank, isDigit, readString_escaped, Except.map]

/-! ## Containers -/

theorem readValue_array (fuel depth : Nat) (rest : Bytes) :
    readValue (fuel + 1) (depth + 1) (0x5B :: rest) = readItems fuel depth [] true rest := by
  rw [readValue.eq_def]
  simp [skipBlank, isBlank, isDigit]

theorem readValue_object (fuel depth : Nat) (rest : Bytes) :
    readValue (fuel + 1) (depth + 1) (0x7B :: rest) = readMembers fuel depth [] true rest := by
  rw [readValue.eq_def]
  simp [skipBlank, isBlank, isDigit]

/-- What a value starts with is neither white space nor the end of a list. -/
theorem head_render (v : Json) (integral : v.isIntegral = true) :
    ∃ b tail, render v = b :: tail ∧ isBlank b = false ∧ b ≠ 0x5D := by
  cases v with
  | null => exact ⟨_, _, rfl, by decide, by decide⟩
  | bool b => cases b <;> exact ⟨_, _, rfl, by decide, by decide⟩
  | int i =>
      rw [render]
      cases i with
      | ofNat n =>
          obtain ⟨b, tail, written, digit⟩ := head_toDigits n
          exact ⟨b, tail, written, solid_of_isDigit digit, ne_of_isDigit digit (by decide)⟩
      | negSucc n => exact ⟨_, _, rfl, by decide, by decide⟩
  | float bits => cases integral
  | str s => exact ⟨_, _, by rw [render, renderString]; rfl, by decide, by decide⟩
  | array items =>
      cases items <;> rw [render] <;> exact ⟨0x5B, _, rfl, by decide, by decide⟩
  | object members =>
      rcases members with _ | ⟨⟨_, _⟩, _⟩ <;> rw [render] <;>
        exact ⟨0x7B, _, rfl, by decide, by decide⟩

theorem ends_renderItems (items : List Json) (rest : Bytes) : Ends (renderItems items ++ rest) := by
  cases items <;> exact ⟨by decide, by decide, by decide, by decide⟩

theorem ends_renderMembers (members : List (String × Json)) (rest : Bytes) :
    Ends (renderMembers members ++ rest) := by
  rcases members with _ | ⟨⟨_, _⟩, _⟩ <;> exact ⟨by decide, by decide, by decide, by decide⟩

theorem readItems_close (fuel depth : Nat) (done : List Json) (first : Bool) (rest : Bytes) :
    readItems (fuel + 1) depth done first (0x5D :: rest) = .ok (.array done.reverse, rest) := by
  rw [readItems.eq_def]
  simp [skipBlank, isBlank]

theorem readMembers_close (fuel depth : Nat) (done : List (String × Json)) (first : Bool)
    (rest : Bytes) :
    readMembers (fuel + 1) depth done first (0x7D :: rest) = .ok (.object done.reverse, rest) := by
  rw [readMembers.eq_def]
  simp [skipBlank, isBlank]

theorem readItems_first {fuel depth : Nat} {v : Json} (integral : v.isIntegral = true)
    {input rest : Bytes} (read : readValue fuel depth (render v ++ input) = .ok (v, rest)) :
    readItems (fuel + 1) depth [] true (render v ++ input) =
      readItems fuel depth [v] false rest := by
  obtain ⟨b, tail, written, solid, notEnd⟩ := head_render v integral
  rw [written] at read ⊢
  rw [List.cons_append] at read ⊢
  rw [readItems.eq_def]
  simp only [skipBlank_cons solid, notEnd, read, if_true, if_false]

theorem readItems_next {fuel depth : Nat} {v : Json} (integral : v.isIntegral = true)
    {input rest : Bytes} (read : readValue fuel depth (render v ++ input) = .ok (v, rest))
    (done : List Json) :
    readItems (fuel + 1) depth done false (0x2C :: (render v ++ input)) =
      readItems fuel depth (v :: done) false rest := by
  obtain ⟨b, tail, written, solid, notEnd⟩ := head_render v integral
  rw [written] at read ⊢
  rw [List.cons_append] at read ⊢
  rw [readItems.eq_def]
  simp [skipBlank_cons (b := 0x2C) (by decide), skipBlank_cons solid, notEnd, read]

theorem readMember_render {fuel depth : Nat} {v : Json} {name : String} {input rest : Bytes}
    (read : readValue fuel depth (render v ++ input) = .ok (v, rest)) :
    readMember (fuel + 1) depth
        ((Bytes.ofString name).flatMap escapeOctet ++ 0x22 :: 0x3A :: (render v ++ input)) =
      .ok ((name, v), rest) := by
  have colon : readColon (0x3A :: (render v ++ input)) = .ok ((), render v ++ input) := by
    simp [readColon, skipBlank, isBlank]
  rw [readMember.eq_def]
  simp only [readString_escaped, colon, read, Except.map]

theorem readMembers_first {fuel depth : Nat} {v : Json} {name : String} {input rest : Bytes}
    (read : readValue fuel depth (render v ++ input) = .ok (v, rest)) :
    readMembers (fuel + 2) depth [] true (renderString name ++ 0x3A :: (render v ++ input)) =
      readMembers (fuel + 1) depth [(name, v)] false rest := by
  rw [renderString_eq, readMembers.eq_def]
  simp [skipBlank_cons (b := 0x22) (by decide), readMember_render read]

theorem readMembers_next {fuel depth : Nat} {v : Json} {name : String} {input rest : Bytes}
    (read : readValue fuel depth (render v ++ input) = .ok (v, rest))
    (done : List (String × Json)) :
    readMembers (fuel + 2) depth done false
        (0x2C :: (renderString name ++ 0x3A :: (render v ++ input))) =
      readMembers (fuel + 1) depth ((name, v) :: done) false rest := by
  rw [renderString_eq, readMembers.eq_def]
  simp [skipBlank_cons (b := 0x2C) (by decide), skipBlank_cons (b := 0x22) (by decide),
    readMember_render read]

/-! ## Values -/

mutual

/-- **A written value is read back**, whatever follows it. -/
theorem readValue_render : ∀ (v : Json) (fuel levels : Nat) (rest : Bytes),
    v.isIntegral = true → v.depth ≤ levels → 3 * (render v).length ≤ fuel → Ends rest →
      readValue fuel levels (render v ++ rest) = .ok (v, rest)
  | v, 0, _, _, integral, _, fuelled, _ => by
      obtain ⟨b, tail, written, -⟩ := head_render v integral
      rw [written, List.length_cons] at fuelled
      omega
  | .null, fuel + 1, levels, rest, _, _, _, _ => readValue_null fuel levels rest
  | .bool b, fuel + 1, levels, rest, _, _, _, _ => readValue_bool b fuel levels rest
  | .int i, fuel + 1, levels, rest, integral, _, _, ends => by
      simp only [isIntegral, decide_eq_true_eq] at integral
      exact readValue_int integral.1 integral.2 ends fuel levels
  | .float bits, _ + 1, _, _, integral, _, _, _ => by cases integral
  | .str s, fuel + 1, levels, rest, _, _, _, _ => readValue_str s fuel levels rest
  | .array items, fuel + 1, levels, rest, integral, deep, fuelled, ends => by
      rw [depth] at deep
      obtain ⟨levels, rfl⟩ : ∃ inner, levels = inner + 1 := ⟨levels - 1, by omega⟩
      cases items with
      | nil =>
          simp only [render, List.length_cons, List.length_nil] at fuelled
          obtain ⟨fuel, rfl⟩ : ∃ less, fuel = less + 1 := ⟨fuel - 1, by omega⟩
          simp only [render, List.cons_append, List.nil_append]
          rw [readValue_array, readItems_close]
          rfl
      | cons v items =>
          simp only [isIntegral, itemsIntegral, Bool.and_eq_true] at integral
          simp only [itemsDepth] at deep
          simp only [render, List.length_cons, List.length_append] at fuelled
          obtain ⟨fuel, rfl⟩ : ∃ less, fuel = less + 1 := ⟨fuel - 1, by omega⟩
          have read := readValue_render v fuel levels (renderItems items ++ rest) integral.1
            (by omega) (by omega) (ends_renderItems items rest)
          have written : render (.array (v :: items)) ++ rest =
              0x5B :: (render v ++ (renderItems items ++ rest)) := by
            simp [render]
          rw [written, readValue_array, readItems_first integral.1 read,
            readItems_render items fuel levels [v] rest integral.2 (by omega) (by omega)]
          rfl
  | .object members, fuel + 1, levels, rest, integral, deep, fuelled, ends => by
      rw [depth] at deep
      obtain ⟨levels, rfl⟩ : ∃ inner, levels = inner + 1 := ⟨levels - 1, by omega⟩
      rcases members with _ | ⟨⟨name, v⟩, members⟩
      · simp only [render, List.length_cons, List.length_nil] at fuelled
        obtain ⟨fuel, rfl⟩ : ∃ less, fuel = less + 1 := ⟨fuel - 1, by omega⟩
        simp only [render, List.cons_append, List.nil_append]
        rw [readValue_object, readMembers_close]
        rfl
      · simp only [isIntegral, membersIntegral, Bool.and_eq_true] at integral
        simp only [membersDepth] at deep
        simp only [render, List.length_cons, List.length_append] at fuelled
        obtain ⟨fuel, rfl⟩ : ∃ less, fuel = less + 2 := ⟨fuel - 2, by omega⟩
        have read := readValue_render v fuel levels (renderMembers members ++ rest) integral.1
          (by omega) (by omega) (ends_renderMembers members rest)
        have written : render (.object ((name, v) :: members)) ++ rest =
            0x7B :: (renderString name ++ 0x3A ::
              (render v ++ (renderMembers members ++ rest))) := by
          simp [render]
        rw [written, readValue_object, readMembers_first read,
          readMembers_render members (fuel + 1) levels [(name, v)] rest integral.2 (by omega)
            (by omega)]
        rfl

/-- The items behind the first are read back, with the closing bracket. -/
theorem readItems_render : ∀ (items : List Json) (fuel levels : Nat) (done : List Json)
    (rest : Bytes), itemsIntegral items = true → itemsDepth items ≤ levels →
      3 * (renderItems items).length ≤ fuel →
      readItems fuel levels done false (renderItems items ++ rest) =
        .ok (.array (done.reverse ++ items), rest)
  | [], 0, _, _, _, _, _, fuelled => by simp [renderItems] at fuelled
  | [], fuel + 1, levels, done, rest, _, _, _ => by
      simp only [renderItems, List.cons_append, List.nil_append, List.append_nil]
      exact readItems_close fuel levels done false rest
  | v :: items, fuel, levels, done, rest, integral, deep, fuelled => by
      simp only [itemsIntegral, Bool.and_eq_true] at integral
      simp only [itemsDepth] at deep
      simp only [renderItems, List.length_cons, List.length_append] at fuelled
      obtain ⟨fuel, rfl⟩ : ∃ less, fuel = less + 1 := ⟨fuel - 1, by omega⟩
      have read := readValue_render v fuel levels (renderItems items ++ rest) integral.1
        (by omega) (by omega) (ends_renderItems items rest)
      have written : renderItems (v :: items) ++ rest =
          0x2C :: (render v ++ (renderItems items ++ rest)) := by
        simp [renderItems]
      rw [written, readItems_next integral.1 read done,
        readItems_render items fuel levels (v :: done) rest integral.2 (by omega) (by omega)]
      simp

/-- The members behind the first are read back, with the closing brace. -/
theorem readMembers_render : ∀ (members : List (String × Json)) (fuel levels : Nat)
    (done : List (String × Json)) (rest : Bytes), membersIntegral members = true →
      membersDepth members ≤ levels → 3 * (renderMembers members).length ≤ fuel →
      readMembers fuel levels done false (renderMembers members ++ rest) =
        .ok (.object (done.reverse ++ members), rest)
  | [], 0, _, _, _, _, _, fuelled => by simp [renderMembers] at fuelled
  | [], fuel + 1, levels, done, rest, _, _, _ => by
      simp only [renderMembers, List.cons_append, List.nil_append, List.append_nil]
      exact readMembers_close fuel levels done false rest
  | (name, v) :: members, fuel, levels, done, rest, integral, deep, fuelled => by
      simp only [membersIntegral, Bool.and_eq_true] at integral
      simp only [membersDepth] at deep
      simp only [renderMembers, List.length_cons, List.length_append] at fuelled
      obtain ⟨fuel, rfl⟩ : ∃ less, fuel = less + 2 := ⟨fuel - 2, by omega⟩
      have read := readValue_render v fuel levels (renderMembers members ++ rest) integral.1
        (by omega) (by omega) (ends_renderMembers members rest)
      have written : renderMembers ((name, v) :: members) ++ rest =
          0x2C :: (renderString name ++ 0x3A :: (render v ++ (renderMembers members ++ rest))) := by
        simp [renderMembers]
      rw [written, readMembers_next read done,
        readMembers_render members (fuel + 1) levels ((name, v) :: done) rest integral.2
          (by omega) (by omega)]
      simp

end

/-- **A whole text is read back as the value that it writes.** -/
theorem parse_render {v : Json} (integral : v.isIntegral = true) (deep : v.depth ≤ nesting) :
    parse (render v) = .ok v := by
  have read := readValue_render v (fuelFor (render v)) nesting [] integral deep
    (by simp only [fuelFor]; omega) trivial
  rw [List.append_nil] at read
  rw [parse, read]
  rfl

end SessionAuthority.Json

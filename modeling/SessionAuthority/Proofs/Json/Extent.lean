import SessionAuthority.Json.Canonical
import SessionAuthority.Proofs.Json.RoundTrip

/-!
# What a text can hold

A value that was read has come through the limits of its reader: an integer has 64 bits, and no
more containers are open at once than the reader opens (`parse_within`).  Sorting members does not
change that (`Within.canonical`).  So a value that was read is one that can be written and read
again, unless a number in it is a double (`Within.isIntegral`, `Within.depth_le`).
-/
set_option autoImplicit false

namespace SessionAuthority.Json

/-- Integers are of 64 bits, and at most so many containers are open at once. -/
inductive Within : (levels : Nat) → Json → Prop where
  | null (levels : Nat) : Within levels .null
  | bool (levels : Nat) (b : Bool) : Within levels (.bool b)
  | int (levels : Nat) {i : Int} (low : -0x8000000000000000 ≤ i)
      (high : i ≤ 0xFFFFFFFFFFFFFFFF) : Within levels (.int i)
  | float (levels : Nat) (bits : UInt64) : Within levels (.float bits)
  | str (levels : Nat) (s : String) : Within levels (.str s)
  | array {levels : Nat} {items : List Json} (all : ∀ v ∈ items, Within levels v) :
      Within (levels + 1) (.array items)
  | object {levels : Nat} {members : List (String × Json)}
      (all : ∀ m ∈ members, Within levels m.2) : Within (levels + 1) (.object members)

inductive Whole : Json → Prop where
  | null : Whole .null
  | bool (b : Bool) : Whole (.bool b)
  | int (i : Int) : Whole (.int i)
  | str (s : String) : Whole (.str s)
  | array {items : List Json} (all : ∀ v ∈ items, Whole v) : Whole (.array items)
  | object {members : List (String × Json)} (all : ∀ m ∈ members, Whole m.2) :
      Whole (.object members)

/-! ## From limits to what can be written -/

mutual

theorem Within.depth_le {levels : Nat} : ∀ {v : Json}, v.Within levels → v.depth ≤ levels
  | .null, _ | .bool _, _ | .int _, _ | .float _, _ | .str _, _ => Nat.zero_le _
  | .array _, .array all => Nat.succ_le_succ (itemsDepth_le all)
  | .object _, .object all => Nat.succ_le_succ (membersDepth_le all)

theorem itemsDepth_le {levels : Nat} : ∀ {items : List Json},
    (∀ v ∈ items, v.Within levels) → itemsDepth items ≤ levels
  | [], _ => Nat.zero_le _
  | first :: _, all => Nat.max_le.2 ⟨(all first List.mem_cons_self).depth_le,
      itemsDepth_le fun v member => all v (List.mem_cons_of_mem _ member)⟩

theorem membersDepth_le {levels : Nat} : ∀ {members : List (String × Json)},
    (∀ m ∈ members, m.2.Within levels) → membersDepth members ≤ levels
  | [], _ => Nat.zero_le _
  | (name, first) :: _, all =>
      have here := all (name, first) List.mem_cons_self
      Nat.max_le.2 ⟨here.depth_le,
        membersDepth_le fun m member => all m (List.mem_cons_of_mem _ member)⟩

end

mutual

theorem Within.isIntegral {levels : Nat} : ∀ {v : Json}, v.Within levels → v.Whole →
    v.isIntegral = true
  | .null, _, _ | .bool _, _, _ | .str _, _, _ => rfl
  | .int _, .int _ low high, _ => by
      rw [Json.isIntegral, decide_eq_true_eq]
      exact ⟨low, high⟩
  | .array _, .array all, .array whole => itemsIntegral_of_whole all whole
  | .object _, .object all, .object whole => membersIntegral_of_whole all whole

theorem itemsIntegral_of_whole {levels : Nat} : ∀ {items : List Json},
    (∀ v ∈ items, v.Within levels) → (∀ v ∈ items, v.Whole) → itemsIntegral items = true
  | [], _, _ => rfl
  | first :: rest, all, whole => by
      have here := (all first List.mem_cons_self).isIntegral (whole first List.mem_cons_self)
      have later := itemsIntegral_of_whole
        (fun v member => all v (List.mem_cons_of_mem _ member))
        (fun v member => whole v (List.mem_cons_of_mem _ member))
      rw [itemsIntegral, here, later, Bool.and_self]

theorem membersIntegral_of_whole {levels : Nat} : ∀ {members : List (String × Json)},
    (∀ m ∈ members, m.2.Within levels) → (∀ m ∈ members, m.2.Whole) →
      membersIntegral members = true
  | [], _, _ => rfl
  | (name, first) :: rest, all, whole => by
      have here : first.isIntegral = true :=
        (all (name, first) List.mem_cons_self).isIntegral (whole (name, first) List.mem_cons_self)
      have later := membersIntegral_of_whole
        (fun m member => all m (List.mem_cons_of_mem _ member))
        (fun m member => whole m (List.mem_cons_of_mem _ member))
      rw [membersIntegral, here, later, Bool.and_self]

end

mutual

/-- Sorting members keeps to the limits. -/
theorem Within.canonical {levels : Nat} : ∀ {v : Json}, v.Within levels →
    v.canonical.Within levels
  | .null, limits | .bool _, limits | .int _, limits | .float _, limits | .str _, limits => limits
  | .array _, .array all => .array (canonicalItems_within all)
  | .object _, .object all =>
      .object fun m kept => canonicalMembers_within all m (mem_of_mem_sortMembers kept)

theorem canonicalItems_within {levels : Nat} : ∀ {items : List Json},
    (∀ v ∈ items, v.Within levels) → ∀ v ∈ canonicalItems items, v.Within levels
  | [], _, _, member => absurd member List.not_mem_nil
  | first :: rest, all, v, member => by
      rcases List.mem_cons.1 member with rfl | later
      · exact (all first List.mem_cons_self).canonical
      · exact canonicalItems_within (fun v member => all v (List.mem_cons_of_mem _ member)) v later

theorem canonicalMembers_within {levels : Nat} : ∀ {members : List (String × Json)},
    (∀ m ∈ members, m.2.Within levels) → ∀ m ∈ canonicalMembers members, m.2.Within levels
  | [], _, _, member => absurd member List.not_mem_nil
  | (name, first) :: rest, all, m, member => by
      rcases List.mem_cons.1 member with rfl | later
      · exact Within.canonical (all (name, first) List.mem_cons_self)
      · exact canonicalMembers_within (fun m member => all m (List.mem_cons_of_mem _ member)) m
          later

end

/-! ## Readers -/

/-- What is read, if anything is, has the property. -/
def Yields {α : Type} (P : α → Prop) : Reading α → Prop
  | .ok (a, _) => P a
  | .error _ => True

section Yields

variable {α β : Type} {P : α → Prop}

theorem Yields.holds {r : Reading α} (yields : Yields P r) {a : α} {rest : Bytes}
    (read : r = .ok (a, rest)) : P a := by
  rw [read] at yields
  exact yields

theorem yields_map {r : Reading β} {f : β × Bytes → α × Bytes}
    (gives : ∀ b rest, r = .ok (b, rest) → P (f (b, rest)).1) : Yields P (r.map f) := by
  cases r with
  | error e => trivial
  | ok got => exact gives got.1 got.2 rfl

end Yields

/-! ## Numbers -/

theorem finish_within (levels : Nat) (positive : Bool) (significand : Nat) (exponent : Int)
    (rest : Bytes) : Yields (Within levels) (finish positive significand exponent rest) := by
  unfold finish
  split
  · exact Within.float levels _
  · exact trivial

theorem readExponentDigits_within (levels : Nat) (positive positiveExponent : Bool)
    (significand : Nat) (start : Int) (exponent : Nat) (input : Bytes) :
    Yields (Within levels)
      (readExponentDigits positive positiveExponent significand start exponent input) := by
  induction input generalizing exponent with
  | nil => exact finish_within ..
  | cons b rest ih =>
      unfold readExponentDigits
      split
      · dsimp only
        split
        · split
          · exact trivial
          · exact Within.float levels _
        · exact ih _
      · exact finish_within ..

theorem readExponent_within (levels : Nat) (positive : Bool) (significand : Nat) (start : Int)
    (input : Bytes) : Yields (Within levels) (readExponent positive significand start input) := by
  unfold readExponent
  dsimp only
  split
  · exact trivial
  · split
    · exact readExponentDigits_within ..
    · exact trivial

theorem closeDouble_within (levels : Nat) (positive : Bool) (significand : Nat) (exponent : Int)
    (input : Bytes) : Yields (Within levels) (closeDouble positive significand exponent input) := by
  unfold closeDouble
  split
  · exact readExponent_within ..
  · exact finish_within ..

theorem readFraction_close_within (levels : Nat) (positive : Bool) (start : Int)
    (significand count : Nat) (input : Bytes) :
    Yields (Within levels) (readFraction.close positive start significand count input) := by
  unfold readFraction.close
  split
  · split <;> exact trivial
  · exact closeDouble_within ..

theorem readFraction_within (levels : Nat) (positive : Bool) (start : Int)
    (significand count : Nat) (input : Bytes) :
    Yields (Within levels) (readFraction positive start significand count input) := by
  induction input generalizing significand count with
  | nil => exact readFraction_close_within ..
  | cons b rest ih =>
      unfold readFraction
      split
      · dsimp only
        split
        · exact closeDouble_within ..
        · exact ih _ _
      · exact readFraction_close_within ..

theorem readLongInteger_within (levels : Nat) (positive : Bool) (significand dropped : Nat)
    (input : Bytes) :
    Yields (Within levels) (readLongInteger positive significand dropped input) := by
  induction input generalizing dropped with
  | nil => exact closeDouble_within ..
  | cons b rest ih =>
      unfold readLongInteger
      split
      · exact ih _
      split
      · exact readFraction_within ..
      · exact closeDouble_within ..

/-- An integer that is kept as one has 64 bits. -/
theorem closeInteger_within (levels : Nat) (positive : Bool) {significand : Nat}
    (fits : significand ≤ wordMax) (rest : Bytes) :
    Yields (Within levels) (closeInteger positive significand rest) := by
  unfold closeInteger
  simp only [wordMax] at fits
  split
  · exact Within.int levels (by omega) (by omega)
  split
  · exact finish_within ..
  · exact Within.int levels (by omega) (by omega)

theorem readInteger_within (levels : Nat) (positive : Bool) {significand : Nat}
    (fits : significand ≤ wordMax) (input : Bytes) :
    Yields (Within levels) (readInteger positive significand input) := by
  induction input generalizing significand with
  | nil => exact closeInteger_within levels positive fits []
  | cons b rest ih =>
      unfold readInteger
      split
      · dsimp only
        split
        · exact readLongInteger_within ..
        · rename_i low
          exact ih (Nat.not_lt.1 low)
      split
      · exact readFraction_within ..
      split
      · exact readExponent_within ..
      · exact closeInteger_within levels positive fits _

theorem digitValue_le_wordMax (b : UInt8) : digitValue b ≤ wordMax := by
  have octet := b.toNat_lt
  simp only [digitValue, wordMax]
  omega

theorem readNumber_within (levels : Nat) (positive : Bool) (input : Bytes) :
    Yields (Within levels) (readNumber positive input) := by
  unfold readNumber
  split
  · exact trivial
  split
  · split
    · split
      · exact trivial
      · exact readInteger_within levels positive (Nat.zero_le _) _
    · exact readInteger_within levels positive (Nat.zero_le _) _
  split
  · exact readInteger_within levels positive (digitValue_le_wordMax _) _
  · exact trivial

/-! ## Values -/

mutual

/-- A value that is read keeps to the limits of its reader. -/
theorem readValue_within : ∀ (fuel levels : Nat) (input : Bytes),
    Yields (Within levels) (readValue fuel levels input)
  | 0, _, _ => trivial
  | fuel + 1, levels, input => by
      rw [readValue.eq_def]
      dsimp only
      split
      · trivial
      rename_i b rest _
      split
      · exact yields_map fun _ _ _ => .null levels
      split
      · exact yields_map fun _ _ _ => .bool levels true
      split
      · exact yields_map fun _ _ _ => .bool levels false
      split
      · exact readNumber_within levels false rest
      split
      · exact readNumber_within levels true (b :: rest)
      split
      · exact yields_map fun s _ _ => .str levels s
      split
      · cases levels with
        | zero => trivial
        | succ levels => exact readItems_within fuel levels [] true rest (by simp)
      split
      · cases levels with
        | zero => trivial
        | succ levels => exact readMembers_within fuel levels [] true rest (by simp)
      · trivial

/-- A list that is read opens one container more than what stands in it. -/
theorem readItems_within : ∀ (fuel levels : Nat) (done : List Json) (first : Bool)
    (input : Bytes), (∀ v ∈ done, v.Within levels) →
    Yields (Within (levels + 1)) (readItems fuel levels done first input)
  | 0, _, _, _, _, _ => trivial
  | fuel + 1, levels, done, first, input, all => by
      have item (input : Bytes) : Yields (Within (levels + 1))
          (match readValue fuel levels input with
            | .error f => .error f
            | .ok (v, rest) => readItems fuel levels (v :: done) false rest) := by
        have within := readValue_within fuel levels input
        split
        · trivial
        · rename_i v rest read
          exact readItems_within fuel levels (v :: done) false rest
            (List.forall_mem_cons.2 ⟨within.holds read, all⟩)
      rw [readItems.eq_def]
      dsimp only
      split
      · trivial
      split
      · exact Within.array fun v member => all v (List.mem_reverse.1 member)
      split
      · exact item _
      split
      · split
        · trivial
        split
        · trivial
        · exact item _
      · trivial

/-- An object that is read opens one container more than what stands in it. -/
theorem readMembers_within : ∀ (fuel levels : Nat) (done : List (String × Json)) (first : Bool)
    (input : Bytes), (∀ m ∈ done, m.2.Within levels) →
    Yields (Within (levels + 1)) (readMembers fuel levels done first input)
  | 0, _, _, _, _, _ => trivial
  | fuel + 1, levels, done, first, input, all => by
      have member (input : Bytes) : Yields (Within (levels + 1))
          (match readMember fuel levels input with
            | .error f => .error f
            | .ok (m, rest) => readMembers fuel levels (m :: done) false rest) := by
        have within := readMember_within fuel levels input
        split
        · trivial
        · rename_i m rest read
          exact readMembers_within fuel levels (m :: done) false rest
            (List.forall_mem_cons.2 ⟨within.holds read, all⟩)
      rw [readMembers.eq_def]
      dsimp only
      split
      · trivial
      split
      · exact Within.object fun m stands => all m (List.mem_reverse.1 stands)
      split
      · split
        · exact member _
        · trivial
      split
      · split
        · trivial
        split
        · exact member _
        split
        · trivial
        · trivial
      · trivial

/-- The value of a member that is read keeps to the limits of the reader of values. -/
theorem readMember_within : ∀ (fuel levels : Nat) (input : Bytes),
    Yields (fun m : String × Json => m.2.Within levels) (readMember fuel levels input)
  | 0, _, _ => trivial
  | fuel + 1, levels, input => by
      rw [readMember.eq_def]
      dsimp only
      split
      · trivial
      split
      · trivial
      · exact yields_map fun _ _ read => (readValue_within fuel levels _).holds read

end

/-- **What a text holds keeps to the limits of its reader.** -/
theorem parse_within {text : Bytes} {v : Json} (parsed : parse text = .ok v) :
    v.Within nesting := by
  rw [parse] at parsed
  split at parsed
  · cases parsed
  · rename_i w rest read
    have within := (readValue_within (fuelFor text) nesting text).holds read
    cases ended : readEnd rest with
    | error f =>
        rw [ended] at parsed
        cases parsed
    | ok _ =>
        rw [ended] at parsed
        cases parsed
        exact within

end SessionAuthority.Json

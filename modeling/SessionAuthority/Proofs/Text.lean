import SessionAuthority.Bytes
import SessionAuthority.Text.Blank

/-!
# Texts

What cutting and trimming make of a text.  A text is cut at the first or the last separator, and at
no other (`cutFirst?_eq_some_iff`, `cutLast?_eq_some_iff`).  Trimming removes the white space at the
ends and nothing else (`trimChars_parts`, `trimChars_padded`).  In UTF-8 an ASCII character is its
own octet.
-/
set_option autoImplicit false

namespace SessionAuthority

/-- A check that holds lets the rest go on. -/
theorem guard_bind {P : Prop} [Decidable P] {α : Type} (holds : P) (rest : Unit → Option α) :
    (guard P >>= rest) = rest () := by
  show (if P then some () else none).bind rest = rest ()
  rw [if_pos holds, Option.bind_some]

/-- A check that fails ends the rest. -/
theorem guard_bind_of_not {P : Prop} [Decidable P] {α : Type} (fails : ¬ P)
    (rest : Unit → Option α) : (guard P >>= rest) = none := by
  show (if P then some () else none).bind rest = none
  rw [if_neg fails, Option.bind_none]

/-- A visible ASCII character other than the blank. -/
def Graphic (c : Char) : Prop := 0x20 < c.toNat ∧ c.toNat < 0x7F

instance (c : Char) : Decidable (Graphic c) := inferInstanceAs (Decidable (_ ∧ _))

theorem Bytes.ofString_ofList {cs : List Char} (ascii : ∀ c ∈ cs, c.toNat < 0x80) :
    ofString (String.ofList cs) = ofAscii cs := by
  have encoded : ofString (String.ofList cs) = cs.flatMap String.utf8EncodeChar := by
    simp [ofString, List.utf8Encode]
  rw [encoded]
  clear encoded
  induction cs with
  | nil => rfl
  | cons c cs ih =>
      have octet : String.utf8EncodeChar c = [c.toNat.toUInt8] :=
        if_pos (Nat.le_of_lt_succ (ascii c List.mem_cons_self))
      rw [List.flatMap_cons, octet, ih fun d member => ascii d (List.mem_cons_of_mem _ member)]
      rfl

namespace Text

/-! ## Cuts -/

theorem cutFirst?_eq_some_iff {sep : Char} {cs before after : List Char} :
    cutFirst? sep cs = some (before, after) ↔ cs = before ++ sep :: after ∧ sep ∉ before := by
  induction cs generalizing before with
  | nil => simp [cutFirst?]
  | cons c cs ih =>
      by_cases here : c = sep
      · subst here
        have cut : cutFirst? c (c :: cs) = some ([], cs) := by simp [cutFirst?]
        rw [cut]
        constructor
        · intro same
          cases same
          exact ⟨rfl, List.not_mem_nil⟩
        · rintro ⟨same, absent⟩
          cases before with
          | nil => cases same; rfl
          | cons d before =>
              cases same
              exact absurd List.mem_cons_self absent
      · have cut : cutFirst? sep (c :: cs) =
            (cutFirst? sep cs).map fun parts => (c :: parts.1, parts.2) := by
          simp only [cutFirst?, List.dropWhile_cons, List.takeWhile_cons, bne_iff_ne, ne_eq, here,
            not_false_eq_true, if_true]
          split <;> rfl
        rw [cut, Option.map_eq_some_iff]
        constructor
        · rintro ⟨⟨tail, rest⟩, found, same⟩
          cases same
          obtain ⟨rfl, absent⟩ := ih.1 found
          exact ⟨rfl, List.not_mem_cons_of_ne_of_not_mem (Ne.symm here) absent⟩
        · rintro ⟨same, absent⟩
          cases before with
          | nil => cases same; exact absurd rfl here
          | cons d before =>
              cases same
              exact ⟨(before, after), ih.2 ⟨rfl, List.not_mem_of_not_mem_cons absent⟩, rfl⟩

theorem cutFirst?_eq_none_iff {sep : Char} {cs : List Char} :
    cutFirst? sep cs = none ↔ sep ∉ cs := by
  constructor
  · intro uncut member
    obtain ⟨before, after, parts, absent⟩ := List.eq_append_cons_of_mem member
    rw [cutFirst?_eq_some_iff.2 ⟨parts, absent⟩] at uncut
    cases uncut
  · intro absent
    cases cut : cutFirst? sep cs with
    | none => rfl
    | some parts =>
        rw [(cutFirst?_eq_some_iff.1 cut).1] at absent
        exact absurd (by simp) absent

theorem cutLast?_eq_some_iff {sep : Char} {cs before after : List Char} :
    cutLast? sep cs = some (before, after) ↔ cs = before ++ sep :: after ∧ sep ∉ after := by
  simp only [cutLast?, Option.map_eq_some_iff, Prod.exists, cutFirst?_eq_some_iff]
  constructor
  · rintro ⟨back, front, ⟨same, absent⟩, pair⟩
    cases pair
    have forward := congrArg List.reverse same
    simp only [List.reverse_reverse, List.reverse_append, List.reverse_cons, List.append_assoc,
      List.singleton_append] at forward
    exact ⟨forward, by simpa using absent⟩
  · rintro ⟨rfl, absent⟩
    exact ⟨after.reverse, before.reverse, ⟨by simp, by simpa using absent⟩, by simp⟩

/-! ## White space -/

theorem isBlank_of_graphic {c : Char} (graphic : Graphic c) : isBlank c = false := by
  obtain ⟨above, below⟩ := graphic
  simp [isBlank]
  omega

theorem head?_dropWhile {p : Char → Bool} {cs : List Char} :
    ∀ c ∈ (cs.dropWhile p).head?, p c = false := by
  intro c found
  have stopped := List.head?_dropWhile_not p cs
  rw [Option.mem_def.1 found] at stopped
  exact stopped

theorem mem_takeWhile {p : Char → Bool} {cs : List Char} : ∀ c ∈ cs.takeWhile p, p c = true :=
  List.all_eq_true.1 List.all_takeWhile

theorem dropWhile_of_head {p : Char → Bool} {cs : List Char}
    (first : ∀ c ∈ cs.head?, p c = false) : cs.dropWhile p = cs := by
  cases cs with
  | nil => rfl
  | cons c cs => rw [List.dropWhile_cons, first c rfl, if_neg Bool.false_ne_true]

/-- White space around a text that has none at its ends is what is removed. -/
theorem trimChars_padded {front cs back : List Char} (before : ∀ c ∈ front, isBlank c = true)
    (after : ∀ c ∈ back, isBlank c = true) (first : ∀ c ∈ cs.head?, isBlank c = false)
    (last : ∀ c ∈ cs.getLast?, isBlank c = false) : trimChars (front ++ cs ++ back) = cs := by
  by_cases none : cs = []
  · subst none
    have gone : back.dropWhile isBlank = [] := by
      rw [← List.append_nil back, List.dropWhile_append_of_pos after, List.dropWhile_nil]
    rw [trimChars, List.append_nil, List.dropWhile_append_of_pos before, gone]
    rfl
  · have start : ∀ c ∈ (cs ++ back).head?, isBlank c = false := by
      rw [List.head?_append, List.head?_eq_some_head none]
      rw [List.head?_eq_some_head none] at first
      exact first
    have finish : ∀ c ∈ cs.reverse.head?, isBlank c = false := by
      rw [List.head?_reverse]
      exact last
    have behind : ∀ c ∈ back.reverse, isBlank c = true := by
      intro c member
      exact after c (List.mem_reverse.1 member)
    rw [trimChars, List.append_assoc, List.dropWhile_append_of_pos before, dropWhile_of_head start,
      List.reverse_append, List.dropWhile_append_of_pos behind, dropWhile_of_head finish,
      List.reverse_reverse]

/-- What is removed is white space around what is left, which has none at its ends. -/
theorem trimChars_parts (cs : List Char) : ∃ front back, cs = front ++ trimChars cs ++ back ∧
    (∀ c ∈ front, isBlank c = true) ∧ (∀ c ∈ back, isBlank c = true) ∧
    (∀ c ∈ (trimChars cs).head?, isBlank c = false) ∧
    ∀ c ∈ (trimChars cs).getLast?, isBlank c = false := by
  let rest := cs.dropWhile isBlank
  let back := (rest.reverse.takeWhile isBlank).reverse
  have whole : cs = cs.takeWhile isBlank ++ rest := List.takeWhile_append_dropWhile.symm
  have cut : rest = trimChars cs ++ back := by
    rw [trimChars, ← List.reverse_append, List.takeWhile_append_dropWhile, List.reverse_reverse]
  refine ⟨cs.takeWhile isBlank, back, ?_, ?_, ?_, ?_, ?_⟩
  · rw [List.append_assoc, ← cut, ← whole]
  · exact mem_takeWhile
  · intro c member
    exact mem_takeWhile c (List.mem_reverse.1 member)
  · intro c found
    have there : rest.head? = some c := by
      rw [cut, List.head?_append, found]
      rfl
    exact head?_dropWhile c there
  · intro c found
    rw [trimChars, List.getLast?_reverse] at found
    exact head?_dropWhile c found

end Text

end SessionAuthority

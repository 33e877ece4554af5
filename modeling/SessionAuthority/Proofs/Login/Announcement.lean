import SessionAuthority.Login.Body
import SessionAuthority.Proofs.Json.Refusal

/-!
# Where a missing field is announced

The text of a fault is put together from fixed words, numbers, names of fields, and strings of the
body: the name of a member in the path, and a text of another type.  Numbers are written in figures
(`Figures`), a quoted text announces no more than the text does (`announces_of_quoted`), and the
other words announce nothing.  So whenever the text of a fault that is no missing field announces
one, a string that it quotes does (`announces_of_amiss`).
-/
set_option autoImplicit false

namespace SessionAuthority

/-! ## Where a mark can stand -/

section Marks

variable {mark xs ys : List Char} {c : Char}

/-- A mark whose first character does not occur in front stands behind. -/
theorem infix_of_front (absent : c ∉ xs) (within : c :: mark <:+: xs ++ ys) :
    c :: mark <:+: ys := by
  rcases List.infix_append_iff.1 within with front | back | ⟨before, after, parts, ends, starts⟩
  · exact absurd (front.subset List.mem_cons_self) absent
  · exact back
  · cases before with
    | nil =>
        rw [List.nil_append] at parts
        rw [parts]
        exact starts.isInfix
    | cons d before =>
        cases parts
        exact absurd (ends.subset List.mem_cons_self) absent

/-- A mark whose last character does not occur behind stands in front. -/
theorem infix_of_back (absent : c ∉ ys) (within : mark ++ [c] <:+: xs ++ ys) :
    mark ++ [c] <:+: xs := by
  rw [← List.reverse_infix, List.reverse_append, List.reverse_append] at within
  rw [← List.reverse_infix, List.reverse_append]
  exact infix_of_front (fun member => absent (List.mem_reverse.1 member)) within

/-- A mark stands on one side of a character that does not occur in it. -/
theorem infix_apart (absent : c ∉ mark) (within : mark <:+: xs ++ c :: ys) :
    mark <:+: xs ∨ mark <:+: ys := by
  rcases List.infix_append_iff.1 within with front | back | ⟨before, after, rfl, ends, starts⟩
  · exact .inl front
  · rcases List.infix_cons_iff.1 back with starts | back
    · cases mark with
      | nil => exact .inl (List.nil_infix ..)
      | cons d mark =>
          obtain ⟨rfl, -⟩ := List.cons_prefix_cons.1 starts
          exact absurd List.mem_cons_self absent
    · exact .inr back
  · cases after with
    | nil =>
        rw [List.append_nil]
        exact .inl ends.isInfix
    | cons d after =>
        obtain ⟨rfl, -⟩ := List.cons_prefix_cons.1 starts
        exact absurd (by simp) absent

end Marks

/-! ## Texts of several pieces -/

theorem toList_pieces (a b c d : String) :
    (a ++ b ++ c ++ d).toList = a.toList ++ (b.toList ++ (c ++ d).toList) := by
  rw [String.append_assoc, String.toList_append, String.toList_append, List.append_assoc]

theorem toList_three (a b c : String) :
    (a ++ b ++ c).toList = a.toList ++ (b.toList ++ c.toList) := by
  rw [String.append_assoc, String.toList_append, String.toList_append]

theorem not_mem_append {c : Char} {a b : String} (front : c ∉ a.toList) (back : c ∉ b.toList) :
    c ∉ (a ++ b).toList := by
  rw [String.toList_append, List.mem_append, not_or]
  exact ⟨front, back⟩

/-! ## Numbers -/

def Figure (c : Char) : Prop := c.isDigit = true ∨ c = '.' ∨ c = 'e' ∨ c = '+' ∨ c = '-'

instance (c : Char) : Decidable (Figure c) := inferInstanceAs (Decidable (_ ∨ _))

def Figures (cs : List Char) : Prop := ∀ c ∈ cs, Figure c

instance (cs : List Char) : Decidable (Figures cs) := List.decidableBAll _ cs

namespace Figures

variable {xs ys : List Char} {c : Char}

theorem append (front : Figures xs) (back : Figures ys) : Figures (xs ++ ys) := by
  intro c member
  exact (List.mem_append.1 member).elim (front c) (back c)

theorem cons (first : Figure c) (rest : Figures xs) : Figures (c :: xs) :=
  List.forall_mem_cons.2 ⟨first, rest⟩

theorem not_mem (figures : Figures xs) (other : ¬ Figure c) : c ∉ xs := fun member =>
  other (figures c member)

end Figures

theorem figures_toDigits (n : Nat) : Figures (Nat.toDigits 10 n) := by
  intro c member
  exact .inl (Nat.isDigit_of_mem_toDigits (by decide) (by decide) member)

theorem figures_natural (n : Nat) : Figures (toString n).toList := by
  have written : (toString n).toList = Nat.toDigits 10 n := String.toList_ofList
  rw [written]
  exact figures_toDigits n

theorem figures_integer (i : Int) : Figures (toString i).toList := by
  cases i with
  | ofNat n => exact figures_natural n
  | negSucc n =>
      have written : (toString (Int.negSucc n)).toList = '-' :: (toString (n + 1)).toList :=
        String.toList_append
      rw [written]
      exact (figures_natural (n + 1)).cons (by decide)

theorem figures_zeros (count : Nat) : Figures (Json.Double.zeros count) := by
  intro c member
  rw [List.eq_of_mem_replicate member]
  decide

theorem figures_positional (s : Decimal.Scientific) : Figures (Json.Double.positional s) := by
  have mark (power : Int) : Figures ((if power < 0 then ['e', '-'] else ['e', '+']) ++
      Nat.toDigits 10 power.natAbs) := by
    refine .append ?_ (figures_toDigits _)
    split <;> decide
  have whole := figures_toDigits s.digits
  unfold Json.Double.positional
  dsimp only
  split
  · exact (whole.append (figures_zeros _)).append (by decide)
  split
  · refine .append (fun c member => whole c (List.mem_of_mem_take member)) (.cons (by decide) ?_)
    exact fun c member => whole c (List.mem_of_mem_drop member)
  split
  · exact .append (.append (by decide) (figures_zeros _)) whole
  split
  · rename_i d single
    rw [single] at whole
    exact .cons (whole d List.mem_cons_self) (mark _)
  · rename_i d rest _ several
    rw [several] at whole
    obtain ⟨first, others⟩ := List.forall_mem_cons.1 whole
    exact .cons first (.cons (by decide) (.append others (mark _)))
  · exact mark _

/-- A double is written in figures. -/
theorem figures_double (bits : UInt64) : Figures (Json.Double.text bits) := by
  have sign : Figures (if Json.Double.negative bits then ['-'] else []) := by
    split <;> decide
  unfold Json.Double.text
  dsimp only
  split
  · exact sign.append (by decide)
  · exact sign.append (figures_positional _)

/-! ## Quoted texts -/

namespace Text

theorem not_mem_hexNumber (n : Nat) : 'm' ∉ hexNumber n := by
  unfold hexNumber
  have digits : ∀ k < 16, 'm' ≠ Nat.digitChar k := by decide
  induction n using Nat.strongRecOn with
  | _ n ih =>
    by_cases small : n < 16
    · rw [Nat.toDigits_of_lt_base small, List.mem_singleton]
      exact digits n small
    · rw [Nat.toDigits_of_base_le (by decide) (Nat.not_lt.1 small), List.mem_append, not_or,
        List.mem_singleton]
      exact ⟨ih (n / 16) (by omega), digits (n % 16) (by omega)⟩

/-- A character is quoted as itself, or by a backslash and what follows it. -/
theorem quotedChar_cases (c : Char) :
    quotedChar c = [c] ∨ ∃ es, quotedChar c = '\\' :: es ∧ 'm' ∉ es := by
  unfold quotedChar
  iterate 6
    split
    · exact .inr ⟨_, rfl, by decide⟩
  split
  · exact .inl rfl
  · refine .inr ⟨'u' :: '\x7b' :: (hexNumber c.toNat ++ ['\x7d']), rfl, ?_⟩
    simp [not_mem_hexNumber]

/-- What starts a quoted text and has no backslash starts the text itself. -/
theorem prefix_of_quoted {mark cs : List Char} (plain : '\\' ∉ mark)
    (starts : mark <+: cs.flatMap quotedChar) : mark <+: cs := by
  induction cs generalizing mark with
  | nil => exact starts
  | cons c cs ih =>
      cases mark with
      | nil => exact List.nil_prefix
      | cons d mark =>
          rw [List.flatMap_cons] at starts
          rcases quotedChar_cases c with same | ⟨es, escaped, -⟩
          · rw [same, List.singleton_append] at starts
            obtain ⟨rfl, more⟩ := List.cons_prefix_cons.1 starts
            exact List.cons_prefix_cons.2 ⟨rfl, ih (List.not_mem_of_not_mem_cons plain) more⟩
          · rw [escaped, List.cons_append] at starts
            obtain ⟨rfl, -⟩ := List.cons_prefix_cons.1 starts
            exact absurd List.mem_cons_self plain

end Text

/-! ## Announcements -/

/-- One word, without the character that ends an announcement. -/
def OneWord (s : String) : Prop := ' ' ∉ s.toList ∧ '`' ∉ s.toList

instance (s : String) : Decidable (OneWord s) := inferInstanceAs (Decidable (_ ∧ _))

/-- The words of a shape neither end an announcement nor hold one. -/
def Json.Shape.Plain (shape : Json.Shape) : Prop :=
  '`' ∉ shape.title.toList ∧ ∀ name ∈ shape.fields, OneWord name

instance (shape : Json.Shape) : Decidable shape.Plain := inferInstanceAs (Decidable (_ ∧ _))

namespace BodyFault

/-- A text in which a missing field is announced. -/
def Announces (cs : List Char) : Prop := missingMark <:+: cs

section Announces

variable {xs ys : List Char} {c : Char}

theorem announces_of_front (absent : 'm' ∉ xs) (announced : Announces (xs ++ ys)) :
    Announces ys :=
  infix_of_front absent announced

theorem announces_of_back (absent : '`' ∉ ys) (announced : Announces (xs ++ ys)) :
    Announces xs := by
  have cut : missingMark = "missing field ".toList ++ ['`'] := by decide +kernel
  unfold Announces at *
  rw [cut] at *
  exact infix_of_back absent announced

theorem announces_apart (absent : c ∉ missingMark) (announced : Announces (xs ++ c :: ys)) :
    Announces xs ∨ Announces ys :=
  infix_apart absent announced

theorem not_announces (mark : c ∈ missingMark) (absent : c ∉ xs) : ¬ Announces xs :=
  fun announced => absent (announced.subset mark)

end Announces

theorem announces_of_escaped {cs : List Char} (announced : Announces (cs.flatMap Text.quotedChar)) :
    Announces cs := by
  induction cs with
  | nil => exact announced
  | cons c cs ih =>
      have later (announced : Announces (cs.flatMap Text.quotedChar)) : Announces (c :: cs) :=
        (ih announced).trans (List.suffix_cons c cs).isInfix
      rw [List.flatMap_cons] at announced
      rcases Text.quotedChar_cases c with same | ⟨es, escaped, absent⟩
      · rw [same, List.singleton_append] at announced
        rcases List.infix_cons_iff.1 announced with starts | behind
        · have whole : missingMark <+: (c :: cs).flatMap Text.quotedChar := by
            rw [List.flatMap_cons, same]
            exact starts
          exact (Text.prefix_of_quoted (by decide) whole).isInfix
        · exact later behind
      · rw [escaped] at announced
        have absent : 'm' ∉ '\\' :: es := List.not_mem_cons_of_ne_of_not_mem (by decide) absent
        exact later (announces_of_front absent announced)

/-- **A quoted text announces only what the text announces.** -/
theorem announces_of_quoted {s : String} (announced : Announces (Text.quoted s).toList) :
    Announces s.toList := by
  have written : (Text.quoted s).toList =
      ['"'] ++ (s.toList.flatMap Text.quotedChar ++ ['"']) := by
    rw [Text.quoted, String.toList_ofList]
    rfl
  rw [written] at announced
  exact announces_of_escaped (announces_of_back (by decide)
    (announces_of_front (by decide) announced))

/-! ## Faults -/

theorem announces_of_found {found : Json.Found} (announced : Announces found.text.toList) :
    ∃ s, found = .str s ∧ Announces s.toList := by
  cases found with
  | str s =>
      have words : (Json.Found.str s).text.toList = "string ".toList ++ (Text.quoted s).toList :=
        String.toList_append
      rw [words] at announced
      exact ⟨s, rfl, announces_of_quoted (announces_of_front (by decide) announced)⟩
  | null => exact absurd announced (not_announces (c := 'm') (by decide) (by decide))
  | array => exact absurd announced (not_announces (c := 'm') (by decide) (by decide))
  | object => exact absurd announced (not_announces (c := '`') (by decide) (by decide))
  | bool b =>
      have absent : 'm' ∉ (Json.Found.bool b).text.toList := by
        cases b <;> decide
      exact absurd announced (not_announces (by decide) absent)
  | int i =>
      have digits : 'm' ∉ (toString i).toList := (figures_integer i).not_mem (by decide)
      have absent : 'm' ∉ (Json.Found.int i).text.toList :=
        not_mem_append (not_mem_append (by decide) digits) (by decide)
      exact absurd announced (not_announces (by decide) absent)
  | float bits =>
      have digits : 'm' ∉ (String.ofList (Json.Double.text bits)).toList := by
        rw [String.toList_ofList]
        exact (figures_double bits).not_mem (by decide)
      have absent : 'm' ∉ (Json.Found.float bits).text.toList :=
        not_mem_append (not_mem_append (by decide) digits) (by decide)
      exact absurd announced (not_announces (by decide) absent)

theorem not_announces_of_misspelt {cause : Json.Cause} (misspelt : cause.isShape = false) :
    ¬ Announces cause.text.toList := by
  cases cause with
  | invalidType | missingField | duplicateField | invalidLength => cases misspelt
  | invalidNumber | numberOutOfRange | recursionLimit | trailingComma | keyMustBeString =>
      exact not_announces (c := '`') (by decide) (by decide)
  | _ => exact not_announces (c := 'm') (by decide) (by decide)

theorem announces_of_place {place : Json.Place} {ys : List Char}
    (announced : Announces (place.text.toList ++ ys)) :
    (∃ s, place = .member s ∧ Announces s.toList) ∨ Announces ys := by
  cases place with
  | whole => exact .inr announced
  | member name =>
      have path : (Json.Place.member name).text.toList = name.toList ++ [':', ' '] :=
        String.toList_append
      rw [path, List.append_assoc] at announced
      rcases announces_apart (by decide) announced with front | back
      · exact .inl ⟨name, rfl, front⟩
      · exact .inr (announces_of_front (by decide) back)
  | item index =>
      have digits : 'm' ∉ (toString index).toList := (figures_natural index).not_mem (by decide)
      have absent : 'm' ∉ (Json.Place.item index).text.toList :=
        not_mem_append (not_mem_append (by decide) digits) (by decide)
      exact .inr (announces_of_front absent announced)

/-- A fault's words stand between some that announce nothing. -/
theorem text_parts (body : Bytes) (f : Json.RecordFault) : ∃ lead tail,
    ((record f).text body).toList =
        lead ++ (f.place.text.toList ++ (f.fault.cause.text.toList ++ tail)) ∧
      'm' ∉ lead ∧ '`' ∉ tail := by
  let place := Json.position (f.fault.consumed body)
  let lead := if f.fault.cause.isShape then
    "Failed to deserialize the JSON body into the target type: "
    else "Failed to parse the request body as JSON: "
  let tail := " at line " ++ toString place.1 ++ " column " ++ toString place.2
  have whole : (record f).text body = lead ++ (f.place.text ++ (f.fault.cause.text ++ tail)) := by
    simp only [text, Json.RecordFault.text, Json.Fault.text, String.append_assoc, lead, tail, place]
  refine ⟨lead.toList, tail.toList, ?_, ?_, ?_⟩
  · rw [whole, String.toList_append, String.toList_append, String.toList_append]
  · unfold lead
    split <;> decide
  · refine not_mem_append (not_mem_append (not_mem_append ?_ ?_) ?_) ?_
    · decide
    · exact (figures_natural _).not_mem (by decide)
    · decide
    · exact (figures_natural _).not_mem (by decide)

theorem announces_of_mistyped {expected : String} {body : Bytes} {f : Json.Fault}
    (plain : '`' ∉ expected.toList) (mistyped : Json.Mistyped expected body f)
    (announced : Announces f.cause.text.toList) :
    ∃ s, Announces s.toList ∧
      ∃ rest peeked, f = ⟨.invalidType (.str s) expected, rest, peeked⟩ := by
  cases mistyped with
  | misspelt misspelt => exact absurd announced (not_announces_of_misspelt misspelt)
  | @type found rest peeked _ =>
      have words : (Json.Cause.invalidType found expected).text.toList =
          "invalid type: ".toList ++ (found.text.toList ++ (", expected " ++ expected).toList) :=
        toList_pieces ..
      have absent : '`' ∉ (", expected " ++ expected).toList := not_mem_append (by decide) plain
      rw [words] at announced
      have within := announces_of_back absent (announces_of_front (by decide) announced)
      obtain ⟨s, rfl, announces⟩ := announces_of_found within
      exact ⟨s, announces, rest, peeked, rfl⟩

theorem not_announces_of_twice {name : String} (single : OneWord name) :
    ¬ Announces (Json.Cause.duplicateField name).text.toList := by
  intro announced
  have words : (Json.Cause.duplicateField name).text.toList =
      "duplicate field `".toList ++ (name.toList ++ "`".toList) := toList_three ..
  have absent : ' ' ∉ name.toList ++ "`".toList := fun member =>
    (List.mem_append.1 member).elim single.1 (by decide)
  rw [words] at announced
  exact not_announces (by decide) absent (announces_of_front (by decide) announced)

theorem not_mem_expectation {shape : Json.Shape} (title : '`' ∉ shape.title.toList) :
    '`' ∉ shape.expectation.toList := by
  have count : '`' ∉ (toString shape.fields.length).toList :=
    (figures_natural _).not_mem (by decide)
  refine not_mem_append (not_mem_append (not_mem_append (not_mem_append ?_ title) ?_) count) ?_
  · decide
  · decide
  · split <;> decide

theorem not_announces_of_length {count : Nat} {expectation : String}
    (plain : '`' ∉ expectation.toList) :
    ¬ Announces (Json.Cause.invalidLength count expectation).text.toList := by
  have digits : '`' ∉ (toString count).toList := (figures_natural _).not_mem (by decide)
  have absent : '`' ∉ (Json.Cause.invalidLength count expectation).text.toList :=
    not_mem_append (not_mem_append (not_mem_append (by decide) digits) (by decide)) plain
  exact not_announces (by decide) absent

/-- An announcement in the text of a fault stands in the path or in the cause. -/
theorem announces_of_text {body : Bytes} {f : Json.RecordFault}
    (announced : Announces ((record f).text body).toList) :
    (∃ s, f.place = .member s ∧ Announces s.toList) ∨ Announces f.fault.cause.text.toList := by
  obtain ⟨lead, tail, parts, front, back⟩ := text_parts body f
  rw [parts] at announced
  rcases announces_of_place (announces_of_front front announced) with path | behind
  · exact .inl path
  · exact .inr (announces_of_back back behind)

/-- **If the text of a fault announces a missing field, a string that it quotes does.** -/
theorem announces_of_amiss {shape : Json.Shape} (plain : shape.Plain) {body : Bytes}
    {f : Json.RecordFault} (amiss : shape.Amiss body f)
    (announced : Announces ((record f).text body).toList) :
    ∃ s, f.Quotes s ∧ Announces s.toList := by
  obtain ⟨title, fields⟩ := plain
  rcases announces_of_text announced with ⟨s, path, announces⟩ | cause
  · obtain ⟨place, fault⟩ := f
    cases path
    exact ⟨s, .path, announces⟩
  cases amiss with
  | @value place fault expected path words mistyped =>
      have plain : '`' ∉ expected.toList := by
        rcases words with rfl | rfl
        · decide
        · exact not_mem_append (by decide) title
      obtain ⟨s, announces, rest, peeked, rfl⟩ := announces_of_mistyped plain mistyped cause
      exact ⟨s, .found, announces⟩
  | twice field => exact absurd cause (not_announces_of_twice (fields _ field))
  | length => exact absurd cause (not_announces_of_length (not_mem_expectation title))

end BodyFault

end SessionAuthority

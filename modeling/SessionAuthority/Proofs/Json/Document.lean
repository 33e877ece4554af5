import Mathlib.Data.List.Nodup
import SessionAuthority.Proofs.Json.Grammar
import SessionAuthority.Proofs.Json.Record

/-!
# What a record was read from

A record is read from a text of the grammar that says what its fields are (`Shape.Document`): an
object in which every field is the name of just one member, whose value is a string that spells the
field's value, or a list of such strings.  The members of other names may have any value.

`Shape.parse_document` is the converse of `Shape.parse_render` as far as there can be one, for there
are many texts to one record.  What the text is and what is gathered from it are kept apart: reading
follows the grammar and notes what each member says (`Written`), and the fields are filled from
those notes alone (`Shape.Fills`).
-/
set_option autoImplicit false

namespace SessionAuthority.Json

namespace Grammar

/-! ## Texts in documents -/

/-- A string that spells a text, with white space in front. -/
inductive TextValue (s : String) : (input left : Bytes) → Prop where
  | spelled {input rest left : Bytes} (quote : Blank input (0x22 :: rest))
      (text : Spelled rest (Bytes.ofString s) left) : TextValue s input left

inductive TextName (s : String) : (input left : Bytes) → Prop where
  | spelled {input rest behind left : Bytes} (quote : Blank input (0x22 :: rest))
      (text : Spelled rest (Bytes.ofString s) behind) (colon : Blank behind (0x3A :: left)) :
      TextName s input left

/-- What the members of an object say: a name each, and the text of those that are told. -/
abbrev Written := List (String × Option String)

inductive Member : String × Option String → (input left : Bytes) → Prop where
  | text {name s : String} {input value left : Bytes} (named : TextName name input value)
      (text : TextValue s value left) : Member (name, some s) input left
  | other {name : String} {input value left : Bytes} (named : TextName name input value)
      (other : Value value left) : Member (name, none) input left

/-- What follows a member of an object, and what it says. -/
inductive MembersOf : Written → (input left : Bytes) → Prop where
  | close {input left : Bytes} (brace : Blank input (0x7D :: left)) : MembersOf [] input left
  | next {m : String × Option String} {written : Written} {input rest behind left : Bytes}
      (comma : Blank input (0x2C :: rest)) (member : Member m rest behind)
      (more : MembersOf written behind left) : MembersOf (m :: written) input left

/-- An object from behind its brace, and what it says. -/
inductive ObjectOf : Written → (input left : Bytes) → Prop where
  | empty {input left : Bytes} (brace : Blank input (0x7D :: left)) : ObjectOf [] input left
  | filled {m : String × Option String} {written : Written} {input behind left : Bytes}
      (first : Member m input behind) (more : MembersOf written behind left) :
      ObjectOf (m :: written) input left

inductive ItemsOf : List String → (input left : Bytes) → Prop where
  | close {input left : Bytes} (bracket : Blank input (0x5D :: left)) : ItemsOf [] input left
  | next {s : String} {texts : List String} {input rest behind left : Bytes}
      (comma : Blank input (0x2C :: rest)) (item : TextValue s rest behind)
      (more : ItemsOf texts behind left) : ItemsOf (s :: texts) input left

inductive ListOf : List String → (input left : Bytes) → Prop where
  | empty {input left : Bytes} (bracket : Blank input (0x5D :: left)) : ListOf [] input left
  | filled {s : String} {texts : List String} {input behind left : Bytes}
      (first : TextValue s input behind) (more : ItemsOf texts behind left) :
      ListOf (s :: texts) input left

/-! Documents with texts in them are documents. -/

theorem TextValue.value {s : String} {input left : Bytes} (text : TextValue s input left) :
    Value input left := by
  cases text with
  | spelled quote text => exact .string quote text.passed

theorem TextValue.blank {s : String} {input middle left : Bytes} (text : TextValue s middle left)
    (blank : Blank input middle) : TextValue s input left := by
  cases text with
  | spelled quote text => exact .spelled (blank.trans quote) text

theorem TextName.name {s : String} {input left : Bytes} (text : TextName s input left) :
    Name input left := by
  cases text with
  | spelled quote text colon => exact .spelled quote text.passed colon

theorem Member.parts {m : String × Option String} {input left : Bytes}
    (member : Member m input left) : ∃ value, Name input value ∧ Value value left := by
  cases member with
  | text named text => exact ⟨_, named.name, text.value⟩
  | other named other => exact ⟨_, named.name, other⟩

theorem MembersOf.members {written : Written} {input left : Bytes}
    (members : MembersOf written input left) : Members input left := by
  induction members with
  | close brace => exact .close brace
  | next comma member _ ih =>
      obtain ⟨_, name, value⟩ := member.parts
      exact .next comma name value ih

theorem ObjectOf.body {written : Written} {input left : Bytes}
    (object : ObjectOf written input left) : ObjectBody input left := by
  cases object with
  | empty brace => exact .empty brace
  | filled first more =>
      obtain ⟨_, name, value⟩ := first.parts
      exact .filled name value more.members

theorem ItemsOf.items {texts : List String} {input left : Bytes}
    (items : ItemsOf texts input left) : Items input left := by
  induction items with
  | close bracket => exact .close bracket
  | next comma item _ ih => exact .next comma item.value ih

theorem ListOf.body {texts : List String} {input left : Bytes} (list : ListOf texts input left) :
    ListBody input left := by
  cases list with
  | empty bracket => exact .empty bracket
  | filled first more => exact .filled first.value more.items

end Grammar

open Grammar

namespace Shape

def told (f : String × String) : String × Option String := (f.1, some f.2)

/-- A text that writes a record: an object that says every field once, or a list of the values. -/
inductive Document (shape : Shape) (values : List String) : (input : Bytes) → Prop where
  | object {written : Written} {input rest left : Bytes} (brace : Blank input (0x7B :: rest))
      (members : ObjectOf written rest left) (ends : Blank left [])
      (count : values.length = shape.fields.length)
      (once : (written.filter (·.1 ∈ shape.fields)).Perm
        ((shape.fields.zip values).map told)) : Document shape values input
  | list {input rest left : Bytes} (bracket : Blank input (0x5B :: rest))
      (items : ListOf values rest left) (ends : Blank left [])
      (count : values.length = shape.fields.length) : Document shape values input

/-- A text that writes a record is a text of the grammar. -/
theorem Document.text {shape : Shape} {values : List String} {input : Bytes}
    (document : shape.Document values input) : Grammar.Text input := by
  cases document with
  | object brace members ends _ _ => exact ⟨_, .object brace members.body, ends⟩
  | list bracket items ends _ => exact ⟨_, .list bracket items.body, ends⟩

/-! ## The readers follow the grammar -/

/-- Of what is not the value that was expected nothing is read. -/
theorem refuseType_ne_ok {α : Type} {expected : String} {b : UInt8} {rest : Bytes} {a : α} :
    refuseType expected b rest ≠ .ok a := by
  intro read
  have refused {β : Type} (r : Reading β) (found : β → Found)
      (read : (r.bind fun r => (faultAt (.invalidType (found r.1) expected) r.2 : Except Fault α)) =
        .ok a) : False := by
    cases r <;> cases read
  unfold refuseType at read
  dsimp only at read
  split at read
  · exact refused _ (fun _ => .null) read
  split at read
  · exact refused _ (fun _ => .bool true) read
  split at read
  · exact refused _ (fun _ => .bool false) read
  split at read
  · split at read <;> cases read
  split at read
  · split at read <;> cases read
  split at read
  · exact refused _ .str read
  split at read
  · cases read
  split at read
  · cases read
  · cases read

theorem readStringValue_text {input left : Bytes} {s : String}
    (read : readStringValue input = .ok (s, left)) : TextValue s input left := by
  unfold readStringValue at read
  split at read
  · cases read
  rename_i b rest blank
  split at read
  · rename_i quote
    rw [quote] at blank
    exact .spelled (blank_of_skipBlank blank) (readString_spelled read)
  · exact absurd read refuseType_ne_ok

theorem eq_ok_of_placed {α : Type} {place : Place} {r : Except Fault α} {a : α}
    (placed : place.of r = .ok a) : r = .ok a := by
  cases r with
  | ok _ =>
      cases placed
      rfl
  | error _ => cases placed

/-- A result that was made of another one. -/
theorem eq_ok_of_map {ε α β : Type} {f : α → β} {r : Except ε α} {b : β}
    (made : r.map f = .ok b) : ∃ a, r = .ok a ∧ f a = b := by
  cases r with
  | ok a => exact ⟨a, rfl, Except.ok.inj made⟩
  | error _ => cases made

/-- What one member adds to the fields. -/
inductive Fills (shape : Shape) : (before : Filled) → Written → (after : Filled) → Prop where
  | done (filled : Filled) : Fills shape filled [] filled
  | field {name s : String} {before after : Filled} {written : Written}
      (own : name ∈ shape.fields) (fresh : before.get? name = none)
      (more : Fills shape ((name, s) :: before) written after) :
      Fills shape before ((name, some s) :: written) after
  | other {name : String} {before after : Filled} {written : Written}
      (foreign : name ∉ shape.fields) (more : Fills shape before written after) :
      Fills shape before ((name, none) :: written) after

/-- A member is read as it is written, and a field that it tells is added. -/
theorem readMember_member {shape : Shape} {name : String} {before middle : Filled}
    {input behind left : Bytes} (quote : Blank input (0x22 :: behind))
    (spelled : Spelled behind (Bytes.ofString name) left) {rest : Bytes}
    (read : shape.readMember name before left = .ok (middle, rest)) :
    ∃ said, Member (name, said) input rest ∧ ∀ {written : Written} {after : Filled},
      shape.Fills middle written after → shape.Fills before ((name, said) :: written) after := by
  unfold Shape.readMember at read
  split at read
  · rename_i own
    split at read
    · cases read
    rename_i fresh
    replace read := eq_ok_of_placed read
    split at read
    · cases read
    rename_i value colon
    have named : TextName name input value := .spelled quote spelled (readColon_blank colon)
    obtain ⟨⟨s, _⟩, got, same⟩ := eq_ok_of_map read
    cases same
    refine ⟨some s, .text named (readStringValue_text got), fun more => .field own ?_ more⟩
    exact Option.not_isSome_iff_eq_none.1 fresh
  · rename_i foreign
    replace read := eq_ok_of_placed read
    split at read
    · cases read
    rename_i value colon
    have named : TextName name input value := .spelled quote spelled (readColon_blank colon)
    obtain ⟨_, got, same⟩ := eq_ok_of_map read
    cases same
    exact ⟨none, .other named (skipValue_value got), fun more => .other foreign more⟩

def Rest (first : Bool) (written : Written) (input left : Bytes) : Prop :=
  if first then ObjectOf written input left else MembersOf written input left

/-- Members are read as they are written, and the fields that they tell are added. -/
theorem readMembers_rest {shape : Shape} {fuel : Nat} {before after : Filled} {first : Bool}
    {input left : Bytes} (read : shape.readMembers fuel before first input = .ok (after, left)) :
    ∃ written, Rest first written input left ∧ shape.Fills before written after := by
  induction fuel generalizing before first input with
  | zero => cases read
  | succ fuel ih =>
      have member {name : String} {middle : Filled} {input behind rest rest' : Bytes}
          (quote : Blank input (0x22 :: behind))
          (named : Place.whole.of (readString behind) = .ok (name, rest))
          (told : shape.readMember name before rest = .ok (middle, rest'))
          (read : shape.readMembers fuel middle false rest' = .ok (after, left)) :
          ∃ m written, Member m input rest' ∧ MembersOf written rest' left ∧
            shape.Fills before (m :: written) after := by
        have spelled := readString_spelled (eq_ok_of_placed named)
        obtain ⟨said, member, fills⟩ := readMember_member quote spelled told
        obtain ⟨written, more, filled⟩ := ih read
        exact ⟨_, written, member, more, fills filled⟩
      unfold Shape.readMembers at read
      dsimp only at read
      split at read
      · cases read
      rename_i b rest blank
      have blank := blank_of_skipBlank blank
      split at read
      · rename_i brace
        cases read
        rw [brace] at blank
        refine ⟨[], ?_, .done _⟩
        cases first with
        | true => exact .empty blank
        | false => exact .close blank
      split at read
      · rename_i start
        subst start
        split at read
        · rename_i quote
          rw [quote] at blank
          split at read
          · cases read
          rename_i named
          split at read
          · cases read
          rename_i told
          obtain ⟨m, written, member, more, fills⟩ := member blank named told read
          exact ⟨m :: written, .filled member more, fills⟩
        · cases read
      rename_i later
      obtain rfl := Bool.eq_false_iff.2 later
      split at read
      · rename_i comma
        rw [comma] at blank
        split at read
        · cases read
        rename_i b rest blank'
        have blank' := blank_of_skipBlank blank'
        split at read
        · rename_i quote
          rw [quote] at blank'
          split at read
          · cases read
          rename_i named
          split at read
          · cases read
          rename_i told
          obtain ⟨m, written, member, more, fills⟩ := member blank' named told read
          exact ⟨m :: written, .next blank member more, fills⟩
        · split at read <;> cases read
      · cases read

/-! ## The fields are those that were told -/

section Fills

variable {shape : Shape} {before after : Filled} {written : Written}

/-- The fields are those there were and those that are told. -/
theorem Fills.perm (fills : shape.Fills before written after) :
    (after.map told).Perm (written.filter (·.1 ∈ shape.fields) ++ before.map told) := by
  induction fills with
  | done filled => exact .refl _
  | field own _ _ ih =>
      rw [List.filter_cons_of_pos (by simpa using own)]
      exact ih.trans (List.perm_middle)
  | other foreign _ ih =>
      rw [List.filter_cons_of_neg (by simpa using foreign)]
      exact ih

theorem Fills.own (fills : shape.Fills before written after)
    (own : ∀ f ∈ before, f.1 ∈ shape.fields) : ∀ f ∈ after, f.1 ∈ shape.fields := by
  induction fills with
  | done filled => exact own
  | field here _ _ ih => exact ih (List.forall_mem_cons.2 ⟨here, own⟩)
  | other _ _ ih => exact ih own

theorem not_mem_of_get?_eq_none {name : String} {filled : Filled}
    (absent : filled.get? name = none) : name ∉ filled.map (·.1) := by
  rintro member
  obtain ⟨f, stands, rfl⟩ := List.mem_map.1 member
  rw [Filled.get?, List.lookup_eq_none_iff] at absent
  simpa using absent f stands

/-- No field is told twice. -/
theorem Fills.nodup (fills : shape.Fills before written after)
    (nodup : (before.map (·.1)).Nodup) : (after.map (·.1)).Nodup := by
  induction fills with
  | done filled => exact nodup
  | field _ fresh _ ih => exact ih (List.nodup_cons.2 ⟨not_mem_of_get?_eq_none fresh, nodup⟩)
  | other _ _ ih => exact ih nodup

end Fills

/-- Fields that are complete have a value each. -/
theorem complete_eq_ok {filled : Filled} : ∀ {fields values : List String},
    complete filled fields = .ok values →
      values.length = fields.length ∧ ∀ f ∈ fields.zip values, filled.get? f.1 = some f.2
  | [], values, complete => by
      cases complete
      exact ⟨rfl, fun _ member => absurd member List.not_mem_nil⟩
  | name :: rest, values, complete => by
      rw [Shape.complete] at complete
      split at complete
      · cases complete
      rename_i v found
      obtain ⟨later, others, rfl⟩ := eq_ok_of_map complete
      obtain ⟨count, held⟩ := complete_eq_ok others
      refine ⟨congrArg Nat.succ count, fun f member => ?_⟩
      rcases List.mem_cons.1 member with rfl | member
      · exact found
      · exact held f member

/-- Fields of distinct names that are complete are those of the shape. -/
theorem perm_of_complete {shape : Shape} (distinct : shape.fields.Nodup) {filled : Filled}
    (own : ∀ f ∈ filled, f.1 ∈ shape.fields) (nodup : (filled.map (·.1)).Nodup)
    {values : List String} (count : values.length = shape.fields.length)
    (held : ∀ f ∈ shape.fields.zip values, filled.get? f.1 = some f.2) :
    filled.Perm (shape.fields.zip values) := by
  have names : (shape.fields.zip values).map Prod.fst = shape.fields :=
    List.map_fst_zip (Nat.le_of_eq count.symm)
  have zipped : ((shape.fields.zip values).map Prod.fst).Nodup := by
    rw [names]
    exact distinct
  refine (List.perm_ext_iff_of_nodup (.of_map _ nodup) (.of_map _ zipped)).2 fun f => ⟨?_, ?_⟩
  · -- the shape has a field of this name, and what it holds is what was told
    intro member
    have field := own f member
    rw [← names] at field
    obtain ⟨g, zip, same⟩ := List.mem_map.1 field
    have found := held g zip
    rw [same, get?_of_mem nodup member] at found
    have whole : g = f := Prod.ext same (Option.some.inj found).symm
    rw [← whole]
    exact zip
  · intro zip
    have found := held f zip
    rw [Filled.get?, List.lookup_eq_some_iff] at found
    obtain ⟨_, _, split, -⟩ := found
    rw [split]
    exact List.mem_append_right _ List.mem_cons_self

/-! ## Lists -/

def RestOfList (first : Bool) (texts : List String) (input left : Bytes) : Prop :=
  if first then ListOf texts input left else ItemsOf texts input left

/-- The next item is the first, or it stands behind a comma. -/
theorem readNext_blank {first : Bool} {input rest : Bytes}
    (read : readNext first input = .ok (true, rest)) :
    if first then Blank input rest else ∃ behind, Blank input (0x2C :: behind) ∧
      Blank behind rest := by
  unfold readNext at read
  split at read
  · cases read
  rename_i b behind blank
  have blank := blank_of_skipBlank blank
  split at read
  · cases read
  split at read
  · rename_i start
    cases read
    rw [if_pos start]
    exact blank
  rename_i later
  rw [if_neg later]
  split at read
  · rename_i comma
    rw [comma] at blank
    split at read
    · cases read
    rename_i blank'
    split at read
    · cases read
    · cases read
      exact ⟨_, blank, blank_of_skipBlank blank'⟩
  · cases read

theorem readListEnd_blank {input left : Bytes} (read : readListEnd input = .ok ((), left)) :
    Blank input (0x5D :: left) := by
  unfold readListEnd at read
  split at read
  · cases read
  rename_i b rest blank
  have blank := blank_of_skipBlank blank
  split at read
  · rename_i bracket
    cases read
    rw [← bracket]
    exact blank
  split at read
  · split at read
    · cases read
    split at read <;> cases read
  · cases read

/-- Items are read as they are written, one for each field. -/
theorem readItems_rest {shape : Shape} {left : Bytes} : ∀ {fields values : List String}
    {index : Nat} {input behind : Bytes},
    shape.readItems fields index input = .ok (values, behind) → Blank behind (0x5D :: left) →
      values.length = fields.length ∧ RestOfList (index == 0) values input left
  | [], values, index, input, behind, read, bracket => by
      cases read
      refine ⟨rfl, ?_⟩
      cases index with
      | zero => exact .empty bracket
      | succ index => exact .close bracket
  | _ :: fields, values, index, input, behind, read, bracket => by
      unfold Shape.readItems at read
      split at read
      · cases read
      · cases read
      rename_i rest next
      split at read
      · cases read
      rename_i v rest' got
      have text := readStringValue_text (eq_ok_of_placed got)
      obtain ⟨_, others, same⟩ := eq_ok_of_map read
      cases same
      obtain ⟨count, more⟩ := readItems_rest others bracket
      have next := readNext_blank (eq_ok_of_placed next)
      refine ⟨congrArg Nat.succ count, ?_⟩
      cases index with
      | zero => exact .filled (text.blank next) more
      | succ index =>
          obtain ⟨_, comma, blank⟩ := next
          exact .next comma (text.blank blank) more

/-! ## Documents -/

theorem readEnd_blank {input : Bytes} (ended : readEnd input = .ok ()) : Blank input [] := by
  unfold readEnd at ended
  split at ended
  · rename_i blank
    exact blank_of_skipBlank blank
  · cases ended

/-- What is read as a record is written so, if the text ends behind it. -/
theorem read_document {shape : Shape} (distinct : shape.fields.Nodup) {values : List String}
    {input left : Bytes} (read : shape.read input = .ok (values, left)) (ends : Blank left []) :
    shape.Document values input := by
  unfold Shape.read at read
  split at read
  · cases read
  rename_i b rest blank
  have blank := blank_of_skipBlank blank
  split at read
  · rename_i brace
    rw [brace] at blank
    split at read
    · cases read
    rename_i filled rest' gathered
    split at read
    · rename_i values complete
      cases read
      obtain ⟨written, members, fills⟩ := readMembers_rest gathered
      obtain ⟨count, held⟩ := complete_eq_ok complete
      have told : (filled.map told).Perm (written.filter (·.1 ∈ shape.fields)) := by
        simpa using fills.perm
      have own := fills.own fun _ member => absurd member List.not_mem_nil
      have perm := perm_of_complete distinct own (fills.nodup .nil) count held
      exact .object blank members ends count (told.symm.trans (perm.map _))
    · cases read
  split at read
  · rename_i bracket
    rw [bracket] at blank
    split at read
    · cases read
    rename_i values rest' items
    obtain ⟨_, closed, same⟩ := eq_ok_of_map read
    cases same
    obtain ⟨count, list⟩ := readItems_rest items (readListEnd_blank (eq_ok_of_placed closed))
    exact .list blank list ends count
  · exact absurd (eq_ok_of_placed read) refuseType_ne_ok

/-- **A record is read only from a text that writes it.** -/
theorem parse_document {shape : Shape} (distinct : shape.fields.Nodup) {values : List String}
    {input : Bytes} (parsed : shape.parse input = .ok values) : shape.Document values input := by
  unfold parse at parsed
  split at parsed
  · cases parsed
  rename_i read
  obtain ⟨_, ended, rfl⟩ := eq_ok_of_map parsed
  exact read_document distinct read (readEnd_blank (eq_ok_of_placed ended))

end Shape

end SessionAuthority.Json

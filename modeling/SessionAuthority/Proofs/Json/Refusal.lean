import SessionAuthority.Proofs.Json.Misspelt
import SessionAuthority.Proofs.Json.Remainder

/-!
# Why a record is refused

Beside a fault of the text itself a record is refused for one of a few things (`Shape.Amiss`): a
value of another type, a field told twice, a list of another length; and an object that tells
everything right lacks a field (`Shape.Refuses`, `Shape.parse_refuses`).

Two parts of a refusal quote the input: the path names a member, and a value of another type may be
a text.  Both are strings that stand in the input (`RecordFault.Quotes.spells`).
-/
set_option autoImplicit false

namespace SessionAuthority.Json

open Grammar

/-! ## Values of another type -/

def Found.Stands (input : Bytes) : Found → Prop
  | .str s => Spells input s
  | _ => True

def Place.Stands (input : Bytes) : Place → Prop
  | .member name => Spells input name
  | _ => True

/-- The record as a whole is no path at all. -/
theorem Place.stands_whole (input : Bytes) : Place.whole.Stands input := trivial

/-- A fault of the text itself, or a value that is not what was expected. -/
inductive Mistyped (expected : String) (input : Bytes) : Fault → Prop where
  | misspelt {f : Fault} (misspelt : Misspelt f) : Mistyped expected input f
  | type {found : Found} {rest : Bytes} {peeked : Bool} (stands : found.Stands input) :
      Mistyped expected input ⟨.invalidType found expected, rest, peeked⟩

theorem refuseType_mistyped {α : Type} (expected : String) {input rest : Bytes} {b : UInt8}
    (within : b :: rest <:+ input) :
    Fails (Mistyped expected input) (refuseType expected b rest : Except Fault α) := by
  have refused {β : Type} (found : β → Found) {r : Reading β} (misspelt : Fails Misspelt r)
      (stands : ∀ got, r = .ok got → (found got.1).Stands input) :
      Fails (Mistyped expected input) (r.bind fun got =>
        (faultAt (.invalidType (found got.1) expected) got.2 : Except Fault α)) := by
    cases r with
    | error f => exact .misspelt misspelt
    | ok got => exact .type (stands got rfl)
  unfold refuseType
  dsimp only
  split
  · exact refused (fun _ => .null) (readWord_misspelt _ _) fun _ _ => trivial
  split
  · exact refused (fun _ => .bool true) (readWord_misspelt _ _) fun _ _ => trivial
  split
  · exact refused (fun _ => .bool false) (readWord_misspelt _ _) fun _ _ => trivial
  split
  · split
    · rename_i failed
      exact .misspelt ((readNumber_misspelt _ _).holds failed)
    · exact .type trivial
    · exact .type trivial
    · exact .type trivial
  split
  · split
    · rename_i failed
      exact .misspelt ((readNumber_misspelt _ _).holds failed)
    · exact .type trivial
    · exact .type trivial
    · exact .type trivial
  split
  · rename_i quote
    rw [quote] at within
    refine refused .str (readString_misspelt rest) ?_
    intro got read
    exact (spells_of_readString within read).1
  split
  · exact .type trivial
  split
  · exact .type trivial
  · exact .misspelt rfl

/-- A text that is not expected is quoted as it was written. -/
theorem refuseType_string {α : Type} (expected s : String) (rest : Bytes) :
    (refuseType expected 0x22 ((Bytes.ofString s).flatMap escapeOctet ++ 0x22 :: rest) :
      Except Fault α) = faultAt (.invalidType (.str s) expected) rest := by
  unfold refuseType
  dsimp only
  rw [if_neg (by decide), if_neg (by decide), if_neg (by decide), if_neg (by decide),
    if_neg (by decide), if_pos rfl, readString_escaped]
  rfl

theorem readStringValue_mistyped {whole input : Bytes} (within : input <:+ whole) :
    Fails (Mistyped "a string" whole) (readStringValue input) := by
  unfold readStringValue
  split
  · exact .misspelt rfl
  rename_i b rest skipped
  have behind : b :: rest <:+ whole := (blank_of_skipBlank skipped).suffix.trans within
  split
  · exact (readString_misspelt rest).mono fun _ => .misspelt
  · exact refuseType_mistyped "a string" behind

/-! ## Records -/

namespace Shape

/-- What is wrong with a record of which something was read that cannot stand there. -/
inductive Amiss (shape : Shape) (input : Bytes) : RecordFault → Prop where
  | value {place : Place} {fault : Fault} {expected : String} (path : place.Stands input)
      (words : expected = "a string" ∨ expected = "struct " ++ shape.title)
      (mistyped : Mistyped expected input fault) : Amiss shape input ⟨place, fault⟩
  | twice {name : String} {rest : Bytes} {peeked : Bool} (field : name ∈ shape.fields) :
      Amiss shape input ⟨.whole, ⟨.duplicateField name, rest, peeked⟩⟩
  | length {count : Nat} {rest : Bytes} {peeked : Bool} :
      Amiss shape input ⟨.whole, ⟨.invalidLength count shape.expectation, rest, peeked⟩⟩

variable {shape : Shape} {whole : Bytes}

theorem fails_of {α : Type} {place : Place} {r : Except Fault α} {expected : String}
    (path : place.Stands whole)
    (words : expected = "a string" ∨ expected = "struct " ++ shape.title)
    (mistyped : Fails (Mistyped expected whole) r) :
    Fails (shape.Amiss whole) (place.of r) := by
  cases r with
  | ok a => trivial
  | error f => exact .value path words mistyped

/-- A fault of the text itself, wherever it is noticed. -/
theorem fails_of_misspelt {α : Type} {place : Place} {r : Except Fault α}
    (path : place.Stands whole) (misspelt : Fails Misspelt r) :
    Fails (shape.Amiss whole) (place.of r) :=
  fails_of path (.inl rfl) (misspelt.mono fun _ => .misspelt)

theorem readMember_amiss {name : String} {filled : Filled} {input : Bytes}
    (named : Spells whole name) (within : input <:+ whole) :
    Fails (shape.Amiss whole) (shape.readMember name filled input) := by
  unfold readMember
  split
  · rename_i field
    split
    · exact .twice field
    · refine fails_of named (.inl rfl) ?_
      split
      · rename_i colon
        exact .misspelt ((readColon_misspelt _).holds colon)
      · rename_i rest colon
        have behind := suffix_behind ((readColon_blank colon).suffix.trans within)
        exact (readStringValue_mistyped behind).map _
  · refine fails_of_misspelt named ?_
    split
    · rename_i colon
      exact (readColon_misspelt _).holds colon
    · exact (skipValue_misspelt _).map _

/-- Members are amiss in themselves, or one of them is a field that was told before. -/
theorem readMembers_amiss {fuel : Nat} {filled : Filled} {first : Bool} {input : Bytes}
    (within : input <:+ whole) :
    Fails (shape.Amiss whole) (shape.readMembers fuel filled first input) := by
  induction fuel generalizing filled first input with
  | zero => exact .value trivial (.inl rfl) (.misspelt rfl)
  | succ fuel ih =>
      have spelled (rest : Bytes) : Fails (shape.Amiss whole) (Place.whole.of (readString rest)) :=
        fails_of_misspelt trivial (readString_misspelt rest)
      have member {name : String} {rest behind : Bytes} (within : 0x22 :: rest <:+ whole)
          (named : Place.whole.of (readString rest) = .ok (name, behind)) :
          Fails (shape.Amiss whole) (shape.readMember name filled behind) ∧
            ∀ next left, shape.readMember name filled behind = .ok (next, left) →
              Fails (shape.Amiss whole) (shape.readMembers fuel next false left) := by
        replace named := eq_ok_of_placed named
        obtain ⟨spells, suffix⟩ := spells_of_readString within named
        refine ⟨readMember_amiss spells suffix, fun next left told => ?_⟩
        obtain ⟨_, member, -⟩ := readMember_member (.none _) (readString_spelled named) told
        obtain ⟨_, name, value⟩ := member.parts
        exact ih (value.suffix.trans (name.suffix.trans within))
      have misspelt {fault : Fault} (misspelt : Misspelt fault) :
          shape.Amiss whole ⟨.whole, fault⟩ := .value trivial (.inl rfl) (.misspelt misspelt)
      unfold readMembers
      dsimp only
      split
      · exact misspelt rfl
      rename_i b rest skipped
      have behind : b :: rest <:+ whole := (blank_of_skipBlank skipped).suffix.trans within
      split
      · trivial
      split
      · split
        · rename_i quote
          rw [quote] at behind
          split
          · rename_i failed
            exact (spelled rest).holds failed
          rename_i named
          obtain ⟨fails, more⟩ := member behind named
          split
          · rename_i failed
            exact fails.holds failed
          · rename_i told
            exact more _ _ told
        · exact misspelt rfl
      split
      · split
        · exact misspelt rfl
        rename_i c later skipped
        have behind : c :: later <:+ whole :=
          (blank_of_skipBlank skipped).suffix.trans (suffix_behind behind)
        split
        · rename_i quote
          rw [quote] at behind
          split
          · rename_i failed
            exact (spelled later).holds failed
          rename_i named
          obtain ⟨fails, more⟩ := member behind named
          split
          · rename_i failed
            exact fails.holds failed
          · rename_i told
            exact more _ _ told
        split
        · exact misspelt rfl
        · exact misspelt rfl
      · exact misspelt rfl

theorem readNext_suffix {first : Bool} {input rest : Bytes}
    (read : readNext first input = .ok (true, rest)) : rest <:+ input := by
  have next := readNext_blank read
  split at next
  · exact next.suffix
  · obtain ⟨_, comma, blank⟩ := next
    exact blank.suffix.trans (suffix_behind comma.suffix)

/-- Items are amiss in themselves, or there are too few. -/
theorem readItems_amiss {fields : List String} {index : Nat} {input : Bytes}
    (within : input <:+ whole) :
    Fails (shape.Amiss whole) (shape.readItems fields index input) := by
  induction fields generalizing index input with
  | nil => trivial
  | cons name fields ih =>
      have next : Fails (shape.Amiss whole) (Place.whole.of (readNext (index == 0) input)) :=
        fails_of_misspelt trivial (readNext_misspelt _ _)
      unfold readItems
      split
      · rename_i failed
        exact next.holds failed
      · exact .length
      rename_i rest more
      have here : rest <:+ whole :=
        (readNext_suffix (eq_ok_of_placed more)).trans within
      have item : Fails (shape.Amiss whole) ((Place.item index).of (readStringValue rest)) :=
        fails_of trivial (.inl rfl) (readStringValue_mistyped here)
      split
      · rename_i failed
        exact item.holds failed
      rename_i behind read
      have text := readStringValue_text (eq_ok_of_placed read)
      exact (ih (text.value.suffix.trans here)).map _

/-- The field that is missing is one that nothing was told for. -/
theorem complete_eq_error {filled : Filled} {fields : List String} {name : String}
    (incomplete : complete filled fields = .error name) :
    name ∈ fields ∧ filled.get? name = none := by
  induction fields with
  | nil => cases incomplete
  | cons field fields ih =>
      rw [complete] at incomplete
      split at incomplete
      · rename_i absent
        cases incomplete
        exact ⟨List.mem_cons_self, absent⟩
      · cases rest : complete filled fields with
        | ok values =>
            rw [rest] at incomplete
            cases incomplete
        | error other =>
            rw [rest] at incomplete
            cases incomplete
            obtain ⟨later, absent⟩ := ih rest
            exact ⟨List.mem_cons_of_mem _ later, absent⟩

/-- A field that nothing was told for is the name of no member. -/
theorem Fills.not_mem {written : Written} {after : Filled} {name : String}
    (fills : shape.Fills [] written after) (field : name ∈ shape.fields)
    (absent : after.get? name = none) : name ∉ written.map (·.1) := by
  intro member
  obtain ⟨m, stands, same⟩ := List.mem_map.1 member
  have own : m ∈ written.filter (·.1 ∈ shape.fields) := by
    refine List.mem_filter.2 ⟨stands, ?_⟩
    rw [same]
    exact decide_eq_true field
  have perm := fills.perm
  rw [List.map_nil, List.append_nil] at perm
  obtain ⟨f, held, told⟩ := List.mem_map.1 (perm.mem_iff.2 own)
  have named : f.1 = name := by
    rw [← same, ← told]
    rfl
  exact not_mem_of_get?_eq_none absent (List.mem_map.2 ⟨f, held, named⟩)

/-- The input opens with an object of which no member has this name. -/
def OpensWithout (name : String) (input : Bytes) : Prop :=
  ∃ written rest left, Blank input (0x7B :: rest) ∧ ObjectOf written rest left ∧
    name ∉ written.map (·.1)

inductive Refuses (shape : Shape) (input : Bytes) : RecordFault → Prop where
  | amiss {f : RecordFault} (amiss : shape.Amiss input f) : Refuses shape input f
  | missing {name : String} {rest : Bytes} {peeked : Bool} (field : name ∈ shape.fields)
      (lacks : OpensWithout name input) :
      Refuses shape input ⟨.whole, ⟨.missingField name, rest, peeked⟩⟩

theorem read_refuses (shape : Shape) (input : Bytes) :
    Fails (shape.Refuses input) (shape.read input) := by
  unfold read
  split
  · exact .amiss (.value trivial (.inl rfl) (.misspelt rfl))
  rename_i b rest skipped
  have blank := blank_of_skipBlank skipped
  have behind : rest <:+ input := suffix_behind blank.suffix
  split
  · rename_i brace
    rw [brace] at blank
    have members : Fails (shape.Amiss input) (shape.readMembers (fuelFor input) [] true rest) :=
      readMembers_amiss behind
    split
    · rename_i failed
      exact .amiss (members.holds failed)
    rename_i filled left gathered
    split
    · trivial
    · rename_i name incomplete
      obtain ⟨field, absent⟩ := complete_eq_error incomplete
      obtain ⟨written, object, fills⟩ := readMembers_rest gathered
      exact .missing field ⟨written, rest, left, blank, object, fills.not_mem field absent⟩
  split
  · have items : Fails (shape.Amiss input) (shape.readItems shape.fields 0 rest) :=
      readItems_amiss behind
    split
    · rename_i failed
      exact .amiss (items.holds failed)
    · refine Fails.map ?_ _
      exact (fails_of_misspelt (Place.stands_whole input)
        (readListEnd_misspelt _)).mono fun _ => .amiss
  · have mistyped := refuseType_mistyped (α := List String × Bytes) ("struct " ++ shape.title)
      blank.suffix
    exact (fails_of (Place.stands_whole input) (.inr rfl) mistyped).mono fun _ => .amiss

/-- **A record is refused for one of a few things, and what is quoted stands in the input.** -/
theorem parse_refuses {shape : Shape} {input : Bytes} {f : RecordFault}
    (refused : shape.parse input = .error f) : shape.Refuses input f := by
  have fails : Fails (shape.Refuses input) (shape.parse input) := by
    unfold parse
    split
    · rename_i failed
      exact (read_refuses shape input).holds failed
    · refine Fails.map ?_ _
      exact (fails_of_misspelt (Place.stands_whole input) (readEnd_misspelt _)).mono fun _ => .amiss
  exact fails.holds refused

/-- A document that is a text is no record, and the refusal quotes it. -/
theorem parse_renderString (shape : Shape) (s : String) :
    shape.parse (renderString s) = .error ⟨.whole,
      ⟨.invalidType (.str s) ("struct " ++ shape.title), [], false⟩⟩ := by
  have written := renderString_eq s []
  rw [List.append_nil] at written
  have text : shape.read (renderString s) = .error ⟨.whole,
      ⟨.invalidType (.str s) ("struct " ++ shape.title), [], false⟩⟩ := by
    rw [written, read, skipBlank_cons (by decide)]
    dsimp only
    rw [if_neg (by decide), if_neg (by decide), refuseType_string]
    rfl
  rw [parse, text]

end Shape

/-! ## Quotations -/

/-- A string that a fault quotes: a name in its path, or a text that was found. -/
inductive RecordFault.Quotes (s : String) : RecordFault → Prop where
  | path {fault : Fault} : Quotes s ⟨.member s, fault⟩
  | found {place : Place} {expected : String} {rest : Bytes} {peeked : Bool} :
      Quotes s ⟨place, ⟨.invalidType (.str s) expected, rest, peeked⟩⟩

/-- **A string that a refusal quotes stands in the input.** -/
theorem RecordFault.Quotes.spells {shape : Shape} {input : Bytes} {f : RecordFault} {s : String}
    (quotes : f.Quotes s) (refuses : shape.Refuses input f) : Spells input s := by
  cases refuses with
  | missing => cases quotes
  | amiss amiss =>
      cases amiss with
      | twice => cases quotes
      | length => cases quotes
      | value path words mistyped =>
          cases quotes with
          | path => exact path
          | found =>
              cases mistyped with
              | type stands => exact stands
              | misspelt misspelt => cases misspelt

end SessionAuthority.Json

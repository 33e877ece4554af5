import SessionAuthority.Json.Record
import SessionAuthority.Proofs.Json.RoundTrip

/-!
# Records are read as they are written

`Shape.parse_render`: an object of strings, one for each field of a shape in order, is read back as
those strings.  The reader gathers fields in a list of its own (`readMembers_written`), in which
every field has the one value that was written for it (`complete_written`).
-/
set_option autoImplicit false

namespace SessionAuthority.Json

def texts (members : List (String × String)) : List (String × Json) :=
  members.map fun m => (m.1, .str m.2)

theorem ne_of_not_mem_names {name : String} {members : List (String × String)}
    (absent : name ∉ members.map (·.1)) {m : String × String} (member : m ∈ members) :
    m.1 ≠ name := by
  rintro rfl
  exact absent (List.mem_map.2 ⟨m, member, rfl⟩)

theorem Filled.get?_cons_of_ne {name other : String} (ne : other ≠ name) (s : String)
    (filled : Filled) : Filled.get? ((name, s) :: filled) other = filled.get? other := by
  have differs : (other == name) = false := by simpa using ne
  rw [get?, get?, List.lookup_cons, differs]

namespace Shape

/-! ## Members -/

theorem readStringValue_render (s : String) (rest : Bytes) :
    readStringValue (renderString s ++ rest) = .ok (s, rest) := by
  rw [renderString_eq, readStringValue, skipBlank_cons (by decide)]
  exact readString_escaped s rest

theorem readMember_written {shape : Shape} {name : String} {filled : Filled}
    (field : name ∈ shape.fields) (fresh : filled.get? name = none) (s : String) (rest : Bytes) :
    shape.readMember name filled (0x3A :: (renderString s ++ rest)) =
      .ok ((name, s) :: filled, rest) := by
  have colon : readColon (0x3A :: (renderString s ++ rest)) = .ok ((), renderString s ++ rest) := by
    simp [readColon, skipBlank, isBlank]
  rw [readMember, if_pos field, fresh]
  simp only [Option.isSome_none, Bool.false_eq_true, if_false, colon, readStringValue_render]
  rfl

theorem readMembers_close (shape : Shape) (fuel : Nat) (filled : Filled) (rest : Bytes) :
    shape.readMembers (fuel + 1) filled false (0x7D :: rest) = .ok (filled, rest) := by
  rw [readMembers.eq_def]
  simp [skipBlank_cons (b := 0x7D) (by decide)]

theorem readMembers_first {shape : Shape} {name : String} (field : name ∈ shape.fields)
    (fuel : Nat) (s : String) (rest : Bytes) :
    shape.readMembers (fuel + 1) [] true
        (renderString name ++ 0x3A :: (renderString s ++ rest)) =
      shape.readMembers fuel [(name, s)] false rest := by
  rw [renderString_eq name, readMembers.eq_def]
  simp [skipBlank_cons (b := 0x22) (by decide), readString_escaped, Place.of,
    readMember_written field (show Filled.get? [] name = none from rfl)]

theorem readMembers_next {shape : Shape} {name : String} {filled : Filled}
    (field : name ∈ shape.fields) (fresh : filled.get? name = none) (fuel : Nat) (s : String)
    (rest : Bytes) :
    shape.readMembers (fuel + 1) filled false
        (0x2C :: (renderString name ++ 0x3A :: (renderString s ++ rest))) =
      shape.readMembers fuel ((name, s) :: filled) false rest := by
  rw [renderString_eq name, readMembers.eq_def]
  simp [skipBlank_cons (b := 0x2C) (by decide), skipBlank_cons (b := 0x22) (by decide),
    readString_escaped, Place.of, readMember_written field fresh]

/-- Written members are gathered, the last one in front. -/
theorem readMembers_written {shape : Shape} : ∀ (members : List (String × String)) (fuel : Nat)
    (filled : Filled) (rest : Bytes), (∀ m ∈ members, m.1 ∈ shape.fields) →
    (members.map (·.1)).Nodup → (∀ m ∈ members, filled.get? m.1 = none) →
    members.length < fuel →
    shape.readMembers fuel filled false (renderMembers (texts members) ++ rest) =
      .ok (members.reverse ++ filled, rest)
  | [], fuel + 1, filled, rest, _, _, _, _ => readMembers_close shape fuel filled rest
  | (name, s) :: members, fuel + 1, filled, rest, fields, distinct, fresh, enough => by
      obtain ⟨absent, distinct⟩ := List.nodup_cons.1 distinct
      have written : renderMembers (texts ((name, s) :: members)) ++ rest =
          0x2C :: (renderString name ++ 0x3A :: (renderString s ++
            (renderMembers (texts members) ++ rest))) := by
        simp [texts, renderMembers, render]
      have others : ∀ m ∈ members, Filled.get? ((name, s) :: filled) m.1 = none := by
        intro m member
        rw [Filled.get?_cons_of_ne (ne_of_not_mem_names absent member)]
        exact fresh m (List.mem_cons_of_mem _ member)
      rw [written, readMembers_next (fields _ List.mem_cons_self) (fresh _ List.mem_cons_self),
        readMembers_written members fuel _ rest
          (fun m member => fields m (List.mem_cons_of_mem _ member)) distinct others
          (by simp only [List.length_cons] at enough; omega)]
      simp

/-! ## Fields -/

theorem get?_of_mem {name s : String} : ∀ {filled : Filled}, (filled.map (·.1)).Nodup →
    (name, s) ∈ filled → filled.get? name = some s
  | (n, t) :: rest, distinct, member => by
      obtain ⟨absent, distinct⟩ := List.nodup_cons.1 distinct
      rcases List.mem_cons.1 member with same | later
      · cases same
        rw [Filled.get?, List.lookup_cons, beq_self_eq_true]
      · rw [Filled.get?_cons_of_ne (ne_of_not_mem_names absent later)]
        exact get?_of_mem distinct later

/-- Every field has the one value that was written for it. -/
theorem complete_written {filled : Filled} : ∀ {members : List (String × String)},
    (∀ m ∈ members, filled.get? m.1 = some m.2) →
      complete filled (members.map (·.1)) = .ok (members.map (·.2))
  | [], _ => rfl
  | (name, s) :: members, held => by
      have first := held _ List.mem_cons_self
      have rest : complete filled (members.map (·.1)) = .ok (members.map (·.2)) :=
        complete_written fun m member => held m (List.mem_cons_of_mem _ member)
      simp only [List.map_cons, complete, first, rest, Except.map]

theorem length_renderMembers (members : List (String × Json)) :
    members.length < (renderMembers members).length := by
  induction members with
  | nil => simp [renderMembers]
  | cons m members ih =>
      obtain ⟨name, v⟩ := m
      simp only [renderMembers, List.length_cons, List.length_append]
      omega

/-- The members of a written object are gathered from behind its brace. -/
theorem readMembers_object {shape : Shape} {members : List (String × String)}
    (fields : ∀ m ∈ members, m.1 ∈ shape.fields) (distinct : (members.map (·.1)).Nodup) :
    ∃ rest, render (.object (texts members)) = 0x7B :: rest ∧
      shape.readMembers (fuelFor (0x7B :: rest)) [] true rest = .ok (members.reverse, []) := by
  cases members with
  | nil =>
      refine ⟨[0x7D], rfl, ?_⟩
      rw [fuelFor, readMembers.eq_def]
      rfl
  | cons m members =>
      obtain ⟨name, s⟩ := m
      obtain ⟨absent, distinct⟩ := List.nodup_cons.1 distinct
      have count := length_renderMembers (texts members)
      have others : ∀ m ∈ members, Filled.get? [(name, s)] m.1 = none := fun m member =>
        Filled.get?_cons_of_ne (ne_of_not_mem_names absent member) s []
      have written : render (.object (texts ((name, s) :: members))) =
          0x7B :: (renderString name ++ 0x3A :: (renderString s ++
            renderMembers (texts members))) := by
        simp [texts, render]
      have enough : members.length <
          3 * (renderString name ++ 0x3A :: (renderString s ++
            renderMembers (texts members))).length + 5 := by
        simp only [texts, List.length_map] at count
        simp only [texts, List.length_append, List.length_cons]
        omega
      have read := readMembers_written members _ [(name, s)] []
        (fun m member => fields m (List.mem_cons_of_mem _ member)) distinct others enough
      rw [List.append_nil] at read
      refine ⟨_, written, ?_⟩
      rw [fuelFor, List.length_cons, Nat.mul_succ,
        readMembers_first (fields _ List.mem_cons_self), read, List.reverse_cons]

/-- **A record is read back** with the values that were written for its fields. -/
theorem parse_render {shape : Shape} {members : List (String × String)}
    (fields : members.map (·.1) = shape.fields) (distinct : shape.fields.Nodup) :
    shape.parse (render (.object (texts members))) = .ok (members.map (·.2)) := by
  rw [← fields] at distinct
  have own : ∀ m ∈ members, m.1 ∈ shape.fields := fun m member =>
    fields ▸ List.mem_map.2 ⟨m, member, rfl⟩
  obtain ⟨rest, written, gathered⟩ := readMembers_object own distinct
  have held : ∀ m ∈ members, Filled.get? members.reverse m.1 = some m.2 := fun m member =>
    get?_of_mem (by rw [List.map_reverse]; exact (List.reverse_perm _).nodup_iff.2 distinct)
      (List.mem_reverse.2 member)
  have complete := complete_written held
  rw [fields] at complete
  rw [written, parse, read, skipBlank_cons (by decide)]
  simp only [if_true, gathered, complete]
  rfl

end Shape

end SessionAuthority.Json

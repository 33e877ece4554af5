import SessionAuthority.Json.Value

/-!
# The normal form of JSON values

`canonical` reaches its normal form (`canonical_canonical`) and leaves it alone
(`canonical_eq_self`), so `Canonical` is exactly the image of `canonical`.  Both rest on the same
fact about members: sorting by name and keeping the last of each gives strictly ascending names
(`sortMembers_ascending`), and a list that has them already is not touched
(`sortMembers_of_ascending`).
-/
set_option autoImplicit false

namespace SessionAuthority.Json

/-! ## The order of names -/

theorem nameLe_trans (a b c : String) (ab : nameLe a b = true) (bc : nameLe b c = true) :
    nameLe a c = true := by
  simp only [nameLe, decide_eq_true_eq] at ab bc ⊢
  exact List.le_trans ab bc

theorem nameLe_total (a b : String) : (nameLe a b || nameLe b a) = true := by
  simpa [nameLe] using List.le_total (Bytes.ofString a) (Bytes.ofString b)

theorem nameLt_of_nameLe {a b : String} (le : nameLe a b = true) (ne : a ≠ b) : nameLt a b := by
  simp only [nameLe, decide_eq_true_eq] at le
  exact Std.lt_of_le_of_ne le fun same => ne (Bytes.ofString_injective same)

theorem nameLe_of_nameLt {a b : String} (lt : nameLt a b) : nameLe a b = true := by
  simpa [nameLe] using Std.le_of_lt lt

theorem nameLt_of_lt_of_le {a b c : String} (ab : nameLt a b) (bc : nameLe b c = true) :
    nameLt a c := by
  simp only [nameLe, decide_eq_true_eq] at bc
  exact Std.lt_of_lt_of_le ab bc

theorem ne_of_nameLt {a b : String} (lt : nameLt a b) : a ≠ b := by
  rintro rfl
  exact Std.lt_irrefl lt

/-! ## Members -/

theorem mem_of_mem_keepLast {m : String × Json} :
    ∀ {members : List (String × Json)}, m ∈ keepLast members → m ∈ members
  | [], kept => kept
  | [_], kept => kept
  | first :: second :: rest, kept => by
      simp only [keepLast] at kept
      split at kept
      · exact List.mem_cons_of_mem _ (mem_of_mem_keepLast kept)
      · rcases List.mem_cons.1 kept with rfl | kept
        · exact List.mem_cons_self
        · exact List.mem_cons_of_mem _ (mem_of_mem_keepLast kept)

theorem keepLast_ascending : ∀ {members : List (String × Json)},
    (members.Pairwise fun a b => nameLe a.1 b.1 = true) → Ascending (keepLast members)
  | [], _ => .nil
  | [_], _ => List.pairwise_singleton ..
  | first :: second :: rest, sorted => by
      obtain ⟨below, sorted⟩ := List.pairwise_cons.1 sorted
      have tail := keepLast_ascending sorted
      simp only [keepLast]
      split
      · exact tail
      · rename_i ne
        have lt := nameLt_of_nameLe (below second List.mem_cons_self) ne
        refine List.pairwise_cons.2 ⟨fun m kept => ?_, tail⟩
        rcases List.mem_cons.1 (mem_of_mem_keepLast kept) with rfl | later
        · exact lt
        · exact nameLt_of_lt_of_le lt ((List.pairwise_cons.1 sorted).1 m later)

theorem keepLast_of_ascending : ∀ {members : List (String × Json)},
    Ascending members → keepLast members = members
  | [], _ => rfl
  | [_], _ => rfl
  | first :: second :: rest, ascending => by
      obtain ⟨below, tail⟩ := List.pairwise_cons.1 ascending
      rw [keepLast, if_neg (ne_of_nameLt (below second List.mem_cons_self)),
        keepLast_of_ascending tail]

/-- Sorted members have strictly ascending names, however they were given. -/
theorem sortMembers_ascending (members : List (String × Json)) : Ascending (sortMembers members) :=
  keepLast_ascending (List.pairwise_mergeSort (fun a b c => nameLe_trans a.1 b.1 c.1)
    (fun a b => nameLe_total a.1 b.1) members)

theorem sortMembers_of_ascending {members : List (String × Json)} (ascending : Ascending members) :
    sortMembers members = members := by
  rw [sortMembers, List.mergeSort_of_pairwise (ascending.imp nameLe_of_nameLt),
    keepLast_of_ascending ascending]

theorem mem_of_mem_sortMembers {m : String × Json} {members : List (String × Json)}
    (kept : m ∈ sortMembers members) : m ∈ members :=
  (List.mergeSort_perm members _).mem_iff.1 (mem_of_mem_keepLast kept)

theorem canonicalMembers_eq_map (members : List (String × Json)) :
    canonicalMembers members = members.map fun m => (m.1, m.2.canonical) := by
  induction members with
  | nil => rfl
  | cons m rest ih => rw [canonicalMembers, ih, List.map_cons]

/-! ## Values -/

theorem canonical_object {members : List (String × Json)}
    (all : ∀ m ∈ members, Canonical m.2) : Canonical (.object (sortMembers members)) :=
  .object (fun m kept => all m (mem_of_mem_sortMembers kept)) (sortMembers_ascending members)

mutual

/-- Every value reaches its normal form. -/
theorem canonical_canonical : ∀ v : Json, Canonical v.canonical
  | .null => .null
  | .bool b => .bool b
  | .int i => .int i
  | .float bits => .float bits
  | .str s => .str s
  | .array items => .array (canonicalItems_canonical items)
  | .object members => canonical_object (canonicalMembers_canonical members)

theorem canonicalItems_canonical : ∀ items : List Json, ∀ v ∈ canonicalItems items, Canonical v
  | [], v, member => by cases member
  | first :: rest, v, member => by
      rcases List.mem_cons.1 member with rfl | later
      · exact canonical_canonical first
      · exact canonicalItems_canonical rest v later

theorem canonicalMembers_canonical : ∀ members : List (String × Json),
    ∀ m ∈ canonicalMembers members, Canonical m.2
  | [], m, member => by cases member
  | (name, first) :: rest, m, member => by
      rcases List.mem_cons.1 member with rfl | later
      · exact canonical_canonical first
      · exact canonicalMembers_canonical rest m later

end

mutual

/-- A value in normal form stays as it is. -/
theorem canonical_eq_self : ∀ {v : Json}, Canonical v → v.canonical = v
  | .null, _ | .bool _, _ | .int _, _ | .float _, _ | .str _, _ => rfl
  | .array items, .array all => by rw [canonical, canonicalItems_eq_self all]
  | .object members, .object all ascending => by
      rw [canonical, canonicalMembers_eq_self all, sortMembers_of_ascending ascending]

theorem canonicalItems_eq_self : ∀ {items : List Json}, (∀ v ∈ items, Canonical v) →
    canonicalItems items = items
  | [], _ => rfl
  | first :: rest, all => by
      rw [canonicalItems, canonical_eq_self (all first List.mem_cons_self),
        canonicalItems_eq_self fun v member => all v (List.mem_cons_of_mem _ member)]

theorem canonicalMembers_eq_self : ∀ {members : List (String × Json)},
    (∀ m ∈ members, Canonical m.2) → canonicalMembers members = members
  | [], _ => rfl
  | (name, first) :: rest, all => by
      rw [canonicalMembers, canonical_eq_self (all (name, first) List.mem_cons_self),
        canonicalMembers_eq_self fun m member => all m (List.mem_cons_of_mem _ member)]

end

/-! ## Looking a name up -/

theorem mem_of_lookup? {name : String} {v : Json} :
    ∀ {members : List (String × Json)}, lookup? name members = some v → (name, v) ∈ members
  | (n, w) :: rest, found => by
      rw [lookup?] at found
      split at found
      · rename_i same
        obtain rfl := Option.some.inj found
        subst same
        exact List.mem_cons_self
      · exact List.mem_cons_of_mem _ (mem_of_lookup? found)

theorem lookup?_of_mem {name : String} {v : Json} :
    ∀ {members : List (String × Json)}, Ascending members → (name, v) ∈ members →
      lookup? name members = some v
  | (n, w) :: rest, ascending, member => by
      obtain ⟨below, tail⟩ := List.pairwise_cons.1 ascending
      rw [lookup?]
      rcases List.mem_cons.1 member with same | later
      · cases same
        rw [if_pos rfl]
      · rw [if_neg (ne_of_nameLt (below _ later)), lookup?_of_mem tail later]

theorem lookup?_eq_none_iff {name : String} {members : List (String × Json)} :
    lookup? name members = none ↔ ∀ m ∈ members, m.1 ≠ name := by
  induction members with
  | nil => simp [lookup?]
  | cons m rest ih =>
      obtain ⟨n, v⟩ := m
      rw [lookup?]
      by_cases same : n = name <;> simp [same, ih]

/-- With ascending names, no more stands under a name than a look finds. -/
theorem filter_name_of_ascending {members : List (String × Json)} (ascending : Ascending members)
    (name : String) :
    members.filter (·.1 == name) = ((lookup? name members).map (name, ·)).toList := by
  induction members with
  | nil => rfl
  | cons m rest ih =>
      obtain ⟨n, v⟩ := m
      obtain ⟨below, tail⟩ := List.pairwise_cons.1 ascending
      rw [List.filter_cons, lookup?]
      by_cases same : n = name
      · subst same
        have absent : lookup? n rest = none :=
          lookup?_eq_none_iff.2 fun m later => (ne_of_nameLt (below m later)).symm
        simp [ih tail, absent]
      · simp [same, ih tail]

end SessionAuthority.Json

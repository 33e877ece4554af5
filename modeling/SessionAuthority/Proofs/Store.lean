import SessionAuthority.Store

/-!
# What a store shows

A store is seen through `live?`, the entry that is live under a key at an instant.  Each operation
answers by it and changes it under one key at most: `live?_set`, `expire_eq`, `live?_delete`, and
under none for a read (`get_eq`).  Entries that stay behind after their deadline are not seen, and
time only takes away (`live?_later`).
-/
set_option autoImplicit false

namespace SessionAuthority.Store

def live? (s : Store) (now : Instant) (key : String) : Option Entry :=
  (s.entry? key).filter (·.live now)

/-! ## Entries by key -/

theorem entry?_erase (s : Store) (key other : String) :
    entry? (s.erase key) other = if other = key then none else s.entry? other := by
  obtain ⟨entries⟩ := s
  simp only [erase, entry?]
  induction entries with
  | nil => simp
  | cons first rest ih =>
      obtain ⟨k, e⟩ := first
      by_cases gone : k = key
      · subst gone
        rw [List.filter_cons_of_neg (by simp), ih, List.lookup_cons]
        by_cases same : other = k
        · rw [if_pos same, if_pos same]
        · have differs : (other == k) = false := by simpa using same
          rw [if_neg same, if_neg same, differs]
      · rw [List.filter_cons_of_pos (by simpa using gone), List.lookup_cons, List.lookup_cons]
        by_cases found : other = k
        · subst found
          simp [gone]
        · have differs : (other == k) = false := by simpa using found
          rw [differs]
          exact ih

theorem entry?_put (s : Store) (key other : String) (e : Entry) :
    entry? (s.put key e) other = if other = key then some e else s.entry? other := by
  have rest := entry?_erase s key other
  simp only [put, entry?, List.lookup_cons] at rest ⊢
  by_cases same : other = key
  · simp [same]
  · have differs : (other == key) = false := by simpa using same
    rw [if_neg same] at rest
    rw [differs, if_neg same, ← rest]

theorem live?_put (s : Store) (now : Instant) (key other : String) (e : Entry) :
    (s.put key e).live? now other =
      if other = key then (some e).filter (·.live now) else s.live? now other := by
  rw [live?, entry?_put]
  split <;> rfl

theorem live?_erase (s : Store) (now : Instant) (key other : String) :
    (s.erase key).live? now other = if other = key then none else s.live? now other := by
  rw [live?, entry?_erase]
  split <;> rfl

theorem live?_of_absent {s : Store} {key : String} (absent : s.entry? key = none)
    (now : Instant) : s.live? now key = none := by
  rw [live?, absent, Option.filter_none]

theorem live?_of_live {s : Store} {now : Instant} {key : String} {e : Entry}
    (held : s.entry? key = some e) (alive : e.live now = true) : s.live? now key = some e := by
  rw [live?, held, Option.filter_some, if_pos alive]

theorem live?_of_ended {s : Store} {now : Instant} {key : String} {e : Entry}
    (held : s.entry? key = some e) (ended : e.live now = false) : s.live? now key = none := by
  rw [live?, held, Option.filter_some, ended, if_neg Bool.false_ne_true]

/-! ## Time -/

theorem live_of_le {e : Entry} {now later : Instant} (order : now ≤ later)
    (alive : e.live later = true) : e.live now = true := by
  simp only [Entry.live, decide_eq_true_eq] at alive ⊢
  exact Nat.lt_of_le_of_lt order alive

/-- What is live later is what is live now and has not ended by then. -/
theorem live?_later (s : Store) {now later : Instant} (order : now ≤ later) (key : String) :
    s.live? later key = (s.live? now key).filter (·.live later) := by
  rw [live?, live?, Option.filter_filter]
  congr 1
  funext e
  cases alive : e.live later with
  | false => rw [Bool.and_false]
  | true => rw [live_of_le order alive, Bool.and_true]

/-! ## Operations -/

/-- An entry that is not live can be taken away unnoticed. -/
theorem live?_erase_of_none {s : Store} {now : Instant} {key : String}
    (gone : s.live? now key = none) (other : String) :
    (s.erase key).live? now other = s.live? now other := by
  rw [live?_erase]
  split
  · rename_i same; rw [same, gone]
  · rfl

/-- The answer of `get` is the value that is live, and nothing that is live is taken away. -/
theorem get_eq (s : Store) (now : Instant) (key : String) :
    ∃ after, s.get now key = ((s.live? now key).map (·.value), after) ∧
      ∀ other, after.live? now other = s.live? now other := by
  rw [get]
  cases held : s.entry? key with
  | none =>
      refine ⟨s, ?_, fun _ => rfl⟩
      rw [live?_of_absent held]; rfl
  | some e =>
      cases alive : e.live now with
      | true =>
          refine ⟨s, ?_, fun _ => rfl⟩
          rw [live?_of_live held alive]
          simp only [alive, if_true, Option.map_some]
      | false =>
          have gone := live?_of_ended held alive
          refine ⟨s.erase key, ?_, live?_erase_of_none gone⟩
          rw [gone]
          simp only [alive, Bool.false_eq_true, if_false, Option.map_none]

/-- A time to live that a store takes. -/
def Takes (ttl : Span) : Prop := 0 < ttl.millis ∧ ttl.millis ≤ 0xFFFFFFFFFFFFFFFF

theorem lifetime_eq {ttl : Span} (takes : Takes ttl) : lifetime ttl = .ok ttl.millis := by
  obtain ⟨pos, fits⟩ := takes
  rw [lifetime, if_neg (by omega)]

theorem lifetime_of_not_takes {ttl : Span} (refused : ¬ Takes ttl) :
    lifetime ttl = .error (.invalidTtl ttl) := by
  have outside : ttl.millis = 0 ∨ 0xFFFFFFFFFFFFFFFF < ttl.millis := by
    simp only [Takes] at refused
    omega
  rw [lifetime, if_pos outside]

theorem lt_deadline {ttl : Span} (takes : Takes ttl) (now : Instant) :
    now < deadline now ttl.millis :=
  Nat.lt_add_of_pos_right (Nat.mul_pos takes.1 (by decide))

theorem set_eq {ttl : Span} (takes : Takes ttl) (s : Store) (now : Instant) (key : String)
    (value : Bytes) :
    s.set now key value ttl = .ok (s.put key ⟨value, deadline now ttl.millis⟩) := by
  rw [set, lifetime_eq takes]
  rfl

/-- A fresh entry is live at once. -/
theorem live?_set {ttl : Span} (takes : Takes ttl) (s : Store) (now : Instant)
    (key other : String) (value : Bytes) :
    (s.put key ⟨value, deadline now ttl.millis⟩).live? now other =
      if other = key then some ⟨value, deadline now ttl.millis⟩ else s.live? now other := by
  have alive := lt_deadline takes now
  rw [live?_put, Option.filter_some]
  simp only [Entry.live, alive, decide_true, if_true]

/-- The answer of `expire` says whether the key is live, and what is live starts again. -/
theorem expire_eq {ttl : Span} (takes : Takes ttl) (s : Store) (now : Instant) (key : String) :
    ∃ after, s.expire now key ttl = .ok ((s.live? now key).isSome, after) ∧
      ∀ other, after.live? now other =
        if other = key then
          (s.live? now key).map fun e => { e with deadline := deadline now ttl.millis }
        else s.live? now other := by
  -- nothing is to be seen under the key, before and after
  have unseen {after : Store} (gone : s.live? now key = none)
      (same : ∀ other, after.live? now other = s.live? now other) (other : String) :
      after.live? now other =
        if other = key then
          (s.live? now key).map fun e => { e with deadline := deadline now ttl.millis }
        else s.live? now other := by
    rw [same other, gone]
    split
    · rename_i here; rw [here, gone]; rfl
    · rfl
  rw [expire, lifetime_eq takes]
  cases held : s.entry? key with
  | none =>
      have gone := live?_of_absent held now
      refine ⟨s, ?_, unseen gone fun _ => rfl⟩
      rw [gone]; rfl
  | some e =>
      cases alive : e.live now with
      | true =>
          have here := live?_of_live held alive
          refine ⟨s.put key { e with deadline := deadline now ttl.millis }, ?_, fun other => ?_⟩
          · rw [here]
            simp only [Except.map, alive, if_true, Option.isSome_some]
          · rw [live?_set takes, here, Option.map_some]
      | false =>
          have gone := live?_of_ended held alive
          refine ⟨s.erase key, ?_, unseen gone (live?_erase_of_none gone)⟩
          rw [gone]
          simp only [Except.map, alive, Bool.false_eq_true, if_false, Option.isSome_none]

theorem live?_delete (s : Store) (now : Instant) (key other : String) :
    (s.delete key).live? now other = if other = key then none else s.live? now other :=
  live?_erase s now key other

end SessionAuthority.Store

import Mathlib.Data.Set.Card
import SessionAuthority.Proofs.Store

/-!
# A store is a map whose entries end on time

`TtlMap` is what a store is meant to be: a map from keys to entries out of which an entry falls the
instant its deadline is reached, so that no operation but the clock has to ask about life.
`replies_eq` says that a store, which keeps what has ended until somebody comes across it, answers
every run of operations as that map does.  A question changes nothing of the map, so one that is put
in anywhere changes no other answer, whatever it clears away.

The map that a store stands for is `Store.view`, the live entries.  Each operation answers by it and
changes it as the map's own operation does (`Store.matches_perform`), as long as no key stands twice
(`Keyed`), which counting relies on.
-/
set_option autoImplicit false

namespace SessionAuthority

inductive StoreOperation where
  | get (key : String)
  | set (key : String) (value : Bytes) (ttl : Span)
  | expire (key : String) (ttl : Span)
  | delete (key : String)
  | size
  | advance (span : Span)
  deriving DecidableEq, Repr

inductive StoreReply where
  | value (stored : Option Bytes)
  | found (there : Bool)
  | size (live : Nat)
  | done
  | refused (why : StoreError)
  deriving DecidableEq, Repr

/-- What is asked only to know. -/
inductive StoreQuestion where
  | get (key : String)
  | size
  deriving DecidableEq, Repr

def StoreQuestion.operation : StoreQuestion → StoreOperation
  | get key => .get key
  | size => .size

/-- The answers that are not those to questions put in. -/
def StoreReply.others (mixed : List (StoreQuestion ⊕ StoreOperation)) (replies : List StoreReply) :
    List StoreReply :=
  (mixed.zip replies).filterMap fun m => if m.1.isRight then some m.2 else none

/-! ## The map -/

/-- A map at an instant; every entry in it is live. -/
structure TtlMap where
  clock : Instant
  entry : String → Option Entry

namespace TtlMap

def empty (now : Instant) : TtlMap := ⟨now, fun _ => none⟩

/-- A time to live in whole milliseconds, if there is at least one and 64 bits can hold them. -/
def millis? (ttl : Span) : Option Nat :=
  let n := ttl.nanos / 1000000
  if 1 ≤ n ∧ n < 2 ^ 64 then some n else none

def update (m : TtlMap) (key : String) (e : Option Entry) : TtlMap :=
  { m with entry := Function.update m.entry key e }

/-- The map later on, without the entries whose deadline is reached. -/
def advance (m : TtlMap) (span : Span) : TtlMap :=
  let now := m.clock + span.nanos
  ⟨now, fun key => (m.entry key).filter fun e => decide (now < e.deadline)⟩

noncomputable def perform (m : TtlMap) : StoreOperation → StoreReply × TtlMap
  | .get key => (.value ((m.entry key).map (·.value)), m)
  | .set key value ttl =>
      match millis? ttl with
      | none => (.refused (.invalidTtl ttl), m)
      | some n => (.done, m.update key (some ⟨value, m.clock + n * 1000000⟩))
  | .expire key ttl =>
      match millis? ttl with
      | none => (.refused (.invalidTtl ttl), m)
      | some n =>
          match m.entry key with
          | none => (.found false, m)
          | some e =>
              (.found true, m.update key (some { e with deadline := m.clock + n * 1000000 }))
  | .delete key => (.done, m.update key none)
  | .size => (.size (Set.ncard {key | m.entry key ≠ none}), m)
  | .advance span => (.done, m.advance span)

noncomputable def replies (m : TtlMap) : List StoreOperation → List StoreReply
  | [] => []
  | op :: later => (m.perform op).1 :: replies (m.perform op).2 later

/-- A question leaves the map as it is. -/
theorem perform_question (m : TtlMap) (q : StoreQuestion) : (m.perform q.operation).2 = m := by
  cases q <;> rfl

/-- Questions that are put in change no other answer of the map. -/
theorem replies_others (m : TtlMap) (mixed : List (StoreQuestion ⊕ StoreOperation)) :
    StoreReply.others mixed (m.replies (mixed.map (Sum.elim StoreQuestion.operation id))) =
      m.replies (mixed.filterMap Sum.getRight?) := by
  induction mixed generalizing m with
  | nil => rfl
  | cons first rest ih =>
      cases first with
      | inl q =>
          have same : (m.perform q.operation).2 = m := m.perform_question q
          rw [List.map_cons, Sum.elim_inl, replies, same]
          exact ih m
      | inr op =>
          rw [List.map_cons, Sum.elim_inr, id, replies]
          exact congrArg _ (ih (m.perform op).2)

end TtlMap

namespace Store

/-! ## Runs of a store -/

def perform (s : Store) (now : Instant) : StoreOperation → StoreReply × Instant × Store
  | .get key =>
      let (stored, s) := s.get now key
      (.value stored, now, s)
  | .set key value ttl =>
      match s.set now key value ttl with
      | .ok s => (.done, now, s)
      | .error why => (.refused why, now, s)
  | .expire key ttl =>
      match s.expire now key ttl with
      | .ok (there, s) => (.found there, now, s)
      | .error why => (.refused why, now, s)
  | .delete key => (.done, now, s.delete key)
  | .size => (.size (s.size now), now, s)
  | .advance span => (.done, now + span.nanos, s)

def replies (s : Store) (now : Instant) : List StoreOperation → List StoreReply
  | [] => []
  | op :: later =>
      let after := s.perform now op
      after.1 :: replies after.2.2 after.2.1 later

/-! ## No key stands twice -/

def Keyed (s : Store) : Prop := (s.entries.map Prod.fst).Nodup

theorem keyed_empty : empty.Keyed := List.nodup_nil

theorem Keyed.erase {s : Store} (keyed : s.Keyed) (key : String) : (s.erase key).Keyed :=
  keyed.sublist (List.filter_sublist.map Prod.fst)

theorem Keyed.put {s : Store} (keyed : s.Keyed) (key : String) (e : Entry) :
    (s.put key e).Keyed := by
  refine List.nodup_cons.2 ⟨fun member => ?_, keyed.erase key⟩
  obtain ⟨other, kept, same⟩ := List.mem_map.1 member
  obtain ⟨-, differs⟩ := List.mem_filter.1 kept
  exact absurd same (by simpa using differs)

theorem Keyed.get {s : Store} (keyed : s.Keyed) (now : Instant) (key : String) :
    (s.get now key).2.Keyed := by
  rw [Store.get]
  split
  · exact keyed
  · split
    · exact keyed
    · exact keyed.erase key

theorem Keyed.expire {s after : Store} (keyed : s.Keyed) {now : Instant} {key : String}
    {ttl : Span} {there : Bool} (kept : s.expire now key ttl = .ok (there, after)) :
    after.Keyed := by
  rw [Store.expire] at kept
  cases taken : lifetime ttl with
  | error e => rw [taken] at kept; cases kept
  | ok millis =>
      rw [taken, Except.map] at kept
      have same := Except.ok.inj kept
      cases held : s.entry? key with
      | none =>
          rw [held] at same
          cases same
          exact keyed
      | some e =>
          rw [held] at same
          cases alive : e.live now with
          | true =>
              simp only [alive, if_true] at same
              cases same
              exact keyed.put key _
          | false =>
              simp only [alive, Bool.false_eq_true, if_false] at same
              cases same
              exact keyed.erase key

/-- Where no key stands twice, what is found under a key is what stands there. -/
theorem Keyed.mem_iff {s : Store} (keyed : s.Keyed) {key : String} {e : Entry} :
    (key, e) ∈ s.entries ↔ s.entry? key = some e := by
  obtain ⟨entries⟩ := s
  unfold entry?
  induction entries with
  | nil => simp
  | cons first rest ih =>
      obtain ⟨absent, keyed⟩ := List.nodup_cons.1 keyed
      rw [List.mem_cons, List.lookup_cons, ih keyed]
      by_cases here : key = first.1
      · subst here
        have gone : rest.lookup first.1 = none := by
          rw [List.lookup_eq_none_iff]
          intro m member
          have differs : first.1 ≠ m.1 := fun same => absent (same ▸ List.mem_map_of_mem member)
          simpa using differs
        rw [beq_self_eq_true, show List.lookup first.1 _ = _ from gone]
        constructor
        · rintro (same | found)
          · rw [← same]
          · cases found
        · intro same
          exact .inl (Prod.ext rfl (Option.some.inj same).symm)
      · have differs : (key == first.1) = false := by simpa using here
        rw [differs]
        constructor
        · rintro (same | found)
          · exact absurd (congrArg Prod.fst same) here
          · exact found
        · exact .inr

/-- The live entries are counted once each. -/
theorem Keyed.size_eq {s : Store} (keyed : s.Keyed) (now : Instant) :
    s.size now = Set.ncard {key | s.live? now key ≠ none} := by
  let living := s.entries.filter fun e => e.2.live now
  have distinct : (living.map Prod.fst).Nodup := keyed.sublist (List.filter_sublist.map Prod.fst)
  have keys : {key | s.live? now key ≠ none} = ↑(living.map Prod.fst).toFinset := by
    ext key
    rw [Set.mem_ofPred_eq, List.coe_toFinset, Set.mem_ofPred_eq, Option.ne_none_iff_exists']
    constructor
    · rintro ⟨e, live⟩
      obtain ⟨held, alive⟩ := Option.filter_eq_some_iff.1 live
      exact List.mem_map.2 ⟨(key, e), List.mem_filter.2 ⟨keyed.mem_iff.2 held, alive⟩, rfl⟩
    · intro member
      obtain ⟨⟨_, e⟩, kept, rfl⟩ := List.mem_map.1 member
      obtain ⟨member, alive⟩ := List.mem_filter.1 kept
      exact ⟨e, live?_of_live (keyed.mem_iff.1 member) alive⟩
  rw [keys, Set.ncard_coe_finset, List.toFinset_card_of_nodup distinct, List.length_map]
  rfl

/-! ## What a store stands for -/

/-- The map of the live entries. -/
def view (s : Store) (now : Instant) : TtlMap := ⟨now, s.live? now⟩

theorem view_update {s after : Store} {now : Instant} {key : String} {e : Option Entry}
    (live : ∀ other, after.live? now other = if other = key then e else s.live? now other) :
    after.view now = (s.view now).update key e := by
  rw [view, TtlMap.update, TtlMap.mk.injEq]
  refine ⟨rfl, funext fun other => ?_⟩
  rw [live, Function.update_apply]
  rfl

theorem view_congr {s after : Store} {now : Instant}
    (live : ∀ other, after.live? now other = s.live? now other) : after.view now = s.view now :=
  congrArg (TtlMap.mk now) (funext live)

theorem view_later (s : Store) (now : Instant) (span : Span) :
    s.view (now + span.nanos) = (s.view now).advance span :=
  congrArg (TtlMap.mk _) (funext fun key => s.live?_later (Nat.le_add_right _ _) key)

theorem millis?_of_takes {ttl : Span} (takes : Takes ttl) : TtlMap.millis? ttl = some ttl.millis :=
  if_pos ⟨takes.1, Nat.lt_succ_of_le takes.2⟩

theorem millis?_of_not_takes {ttl : Span} (refused : ¬ Takes ttl) : TtlMap.millis? ttl = none :=
  if_neg fun fits => refused ⟨fits.1, Nat.le_of_lt_succ fits.2⟩

/-- A map and a store at an instant that stand for the same, with the same answer. -/
def Matches (answered : StoreReply × TtlMap) (performed : StoreReply × Instant × Store) : Prop :=
  answered = (performed.1, performed.2.2.view performed.2.1) ∧ performed.2.2.Keyed

section

variable {s : Store} (keyed : s.Keyed) (now : Instant) (key : String)

include keyed

theorem matches_get : Matches ((s.view now).perform (.get key)) (s.perform now (.get key)) := by
  obtain ⟨after, got, same⟩ := s.get_eq now key
  have kept := keyed.get now key
  rw [got] at kept
  refine ⟨?_, ?_⟩
  · simp only [perform, got, view_congr same]
    rfl
  · simp only [perform, got]
    exact kept

theorem matches_set (value : Bytes) (ttl : Span) :
    Matches ((s.view now).perform (.set key value ttl)) (s.perform now (.set key value ttl)) := by
  by_cases takes : Takes ttl
  · have live (other : String) := live?_set takes s now key other value
    simp only [Matches, TtlMap.perform, perform, millis?_of_takes takes, set_eq takes]
    exact ⟨Prod.ext rfl (view_update live).symm, keyed.put key _⟩
  · have refused : s.set now key value ttl = .error (.invalidTtl ttl) := by
      rw [set, lifetime_of_not_takes takes]
      rfl
    refine ⟨?_, ?_⟩
    · simp only [TtlMap.perform, perform, millis?_of_not_takes takes, refused]
    · simp only [perform, refused]
      exact keyed

theorem matches_expire (ttl : Span) :
    Matches ((s.view now).perform (.expire key ttl)) (s.perform now (.expire key ttl)) := by
  by_cases takes : Takes ttl
  · obtain ⟨after, kept, live⟩ := expire_eq takes s now key
    have before : (s.view now).entry key = s.live? now key := rfl
    have kept' := keyed.expire kept
    refine ⟨?_, by simp only [perform, kept]; exact kept'⟩
    simp only [TtlMap.perform, perform, millis?_of_takes takes, kept, before]
    cases held : s.live? now key with
    | none =>
        rw [held, Option.map_none] at live
        have same (other : String) : after.live? now other = s.live? now other := by
          rw [live]
          split
          · rename_i here
            rw [here, held]
          · rfl
        rw [view_congr same]
        rfl
    | some e =>
        rw [held, Option.map_some] at live
        rw [view_update live]
        rfl
  · have refused : s.expire now key ttl = .error (.invalidTtl ttl) := by
      rw [expire, lifetime_of_not_takes takes]
      rfl
    refine ⟨?_, ?_⟩
    · simp only [TtlMap.perform, perform, millis?_of_not_takes takes, refused]
    · simp only [perform, refused]
      exact keyed

end

theorem matches_perform {s : Store} (keyed : s.Keyed) (now : Instant) (op : StoreOperation) :
    Matches ((s.view now).perform op) (s.perform now op) := by
  cases op with
  | get key => exact matches_get keyed now key
  | set key value ttl => exact matches_set keyed now key value ttl
  | expire key ttl => exact matches_expire keyed now key ttl
  | delete key => exact ⟨Prod.ext rfl (view_update (s.live?_delete now key)).symm, keyed.erase key⟩
  | size => exact ⟨Prod.ext (congrArg StoreReply.size (keyed.size_eq now).symm) rfl, keyed⟩
  | advance span => exact ⟨Prod.ext rfl (s.view_later now span).symm, keyed⟩

/-! ## Runs -/

theorem replies_view {s : Store} (keyed : s.Keyed) (now : Instant) (ops : List StoreOperation) :
    s.replies now ops = (s.view now).replies ops := by
  induction ops generalizing s now with
  | nil => rfl
  | cons op later ih =>
      obtain ⟨same, keyed'⟩ := matches_perform keyed now op
      rw [replies, TtlMap.replies, same]
      exact congrArg _ (ih keyed' _)

/-- **A store answers as the map does that drops every entry on time**, in every run of operations
from nothing.  Questions that are put in anywhere change no other answer, and what is removed twice
is as if removed once. -/
theorem replies_eq (start : Instant) :
    (∀ ops, empty.replies start ops = (TtlMap.empty start).replies ops) ∧
      (∀ mixed, StoreReply.others mixed
          (empty.replies start (mixed.map (Sum.elim StoreQuestion.operation id))) =
        empty.replies start (mixed.filterMap Sum.getRight?)) ∧
      ∀ (s : Store) (key : String), (s.delete key).delete key = s.delete key := by
  have agrees (ops : List StoreOperation) :
      empty.replies start ops = (TtlMap.empty start).replies ops :=
    replies_view keyed_empty start ops
  refine ⟨agrees, fun mixed => ?_, fun s key => ?_⟩
  · rw [agrees, agrees]
    exact TtlMap.replies_others _ mixed
  · exact congrArg Store.mk (List.filter_filter.trans (by simp only [Bool.and_self]))

-- at its deadline an entry is neither found nor counted, and its time cannot start again
example : empty.replies 0 [.set "k" [1] (.ofMillis 5), .advance (.ofMillis 5), .size,
    .expire "k" (.ofMillis 5), .get "k"] = [.done, .done, .size 0, .found false, .value none] := by
  decide

end Store

end SessionAuthority

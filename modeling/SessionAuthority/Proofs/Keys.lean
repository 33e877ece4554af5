import SessionAuthority.Proofs.Transaction
import SessionAuthority.Proofs.Watching

/-!
# Calls and their keys

A call to the store is about one key, and so is the prolongation that a call detaches.  Where two
states agree on some keys (`State.Agree`), a call under one of these is answered the same and leaves
them in agreement, whatever the collaborators do with it (`State.Agree.answer`); a call under any
other key changes nothing under these (`State.answer_elsewhere`).  `Program.Confined` says of a
whole program that it keeps to some keys, given the directory that its lookups are answered from.
-/
set_option autoImplicit false

namespace SessionAuthority

variable {α β : Type}

/-! ## Programs that keep to some keys -/

namespace Call

def key? : Call → Option String
  | .detach key _ => some key
  | .get key => some key
  | .set key _ _ => some key
  | .expire key _ => some key
  | .delete key => some key
  | _ => none

/-- A call is about no key but these. -/
def Within (own : String → Prop) (c : Call) : Prop := ∀ key, c.key? = some key → own key

/-- An answer that may come with a directory: nobody is found but whom it lists. -/
def Fits (directory : Directory) : (c : Call) → c.Answer → Prop
  | .lookup identity, .ok user => directory.find? identity = user
  | _, _ => True

end Call

/-- A program with a directory keeps to some keys. -/
def Program.Confined (directory : Directory) (own : String → Prop) : Program α → Prop
  | .done _ => True
  | .crash _ => True
  | .call c next => c.Within own ∧ ∀ answer, c.Fits directory answer →
      (next answer).Confined directory own

section Confined

variable {directory : Directory} {own : String → Prop}

theorem Program.Confined.bind {p : Program α} {f : α → Program β}
    (first : p.Confined directory own) (rest : ∀ a, (f a).Confined directory own) :
    (p >>= f).Confined directory own := by
  induction p with
  | done a => exact rest a
  | crash c => trivial
  | call c next ih =>
      exact ⟨first.1, fun answer fits => ih answer (first.2 answer fits)⟩

/-- A call that is about no key. -/
theorem Call.within_of_none {c : Call} (unkeyed : c.key? = none) : c.Within own := by
  intro key named
  rw [unkeyed] at named
  cases named

/-- A call that is about one key. -/
theorem Call.within_of_some {c : Call} {key : String} (keyed : c.key? = some key)
    (owned : own key) : c.Within own := by
  intro other named
  obtain rfl := Option.some.inj (keyed.symm.trans named)
  exact owned

theorem Action.confined_bind {x : Action α} {f : α → Action β}
    (first : x.run.Confined directory own) (rest : ∀ a, (f a).run.Confined directory own) :
    (x >>= f).run.Confined directory own := by
  rw [ExceptT.run_bind]
  refine first.bind fun r => ?_
  cases r with
  | ok a => exact rest a
  | error e => trivial

theorem Action.confined_ask {c : Call} (within : c.Within own) :
    (Action.ask c).run.Confined directory own := ⟨within, fun _ _ => trivial⟩

theorem Action.confined_ofStore (stored : Except StoreError α) :
    (ofStore stored).run.Confined directory own := by
  cases stored <;> trivial

end Confined

/-! ## Stores that hold the same under some keys -/

namespace Store

/-- Two stores hold the same under some keys, live or not. -/
def AgreeOn (own : String → Prop) (s t : Store) : Prop :=
  ∀ key, own key → s.entry? key = t.entry? key

/-- Operations on two stores are answered the same and leave them in agreement. -/
inductive Concord (own : String → Prop) :
    Except StoreError (α × Store) → Except StoreError (α × Store) → Prop
  | ok {s t : Store} (a : α) (agree : s.AgreeOn own t) : Concord own (.ok (a, s)) (.ok (a, t))
  | error (e : StoreError) : Concord own (.error e) (.error e)

variable {own : String → Prop} {s t : Store}

theorem AgreeOn.put (agree : s.AgreeOn own t) (key : String) (e : Entry) :
    (s.put key e).AgreeOn own (t.put key e) := by
  intro other owned
  rw [entry?_put, entry?_put, agree other owned]

theorem AgreeOn.erase (agree : s.AgreeOn own t) (key : String) :
    (s.erase key).AgreeOn own (t.erase key) := by
  intro other owned
  rw [entry?_erase, entry?_erase, agree other owned]

theorem AgreeOn.get (agree : s.AgreeOn own t) (now : Instant) {key : String} (owned : own key) :
    Concord own (.ok (s.get now key)) (.ok (t.get now key)) := by
  rw [Store.get, Store.get, ← agree key owned]
  cases s.entry? key with
  | none => exact .ok _ agree
  | some e =>
      dsimp only
      split
      · exact .ok _ agree
      · exact .ok _ (agree.erase key)

theorem AgreeOn.set (agree : s.AgreeOn own t) (now : Instant) (key : String) (value : Bytes)
    (ttl : Span) :
    Concord own ((s.set now key value ttl).map fun store => ((), store))
      ((t.set now key value ttl).map fun store => ((), store)) := by
  rw [Store.set, Store.set]
  cases lifetime ttl with
  | error e => exact .error e
  | ok millis => exact .ok () (agree.put key _)

theorem AgreeOn.expire (agree : s.AgreeOn own t) (now : Instant) {key : String} (owned : own key)
    (ttl : Span) : Concord own (s.expire now key ttl) (t.expire now key ttl) := by
  rw [Store.expire, Store.expire, ← agree key owned]
  cases lifetime ttl with
  | error e => exact .error e
  | ok millis =>
      cases s.entry? key with
      | none => exact .ok _ agree
      | some e =>
          simp only [Except.map]
          split
          · exact .ok _ (agree.put key _)
          · exact .ok _ (agree.erase key)

/-! ### A key that is not looked at -/

theorem agreeOn_put {key : String} (other : ¬ own key) (s : Store) (e : Entry) :
    s.AgreeOn own (s.put key e) := by
  intro found owned
  have differs : found ≠ key := fun same => other (same ▸ owned)
  rw [entry?_put, if_neg differs]

theorem agreeOn_erase {key : String} (other : ¬ own key) (s : Store) :
    s.AgreeOn own (s.erase key) := by
  intro found owned
  have differs : found ≠ key := fun same => other (same ▸ owned)
  rw [entry?_erase, if_neg differs]

theorem agreeOn_get {key : String} (other : ¬ own key) (s : Store) (now : Instant) :
    s.AgreeOn own (s.get now key).2 := by
  rw [get]
  split
  · exact fun _ _ => rfl
  · split
    · exact fun _ _ => rfl
    · exact agreeOn_erase other s

end Store

/-! ## Calls -/

namespace State

variable {own : String → Prop} {s t : State} (directory : Directory) (deadline : Option Instant)

/-- Two states are the same but for what their stores hold under other keys. -/
structure Agree (own : String → Prop) (s t : State) : Prop where
  same : t = { s with store := t.store }
  store : s.store.AgreeOn own t.store

theorem Agree.update (agree : s.Agree own t) {r r' : Except StoreError (α × Store)}
    (concord : Store.Concord own r r') :
    (s.update r).1 = (t.update r').1 ∧ (s.update r).2.Agree own (t.update r').2 := by
  cases concord with
  | error e => exact ⟨rfl, agree⟩
  | ok a stores =>
      refine ⟨rfl, ?_, stores⟩
      rw [State.update, State.update, agree.same]

/-- **A call under these keys** is answered the same where the stores agree on them. -/
theorem Agree.respond (agree : s.Agree own t) {c : Call} (within : c.Within own) :
    (s.respond directory c).1 = (t.respond directory c).1 ∧
      (s.respond directory c).2.Agree own (t.respond directory c).2 := by
  have clock : t.clock = s.clock := by rw [agree.same]
  cases c with
  | nonce => rw [agree.same]; exact ⟨rfl, rfl, agree.store⟩
  | count e => rw [agree.same]; exact ⟨rfl, rfl, agree.store⟩
  | report => rw [agree.same]; exact ⟨rfl, rfl, agree.store⟩
  | detach key ttl => rw [agree.same]; exact ⟨rfl, rfl, agree.store⟩
  | lookup identity => rw [agree.same]; exact ⟨rfl, rfl, agree.store⟩
  | get key =>
      rw [State.respond, State.respond, clock]
      exact agree.update (agree.store.get s.clock (within key rfl))
  | set key value ttl =>
      rw [State.respond, State.respond, clock]
      exact agree.update (agree.store.set s.clock key value ttl)
  | expire key ttl =>
      rw [State.respond, State.respond, clock]
      exact agree.update (agree.store.expire s.clock (within key rfl) ttl)
  | delete key =>
      rw [State.respond, State.respond]
      exact agree.update (.ok () (agree.store.erase key))

/-- The same of a prolongation. -/
theorem Agree.prolong (agree : s.Agree own t) {p : Prolongation} (owned : own p.key) :
    (s.prolong p).Agree own (t.prolong p) := by
  have concord := agree.store.expire s.clock owned p.ttl
  rw [State.prolong, State.prolong, agree.same]
  dsimp only
  generalize s.store.expire s.clock p.key p.ttl = kept at concord ⊢
  generalize t.store.expire s.clock p.key p.ttl = kept' at concord ⊢
  cases concord with
  | ok found stores => exact ⟨rfl, stores⟩
  | error e => exact ⟨rfl, agree.store⟩

/-- A call under other keys changes nothing under these. -/
theorem respond_elsewhere (s : State) {c : Call} (elsewhere : c.Within fun key => ¬ own key) :
    s.store.AgreeOn own (s.respond directory c).2.store := by
  cases c with
  | get key => exact Store.agreeOn_get (elsewhere key rfl) s.store s.clock
  | delete key => exact Store.agreeOn_erase (elsewhere key rfl) s.store
  | set key value ttl =>
      rw [respond]
      cases stored : s.store.set s.clock key value ttl with
      | error e => exact fun _ _ => rfl
      | ok store =>
          obtain ⟨-, rfl⟩ := Store.set_eq_ok stored
          exact Store.agreeOn_put (elsewhere key rfl) s.store _
  | expire key ttl =>
      rw [respond]
      cases kept : s.store.expire s.clock key ttl with
      | error e => exact fun _ _ => rfl
      | ok result =>
          intro found owned
          exact ((Store.inherits_expire kept).2 found fun same =>
            elsewhere key rfl (same ▸ owned)).symm
  | _ => exact fun _ _ => rfl

/-- A call detaches no prolongation but of its own key. -/
theorem respond_detaches {s : State} (none : s.ready = []) {c : Call} (within : c.Within own) :
    ∀ p ∈ (s.respond directory c).2.ready, own p.key := by
  -- a call to the store detaches nothing
  have updated {γ : Type} (r : Except StoreError (γ × Store)) :
      ∀ p ∈ (s.update r).2.ready, own p.key := by
    rw [update_ready, none]
    exact fun _ member => absurd member List.not_mem_nil
  have unchanged : ∀ p ∈ s.ready, own p.key := by
    rw [none]
    exact fun _ member => absurd member List.not_mem_nil
  cases c with
  | detach key ttl =>
      intro p member
      rcases List.mem_append.1 member with old | new
      · exact unchanged p old
      · rw [List.mem_singleton.1 new]
        exact within key rfl
  | get key => exact updated _
  | set key value ttl => exact updated _
  | expire key ttl => exact updated _
  | delete key => exact updated _
  | _ => exact unchanged

/-! ### Calls that may be slow, or refused -/

section Idle

variable (idle : ∀ p, ¬ s.Pending p)

include idle

theorem Agree.waitUntil (agree : s.Agree own t) (target : Instant) :
    (s.waitUntil target).Agree own (t.waitUntil target) := by
  have idle' : ∀ p, ¬ t.Pending p := by
    rw [agree.same]
    exact idle
  rw [waitUntil_of_idle idle, waitUntil_of_idle idle', agree.same]
  exact ⟨rfl, agree.store⟩

theorem Agree.meet (agree : s.Agree own t) {ε : Type} (fault : Fault ε) (refuse : ε → β)
    {answer : State → β × State} (kept : ∀ s t : State, s.Agree own t →
      (answer s).1 = (answer t).1 ∧ (answer s).2.Agree own (answer t).2) :
    (s.meet deadline fault refuse answer).1 = (t.meet deadline fault refuse answer).1 ∧
      (s.meet deadline fault refuse answer).2.Agree own
        (t.meet deadline fault refuse answer).2 := by
  -- waiting keeps an idle state idle, and idle states are taken along by it
  refine meet_related deadline
    (fun s t : State => (∀ p, ¬ s.Pending p) ∧ s.Agree own t) (Agree own)
    (fun s t related => by rw [related.2.same]) (fun s t target related => ⟨?_, ?_⟩)
    (fun s t related => related.2) (fun s t related => kept s t related.2)
    ⟨idle, agree⟩ fault refuse
  · rw [waitUntil_of_idle related.1]
    exact related.1
  · exact related.2.waitUntil related.1 target

/-- **A call under these keys**, whatever the collaborators do with it. -/
theorem Agree.answer (agree : s.Agree own t) {c : Call} (within : c.Within own) :
    (s.answer directory deadline c).1 = (t.answer directory deadline c).1 ∧
      (s.answer directory deadline c).2.Agree own (t.answer directory deadline c).2 := by
  have faults : t.faults = s.faults := by rw [agree.same]
  have kept (s t : State) (agree : s.Agree own t) := agree.respond directory within
  have told := agree.respond directory within
  cases c with
  | nonce => exact ⟨congrArg Ending.finished told.1, told.2⟩
  | count e => exact ⟨rfl, told.2⟩
  | report => exact ⟨congrArg Ending.finished told.1, told.2⟩
  | detach key ttl => exact ⟨rfl, told.2⟩
  | lookup identity =>
      rw [State.answer, State.answer, faults]
      exact agree.meet deadline idle s.faults.lookup .error kept
  | get key =>
      rw [State.answer, State.answer, faults]
      exact agree.meet deadline idle s.faults.get .error kept
  | set key value ttl =>
      rw [State.answer, State.answer, faults]
      exact agree.meet deadline idle s.faults.set .error kept
  | expire key ttl =>
      rw [State.answer, State.answer, faults]
      exact agree.meet deadline idle s.faults.expire .error kept
  | delete key =>
      rw [State.answer, State.answer, faults]
      exact agree.meet deadline idle s.faults.delete .error kept

theorem Waits.of_idle {after : State} (waits : s.Waits after) :
    ∃ clock, after = { s with clock } := by
  rcases waits with rfl | ⟨target, rfl⟩
  · exact ⟨after.clock, rfl⟩
  · exact ⟨_, waitUntil_of_idle idle target⟩

/-- **A call under other keys**, whatever the collaborators do with it. -/
theorem answer_elsewhere {c : Call} (elsewhere : c.Within fun key => ¬ own key) :
    s.store.AgreeOn own (s.answer directory deadline c).2.store := by
  rcases s.answer_cases directory deadline c with
    ⟨after, waits, answered⟩ | ⟨a, -, -, refused⟩ | ⟨ending, after, -, waits, ended⟩
  · obtain ⟨clock, rfl⟩ := waits.of_idle idle
    rw [answered]
    exact respond_elsewhere directory { s with clock } elsewhere
  · rw [refused]
    exact fun _ _ => rfl
  · obtain ⟨clock, rfl⟩ := waits.of_idle idle
    rw [ended]
    exact fun _ _ => rfl

/-- What is detached by a call is about its key. -/
theorem answer_detaches {c : Call} (within : c.Within own) :
    ∀ p ∈ (s.answer directory deadline c).2.ready, own p.key := by
  have none (clock : Instant) : State.ready { s with clock } = [] := ready_of_idle idle
  rcases s.answer_cases directory deadline c with
    ⟨after, waits, answered⟩ | ⟨a, -, -, refused⟩ | ⟨ending, after, -, waits, ended⟩
  · obtain ⟨clock, rfl⟩ := waits.of_idle idle
    rw [answered]
    exact respond_detaches directory (none clock) within
  · rw [refused, none s.clock]
    exact fun _ member => absurd member List.not_mem_nil
  · obtain ⟨clock, rfl⟩ := waits.of_idle idle
    rw [ended, none clock]
    exact fun _ member => absurd member List.not_mem_nil

end Idle

/-- A lookup is answered from the directory, if it is answered. -/
theorem answer_fits {c : Call} {a : c.Answer} {after : State}
    (answered : s.answer directory deadline c = (.finished a, after)) : c.Fits directory a := by
  rcases s.answer_cases directory deadline c with
    ⟨t, -, told⟩ | ⟨b, -, silent, refused⟩ | ⟨ending, t, open', -, ended⟩
  · rw [told] at answered
    cases answered
    cases c <;> trivial
  · rw [refused] at answered
    cases answered
    cases c with
    | lookup identity =>
        cases a with
        | error e => trivial
        | ok user => cases silent
    | _ => trivial
  · rw [ended] at answered
    cases answered
    exact absurd rfl (open' a)

end State

end SessionAuthority

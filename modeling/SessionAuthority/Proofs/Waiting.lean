import SessionAuthority.Proofs.State
import SessionAuthority.Proofs.Store

/-!
# What happens while requests wait

While a request waits, the prolongations beside it have their turn.  They take no nonce, and they
put nothing into the store: whatever it holds afterwards it held before, under the same key and with
the same value, and what is live ends at its deadline unless one of them gave it another (`Bides`).

States that show the same sessions go on to do so while both wait (`Alike`).  So what a request has
done to the sessions can be said by comparison: `Lapse` relates a state to those that it becomes by
waiting and by the prolongations that a request may detach, and by nothing else.
-/
set_option autoImplicit false

namespace SessionAuthority

namespace Store

/-- Whatever a store holds, another held under the same key and with the same value. -/
def Inherits (s old : Store) : Prop :=
  ∀ key e, s.entry? key = some e → ∃ o, old.entry? key = some o ∧ o.value = e.value

theorem Inherits.refl (s : Store) : s.Inherits s := fun _ e held => ⟨e, held, rfl⟩

theorem Inherits.trans {s t u : Store} (later : u.Inherits t) (sooner : t.Inherits s) :
    u.Inherits s := by
  intro key e held
  obtain ⟨o, found, same⟩ := later key e held
  obtain ⟨o', found', same'⟩ := sooner key o found
  exact ⟨o', found', same'.trans same⟩

theorem inherits_erase (s : Store) (key : String) : (s.erase key).Inherits s := by
  intro other e held
  rw [entry?_erase] at held
  split at held
  · cases held
  · exact ⟨e, held, rfl⟩

theorem inherits_get (s : Store) (now : Instant) (key : String) :
    (s.get now key).2.Inherits s := by
  rw [get]
  split
  · exact .refl s
  · split
    · exact .refl s
    · exact inherits_erase s key

/-- An entry that is live shows. -/
theorem filter_live {e : Entry} {now : Instant} (alive : e.live now = true) :
    (some e).filter (·.live now) = some e := by
  rw [Option.filter_some, if_pos alive]

/-- A value that `get` finds is held. -/
theorem entry?_of_get {s : Store} {now : Instant} {key : String} {value : Bytes}
    (found : (s.get now key).1 = some value) :
    ∃ e, s.entry? key = some e ∧ e.value = value ∧ s.live? now key = some e := by
  rw [get] at found
  cases held : s.entry? key with
  | none => rw [held] at found; cases found
  | some e =>
      rw [held] at found
      cases alive : e.live now with
      | false => simp [alive] at found
      | true =>
          simp only [alive, if_true, Option.some.injEq] at found
          exact ⟨e, rfl, found, live?_of_live held alive⟩

/-- A store that takes an entry or starts its time again takes the time to live. -/
theorem takes_of_lifetime {ttl : Span} {millis : Nat} (taken : lifetime ttl = .ok millis) :
    Takes ttl ∧ millis = ttl.millis := by
  by_cases takes : Takes ttl
  · rw [lifetime_eq takes] at taken
    cases taken
    exact ⟨takes, rfl⟩
  · rw [lifetime_of_not_takes takes] at taken
    cases taken

theorem set_eq_ok {s store : Store} {now : Instant} {key : String} {value : Bytes} {ttl : Span}
    (stored : s.set now key value ttl = .ok store) :
    Takes ttl ∧ store = s.put key ⟨value, deadline now ttl.millis⟩ := by
  rw [set] at stored
  cases taken : lifetime ttl with
  | error e => rw [taken] at stored; cases stored
  | ok millis =>
      obtain ⟨takes, rfl⟩ := takes_of_lifetime taken
      rw [taken] at stored
      cases stored
      exact ⟨takes, rfl⟩

/-- Starting the time of a key again brings nothing in and leaves the other keys alone. -/
theorem inherits_expire {s after : Store} {now : Instant} {key : String} {ttl : Span}
    {found : Bool} (kept : s.expire now key ttl = .ok (found, after)) :
    after.Inherits s ∧ ∀ other, other ≠ key → after.entry? other = s.entry? other := by
  rw [expire] at kept
  cases taken : lifetime ttl with
  | error e => rw [taken] at kept; cases kept
  | ok millis =>
      rw [taken, Except.map] at kept
      cases held : s.entry? key with
      | none =>
          rw [held] at kept
          cases kept
          exact ⟨.refl s, fun _ _ => rfl⟩
      | some e =>
          rw [held] at kept
          cases alive : e.live now with
          | true =>
              simp only [alive, if_true] at kept
              cases kept
              refine ⟨fun other e' held' => ?_, fun other differs => ?_⟩
              · rw [entry?_put] at held'
                split at held'
                · rename_i same
                  cases held'
                  exact ⟨e, by rw [same, held], rfl⟩
                · exact ⟨e', held', rfl⟩
              · rw [entry?_put, if_neg differs]
          | false =>
              simp only [alive, Bool.false_eq_true, if_false] at kept
              cases kept
              refine ⟨inherits_erase s key, fun other differs => ?_⟩
              rw [entry?_erase, if_neg differs]

end Store

namespace State

/-! ## One prolongation -/

/-- What a prolongation does: to the store what `expire` does, if that takes the time to live. -/
theorem prolong_eq (s : State) (p : Prolongation) :
    ∃ store tally, s.prolong p = { s with store, tally } ∧ store.Inherits s.store ∧
      (∀ key, key ≠ p.key → store.entry? key = s.store.entry? key) ∧
      (Store.Takes p.ttl → ∀ key, store.live? s.clock key =
        if key = p.key then (s.store.live? s.clock p.key).map fun e =>
          { e with deadline := Store.deadline s.clock p.ttl.millis }
        else s.store.live? s.clock key) ∧
      (¬ Store.Takes p.ttl → store = s.store) := by
  rw [prolong]
  by_cases takes : Store.Takes p.ttl
  · obtain ⟨after, kept, live⟩ := Store.expire_eq takes s.store s.clock p.key
    obtain ⟨inherits, others⟩ := Store.inherits_expire kept
    rw [kept]
    exact ⟨after, s.tally, rfl, inherits, others, fun _ => live,
      fun refused => absurd takes refused⟩
  · have refused : s.store.expire s.clock p.key p.ttl = .error (.invalidTtl p.ttl) := by
      rw [Store.expire, Store.lifetime_of_not_takes takes]
      rfl
    rw [refused]
    exact ⟨s.store, .prolongFailed :: s.tally, rfl, .refl _, fun _ _ => rfl,
      fun taken => absurd taken takes, fun _ => rfl⟩

/-! ## Prolongations one after the other -/

theorem startReady_of_nil {s : State} (none : s.ready = []) : s.startReady = s := by
  rw [startReady, none, List.foldl_nil, ← none]

/-- What holds once the ready ones have called, and is kept by each one that is due, holds when they
have all had their turn. -/
theorem settle_induction (s : State) {motive : State → Prop}
    (begun : motive (s.startReady.withoutDue fun wake => decide (wake ≤ s.startReady.clock)))
    (kept : ∀ t, ∀ w ∈ s.startReady.due fun wake => decide (wake ≤ s.startReady.clock),
      motive t → motive (t.prolong w.2)) : motive s.settle := by
  unfold settle
  exact List.foldlRecOn _ _ begun fun t held w member => kept t w member held

/-- The same while the clock goes on, up to the moment at which it stops. -/
theorem waitUntil_induction (s : State) (target : Instant) {motive : State → Prop}
    (begun : motive (s.startReady.withoutDue fun wake => decide (wake < target)))
    (kept : ∀ t, ∀ w ∈ s.startReady.due fun wake => decide (wake < target),
      motive t → motive (State.prolong { t with clock := max t.clock w.1 } w.2)) :
    ∃ t, motive t ∧ s.waitUntil target = { t with clock := max t.clock target } := by
  unfold waitUntil
  exact ⟨_, List.foldlRecOn _ _ begun fun t held w member => kept t w member held, rfl⟩

/-! ## Nothing pending -/

/-- A prolongation has been made and has not had its turn. -/
def Pending (s : State) (p : Prolongation) : Prop :=
  p ∈ s.ready ∨ ∃ wake, (wake, p) ∈ s.waiting

theorem not_pending_of_nil {s : State} (ready : s.ready = []) (waiting : s.waiting = [])
    (p : Prolongation) : ¬ s.Pending p := by
  rintro (among | ⟨wake, among⟩)
  · exact List.not_mem_nil (ready ▸ among)
  · exact List.not_mem_nil (waiting ▸ among)

section Idle

variable {s : State} (idle : ∀ p, ¬ s.Pending p)

include idle

theorem ready_of_idle : s.ready = [] :=
  List.eq_nil_iff_forall_not_mem.2 fun p member => idle p (.inl member)

theorem waiting_of_idle : s.waiting = [] :=
  List.eq_nil_iff_forall_not_mem.2 fun w member => idle w.2 (.inr ⟨w.1, member⟩)

theorem startReady_of_idle : s.startReady = s := startReady_of_nil (ready_of_idle idle)

theorem due_of_idle (now : Instant → Bool) : s.due now = [] := by
  rw [due, waiting_of_idle idle, List.filter_nil, List.mergeSort_nil]

theorem withoutDue_of_idle (now : Instant → Bool) : s.withoutDue now = s := by
  have waiting := waiting_of_idle idle
  rw [withoutDue, waiting, List.filter_nil, ← waiting]

/-- Where nothing is pending, waiting is but a matter of the clock. -/
theorem waitUntil_of_idle (target : Instant) :
    s.waitUntil target = { s with clock := max s.clock target } := by
  rw [waitUntil, startReady_of_idle idle, due_of_idle idle, withoutDue_of_idle idle,
    List.foldl_nil]

theorem settle_of_idle : s.settle = s := by
  rw [settle, startReady_of_idle idle, due_of_idle idle, withoutDue_of_idle idle, List.foldl_nil]

end Idle

/-! ## Nothing is put in -/

/-- An entry between two instants: the same, but that a prolongation may have started its time
again. -/
def Renewed (allowed : Prolongation → Prop) (first last : Instant) (key : String)
    (e renewed : Entry) : Prop :=
  renewed = e ∨ ∃ ttl now, allowed ⟨key, ttl⟩ ∧ first ≤ now ∧ now ≤ last ∧
    renewed = { e with deadline := Store.deadline now ttl.millis }

/-- From one state to another no session is made or replaced, and none ends before its time, which
only prolongations of some kind may have started again. -/
structure Spares (allowed : Prolongation → Prop) (s t : State) : Prop where
  absent : ∀ key, s.store.live? s.clock key = none → t.store.live? t.clock key = none
  present : ∀ key e, s.store.live? s.clock key = some e →
    ∃ renewed, Renewed allowed s.clock t.clock key e renewed ∧
      t.store.live? t.clock key = (some renewed).filter (·.live t.clock)

/-- Nothing but prolongations of some kind happens on the way from one state to another. -/
structure Bides (allowed : Prolongation → Prop) (s t : State) : Prop where
  pending : ∀ p, t.Pending p → allowed p
  clock : s.clock ≤ t.clock
  supply : t.supply = s.supply
  nonces : t.nonces = s.nonces
  store : t.store.Inherits s.store
  spares : s.Spares allowed t

section Bides

variable {allowed : Prolongation → Prop} {s t : State}

theorem Renewed.mono {first last later : Instant} {key : String} {e renewed : Entry}
    (held : Renewed allowed first last key e renewed) (order : last ≤ later) :
    Renewed allowed first later key e renewed := by
  rcases held with rfl | ⟨ttl, now, admitted, sooner, reached, same⟩
  · exact .inl rfl
  · exact .inr ⟨ttl, now, admitted, sooner, Nat.le_trans reached order, same⟩

/-- Time alone spares everything. -/
theorem Spares.later (spares : s.Spares allowed t) {u : State} (order : t.clock ≤ u.clock)
    (store : u.store = t.store) : s.Spares allowed u where
  absent key gone := by
    rw [store, t.store.live?_later order, spares.absent key gone, Option.filter_none]
  present key e live := by
    obtain ⟨renewed, held, live'⟩ := spares.present key e live
    refine ⟨renewed, held.mono order, ?_⟩
    rw [store, t.store.live?_later order, live', Option.filter_filter]
    congr 1
    funext e'
    cases alive : e'.live u.clock with
    | false => rw [Bool.and_false]
    | true => rw [Store.live_of_le order alive, Bool.and_true]

/-- A prolongation spares every other key, and gives a live session its time again. -/
theorem Spares.prolong (spares : s.Spares allowed t) (order : s.clock ≤ t.clock)
    {p : Prolongation} (admitted : allowed p) : s.Spares allowed (t.prolong p) := by
  obtain ⟨store, tally, same, -, -, taken, refused⟩ := t.prolong_eq p
  rw [same]
  by_cases takes : Store.Takes p.ttl
  case neg => exact spares.later (Nat.le_refl _) (refused takes)
  have live := taken takes
  refine ⟨fun key gone => ?_, fun key e held => ?_⟩
  · show store.live? t.clock key = none
    rw [live key]
    split
    · rename_i here
      rw [← here, spares.absent key gone, Option.map_none]
    · exact spares.absent key gone
  · obtain ⟨renewed, before, shown⟩ := spares.present key e held
    show ∃ renewed, Renewed allowed s.clock t.clock key e renewed ∧
      store.live? t.clock key = (some renewed).filter (·.live t.clock)
    rw [live key]
    split
    case isFalse => exact ⟨renewed, before, shown⟩
    case isTrue here =>
      rw [← here, shown]
      cases alive : renewed.live t.clock with
      | false => exact ⟨renewed, before, by simp [Option.filter_some, alive]⟩
      | true =>
          let again : Entry := { renewed with deadline := Store.deadline t.clock p.ttl.millis }
          have alive' : again.live t.clock = true :=
            decide_eq_true (Store.lt_deadline takes t.clock)
          refine ⟨again, .inr ⟨p.ttl, t.clock, ?_, order, Nat.le_refl _, ?_⟩, ?_⟩
          · rwa [here]
          · rcases before with rfl | ⟨ttl, now, -, -, -, rfl⟩ <;> rfl
          · rw [Store.filter_live alive, Store.filter_live alive', Option.map_some]

/-- Every state bides with what is pending in it. -/
theorem Bides.refl (pending : ∀ p, s.Pending p → allowed p) : s.Bides allowed s where
  pending := pending
  clock := Nat.le_refl _
  supply := rfl
  nonces := rfl
  store := .refl _
  spares := by
    refine ⟨fun _ gone => gone, fun key e live => ⟨e, .inl rfl, ?_⟩⟩
    rw [live, Store.filter_live (Option.filter_eq_some_iff.1 live).2]

theorem Bides.later (bides : s.Bides allowed t) {u : State}
    (pending : ∀ p, u.Pending p → allowed p) (order : t.clock ≤ u.clock)
    (supply : u.supply = t.supply) (nonces : u.nonces = t.nonces) (store : u.store = t.store) :
    s.Bides allowed u where
  pending := pending
  clock := Nat.le_trans bides.clock order
  supply := supply.trans bides.supply
  nonces := nonces.trans bides.nonces
  store := store ▸ bides.store
  spares := bides.spares.later order store

theorem Bides.prolong (bides : s.Bides allowed t) {p : Prolongation} (admitted : allowed p) :
    s.Bides allowed (t.prolong p) := by
  have spares := bides.spares.prolong bides.clock admitted
  obtain ⟨store, tally, same, inherits, -⟩ := t.prolong_eq p
  rw [same] at spares ⊢
  exact ⟨bides.pending, bides.clock, bides.supply, bides.nonces, inherits.trans bides.store,
    spares⟩

theorem Bides.start (bides : s.Bides allowed t) {p : Prolongation} (admitted : allowed p) :
    s.Bides allowed (t.start p) := by
  rw [State.start]
  split
  · exact bides.prolong admitted
  · exact bides.later bides.pending (Nat.le_refl _) rfl rfl rfl
  · exact bides
  · split
    · exact bides.prolong admitted
    · refine bides.later ?_ (Nat.le_refl _) rfl rfl rfl
      rintro q (ready | ⟨wake, waiting⟩)
      · exact bides.pending q (.inl ready)
      · rcases List.mem_append.1 waiting with old | new
        · exact bides.pending q (.inr ⟨wake, old⟩)
        · cases List.mem_singleton.1 new
          exact admitted

theorem Bides.startReady (bides : s.Bides allowed t) : s.Bides allowed t.startReady := by
  have emptied : s.Bides allowed { t with ready := [] } := by
    refine bides.later ?_ (Nat.le_refl _) rfl rfl rfl
    rintro p (ready | waiting)
    · exact absurd ready List.not_mem_nil
    · exact bides.pending p (.inr waiting)
  exact List.foldlRecOn (motive := s.Bides allowed) t.ready State.start emptied
    fun u bides p ready => bides.start (‹s.Bides allowed t›.pending p (.inl ready))

theorem Bides.withoutDue (bides : s.Bides allowed t) (now : Instant → Bool) :
    s.Bides allowed (t.withoutDue now) := by
  refine bides.later ?_ (Nat.le_refl _) rfl rfl rfl
  rintro p (ready | ⟨wake, waiting⟩)
  · exact bides.pending p (.inl ready)
  · exact bides.pending p (.inr ⟨wake, (List.mem_filter.1 waiting).1⟩)

theorem Bides.due (bides : s.Bides allowed t) {now : Instant → Bool} {w : Instant × Prolongation}
    (member : w ∈ t.due now) : allowed w.2 := by
  rw [State.due, List.mem_mergeSort] at member
  exact bides.pending w.2 (.inr ⟨w.1, (List.mem_filter.1 member).1⟩)

theorem Bides.waitUntil (bides : s.Bides allowed t) (target : Instant) :
    s.Bides allowed (t.waitUntil target) := by
  have started := bides.startReady
  obtain ⟨u, woken, ended⟩ := t.waitUntil_induction target (motive := s.Bides allowed)
    (started.withoutDue _) fun u w member bides => by
      have later : s.Bides allowed { u with clock := max u.clock w.1 } :=
        bides.later bides.pending (Nat.le_max_left _ _) rfl rfl rfl
      exact later.prolong (started.due member)
  rw [ended]
  exact woken.later woken.pending (Nat.le_max_left _ _) rfl rfl rfl

theorem Bides.settle (bides : s.Bides allowed t) : s.Bides allowed t.settle := by
  have started := bides.startReady
  apply t.settle_induction (started.withoutDue _)
  intro u w member bides
  exact bides.prolong (started.due member)

end Bides

/-! ## States that show the same -/

/-- Two states show the same sessions and have the same prolongations pending. -/
structure Alike (s t : State) : Prop where
  clock : s.clock = t.clock
  faults : s.faults = t.faults
  ready : s.ready = t.ready
  waiting : s.waiting = t.waiting
  live : ∀ key, s.store.live? s.clock key = t.store.live? s.clock key

section Alike

variable {s t : State}

theorem Alike.refl (s : State) : s.Alike s := ⟨rfl, rfl, rfl, rfl, fun _ => rfl⟩

theorem Alike.trans {u : State} (first : s.Alike t) (second : t.Alike u) : s.Alike u where
  clock := first.clock.trans second.clock
  faults := first.faults.trans second.faults
  ready := first.ready.trans second.ready
  waiting := first.waiting.trans second.waiting
  live key := by
    rw [first.live, first.clock]
    exact second.live key

/-- Time goes on for both. -/
theorem Alike.later (alike : s.Alike t) (target : Instant) :
    Alike { s with clock := max s.clock target } { t with clock := max t.clock target } where
  clock := congrArg (max · target) alike.clock
  faults := alike.faults
  ready := alike.ready
  waiting := alike.waiting
  live key := by
    show s.store.live? (max s.clock target) key = t.store.live? (max s.clock target) key
    have order : t.clock ≤ max s.clock target := alike.clock ▸ Nat.le_max_left s.clock target
    rw [Store.live?_later s.store (Nat.le_max_left s.clock target), Store.live?_later t.store order,
      alike.live, alike.clock]

theorem Alike.prolong (alike : s.Alike t) (p : Prolongation) :
    (s.prolong p).Alike (t.prolong p) := by
  obtain ⟨store, tally, same, -, -, taken, refused⟩ := s.prolong_eq p
  obtain ⟨store', tally', same', -, -, taken', refused'⟩ := t.prolong_eq p
  rw [same, same']
  refine ⟨alike.clock, alike.faults, alike.ready, alike.waiting, fun key => ?_⟩
  show store.live? s.clock key = store'.live? s.clock key
  by_cases takes : Store.Takes p.ttl
  · have live' := taken' takes key
    rw [← alike.clock] at live'
    rw [taken takes key, live', alike.live, alike.live]
  · rw [refused takes, refused' takes]
    exact alike.live key

theorem Alike.start (alike : s.Alike t) (p : Prolongation) : (s.start p).Alike (t.start p) := by
  have same : s.faults.expire = t.faults.expire := congrArg Faults.expire alike.faults
  rw [State.start, State.start, same]
  cases t.faults.expire with
  | none => exact alike.prolong p
  | fail e => exact ⟨alike.clock, alike.faults, alike.ready, alike.waiting, alike.live⟩
  | panic detail => exact alike
  | delay wait =>
      dsimp only
      split
      · exact alike.prolong p
      · refine ⟨alike.clock, alike.faults, alike.ready, ?_, alike.live⟩
        show s.waiting ++ _ = t.waiting ++ _
        rw [alike.waiting, alike.clock]

theorem Alike.startReady (alike : s.Alike t) : s.startReady.Alike t.startReady := by
  rw [State.startReady, State.startReady, alike.ready]
  refine List.foldl_rel (r := Alike) ?_ fun p _ s t alike => alike.start p
  exact ⟨alike.clock, alike.faults, rfl, alike.waiting, alike.live⟩

theorem Alike.withoutDue (alike : s.Alike t) (now : Instant → Bool) :
    (s.withoutDue now).Alike (t.withoutDue now) := by
  refine ⟨alike.clock, alike.faults, alike.ready, ?_, alike.live⟩
  rw [State.withoutDue, State.withoutDue, alike.waiting]

theorem Alike.due (alike : s.Alike t) (now : Instant → Bool) : s.due now = t.due now := by
  rw [State.due, State.due, alike.waiting]

/-- **States that show the same go on to do so while both wait.** -/
theorem Alike.waitUntil (alike : s.Alike t) (target : Instant) :
    (s.waitUntil target).Alike (t.waitUntil target) := by
  have started := alike.startReady
  let now (wake : Instant) : Bool := decide (wake < target)
  let wake (s : State) (w : Instant × Prolongation) : State :=
    State.prolong { s with clock := max s.clock w.1 } w.2
  have woken : Alike ((s.startReady.due now).foldl wake (s.startReady.withoutDue now))
      ((t.startReady.due now).foldl wake (t.startReady.withoutDue now)) := by
    rw [started.due now]
    exact List.foldl_rel (r := Alike) (started.withoutDue now) fun w _ s t alike =>
      (alike.later w.1).prolong w.2
  exact woken.later target

theorem Alike.settle (alike : s.Alike t) : s.settle.Alike t.settle := by
  have started := alike.startReady
  rw [State.settle, State.settle, started.clock, started.due]
  exact List.foldl_rel (r := Alike) (started.withoutDue _) fun w _ s t alike => alike.prolong w.2

/-- A read may clear away what has ended, which shows nowhere. -/
theorem alike_get (s : State) (key : String) :
    Alike { s with store := (s.store.get s.clock key).2 } s := by
  obtain ⟨after, got, same⟩ := s.store.get_eq s.clock key
  refine ⟨rfl, rfl, rfl, rfl, fun other => ?_⟩
  show (s.store.get s.clock key).2.live? s.clock other = _
  rw [got]
  exact same other

end Alike

/-! ## States after nothing but waiting -/

/-- A state becomes another by waiting, and by prolongations of some kind that are detached. -/
inductive Lapse (own : Prolongation → Prop) (s : State) : State → Prop
  | refl : Lapse own s s
  | wait {t : State} (target : Instant) : Lapse own s t → Lapse own s (t.waitUntil target)
  | detach {t : State} {p : Prolongation} : own p → Lapse own s t →
      Lapse own s { t with ready := t.ready ++ [p] }

theorem Lapse.bides {own : Prolongation → Prop} {s t : State} (lapse : s.Lapse own t) :
    s.Bides (fun p => own p ∨ s.Pending p) t := by
  induction lapse with
  | refl => exact .refl fun p => .inr
  | wait target _ bides => exact bides.waitUntil target
  | detach allowed _ bides =>
      refine bides.later ?_ (Nat.le_refl _) rfl rfl rfl
      rintro p (ready | waiting)
      · rcases List.mem_append.1 ready with old | new
        · exact bides.pending p (.inl old)
        · rw [List.mem_singleton.1 new]
          exact .inl allowed
      · exact bides.pending p (.inr waiting)

end State

end SessionAuthority

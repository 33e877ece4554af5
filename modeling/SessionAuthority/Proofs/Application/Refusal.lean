import SessionAuthority.Proofs.Application.Conduct
import SessionAuthority.Proofs.Waiting

/-!
# Requests that fail leave the sessions alone

`step_refused`: a login, a refresh or a logout that is not answered 200 has done nothing to any
session, whatever state it came in and however the collaborators misbehaved on the way.  The
sessions look as if the request had only waited (`State.Undisturbed`): none is made, replaced or
ended, and none has another deadline but from a prolongation that was pending before.  A logout that
fails late may have started the time of its own session again, if its caller was authorized.

An issue and a revocation that are made directly and fail leave the very same store
(`Authority.issue_missed`, `Authority.revoke_missed`).
-/
set_option autoImplicit false

namespace SessionAuthority

namespace State

/-- The sessions of a state are left alone on the way to another, except for prolongations of some
kind: they look as after waiting, and none was made, replaced or ended by anything but its time. -/
structure Undisturbed (own : Prolongation → Prop) (s after : State) : Prop where
  waited : ∃ t, s.Lapse own t ∧ after.Alike t.settle
  spared : s.Spares (fun p => own p ∨ s.Pending p) after

/-- What was shown of the store in some later state stands in a live session of this one. -/
def Shows (s : State) (seen : List Seen) : Prop :=
  ∀ key value, .stored key (some value) ∈ seen →
    ∃ e, s.store.live? s.clock key = some e ∧ e.value = value

/-- What is live after a lapse was live before, with the same value. -/
theorem Lapse.live {own : Prolongation → Prop} {s t : State} (lapse : s.Lapse own t) {key : String}
    {e : Entry} (live : t.store.live? t.clock key = some e) :
    ∃ e', s.store.live? s.clock key = some e' ∧ e'.value = e.value := by
  have spares := lapse.bides.spares
  cases held : s.store.live? s.clock key with
  | none =>
      have gone := spares.absent key held
      rw [live] at gone
      cases gone
  | some e' =>
      obtain ⟨renewed, same, shown⟩ := spares.present key e' held
      rw [live] at shown
      obtain ⟨found, -⟩ := Option.filter_eq_some_iff.1 shown.symm
      cases found
      refine ⟨e', rfl, ?_⟩
      rcases same with rfl | ⟨ttl, now, -, -, -, rfl⟩ <;> rfl

/-- A program that has written nothing has only waited, and detached what its licence admits. -/
theorem keeps_lapse {own : Prolongation → Prop} {l : Licence} (directory : Directory) {s : State}
    (detached : ∀ seen p, s.Shows seen → l.detach seen p → own p) :
    l.Keeps directory (fun seen x => (∃ t, s.Lapse own t ∧ x.Alike t) ∧ s.Shows seen)
      fun _ => True where
  wait := by
    rintro seen x target ⟨⟨t, lapse, alike⟩, shows⟩
    exact ⟨⟨_, lapse.wait target, alike.waitUntil target⟩, shows⟩
  nonce := by
    rintro seen x ⟨⟨t, lapse, alike⟩, shows⟩
    refine ⟨⟨t, lapse, ⟨alike.clock, alike.faults, alike.ready, alike.waiting, alike.live⟩⟩, ?_⟩
    intro key value member
    exact shows key value (by simpa using member)
  count := by
    rintro seen x e ⟨⟨t, lapse, alike⟩, shows⟩
    exact ⟨⟨t, lapse, ⟨alike.clock, alike.faults, alike.ready, alike.waiting, alike.live⟩⟩, shows⟩
  detach := by
    rintro seen x p allowed ⟨⟨t, lapse, alike⟩, shows⟩
    refine ⟨⟨_, lapse.detach (detached seen p shows allowed), ?_⟩, shows⟩
    exact ⟨alike.clock, alike.faults, congrArg (· ++ [p]) alike.ready, alike.waiting, alike.live⟩
  get := by
    rintro seen x key ⟨⟨t, lapse, alike⟩, shows⟩
    refine ⟨⟨t, lapse, (alike_get x key).trans alike⟩, ?_⟩
    intro other value member
    rcases List.mem_append.1 member with old | new
    · exact shows other value old
    · cases got : (x.store.get x.clock key).1 with
      | none => rw [got] at new; simp at new
      | some found =>
          rw [got] at new
          simp only [List.mem_singleton, Seen.stored.injEq, Option.some.injEq] at new
          obtain ⟨rfl, rfl⟩ := new
          obtain ⟨e, -, same, live⟩ := Store.entry?_of_get got
          rw [alike.live, alike.clock] at live
          obtain ⟨e', live', same'⟩ := lapse.live live
          exact ⟨e', live', same'.trans same⟩
  lookup := by
    rintro seen x identity ⟨lapses, shows⟩
    refine ⟨lapses, fun key value member => shows key value ?_⟩
    simpa using member
  set _ _ _ := trivial
  delete _ _ := trivial
  counted _ _ := trivial

end State

/-! ## Direct calls -/

namespace State

/-- A call that is to change the store and does not leaves a state that has at most waited. -/
theorem waits_of_unwritten (directory : Directory) (deadline : Option Instant) (s : State)
    {c : Call} (writes : (∃ key value ttl, c = .set key value ttl) ∨ ∃ key, c = .delete key)
    (unwritten : ∀ a, (s.answer directory deadline c).1 = .finished a → c.wrote a = false) :
    s.Waits (s.answer directory deadline c).2 := by
  rcases s.answer_cases directory deadline c with
    ⟨t, waited, answered⟩ | ⟨a, -, -, refused⟩ | ⟨ending, t, -, waited, ended⟩
  · rw [answered] at unwritten ⊢
    have unwrote := unwritten _ rfl
    rcases writes with ⟨key, value, ttl, rfl⟩ | ⟨key, rfl⟩
    · rw [respond] at unwrote ⊢
      cases stored : t.store.set t.clock key value ttl with
      | error e => exact waited
      | ok store =>
          rw [stored] at unwrote
          cases unwrote
    · cases unwrote
  · rw [refused]
    exact .inl rfl
  · rw [ended]
    exact waited

/-- The store is the same, but for what waiting makes of it where something is pending. -/
structure StoreKept (s after : State) : Prop where
  waited : ∃ t, s.Waits t ∧ after.store = t.store
  unchanged : (∀ p, ¬ s.Pending p) → after.store = s.store

theorem StoreKept.of_waits {s t after : State} (waits : s.Waits t) (same : after.store = t.store) :
    s.StoreKept after := by
  refine ⟨⟨t, waits, same⟩, fun idle => ?_⟩
  rcases waits with rfl | ⟨target, rfl⟩
  · exact same
  · rw [same, waitUntil_of_idle idle]

theorem StoreKept.of_takeNonce {s t : State} (waits : s.takeNonce.takeNonce.Waits t) :
    s.StoreKept t := by
  rcases waits with rfl | ⟨target, rfl⟩
  · exact .of_waits (.inl rfl) rfl
  · refine .of_waits (.inr ⟨target, rfl⟩) ?_
    rw [waitUntil_takeNonce, waitUntil_takeNonce]
    rfl

end State

namespace Authority

variable (a : Authority) (directory : Directory) (deadline : Option Instant)

/-- An action that ends by changing the store misses its result only if the store is not changed. -/
theorem stored_missed {β : Type} {answered : Ending (Except StoreError Unit) × State}
    {rest : State → Ending (Except AuthError β) × State} (succeeds : ∀ s, ¬ (rest s).1.Missed)
    (missed : (Ending.andThenOk
      (Ending.andThen answered fun got s => (.finished (.ok got), s)) fun got s =>
        Ending.andThenOk (s.run directory deadline (Action.ofStore got).run) fun _ s =>
          rest s).1.Missed) :
    (∀ got, answered.1 = .finished got → ∃ e, got = .error e) ∧
      (Ending.andThenOk
        (Ending.andThen answered fun got s => (.finished (.ok got), s)) fun got s =>
          Ending.andThenOk (s.run directory deadline (Action.ofStore got).run) fun _ s =>
            rest s).2 = answered.2 := by
  rcases answered with ⟨got | c | _, s⟩
  · cases got with
    | ok done => exact absurd missed (succeeds s)
    | error e => exact ⟨fun got same => ⟨e, by cases same; rfl⟩, rfl⟩
  · exact ⟨nofun, rfl⟩
  · exact ⟨nofun, rfl⟩

/-- **An issue that misses its pair**, in whatever way, leaves the store alone. -/
theorem issue_missed (now : Instant) (subject : Subject) {s : State}
    (missed : (s.run directory deadline (a.issue now subject).run).1.Missed) :
    s.StoreKept (s.run directory deadline (a.issue now subject).run).2 := by
  rw [issue] at missed ⊢
  simp only [State.run_action_bind] at missed ⊢
  -- a token that cannot be made ends the issue before the store is asked
  have early {after : State} (left : after = s ∨ after = s.takeNonce ∨
      after = s.takeNonce.takeNonce) : s.StoreKept after := by
    rcases left with rfl | rfl | rfl
    · exact .of_waits (.inl rfl) rfl
    · exact .of_waits (.inl rfl) rfl
    · exact .of_waits (.inl rfl) rfl
  rcases a.run_mint directory deadline now subject a.lifetimes.access s with
    ⟨access, ran, -⟩ | ⟨ending, after, ran, first, left⟩
  case inr =>
    obtain ⟨ended, ends, -⟩ := Ending.andThenOk_missed first after _
    rw [ran, ends]
    exact early (left.imp_right .inl)
  rw [ran, Ending.andThenOk_ok] at missed ⊢
  rcases a.run_mint directory deadline now subject a.lifetimes.refresh s.takeNonce with
    ⟨refresh, ran, -⟩ | ⟨ending, after, ran, second, left⟩
  case inr =>
    obtain ⟨ended, ends, -⟩ := Ending.andThenOk_missed second after _
    rw [ran, ends]
    exact early (.inr left)
  rw [ran, Ending.andThenOk_ok, State.run_action_ask directory deadline (.set _ _ _)] at missed ⊢
  obtain ⟨unanswered, same⟩ :=
    stored_missed directory deadline (fun s missed => missed _ rfl) missed
  rw [same]
  refine State.StoreKept.of_takeNonce (State.waits_of_unwritten directory deadline _
    (.inl ⟨_, _, _, rfl⟩) fun got ended => ?_)
  obtain ⟨e, rfl⟩ := unanswered got ended
  rfl

/-- **A revocation that fails**, in whatever way, leaves the store alone. -/
theorem revoke_missed (subject : Uuid) {s : State}
    (missed : (s.run directory deadline (a.revoke subject).run).1.Missed) :
    s.StoreKept (s.run directory deadline (a.revoke subject).run).2 := by
  rw [revoke] at missed ⊢
  simp only [State.run_action_bind] at missed ⊢
  rw [State.run_action_ask directory deadline (.delete _)] at missed ⊢
  obtain ⟨unanswered, same⟩ :=
    stored_missed directory deadline (fun s missed => missed _ rfl) missed
  rw [same]
  have waits := State.waits_of_unwritten directory deadline s (.inr ⟨a.key subject, rfl⟩)
  refine .of_waits (waits fun got ended => ?_) rfl
  obtain ⟨e, rfl⟩ := unanswered got ended
  rfl

end Authority

namespace Application

variable (app : Application)

/-- A request that is not answered 200 leaves the sessions undisturbed, except for what it may
detach. -/
theorem undisturbed_of_refused {s : State} {req : Request} {route : Route}
    (found : Route.ofPath? req.path = some route) {own : Prolongation → Prop}
    (detached : ∀ seen p, s.Shows seen → (app.licence s.clock req route).detach seen p → own p) :
    ∃ r after, app.step s (.request req) = (some r, after) ∧
      (r.status ≠ 200 → s.Undisturbed own after) := by
  have alike : (identifier req s).2.Alike s := by
    rcases identifier_state req s with same | same <;> rw [same]
    · exact .refl s
    · exact ⟨rfl, rfl, rfl, rfl, fun _ => rfl⟩
  obtain ⟨r, ended, served, ⟨seen, ⟨⟨t, lapse, alike⟩, -⟩, -⟩ | ⟨-, succeeded, -⟩⟩ :=
    app.step_conducts found (State.keeps_lapse app.directory detached)
      ⟨⟨s, .refl, alike⟩, fun key value member => absurd member List.not_mem_nil⟩
  · refine ⟨r, _, served, fun _ => ⟨⟨t, lapse, alike.settle⟩, ?_⟩⟩
    have settled := alike.settle
    have spares := lapse.bides.settle.spares
    refine ⟨fun key gone => ?_, fun key e held => ?_⟩
    · rw [settled.live, settled.clock]
      exact spares.absent key gone
    · rw [settled.live, settled.clock]
      exact spares.present key e held
  · exact ⟨r, _, served, fun failed => absurd succeeded failed⟩

/-- What a request to log out may start again: the time of its own session, if that was live with
the nonce of the request's token. -/
def OwnProlongation (s : State) (req : Request) (p : Prolongation) : Prop :=
  ∃ identity, app.authority.Admits s.clock s req.headers identity ∧
    p = ⟨app.authority.key identity.id, app.authority.lifetimes.inactivity⟩

theorem ownProlongation_of_detach {s : State} {req : Request} {route : Route} {seen : List Seen}
    {p : Prolongation} (shows : s.Shows seen)
    (detach : (app.licence s.clock req route).detach seen p) : app.OwnProlongation s req p := by
  obtain ⟨identity, ⟨-, bears, stored, member, live⟩, same⟩ := detach
  refine ⟨identity, ⟨bears, ?_⟩, same⟩
  obtain ⟨record, read, carried⟩ := Authority.isLive_iff.1 live
  obtain ⟨value, rfl, read⟩ := Option.bind_eq_some_iff.1 read
  obtain ⟨e, held, rfl⟩ := shows _ _ member
  refine ⟨record, ?_, carried⟩
  rw [Authority.liveRecord?, held]
  exact read

/-- **Requests that fail leave the sessions alone**, in any state and with any faults.  So do an
issue and a revocation that are made directly and do not succeed. -/
theorem step_refused (s : State) (req : Request) :
    (∃ r after, app.step s (.request req) = (some r, after) ∧
      (r.status ≠ 200 → req.path = "/api/auth/login" ∨ req.path = "/api/auth/refresh" →
        s.Undisturbed (fun _ => False) after) ∧
      (r.status ≠ 200 → req.path = "/api/auth/logout" →
        s.Undisturbed (app.OwnProlongation s req) after)) ∧
    ∀ (directory : Directory) (deadline : Option Instant) (now : Instant) (subject : Subject),
      let issue := s.run directory deadline (app.authority.issue now subject).run
      let revoke := s.run directory deadline (app.authority.revoke subject.id).run
      (issue.1.Missed → s.StoreKept issue.2) ∧ (revoke.1.Missed → s.StoreKept revoke.2) := by
  refine ⟨?_, fun directory deadline now subject => ⟨?_, ?_⟩⟩
  case refine_2 => exact app.authority.issue_missed directory deadline now subject
  case refine_3 => exact app.authority.revoke_missed directory deadline subject.id
  obtain ⟨r, e, served, -⟩ := app.step_request s req
  refine ⟨r, _, served, fun failed path => ?_, fun failed path => ?_⟩
  · obtain ⟨route, found, unguarded⟩ : ∃ route, Route.ofPath? req.path = some route ∧
        route.guarded = false := by
      rcases path with path | path
      · exact ⟨.login, by rw [path]; decide, rfl⟩
      · exact ⟨.refresh, by rw [path]; decide, rfl⟩
    obtain ⟨r', after, served', undisturbed⟩ :=
      app.undisturbed_of_refused (s := s) found fun seen p _ detach => by
        obtain ⟨identity, ⟨guarded, -⟩, -⟩ := detach
        rw [unguarded] at guarded
        cases guarded
    cases served.symm.trans served'
    exact undisturbed failed
  · have found : Route.ofPath? req.path = some .logout := by rw [path]; decide
    obtain ⟨r', after, served', undisturbed⟩ :=
      app.undisturbed_of_refused (s := s) found fun seen p shows detach =>
        app.ownProlongation_of_detach shows detach
    cases served.symm.trans served'
    exact undisturbed failed

/-- A refresh with a token that cannot be read is refused, and the session goes on. -/
theorem step_refused_unreadable :
    let app : Application :=
      ⟨⟨⟨.hs256, .secret .sha256, none, some [0x6B], 2⟩, "",
        ⟨.ofSeconds 9, .ofSeconds 9, .ofSeconds 9⟩⟩, .empty, .ofSeconds 1, [], false⟩
    let entry : Entry := ⟨(SessionRecord.mk "first" "second").render, 4000000000⟩
    let key := sessionKey "" (.ofNat 7)
    let s : State := { clock := 3000000000, store := Store.empty.put key entry }
    let req : Request := ⟨"POST", "/api/auth/refresh",
      [("content-type", Bytes.ofString "application/json")],
      Bytes.ofString "\x7b\"token\":\"a.b.c\"\x7d"⟩
    ∃ r after, app.step s (.request req) = (some r, after) ∧ r.status = 401 ∧
      after.store.live? after.clock key = some entry := by
  intro app entry key s req
  have path : req.path = "/api/auth/refresh" := by decide
  have held : s.store.live? s.clock key = some entry := by decide +kernel
  have status : (app.step s (.request req)).1.map (·.status) = some 401 := by decide +kernel
  have clock : (app.step s (.request req)).2.clock = 3000000000 := by decide +kernel
  have idle (p : Prolongation) : ¬ (False ∨ s.Pending p) := by
    rintro (impossible | pending)
    · exact impossible
    · exact State.not_pending_of_nil rfl rfl p pending
  obtain ⟨⟨r, after, served, undisturbed, -⟩, -⟩ := app.step_refused s req
  rw [served] at status clock
  have refused : r.status = 401 := Option.some.inj status
  obtain ⟨renewed, same, live⟩ := (undisturbed (by omega) (.inr path)).spared.present key entry held
  have unmoved : renewed = entry :=
    same.resolve_right fun ⟨ttl, now, prolonged, _⟩ => idle ⟨key, ttl⟩ prolonged
  refine ⟨r, after, served, refused, ?_⟩
  have early : renewed.live after.clock = true := by
    rw [unmoved, show after.clock = 3000000000 from clock]
    decide
  rw [live, Store.filter_live early, unmoved]

end Application

end SessionAuthority

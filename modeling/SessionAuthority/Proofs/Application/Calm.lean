import SessionAuthority.Proofs.Application.Conduct
import SessionAuthority.Proofs.Waiting

/-!
# A calm service

What happens while no collaborator misbehaves.  Then a prolongation has its turn as soon as the
request that detached it has been answered (`State.Still.settle_of_single`).  Work that is finished
is what the client gets (`step_of_finished`), and the uses of a session come to this: its owner is
shown the profile, and its time starts again (`step_profile`); a login or a refresh that goes
through is answered the pair that its issue ends with, and the session is that pair's from then on
(`step_issued`).
-/
set_option autoImplicit false

namespace SessionAuthority

namespace State

/-! ## Nothing is left over -/

/-- Nobody misbehaves, and no prolongation waits. -/
structure Still (s : State) : Prop where
  calm : s.faults = {}
  none : s.waiting = []

section Still

variable {s : State} (still : s.Still)

include still

theorem Still.prolong (p : Prolongation) : (s.prolong p).Still := by
  obtain ⟨store, tally, same, -⟩ := s.prolong_eq p
  rw [same]
  exact ⟨still.calm, still.none⟩

theorem Still.start (p : Prolongation) : s.start p = s.prolong p := by
  rw [State.start, still.calm]

theorem Still.startReady : s.startReady.Still ∧ ∀ p, ¬ s.startReady.Pending p := by
  have started : s.startReady.Still ∧ s.startReady.ready = [] := by
    refine List.foldlRecOn (motive := fun t : State => t.Still ∧ t.ready = []) s.ready _
      ⟨⟨still.calm, still.none⟩, rfl⟩ fun t held p _ => ?_
    obtain ⟨store, tally, same, -⟩ := t.prolong_eq p
    rw [held.1.start]
    exact ⟨held.1.prolong p, by rw [same]; exact held.2⟩
  exact ⟨started.1, not_pending_of_nil started.2 started.1.none⟩

/-- Every prolongation has its turn at once. -/
theorem Still.settle_eq : s.settle = s.startReady := by
  have idle := still.startReady.2
  rw [settle, due_of_idle idle, withoutDue_of_idle idle, List.foldl_nil]

theorem Still.settle_of_single {p : Prolongation} (single : s.ready = [p]) :
    s.settle = State.prolong { s with ready := [] } p := by
  have emptied : Still { s with ready := [] } := ⟨still.calm, still.none⟩
  rw [still.settle_eq, State.startReady, single, List.foldl_cons, List.foldl_nil, emptied.start]

end Still

/-- A step of the clock is all that time does where nothing is pending. -/
theorem step_advance_of_idle {app : Application} {s : State} (idle : ∀ p, ¬ s.Pending p)
    (wait : Span) :
    (app.step s (.advance wait)).2 = { s with clock := s.clock + wait.nanos } :=
  settle_of_idle (s := { s with clock := s.clock + wait.nanos }) idle

end State

namespace Authority

variable (a : Authority) (directory : Directory) (deadline : Option Instant) {s : State}
  {now : Instant} {r : RefreshRequest} {claims : Claims} {identity : Identity}

/-- A renewal is a check and an issue. -/
theorem run_renew {token : String} (identified : a.identify now token = .ok (claims, identity)) :
    s.run directory deadline (a.renew now token).run =
      Ending.andThenOk (s.run directory deadline (a.checkLive claims .refresh).run) fun _ s =>
        s.run directory deadline (a.issue now identity.subject).run := by
  have shown : s.run directory deadline (Action.ofOutcome (a.identify now token)).run =
      (.finished (.ok (claims, identity)), s) := by
    rw [identified]
    rfl
  rw [renew]
  simp only [State.run_action_bind]
  rw [shown, Ending.andThenOk_ok]

/-- Who holds a live refresh token gets what is issued. -/
theorem run_refresh_of_holds (calm : s.faults = {})
    (identified : a.identify now r.token = .ok (claims, identity))
    (holds : a.Holds s claims .refresh) :
    ∃ store, (∀ key, store.live? s.clock key = s.store.live? s.clock key) ∧ ∀ pair after,
      State.run directory deadline (a.issue now identity.subject).run { s with store } =
          (.finished (.ok pair), after) →
        s.run directory deadline (a.refresh now r) =
          (.finished (.ok pair), after.count (.refreshed true)) := by
  obtain ⟨store, same, ⟨-, checked⟩ | ⟨dead, -⟩⟩ :=
    a.run_checkLive directory deadline calm claims .refresh
  · refine ⟨store, same, fun pair after issued => ?_⟩
    rw [refresh, State.run_bind, a.run_renew directory deadline identified, checked,
      Ending.andThenOk_ok, issued]
    rfl
  · exact absurd holds dead

/-- Who does not is told that no session is live. -/
theorem run_refresh_of_not_holds (calm : s.faults = {})
    (identified : a.identify now r.token = .ok (claims, identity))
    (dead : ¬ a.Holds s claims .refresh) :
    (s.run directory deadline (a.refresh now r)).1 =
      .finished (.error (.ofAuth .noActiveSession)) := by
  obtain ⟨store, -, ⟨holds, -⟩ | ⟨-, checked⟩⟩ :=
    a.run_checkLive directory deadline calm claims .refresh
  · exact absurd holds dead
  · rw [refresh, State.run_bind, a.run_renew directory deadline identified, checked,
      Ending.andThenOk_error]
    rfl

theorem run_refresh_of_refused {why : AuthError}
    (refused : a.identify now r.token = .refused why) :
    (s.run directory deadline (a.refresh now r)).1 = .finished (.error (.ofAuth why)) := by
  rw [refresh, State.run_bind, renew, refused]
  rfl

end Authority

namespace Application

variable (app : Application)

/-! ## From the work on a request to its response -/

/-- Work that is finished is what the client gets. -/
theorem step_of_finished {s after : State} {req : Request} {inner : Response}
    (works : req.method ≠ "OPTIONS") (whole : req.method ≠ "HEAD")
    (worked : app.answerInTime req (identifier req s).2 = (.finished inner, after)) :
    ∃ r e, app.step s (.request req) = (some r, (after.count e).settle) ∧
      r.status = inner.status ∧ r.body = inner.body := by
  have served : app.step s (.request req) =
      (some (app.serve req s).1, (app.serve req s).2.settle) := rfl
  rw [served, app.serve_of_work works, worked]
  exact ⟨_, _, rfl, status_framed req _, body_framed whole _⟩

/-- A post with a body is answered what it is exchanged for. -/
theorem answerInTime_of_accepted {α : Type} {kind : BodyKind α} {s : State} {req : Request}
    {route : Route} {a : α} (found : Route.ofPath? req.path = some route)
    (posts : route.posts = true) (method : req.method = "POST") (time : app.timeout.nanos ≠ 0)
    (accepted : kind.accept req.headers req.body = .ok a)
    {exchange : α → Program (Except ApiError TokenPair)}
    (answers : app.answer s.clock req route = (do
      let _ ← app.authority.present s.clock req.headers
      onMethod route req (onBody kind req exchange)))
    (presented : ∃ p, app.authority.present s.clock req.headers = .done p) :
    app.answerInTime req s =
      Ending.andThen
        (s.run app.directory (some (s.clock + app.timeout.nanos)) (exchange a)) fun result s =>
          (.finished (exchanged result), s) := by
  obtain ⟨p, presented⟩ := presented
  have takes : route.takes req.method = true := by
    rw [Route.takes, if_pos posts, method]
    decide
  rw [answerInTime, if_neg time, found]
  dsimp only
  rw [answers, presented]
  show State.run _ _ (onMethod route req (onBody kind req exchange)) s = _
  rw [onMethod, if_pos takes, onBody, accepted]
  exact State.run_bind _ _ _ _ _

/-! ## The two uses of a session -/

section Calm

variable {app} {s : State} (idle : ∀ p, ¬ s.Pending p) (time : app.timeout.nanos ≠ 0)
  {req : Request}

include idle time

/-- Behind the guard the owner of a live session is shown the profile, and one prolongation of the
session has its turn next. -/
theorem answerInTime_profile (calm : s.faults = {}) (path : req.path = "/api/users/me")
    (method : req.method = "GET") {claims : Claims} {identity : Identity}
    (bears : app.authority.Bears s.clock req.headers claims identity) {e : Entry}
    (live : s.store.live? s.clock (app.authority.key identity.id) = some e)
    {record : SessionRecord} (read : SessionRecord.read? e.value = some record)
    (carried : identity.uid = record.access) :
    ∃ name store nonces, s.nonces ≤ nonces ∧
      (∀ key, store.live? s.clock key = s.store.live? s.clock key) ∧
      app.answerInTime req (identifier req s).2 =
        (.finished (.json 200 (Profile.toJson ⟨identity, name⟩)), { s with
          nonces, store,
          ready := [⟨app.authority.key identity.id, app.authority.lifetimes.inactivity⟩] }) := by
  let key := app.authority.key identity.id
  let p : Prolongation := ⟨key, app.authority.lifetimes.inactivity⟩
  obtain ⟨shows, presented, shown⟩ := bears.present
  obtain ⟨nonces, later, begins⟩ := identifier_eq req s
  obtain ⟨store, got, same⟩ := s.store.get_eq s.clock key
  have guarded : IsGuarded req := .inl ⟨method, path⟩
  have inside : app.inside req identity = profile identity := if_pos method
  -- the guard asks the store, and finds the record of the token
  have reads : s.faults.get = .none := by rw [calm]
  have asked := State.answer_get_of_working app.directory (some (s.clock + app.timeout.nanos))
    (s := { s with nonces }) reads key
  rw [got, live, Option.map_some] at asked
  have alive : Authority.isLive (some e.value) .access identity.uid = true :=
    Authority.isLive_iff.2 ⟨record, read, carried⟩
  have passed : Authority.checked (.ok (some e.value)) .access identity.uid = .ok () := by
    rw [Authority.checked, alive]
    rfl
  have detached : s.ready ++ [p] = [p] := by rw [State.ready_of_idle idle, List.nil_append]
  have listed : s.faults.lookup = .none := by rw [calm]
  let name := listedName identity (.ok (app.directory.find? identity.username))
  refine ⟨name, store, nonces, later, same, ?_⟩
  rw [app.answerInTime_of_isGuarded guarded (Nat.pos_of_ne_zero time), begins,
    app.work_of_presented presented, Authority.run_guard_shown _ _ _ shown bears.reads, asked,
    Ending.andThen_finished, passed]
  dsimp only
  rw [inside, State.run_bind, Authority.detachProlong,
    State.run_ask _ _ (.detach _ _), State.answer, Ending.andThen_finished, run_profile]
  simp only [State.answer, State.meet, listed, Ending.andThen_finished]
  rw [detached]

/-- The owner of a live session is shown the profile, and the session's time starts again. -/
theorem step_profile (calm : s.faults = {}) (takes : Store.Takes app.authority.lifetimes.inactivity)
    (path : req.path = "/api/users/me") (method : req.method = "GET") {claims : Claims}
    {identity : Identity} (bears : app.authority.Bears s.clock req.headers claims identity)
    {e : Entry} (live : s.store.live? s.clock (app.authority.key identity.id) = some e)
    {record : SessionRecord} (read : SessionRecord.read? e.value = some record)
    (carried : identity.uid = record.access) :
    ∃ r name store nonces tally, r.status = 200 ∧
      r.body = Json.render (Profile.toJson ⟨identity, name⟩) ∧ s.nonces ≤ nonces ∧
      app.step s (.request req) = (some r, { s with store, nonces, tally }) ∧
      store.live? s.clock (app.authority.key identity.id) = some { e with
        deadline := Store.deadline s.clock app.authority.lifetimes.inactivity.millis } := by
  let p : Prolongation := ⟨app.authority.key identity.id, app.authority.lifetimes.inactivity⟩
  obtain ⟨name, store, nonces, later, same, worked⟩ :=
    answerInTime_profile idle time calm path method bears live read carried
  obtain ⟨r, e', served, status, body⟩ :=
    app.step_of_finished (by rw [method]; decide) (by rw [method]; decide) worked
  have still : State.Still (State.count { s with nonces, store, ready := [p] } e') :=
    ⟨calm, (State.waiting_of_idle idle : s.waiting = [])⟩
  obtain ⟨store', tally, prolonged, -, -, lives, -⟩ := State.prolong_eq
    (State.count { s with nonces, store, ready := [] } e') p
  rw [still.settle_of_single rfl] at served
  refine ⟨r, name, store', nonces, tally, status, body, later, ?_, ?_⟩
  · rw [served, State.ready_of_idle idle]
    exact congrArg _ prolonged
  · have alive : store.live? s.clock p.key = some e := (same p.key).trans live
    refine (lives takes p.key).trans ?_
    rw [if_pos rfl]
    exact congrArg _ alive

/-- **A post whose exchange is an issue** is answered the pair that it ends with. -/
theorem step_issued {α : Type} {kind : BodyKind α} {route : Route} {a : α}
    (found : Route.ofPath? req.path = some route) (posts : route.posts = true)
    (method : req.method = "POST") (accepted : kind.accept req.headers req.body = .ok a)
    {exchange : α → Program (Except ApiError TokenPair)}
    (answers : app.answer s.clock req route = (do
      let _ ← app.authority.present s.clock req.headers
      onMethod route req (onBody kind req exchange)))
    (presented : ∃ p, app.authority.present s.clock req.headers = .done p)
    {store : Store} {subject : Uuid} {pair : TokenPair} {e : Event}
    (issued : State.run app.directory (some (s.clock + app.timeout.nanos)) (exchange a)
        (identifier req s).2 = (.finished (.ok pair),
          (app.authority.issued { (identifier req s).2 with store } subject).count e)) :
    ∃ r tally, r.status = 200 ∧ r.body = Json.render pair.toJson ∧
      app.step s (.request req) = (some r,
        { app.authority.issued { (identifier req s).2 with store } subject with tally }) := by
  have began := identifier_clock req s
  have still : ∀ p, ¬ (identifier req s).2.Pending p := by
    rcases identifier_state req s with same | same <;> rw [same] <;> exact idle
  rw [← began] at answers presented issued
  have worked : app.answerInTime req (identifier req s).2 = (.finished (exchanged (.ok pair)),
      (app.authority.issued { (identifier req s).2 with store } subject).count e) := by
    rw [app.answerInTime_of_accepted found posts method time accepted answers presented, issued]
    rfl
  obtain ⟨r, e', served, status, body⟩ :=
    app.step_of_finished (by rw [method]; decide) (by rw [method]; decide) worked
  rw [State.settle_of_idle (by exact still)] at served
  exact ⟨r, _, status, body, served⟩

end Calm

end Application

end SessionAuthority

import SessionAuthority.Proofs.Application.Rotation
import SessionAuthority.Proofs.Session.Presentation

/-!
# A session that is used goes on

`session_continues`: who logs in may use the session for as long as no two uses are the inactivity
window apart, asking for the profile with the newest access token and renewing the session with the
newest refresh token.  Every use is answered 200, every token names the user who logged in, and the
tokens of earlier pairs are refused.  The pair that goes on is the one that the body of the login or
of the renewal hands out (`Response.HandsOut`).

`Continues` says so of any sequence of uses.  What carries it is that the session is open (`Open`):
the newest pair was issued with two successive nonces, the record of these nonces is what is stored
for the user, and the earlier pairs have earlier nonces.  A login opens the session (`login_opens`),
time leaves it open until its deadline (`Open.waited`), each use leaves it open with a new deadline
(`Open.profile`, `Open.renewal`), and no earlier token is let in (`Open.retired`).
-/
set_option autoImplicit false

namespace SessionAuthority

namespace Application

variable (app : Application)

/-! ## Who is refused -/

section Refused

variable {app} {s : State} (calm : s.faults = {}) (time : app.timeout.nanos ≠ 0) {req : Request}

include calm time

/-- Who is not admitted is refused. -/
theorem answered_of_not_admitted {key : Bytes}
    (verifying : app.authority.codec.verifying = some key)
    (clock : app.authority.codec.skew ≤ Instant.seconds s.clock) (guarded : IsGuarded req)
    (nobody : ∀ identity, ¬ app.authority.Admits s.clock s req.headers identity) :
    app.Answered s req 401 := by
  obtain ⟨begun, r, begins, served, status, -⟩ :=
    app.step_of_isGuarded guarded (Nat.pos_of_ne_zero time) s
  obtain ⟨p, presented, -⟩ := app.authority.present_eq verifying clock req.headers
  have answered : begun.whenAnswered (some (s.clock + app.timeout.nanos)) begun.faults.get =
      some begun := by
    have still : begun.faults = {} := by rcases begins with rfl | rfl <;> exact calm
    rw [still]
    rfl
  rw [app.work_of_presented presented] at status
  refine ⟨r, served, ?_⟩
  rcases Authority.guard_of_answered app.directory _ (app.inside req) verifying clock presented
    answered with ⟨identity, admits, -⟩ | ⟨-, refused⟩
  · refine absurd admits ?_
    rcases begins with rfl | rfl <;> exact nobody identity
  · exact status.trans refused

/-- A refresh with a token that does not count is refused. -/
theorem answered_of_not_renewed {key : Bytes}
    (verifying : app.authority.codec.verifying = some key)
    (clock : app.authority.codec.skew ≤ Instant.seconds s.clock) {r : RefreshRequest}
    (path : req.path = "/api/auth/refresh") (method : req.method = "POST")
    (accepted : RefreshRequest.kind.accept req.headers req.body = .ok r)
    (dead : (∃ why, why.isCredentialFailure = true ∧
        app.authority.identify s.clock r.token = .refused why) ∨
      ∃ claims identity, app.authority.identify s.clock r.token = .ok (claims, identity) ∧
        ¬ app.authority.Holds s claims .refresh) :
    app.Answered s req 401 := by
  obtain ⟨begun, begins⟩ : ∃ begun, begun = (identifier req s).2 := ⟨_, rfl⟩
  have same : begun.clock = s.clock ∧ begun.faults = {} ∧ begun.store = s.store := by
    rw [begins, identifier_clock, identifier_faults, identifier_store]
    exact ⟨rfl, calm, rfl⟩
  have found : Route.ofPath? req.path = some .refresh := by rw [path]; decide
  obtain ⟨p, presented, -⟩ := app.authority.present_eq verifying (same.1 ▸ clock) req.headers
  have worked : app.answerInTime req begun = Ending.andThen (begun.run app.directory
      (some (begun.clock + app.timeout.nanos)) (app.authority.refresh begun.clock r))
        fun result s => (.finished (exchanged result), s) :=
    app.answerInTime_of_accepted found rfl method time accepted rfl ⟨p, presented⟩
  rw [same.1] at worked
  obtain ⟨ending, ran, status⟩ : ∃ e : ApiError, (begun.run app.directory
      (some (s.clock + app.timeout.nanos)) (app.authority.refresh s.clock r)).1 =
        .finished (.error e) ∧ e.response.status = 401 := by
    rcases dead with ⟨why, blamed, refused⟩ | ⟨claims, identity, identified, dead⟩
    · exact ⟨_, app.authority.run_refresh_of_refused _ _ refused, Authority.ofAuth_status blamed⟩
    · refine ⟨_, app.authority.run_refresh_of_not_holds _ _ same.2.1 identified ?_, rfl⟩
      simp only [Authority.Holds, Authority.liveRecord?, same.1, same.2.2]
      exact dead
  obtain ⟨response, e, served, answered⟩ := app.step_request s req
  refine ⟨response, congrArg Prod.fst served, ?_⟩
  rw [answered, Application.worked, if_neg (by rw [method]; decide), ← begins, worked]
  generalize State.run _ _ (app.authority.refresh s.clock r) begun = finished at ran
  rcases finished with ⟨_, after⟩
  obtain rfl := ran
  exact status

end Refused

/-! ## Uses of a session -/

inductive Use where
  | profile
  | renewal
  deriving DecidableEq, Repr

/-- A use of a session, after a time in which nothing happens. -/
structure Visit where
  wait : Span
  use : Use
  req : Request
  deriving DecidableEq, Repr

def Use.token (pair : TokenPair) : Use → String
  | .profile => pair.access
  | .renewal => pair.refresh

def Use.Asks (req : Request) (token : String) : Use → Prop
  | .profile => req.method = "GET" ∧ req.path = "/api/users/me" ∧ req.Carries token
  | .renewal => req.method = "POST" ∧ req.path = "/api/auth/refresh" ∧ req.Submits token

/-- The expiry that is written in a token is not past by more than the skew. -/
def Fresh (now : Instant) (token : String) : Prop :=
  ∃ claims exp, Codec.written? token = some claims ∧ claims.get? "exp" = some (.int exp) ∧
    (now.seconds : Int) ≤ exp + app.authority.codec.skew

/-- A visit makes use of the newest pair less than the inactivity window after the use before it,
with a token that still counts, and when a token that it asks for can be made. -/
structure Visit.InTime (v : Visit) (s : State) (pair : TokenPair) : Prop where
  window : v.wait.nanos < app.authority.lifetimes.inactivity.millis * 1000000
  asks : v.use.Asks v.req (v.use.token pair)
  fresh : app.Fresh (s.clock + v.wait.nanos) (v.use.token pair)
  mints : v.use = .renewal →
    Authority.Mintable (s.clock + v.wait.nanos) app.authority.lifetimes.access ∧
      Authority.Mintable (s.clock + v.wait.nanos) app.authority.lifetimes.refresh

/-- A token carries the identifier and the email of a user, and an expiry. -/
def Names (user : User) (expiry : Instant) (token : String) : Prop :=
  ∃ claims, Codec.written? token = some claims ∧ claims.subject? = some user.id ∧
    claims.username? = some user.email ∧ claims.get? "exp" = some (.int expiry.seconds)

/-- Both tokens of a pair name the user to whom it is issued, and expire after their lifetimes; the
pair states when the access token does. -/
structure IssuedTo (user : User) (now : Instant) (pair : TokenPair) : Prop where
  access : Names user (now + app.authority.lifetimes.access.nanos) pair.access
  refresh : Names user (now + app.authority.lifetimes.refresh.nanos) pair.refresh
  expiry : pair.accessExpiry = now + app.authority.lifetimes.access.nanos

/-- From now on a token is refused, by the guard and as a refresh token. -/
def Refuses (s : State) (token : String) : Prop :=
  ∀ (wait : Span) (req : Request),
    IsGuarded req ∧ req.Carries token ∨ Use.renewal.Asks req token →
      app.Answered (app.step s (.advance wait)).2 req 401

/-- The tokens of these pairs are refused from now on, unless a nonce was drawn twice. -/
def Retired (s : State) (old : List TokenPair) : Prop :=
  s.Distinct → ∀ pair ∈ old, app.Refuses s pair.access ∧ app.Refuses s pair.refresh

/-- A session goes on over a sequence of visits: the earlier pairs are retired all along, and a
visit in time is answered 200, and the client is told the identifier and the email of the user, or
is handed a new pair that names the user and is the newest from then on. -/
def Continues (user : User) : List Visit → State → TokenPair → List TokenPair → Prop
  | [], s, _, old => app.Retired s old
  | v :: later, s, pair, old =>
      app.Retired s old ∧ (v.InTime app s pair →
        ∃ r after, app.step (app.step s (.advance v.wait)).2 (.request v.req) = (some r, after) ∧
          r.status = 200 ∧ after.clock = s.clock + v.wait.nanos ∧
          match v.use with
          | .profile => r.Introduces user.id user.email ∧ Continues user later after pair old
          | .renewal => ∃ renewed, r.HandsOut renewed ∧ app.IssuedTo user after.clock renewed ∧
              Continues user later after renewed (pair :: old))

/-! ## Open sessions -/

/-- A pair was issued to a user with two nonces in succession. -/
def Drew (user : User) (supply : Nat → Uuid) (k : Nat) (pair : TokenPair) : Prop :=
  ∃ access refresh, app.authority.Paired ⟨user.id, user.email⟩ (supply (k + 1), access)
    (supply (k + 2), refresh) pair

/-- Nobody misbehaves, nothing is pending, and the session of a user is open until an instant: its
record is that of the newest pair, and the earlier pairs have earlier nonces. -/
structure Open (user : User) (s : State) (k : Nat) (pair : TokenPair) (old : List TokenPair)
    (ends : Instant) : Prop where
  calm : s.faults = {}
  idle : ∀ p, ¬ s.Pending p
  clock : app.authority.codec.skew ≤ Instant.seconds s.clock
  taken : k + 2 ≤ s.nonces
  newest : app.Drew user s.supply k pair
  old : ∀ earlier ∈ old, ∃ j, j + 2 ≤ k ∧ app.Drew user s.supply j earlier
  live : s.store.live? s.clock (app.authority.key user.id) =
    some ⟨(Authority.pairRecord (s.supply (k + 1)) (s.supply (k + 2))).render, ends⟩

section Session

variable {app} {user : User} {s : State} {k : Nat} {pair : TokenPair} {old : List TokenPair}
  {ends : Instant} {hash : Digest.Hash} {secret : Bytes}
  (symmetric : app.authority.codec.Symmetric hash secret)
  (takes : Store.Takes app.authority.lifetimes.inactivity) (time : app.timeout.nanos ≠ 0)

/-- **Time leaves a session open** until its deadline. -/
theorem Open.waited (opened : app.Open user s k pair old ends) {wait : Span}
    (before : s.clock + wait.nanos < ends) :
    app.Open user { s with clock := s.clock + wait.nanos } k pair old ends where
  calm := opened.calm
  idle := opened.idle
  clock := Nat.le_trans opened.clock (Nat.div_le_div_right (Nat.le_add_right _ _))
  taken := opened.taken
  newest := opened.newest
  old := opened.old
  live := by
    rw [s.store.live?_later (Nat.le_add_right _ _), opened.live, Option.filter_some]
    exact if_pos (decide_eq_true before)

theorem Open.liveRecord (opened : app.Open user s k pair old ends) :
    app.authority.liveRecord? s user.id =
      some (Authority.pairRecord (s.supply (k + 1)) (s.supply (k + 2))) := by
  have read := SessionRecord.read?_render
    (Authority.pairRecord (s.supply (k + 1)) (s.supply (k + 2)))
  rw [Authority.liveRecord?, opened.live, Option.bind_some, read]

/-- While a session is open, and after, no record but its own is live. -/
theorem Open.record (opened : app.Open user s k pair old ends) (wait : Span)
    {record : SessionRecord}
    (live : app.authority.liveRecord? { s with clock := s.clock + wait.nanos } user.id =
      some record) :
    record = Authority.pairRecord (s.supply (k + 1)) (s.supply (k + 2)) := by
  obtain ⟨e, found, read⟩ := Option.bind_eq_some_iff.1 live
  rw [s.store.live?_later (Nat.le_add_right _ _), opened.live] at found
  obtain ⟨same, -⟩ := Option.filter_eq_some_iff.1 found
  obtain rfl := Option.some.inj same
  rw [SessionRecord.read?_render] at read
  exact (Option.some.inj read).symm

/-- While a session is open, and after, no live record has an earlier nonce. -/
theorem Open.other_nonce (opened : app.Open user s k pair old ends) (distinct : s.Distinct)
    {i : Nat} (earlier : i < k) (wait : Span) (slot : Slot) {record : SessionRecord}
    (live : app.authority.liveRecord? { s with clock := s.clock + wait.nanos } user.id =
      some record) :
    (s.supply (i + 1)).toText ≠ record.nonce slot := by
  rw [opened.record wait live]
  have taken := opened.taken
  have apart (j : Nat) (late : k ≤ j) (drawn : j < s.nonces) :
      s.supply (i + 1) ≠ s.supply (j + 1) := fun same =>
    absurd (distinct i (by omega) j drawn same) (by omega)
  cases slot with
  | access => exact fun same => apart k (by omega) (by omega) (Uuid.toText_inj.1 same)
  | refresh => exact fun same => apart (k + 1) (by omega) (by omega) (Uuid.toText_inj.1 same)

include symmetric

/-- A token of an earlier nonce is refused. -/
theorem Open.refuses_wrote (opened : app.Open user s k pair old ends) (time : app.timeout.nanos ≠ 0)
    (distinct : s.Distinct) {i : Nat} (earlier : i < k) {expiry : Instant} {token : String}
    (wrote : app.authority.Wrote ⟨user.id, user.email⟩ (s.supply (i + 1)) expiry token) :
    app.Refuses s token := by
  intro wait req asked
  rw [State.step_advance_of_idle opened.idle]
  obtain ⟨claims, identity, -, -, typed, named, -, carried, parsed⟩ := wrote.read symmetric
  replace named : identity.id = user.id := named
  let t : State := { s with clock := s.clock + wait.nanos }
  have clock : app.authority.codec.skew ≤ Instant.seconds t.clock :=
    Nat.le_trans opened.clock (Nat.div_le_div_right (Nat.le_add_right _ _))
  -- if the token still counts, it is the record that keeps it out: no live one has its nonce
  have other (slot : Slot) {record : SessionRecord}
      (live : app.authority.liveRecord? t user.id = some record) :
      identity.uid ≠ record.nonce slot :=
    carried ▸ opened.other_nonce distinct earlier wait slot live
  rcases asked with ⟨guarded, carries⟩ | ⟨method, path, submits⟩
  · have shown := wrote.token?_of_carries symmetric carries
    refine answered_of_not_admitted (s := t) opened.calm time symmetric.verifying clock guarded ?_
    rintro _ ⟨⟨_, _, shown', decoded, typed'⟩, record, live, same⟩
    cases shown.symm.trans shown'
    have parsed := (parsed t.clock clock).symm.trans decoded
    split at parsed
    · cases parsed
    · cases parsed
      cases typed.symm.trans typed'
      exact other .access (named ▸ live) same
  · have accepted := wrote.accept_of_submits symmetric submits
    refine answered_of_not_renewed (s := t) opened.calm time symmetric.verifying clock path method
      accepted ?_
    have parsed := parsed t.clock clock
    rw [Authority.identify]
    split at parsed
    · exact .inl ⟨.expired, rfl, by rw [parsed]; rfl⟩
    · refine .inr ⟨claims, identity, by rw [parsed, Outcome.bind, typed]; rfl, ?_⟩
      rintro ⟨subject, record, about, live, same⟩
      obtain ⟨about', carried'⟩ := Authority.ofClaims_eq_ok typed
      cases about.symm.trans about'
      exact other .refresh (named ▸ live) (Option.some.inj (carried'.symm.trans same))

/-- **While a session is open** the tokens of the earlier pairs are refused. -/
theorem Open.retired (opened : app.Open user s k pair old ends) (time : app.timeout.nanos ≠ 0) :
    app.Retired s old := by
  intro distinct earlier member
  obtain ⟨j, before, _, _, paired⟩ := opened.old earlier member
  exact ⟨opened.refuses_wrote symmetric time distinct (by omega) paired.access,
    opened.refuses_wrote symmetric time distinct (by omega) paired.refresh⟩

/-- A token that is fresh is read as what was issued. -/
theorem parse_of_fresh {subject : Subject} {nonce : Uuid} {expiry now : Instant} {token : String}
    (clock : app.authority.codec.skew ≤ now.seconds)
    (wrote : app.authority.Wrote subject nonce expiry token) (fresh : app.Fresh now token) :
    ∃ claims identity, app.authority.parse now token = .ok claims ∧
      Identity.ofClaims claims = .ok identity ∧ identity.id = subject.id ∧
      identity.username = subject.username ∧ identity.uid = nonce.toText := by
  obtain ⟨claims, identity, written, dated, typed, named, called, carried, parsed⟩ :=
    wrote.read symmetric
  obtain ⟨claims', exp, written', dated', later⟩ := fresh
  cases written.symm.trans written'
  obtain rfl := Json.int.inj (Option.some.inj (dated.symm.trans dated'))
  have current : ¬ expiry.seconds + app.authority.codec.skew < now.seconds := by omega
  exact ⟨claims, identity, (parsed now clock).trans (if_neg current), typed, named, called, carried⟩

include takes in
omit symmetric in
/-- **An issue opens the session** with its pair. -/
theorem open_of_issued (calm : s.faults = {}) (idle : ∀ p, ¬ s.Pending p)
    (clock : app.authority.codec.skew ≤ Instant.seconds s.clock)
    (earlier : ∀ earlier ∈ old, ∃ j, j + 2 ≤ s.nonces ∧ app.Drew user s.supply j earlier)
    {access refresh : Instant} (paired : app.authority.Paired ⟨user.id, user.email⟩
      (s.nextNonce, access) (s.takeNonce.nextNonce, refresh) pair) (tally : Tally) :
    app.Open user { app.authority.issued s user.id with tally } s.nonces pair old
      (Store.deadline s.clock app.authority.lifetimes.inactivity.millis) where
  calm := calm
  idle := idle
  clock := clock
  taken := Nat.le_refl _
  newest := ⟨access, refresh, paired⟩
  old := earlier
  live := by
    refine (Store.live?_set takes _ _ _ _ _).trans (if_pos rfl)

include takes time

/-- **A profile is answered while the session is open**, and leaves it open with a new deadline. -/
theorem Open.profile (opened : app.Open user s k pair old ends) {req : Request}
    (asks : Use.profile.Asks req pair.access) (fresh : app.Fresh s.clock pair.access) :
    ∃ r after, app.step s (.request req) = (some r, after) ∧ r.status = 200 ∧
      after.clock = s.clock ∧ r.Introduces user.id user.email ∧ app.Open user after k pair old
        (Store.deadline after.clock app.authority.lifetimes.inactivity.millis) := by
  obtain ⟨method, path, carries⟩ := asks
  obtain ⟨_, _, paired⟩ := opened.newest
  have shown := paired.access.token?_of_carries symmetric carries
  obtain ⟨claims, identity, parsed, typed, named, called, carried⟩ :=
    parse_of_fresh symmetric opened.clock paired.access fresh
  replace named : identity.id = user.id := named
  have live := opened.live
  rw [← named] at live
  obtain ⟨r, name, store, nonces, tally, status, body, later, served, prolonged⟩ :=
    step_profile opened.idle time opened.calm takes path method ⟨_, shown, parsed, typed⟩ live
      (SessionRecord.read?_render _) carried
  have introduced := Response.introduces typed body
  rw [named, called] at introduced
  refine ⟨r, _, served, status, rfl, introduced, ?_⟩
  exact ⟨opened.calm, opened.idle, opened.clock, Nat.le_trans opened.taken later, opened.newest,
    opened.old, named ▸ prolonged⟩

omit takes time in
/-- The refresh token of an open session names the user, and the session is live for it. -/
theorem Open.identified (opened : app.Open user s k pair old ends)
    (fresh : app.Fresh s.clock pair.refresh) :
    ∃ claims identity, app.authority.identify s.clock pair.refresh = .ok (claims, identity) ∧
      identity.subject = ⟨user.id, user.email⟩ ∧ app.authority.Holds s claims .refresh := by
  obtain ⟨_, _, paired⟩ := opened.newest
  obtain ⟨claims, identity, parsed, typed, named, called, carried⟩ :=
    parse_of_fresh symmetric opened.clock paired.refresh fresh
  obtain ⟨about, borne⟩ := Authority.ofClaims_eq_ok typed
  refine ⟨claims, identity, ?_, ?_, user.id, _, ?_, opened.liveRecord, ?_⟩
  · rw [Authority.identify, parsed, Outcome.bind, typed]
    rfl
  · rw [Identity.subject, named, called]
  · rw [about, named]
  · exact borne.trans (congrArg some carried)

/-- **A renewal is answered while the session is open**, and opens it with the new pair. -/
theorem Open.renewal (opened : app.Open user s k pair old ends) {req : Request}
    (asks : Use.renewal.Asks req pair.refresh) (fresh : app.Fresh s.clock pair.refresh)
    (access : Authority.Mintable s.clock app.authority.lifetimes.access)
    (refresh : Authority.Mintable s.clock app.authority.lifetimes.refresh) :
    ∃ r after renewed k, app.step s (.request req) = (some r, after) ∧ r.status = 200 ∧
      after.clock = s.clock ∧ r.HandsOut renewed ∧
      app.IssuedTo user after.clock renewed ∧ app.Open user after k renewed (pair :: old)
        (Store.deadline after.clock app.authority.lifetimes.inactivity.millis) := by
  obtain ⟨method, path, submits⟩ := asks
  obtain ⟨_, _, paired⟩ := opened.newest
  have accepted := paired.refresh.accept_of_submits symmetric submits
  obtain ⟨claims, identity, identified, subject, holds⟩ := opened.identified symmetric fresh
  obtain ⟨nonces, later, begins⟩ := identifier_eq req s
  obtain ⟨store, -, refreshed⟩ := app.authority.run_refresh_of_holds app.directory
    (some (s.clock + app.timeout.nanos)) (s := { s with nonces }) (r := ⟨pair.refresh⟩) opened.calm
    identified holds
  rw [subject] at refreshed
  obtain ⟨renewed, paired', issued⟩ := Authority.run_issue_eq symmetric app.directory
    (some (s.clock + app.timeout.nanos)) (s := { s with nonces, store }) opened.calm access refresh
    takes ⟨user.id, user.email⟩
  obtain ⟨p, presented, -⟩ := app.authority.present_eq symmetric.verifying opened.clock req.headers
  have found : Route.ofPath? req.path = some .refresh := by rw [path]; decide
  have ran : State.run app.directory (some (s.clock + app.timeout.nanos))
      (app.authority.refresh s.clock ⟨pair.refresh⟩) (identifier req s).2 =
        (.finished (.ok renewed), (app.authority.issued { (identifier req s).2 with store }
          user.id).count (.refreshed true)) := by
    rw [begins]
    exact refreshed _ _ issued
  obtain ⟨r, tally, status, body, served⟩ :=
    step_issued opened.idle time found rfl method accepted rfl ⟨p, presented⟩ ran
  rw [begins] at served
  refine ⟨r, _, renewed, nonces, served, status, rfl, Response.handsOut paired'.date body,
    ⟨paired'.access.names symmetric, paired'.refresh.names symmetric, paired'.expiry⟩, ?_⟩
  refine open_of_issued takes (s := { s with nonces, store }) opened.calm opened.idle opened.clock
    (fun earlier member => ?_) paired' tally
  rcases List.mem_cons.1 member with rfl | member
  · exact ⟨k, Nat.le_trans opened.taken later, opened.newest⟩
  · obtain ⟨j, before, drew⟩ := opened.old earlier member
    have within : k ≤ s.nonces := Nat.le_of_add_right_le opened.taken
    exact ⟨j, Nat.le_trans before (Nat.le_trans within later), drew⟩

/-- **A session that is open with a new deadline goes on**, however it is used. -/
theorem Open.continues (visits : List Visit) (opened : app.Open user s k pair old
    (Store.deadline s.clock app.authority.lifetimes.inactivity.millis)) :
    app.Continues user visits s pair old := by
  induction visits generalizing s k pair old with
  | nil => exact opened.retired symmetric time
  | cons v later ih =>
      refine ⟨opened.retired symmetric time, fun inTime => ?_⟩
      -- the use is within the window, and leaves the whole window before the next
      have waited := opened.waited (Nat.add_lt_add_left inTime.window s.clock)
      have asks := inTime.asks
      have fresh := inTime.fresh
      rw [State.step_advance_of_idle opened.idle]
      cases use : v.use with
      | profile =>
          rw [use] at asks fresh
          obtain ⟨r, after, served, status, clock, introduced, opened⟩ :=
            waited.profile symmetric takes time asks fresh
          exact ⟨r, after, served, status, clock, introduced, ih opened⟩
      | renewal =>
          rw [use] at asks fresh
          obtain ⟨access, refresh⟩ := inTime.mints use
          obtain ⟨r, after, renewed, k, served, status, clock, handed, issued, opened⟩ :=
            waited.renewal symmetric takes time asks fresh access refresh
          exact ⟨r, after, served, status, clock, renewed, handed, issued, ih opened⟩

/-- **A login opens the session** with its pair. -/
theorem login_opens (calm : s.faults = {}) (idle : ∀ p, ¬ s.Pending p)
    (clock : app.authority.codec.skew ≤ Instant.seconds s.clock) {req : Request}
    (path : req.path = "/api/auth/login") (method : req.method = "POST") {r : LoginRequest}
    (accepted : LoginRequest.kind.accept req.headers req.body = .ok r)
    (listed : app.directory.find? r.email = some user)
    (known : Password.verify r.password user.passwordHash = true)
    (access : Authority.Mintable s.clock app.authority.lifetimes.access)
    (refresh : Authority.Mintable s.clock app.authority.lifetimes.refresh) :
    ∃ response after pair k, app.step s (.request req) = (some response, after) ∧
      response.status = 200 ∧ after.clock = s.clock ∧ response.HandsOut pair ∧
      app.IssuedTo user after.clock pair ∧ app.Open user after k pair []
        (Store.deadline after.clock app.authority.lifetimes.inactivity.millis) := by
  obtain ⟨nonces, -, begins⟩ := identifier_eq req s
  let begun : State := { s with nonces }
  obtain ⟨pair, paired, issued⟩ := Authority.run_issue_eq symmetric app.directory
    (some (s.clock + app.timeout.nanos)) (s := begun) calm access refresh takes
    ⟨user.id, user.email⟩
  have logged := app.authority.run_login_of_issued app.directory
    (some (s.clock + app.timeout.nanos)) (s := begun) calm listed known issued
  obtain ⟨p, presented, -⟩ := app.authority.present_eq symmetric.verifying clock req.headers
  have found : Route.ofPath? req.path = some .login := by rw [path]; decide
  have ran : State.run app.directory (some (s.clock + app.timeout.nanos))
      (app.authority.login s.clock r) (identifier req s).2 = (.finished (.ok pair),
        (app.authority.issued { (identifier req s).2 with store := s.store } user.id).count
          .loginSucceeded) := by
    rw [begins]
    exact logged
  obtain ⟨response, tally, status, body, served⟩ :=
    step_issued idle time found rfl method accepted rfl ⟨p, presented⟩ ran
  rw [begins] at served
  refine ⟨response, _, pair, nonces, served, status, rfl, Response.handsOut paired.date body,
    ⟨paired.access.names symmetric, paired.refresh.names symmetric, paired.expiry⟩, ?_⟩
  exact open_of_issued takes (s := begun) calm idle clock
    (fun _ member => absurd member List.not_mem_nil) paired tally

end Session

/-- **A used session goes on.**  After a login with the right password, which hands out a pair, no
use in time fails, and whatever sequence of uses there is, all tokens name the user and only the
newest count. -/
theorem session_continues {algorithm : Algorithm} (keyed : algorithm ∈ Codec.secretAlgorithms)
    {secret : Bytes} {skew : Span}
    (built : Codec.ofSecret algorithm secret skew = .ok app.authority.codec)
    (takes : Store.Takes app.authority.lifetimes.inactivity) (time : app.timeout.nanos ≠ 0)
    {s : State} (calm : s.faults = {}) (idle : ∀ p, ¬ s.Pending p)
    (clock : app.authority.codec.skew ≤ Instant.seconds s.clock) {req : Request}
    (path : req.path = "/api/auth/login") (method : req.method = "POST") {r : LoginRequest}
    (accepted : LoginRequest.kind.accept req.headers req.body = .ok r) {user : User}
    (listed : app.directory.find? r.email = some user)
    (known : Password.verify r.password user.passwordHash = true)
    (access : Authority.Mintable s.clock app.authority.lifetimes.access)
    (refresh : Authority.Mintable s.clock app.authority.lifetimes.refresh) :
    ∃ response after pair, app.step s (.request req) = (some response, after) ∧
      response.status = 200 ∧ after.clock = s.clock ∧ response.HandsOut pair ∧
      app.IssuedTo user after.clock pair ∧ ∀ visits, app.Continues user visits after pair [] := by
  obtain ⟨hash, symmetric⟩ := Codec.symmetric_of_ofSecret keyed built
  obtain ⟨response, after, pair, k, served, status, still, handed, issued, opened⟩ :=
    login_opens symmetric takes time calm idle clock path method accepted listed known access
      refresh
  exact ⟨response, after, pair, served, status, still, handed, issued, fun visits =>
    opened.continues symmetric takes time visits⟩

/-- A session with a window of 9 seconds lives for 10, because it is used in between, and is then
renewed. -/
theorem session_continues_prolonged :
    let hash := (Password.hashed 4 (List.replicate 16 0) "correct horse").text
    let user : User := ⟨.ofNat 7, "ada@example.org", "Ada", hash⟩
    let app : Application :=
      ⟨⟨⟨.hs256, .secret .sha256, some [0x6B], some [0x6B], 2⟩, "",
        ⟨.ofSeconds 60, .ofSeconds 600, .ofSeconds 9⟩⟩, ⟨[("ada@example.org", user)]⟩, .ofSeconds 1,
        [], false⟩
    let login : Request := ⟨"POST", "/api/auth/login",
      [("content-type", Bytes.ofString "application/json")],
      Bytes.ofString
        "\x7b\"email\":\"ada@example.org\",\"password\":\"correct horse\"\x7d"⟩
    let profile (pair : TokenPair) : Request := ⟨"GET", "/api/users/me",
      [("authorization", Bytes.ofString ("Bearer " ++ pair.access))], []⟩
    let pause : Step := .advance (.ofSeconds 5)
    ∃ response first pair, app.step { clock := 3000000000 } (.request login) =
      (some response, first) ∧ response.HandsOut pair ∧ response.Tells "exp" (.int 63) ∧
      ∀ renew, Use.renewal.Asks renew pair.refresh → ∃ r second r' third renewed,
        app.step (app.step first pause).2 (.request (profile pair)) = (some r, second) ∧
        app.step (app.step second pause).2 (.request renew) = (some r', third) ∧
        r.status = 200 ∧ r.Introduces (.ofNat 7) "ada@example.org" ∧
        r'.status = 200 ∧ r'.HandsOut renewed ∧ app.Retired third [pair] := by
  intro hash user app login profile pause
  have accepted : LoginRequest.kind.accept login.headers login.body =
      .ok ⟨"ada@example.org", "correct horse"⟩ := by decide +kernel
  have listed : app.directory.find? "ada@example.org" = some user :=
    Directory.find?_single (by decide +kernel) user
  have known : Password.verify "correct horse" user.passwordHash = true :=
    Password.verify_hashed (by decide) (by decide) _
  have still : ∀ p, ¬ State.Pending { clock := 3000000000 } p :=
    State.not_pending_of_nil rfl rfl
  obtain ⟨response, first, pair, served, -, clock, handed, issued, continues⟩ :=
    @session_continues app .hs256 (by decide) [0x6B] (.ofSeconds 2) rfl ⟨by decide, by decide⟩
      (by decide) { clock := 3000000000 } rfl still (by decide) login (by decide) rfl _ accepted
      user listed known ⟨by decide, by decide⟩ ⟨by decide, by decide⟩
  have path : (profile pair).path = "/api/users/me" :=
    (by decide : Request.path ⟨"GET", "/api/users/me", [], []⟩ = "/api/users/me")
  let now : Instant := 3000000000
  let wait : Span := .ofSeconds 5
  have near : wait.nanos < (Span.ofSeconds 9).millis * 1000000 := by decide
  have fresh : (Instant.seconds (now + wait.nanos) : Int) ≤
      Instant.seconds (now + (Span.ofSeconds 60).nanos) + (2 : Nat) := by decide
  have fresh' : (Instant.seconds (now + wait.nanos + wait.nanos) : Int) ≤
      Instant.seconds (now + (Span.ofSeconds 600).nanos) + (2 : Nat) := by decide
  have mints : Authority.Mintable (now + wait.nanos + wait.nanos) (.ofSeconds 60) ∧
      Authority.Mintable (now + wait.nanos + wait.nanos) (.ofSeconds 600) :=
    ⟨⟨by decide, by decide⟩, by decide, by decide⟩
  have expires : response.Tells "exp" (.int 63) := by
    have second : pair.accessExpiry.seconds = 63 := by
      rw [issued.expiry, clock]
      decide
    have expiry := handed.expiry
    rw [second] at expiry
    exact expiry
  refine ⟨response, first, pair, served, handed, expires, fun renew asks => ?_⟩
  obtain ⟨-, next⟩ :=
    continues [⟨.ofSeconds 5, .profile, profile pair⟩, ⟨.ofSeconds 5, .renewal, renew⟩]
  obtain ⟨_, written, -, -, dated⟩ := issued.access
  obtain ⟨r, second, shown, status, later, told, -, next⟩ := next ⟨near, ⟨rfl, path, .inl rfl⟩,
    ⟨_, _, written, dated, by rw [clock]; exact fresh⟩, nofun⟩
  obtain ⟨_, written, -, -, dated⟩ := issued.refresh
  obtain ⟨r', third, served', status', -, renewed, handed', -, retired⟩ := next ⟨near, asks,
    ⟨_, _, written, dated, by rw [later, clock]; exact fresh'⟩,
    fun _ => by rw [later, clock]; exact mints⟩
  exact ⟨r, second, r', third, renewed, shown, served', status, told, status', handed', retired⟩

end Application

end SessionAuthority

import SessionAuthority.Application.Serve
import SessionAuthority.Proofs.Application.Body
import SessionAuthority.Proofs.Codec.Authenticity
import SessionAuthority.Proofs.Codec.RoundTrip
import SessionAuthority.Proofs.Session.Runs

/-!
# The guarded routes fail closed

`step_guarded`: in whatever state the service is, and however its collaborators misbehave, a request
to a guarded route is answered 200 only if it `Bears` a token of an identity and the session of that
identity is live, with the token's nonce, in the very state in which the store is read.  When nobody
misbehaves these conditions are enough, and everybody else is answered 401.  The owner of a session
who asks for the profile finds the token's subject and name in the body (`Response.Introduces`).

The way there follows the layers of a request: what is presented (`present_eq`), what the guard
makes of it in the four cases there are (`run_guard_refused`, `run_guard_unanswered`,
`run_guard_dead`, `run_guard_live`), what the owner of a session is answered (`profile_of_passed`,
`inside_of_calm`), and that neither route, method nor the way out change it (`step_of_isGuarded`).
Nothing is asked of the state, so it may be the one that any history has left behind.
-/
set_option autoImplicit false

namespace SessionAuthority

def Ending.status : Ending Response → Nat
  | .finished r => r.status
  | .crashed _ => 500
  | .abandoned => 408

theorem Presented.identity_verified (claims : Claims) :
    (verified claims).identity = (Identity.ofClaims claims).map fun i => (claims, i) := by
  have step : (verified claims).identity =
      (Identity.ofClaims claims).bind fun i => .ok (claims, i) := rfl
  rw [step]
  cases Identity.ofClaims claims <;> rfl

namespace Authority

variable (a : Authority)

/-- Headers carry a token of an identity that this authority's codec reads. -/
def Bears (now : Instant) (headers : Headers) (claims : Claims) (identity : Identity) : Prop :=
  ∃ token, Credential.token? headers = some token ∧
    a.codec.decode now.seconds token = .ok claims ∧ Identity.ofClaims claims = .ok identity

theorem Bears.reads {a : Authority} {now : Instant} {headers : Headers} {claims : Claims}
    {identity : Identity} (bears : a.Bears now headers claims identity) :
    Identity.ofClaims claims = .ok identity := by
  obtain ⟨token, -, -, read⟩ := bears
  exact read

/-- Headers carry one token, and it speaks for one identity. -/
theorem bears_unique {a : Authority} {now : Instant} {headers : Headers} {claims claims' : Claims}
    {identity identity' : Identity} (bears : a.Bears now headers claims identity)
    (bears' : a.Bears now headers claims' identity') : identity = identity' := by
  obtain ⟨token, carried, decoded, typed⟩ := bears
  obtain ⟨token', carried', decoded', typed'⟩ := bears'
  cases carried.symm.trans carried'
  cases decoded.symm.trans decoded'
  exact Except.ok.inj (typed.symm.trans typed')

/-- The session of an identity is live with its nonce in the access slot. -/
def InSession (s : State) (identity : Identity) : Prop :=
  ∃ record, a.liveRecord? s identity.id = some record ∧ identity.uid = record.access

/-- A request that began at an instant may pass in a state. -/
def Admits (now : Instant) (s : State) (headers : Headers) (identity : Identity) : Prop :=
  (∃ claims, a.Bears now headers claims identity) ∧ a.InSession s identity

/-! ## What is presented -/

theorem ofClaims_eq_ok {claims : Claims} {identity : Identity}
    (read : Identity.ofClaims claims = .ok identity) :
    claims.subject? = some identity.id ∧ claims.uid? = some identity.uid := by
  rw [Identity.ofClaims] at read
  split at read
  · rename_i id username uid named _ carried
    cases read
    exact ⟨named, carried⟩
  · cases read

theorem ofClaims_eq_error {claims : Claims} {why : AuthError}
    (read : Identity.ofClaims claims = .error why) : why = .malformed := by
  rw [Identity.ofClaims] at read
  split at read
  · cases read
  · cases read; rfl

/-- Who bears a token shows its identity. -/
theorem Bears.present {a : Authority} {now : Instant} {headers : Headers} {claims : Claims}
    {identity : Identity} (bears : a.Bears now headers claims identity) :
    ∃ p, a.present now headers = .done p ∧ p.identity = .ok (claims, identity) := by
  obtain ⟨token, carried, decoded, read⟩ := bears
  refine ⟨.verified claims, ?_, ?_⟩
  · simp only [Authority.present, carried, parse, decoded]
  · rw [Presented.identity_verified, read]
    rfl

/-- What a request shows either bears an identity or is refused for a fault of the client's. -/
theorem present_eq {key : Bytes} (verifying : a.codec.verifying = some key) {now : Instant}
    (clock : a.codec.skew ≤ now.seconds) (headers : Headers) :
    ∃ p, a.present now headers = .done p ∧
      ((∃ claims identity, a.Bears now headers claims identity ∧
          p.identity = .ok (claims, identity)) ∨
        ∃ why, p.identity = .error why ∧ why.isCredentialFailure = true ∧
          ∀ claims identity, ¬ a.Bears now headers claims identity) := by
  cases carried : Credential.token? headers with
  | none =>
      refine ⟨.missing, by simp only [present, carried], .inr ⟨.noCredential, rfl, rfl, ?_⟩⟩
      rintro claims identity ⟨token, found, -⟩
      rw [carried] at found
      cases found
  | some token =>
      rcases Codec.decode_total verifying clock token with ⟨claims, read⟩ | ⟨why, refused, blamed⟩
      · refine ⟨.verified claims, by simp only [present, carried, parse, read], ?_⟩
        cases typed : Identity.ofClaims claims with
        | ok identity =>
            refine .inl ⟨claims, identity, ⟨token, carried, read, typed⟩, ?_⟩
            rw [Presented.identity_verified, typed]
            rfl
        | error why =>
            refine .inr ⟨why, ?_, by rw [ofClaims_eq_error typed]; rfl, ?_⟩
            · rw [Presented.identity_verified, typed]
              rfl
            · rintro other identity ⟨_, found, read', typed'⟩
              cases carried.symm.trans found
              cases read.symm.trans read'
              rw [typed] at typed'
              cases typed'
      · refine ⟨.rejected why, by simp only [present, carried, parse, refused], ?_⟩
        refine .inr ⟨why, rfl, blamed, ?_⟩
        rintro claims identity ⟨_, found, read, -⟩
        cases carried.symm.trans found
        rw [refused] at read
        cases read

/-! ## What the guard lets through -/

section Guard

variable {a} (directory : Directory) (deadline : Option Instant) {s : State} {p : Presented}
  {claims : Claims} {identity : Identity} (answer : Identity → Program Response)

theorem run_guard_refused {why : AuthError} (refused : p.identity = .error why) :
    (s.run directory deadline (a.guard p answer)).1 =
      .finished (ApiError.ofAuth why).response := by
  rw [guard, authorize, refused]
  rfl

/-- Who shows an identity is asked for its session. -/
theorem run_guard_shown (shown : p.identity = .ok (claims, identity))
    (read : Identity.ofClaims claims = .ok identity) :
    s.run directory deadline (a.guard p answer) =
      Ending.andThen (s.answer directory deadline (.get (a.key identity.id))) fun got s =>
        match checked got .access identity.uid with
        | .ok () =>
            s.run directory deadline do
              a.detachProlong identity.id
              answer identity
        | .error why =>
            (.finished (ApiError.ofAuth why).response, s.count (.rejected why.kind)) := by
  obtain ⟨named, carried⟩ := ofClaims_eq_ok read
  have ran := a.run_checkLive_of_named directory deadline named carried .access s
  rw [guard, authorize, shown, State.run_bind]
  simp only [State.run_action_bind]
  rw [ran]
  rcases s.answer directory deadline (.get (a.key identity.id)) with ⟨got | c | _, s⟩
  · simp only [Ending.andThen_finished]
    cases checked got .access identity.uid <;> rfl
  · rfl
  · rfl

/-- A store that does not answer lets nobody in. -/
theorem run_guard_unanswered (shown : p.identity = .ok (claims, identity))
    (read : Identity.ofClaims claims = .ok identity)
    (unanswered : s.whenAnswered deadline s.faults.get = none) :
    (s.run directory deadline (a.guard p answer)).1.status ≠ 200 := by
  rw [run_guard_shown directory deadline answer shown read, State.answer]
  rcases State.meet_of_unanswered deadline unanswered Except.error
      fun s => s.update (.ok (s.store.get s.clock (a.key identity.id))) with
    ⟨e, met⟩ | ⟨c, after, met⟩ | ⟨after, met⟩
  · rw [met]; exact (by decide : (500 : Nat) ≠ 200)
  · rw [met]; exact (by decide : (500 : Nat) ≠ 200)
  · rw [met]; exact (by decide : (408 : Nat) ≠ 200)

/-- The answer of a store, once there is one. -/
theorem answer_get_of_answered {t : State}
    (answered : s.whenAnswered deadline s.faults.get = some t) (key : String) :
    s.answer directory deadline (.get key) =
      (.finished (.ok (t.store.get t.clock key).1),
        { t with store := (t.store.get t.clock key).2 }) := by
  rw [State.answer, State.meet_of_answered deadline answered]
  rfl

theorem inSession_iff {t : State} :
    a.InSession t identity ↔
      isLive (t.store.get t.clock (a.key identity.id)).1 .access identity.uid = true := by
  obtain ⟨after, got, -⟩ := t.store.get_eq t.clock (a.key identity.id)
  rw [isLive_iff, got, Option.bind_map]
  rfl

theorem run_guard_dead {t : State} (shown : p.identity = .ok (claims, identity))
    (read : Identity.ofClaims claims = .ok identity)
    (answered : s.whenAnswered deadline s.faults.get = some t) (dead : ¬ a.InSession t identity) :
    (s.run directory deadline (a.guard p answer)).1 =
      .finished (ApiError.ofAuth .noActiveSession).response := by
  rw [inSession_iff, Bool.not_eq_true] at dead
  rw [run_guard_shown directory deadline answer shown read,
    answer_get_of_answered directory deadline answered, Ending.andThen_finished, checked, dead]
  rfl

theorem run_guard_live {t : State} (shown : p.identity = .ok (claims, identity))
    (read : Identity.ofClaims claims = .ok identity)
    (answered : s.whenAnswered deadline s.faults.get = some t) (live : a.InSession t identity) :
    ∃ store ready, s.run directory deadline (a.guard p answer) =
      State.run directory deadline (answer identity) { t with store, ready } := by
  rw [inSession_iff] at live
  rw [run_guard_shown directory deadline answer shown read,
    answer_get_of_answered directory deadline answered, Ending.andThen_finished, checked, live]
  exact ⟨_, _, rfl⟩

theorem ofAuth_status_ne {why : AuthError} : (ApiError.ofAuth why).response.status ≠ 200 := by
  rw [ApiError.ofAuth]
  split
  · exact (by decide : (401 : Nat) ≠ 200)
  · exact (by decide : (500 : Nat) ≠ 200)

theorem ofAuth_status {why : AuthError} (blamed : why.isCredentialFailure = true) :
    (ApiError.ofAuth why).response.status = 401 := by
  rw [ApiError.ofAuth, if_pos blamed]
  rfl

/-- Whoever gets past the guard is admitted in the state in which the store answered. -/
theorem admitted_of_guard {key : Bytes} (verifying : a.codec.verifying = some key)
    {now : Instant} (clock : a.codec.skew ≤ now.seconds) {headers : Headers}
    (presented : a.present now headers = .done p)
    (passed : (s.run directory deadline (a.guard p answer)).1.status = 200) :
    ∃ identity t store ready, s.whenAnswered deadline s.faults.get = some t ∧
      a.Admits now t headers identity ∧
      s.run directory deadline (a.guard p answer) =
        State.run directory deadline (answer identity) { t with store, ready } := by
  obtain ⟨p', presented', ⟨claims, identity, bears, shown⟩ | ⟨why, refused, -, -⟩⟩ :=
    a.present_eq verifying clock headers
  · cases presented.symm.trans presented'
    have read := bears.reads
    cases answered : s.whenAnswered deadline s.faults.get with
    | none =>
        exact absurd passed (run_guard_unanswered directory deadline answer shown read answered)
    | some t =>
        by_cases live : a.InSession t identity
        · obtain ⟨store, ready, ran⟩ :=
            run_guard_live directory deadline answer shown read answered live
          exact ⟨identity, t, store, ready, rfl, ⟨⟨claims, bears⟩, live⟩, ran⟩
        · rw [run_guard_dead directory deadline answer shown read answered live] at passed
          exact absurd passed ofAuth_status_ne
  · cases presented.symm.trans presented'
    rw [run_guard_refused directory deadline answer refused] at passed
    exact absurd passed ofAuth_status_ne

/-- When the store answers, who is admitted passes and everybody else is told to log in. -/
theorem guard_of_answered {key : Bytes} (verifying : a.codec.verifying = some key)
    {now : Instant} (clock : a.codec.skew ≤ now.seconds) {headers : Headers}
    (presented : a.present now headers = .done p) {t : State}
    (answered : s.whenAnswered deadline s.faults.get = some t) :
    (∃ identity, a.Admits now t headers identity ∧ ∃ store ready,
        s.run directory deadline (a.guard p answer) =
          State.run directory deadline (answer identity) { t with store, ready }) ∨
      (∀ identity, ¬ a.Admits now t headers identity) ∧
        (s.run directory deadline (a.guard p answer)).1.status = 401 := by
  obtain ⟨p', presented', ⟨claims, identity, bears, shown⟩ | ⟨why, refused, blamed, nobody⟩⟩ :=
    a.present_eq verifying clock headers
  · cases presented.symm.trans presented'
    obtain ⟨token, carried, decoded, read⟩ := bears
    by_cases live : a.InSession t identity
    · obtain ⟨store, ready, ran⟩ :=
        run_guard_live directory deadline answer shown read answered live
      exact .inl ⟨identity, ⟨⟨claims, token, carried, decoded, read⟩, live⟩, store, ready, ran⟩
    · refine .inr ⟨?_, ?_⟩
      · rintro other ⟨⟨_, _, carried', decoded', read'⟩, live'⟩
        cases carried.symm.trans carried'
        cases decoded.symm.trans decoded'
        cases read.symm.trans read'
        exact live live'
      · rw [run_guard_dead directory deadline answer shown read answered live]
        rfl
  · cases presented.symm.trans presented'
    refine .inr ⟨?_, ?_⟩
    · rintro identity ⟨⟨claims, bears⟩, -⟩
      exact nobody claims identity bears
    · rw [run_guard_refused directory deadline answer refused]
      exact ofAuth_status blamed

end Guard

end Authority

namespace Application

variable (app : Application)

/-! ## What the owner of a session is answered -/

section Inside

variable (directory : Directory) (deadline : Option Instant) (identity : Identity) (s : State)

theorem run_profile :
    s.run directory deadline (profile identity) =
      Ending.andThen (s.answer directory deadline (.lookup identity.username)) fun listed s =>
        (.finished (.json 200 (Profile.toJson ⟨identity, listedName identity listed⟩)), s) := by
  rw [profile, State.run_bind, State.run_ask directory deadline (.lookup identity.username)]
  rfl

/-- A profile is that of the identity, whatever the directory says. -/
theorem profile_of_passed
    (passed : (s.run directory deadline (profile identity)).1.status = 200) :
    ∃ name, (s.run directory deadline (profile identity)).1 =
      .finished (.json 200 (Profile.toJson ⟨identity, name⟩)) := by
  rw [run_profile] at passed ⊢
  rcases asked : s.answer directory deadline (.lookup identity.username) with ⟨listed | c | _, s⟩
  · exact ⟨_, rfl⟩
  · rw [asked] at passed
    exact absurd passed (by decide : (500 : Nat) ≠ 200)
  · rw [asked] at passed
    exact absurd passed (by decide : (408 : Nat) ≠ 200)

theorem profile_of_calm {s : State} (calm : s.faults = {}) :
    (s.run directory deadline (profile identity)).1.status = 200 := by
  have working : s.faults.lookup = .none := by rw [calm]
  rw [run_profile, State.answer_lookup_of_working directory deadline working]
  rfl

theorem logout_of_calm {s : State} (calm : s.faults = {}) :
    (s.run directory deadline (app.logout identity)).1.status = 200 := by
  have ran := app.authority.run_revoke directory deadline calm identity.id
  rw [logout, State.run_bind, ran]
  rfl

end Inside

/-! ## On the way out -/

theorem status_responseTo (req : Request) (ending : Ending Response) :
    (app.responseTo req ending).status = ending.status := by
  cases ending <;> rfl

theorem status_framed (req : Request) (r : Response) : (framed req r).status = r.status := by
  rw [framed]
  split
  · rfl
  · dsimp only
    split <;> split <;> rfl

theorem body_framed {req : Request} (whole : req.method ≠ "HEAD") (r : Response) :
    (framed req r).body = r.body := by
  rw [framed]
  split
  · rfl
  · simp only [whole, if_false]
    split <;> rfl

/-- A request takes at most a nonce before its work begins. -/
theorem identifier_state (req : Request) (s : State) :
    (identifier req s).2 = s ∨ (identifier req s).2 = s.takeNonce := by
  rw [identifier]
  split
  · exact .inr rfl
  · dsimp only
    split
    · exact .inl rfl
    · exact .inr rfl

/-- A request to the owner of a session: for the profile or to log out. -/
def IsGuarded (req : Request) : Prop :=
  (req.method = "GET" ∧ req.path = "/api/users/me") ∨
    (req.method = "POST" ∧ req.path = "/api/auth/logout")

/-- What a guarded request is answered inside the guard. -/
def inside (req : Request) (identity : Identity) : Program Response :=
  if req.method = "GET" then profile identity else app.logout identity

/-- The work of a guarded request, behind its route and its method. -/
def work (now : Instant) (req : Request) : Program Response := do
  let p ← app.authority.present now req.headers
  app.authority.guard p (app.inside req)

theorem work_of_presented {now : Instant} {req : Request} {p : Presented}
    (presented : app.authority.present now req.headers = .done p) :
    app.work now req = app.authority.guard p (app.inside req) := by
  rw [work, presented]
  rfl

theorem answer_of_isGuarded {req : Request} (guarded : IsGuarded req) :
    ∃ route, Route.ofPath? req.path = some route ∧
      ∀ now, app.answer now req route = app.work now req := by
  rcases guarded with ⟨method, path⟩ | ⟨method, path⟩
  · have inner : app.inside req = profile := by
      funext identity
      rw [inside, if_pos method]
    refine ⟨.profile, by rw [path]; decide, fun now => ?_⟩
    simp [answer, work, inner, onMethod, Route.takes, Route.posts, method]
  · have inner : app.inside req = app.logout := by
      funext identity
      rw [inside, if_neg (by rw [method]; decide)]
    refine ⟨.logout, by rw [path]; decide, fun now => ?_⟩
    simp [answer, work, inner, onMethod, Route.takes, Route.posts, method]

theorem answerInTime_of_isGuarded {req : Request} (guarded : IsGuarded req)
    (time : 0 < app.timeout.nanos) (s : State) :
    app.answerInTime req s =
      s.run app.directory (some (s.clock + app.timeout.nanos)) (app.work s.clock req) := by
  obtain ⟨route, found, works⟩ := app.answer_of_isGuarded guarded
  rw [answerInTime, if_neg (Nat.pos_iff_ne_zero.1 time), found]
  simp only [works]

/-- The response to a guarded request is what its work ends with. -/
theorem step_of_isGuarded {req : Request} (guarded : IsGuarded req) (time : 0 < app.timeout.nanos)
    (s : State) :
    ∃ begun r, (begun = s ∨ begun = s.takeNonce) ∧ (app.step s (.request req)).1 = some r ∧
      let ending := (begun.run app.directory (some (s.clock + app.timeout.nanos))
        (app.work s.clock req)).1
      r.status = ending.status ∧ ∀ inner, ending = .finished inner → r.body = inner.body := by
  have begun := identifier_state req s
  have clock : (identifier req s).2.clock = s.clock := by
    rcases begun with same | same <;> rw [same]
    rfl
  have worked := app.answerInTime_of_isGuarded guarded time (identifier req s).2
  rw [clock] at worked
  have method : req.method ≠ "OPTIONS" ∧ req.method ≠ "HEAD" := by
    rcases guarded with ⟨method, -⟩ | ⟨method, -⟩ <;> rw [method] <;> decide
  have served : (app.serve req s).1 = (framed req (app.responseTo req
      (app.answerInTime req (identifier req s).2).1)).withHeader identifierHeader
        (identifier req s).1 := by
    simp only [serve, method.1, if_false]
  refine ⟨(identifier req s).2, (app.serve req s).1, begun, rfl, ?_⟩
  rw [served, worked]
  refine ⟨?_, fun inner ended => ?_⟩
  · exact (status_framed req _).trans (app.status_responseTo req _)
  · rw [ended]
    exact body_framed method.2 _

/-! ## Guarded requests -/

theorem inside_of_calm {req : Request} (directory : Directory) (deadline : Option Instant)
    (identity : Identity) {s : State} (calm : s.faults = {}) :
    (s.run directory deadline (app.inside req identity)).1.status = 200 := by
  rw [inside]
  split
  · exact profile_of_calm directory deadline identity calm
  · exact app.logout_of_calm directory deadline identity calm

/-- The store is read in a state that the request's own nonce does not matter to. -/
theorem whenAnswered_begun {s begun t : State} (begins : begun = s ∨ begun = s.takeNonce)
    {deadline : Option Instant}
    (answered : begun.whenAnswered deadline begun.faults.get = some t) :
    ∃ read, s.whenAnswered deadline s.faults.get = some read ∧ (t = read ∨ t = read.takeNonce) := by
  rcases begins with rfl | rfl
  · exact ⟨t, answered, .inl rfl⟩
  · have mapped : (s.whenAnswered deadline s.faults.get).map State.takeNonce = some t :=
      (State.whenAnswered_takeNonce deadline s s.faults.get).symm.trans answered
    obtain ⟨read, found, same⟩ := Option.map_eq_some_iff.1 mapped
    exact ⟨read, found, .inr same.symm⟩

/-- **The guarded routes fail closed and nothing more.**  In any state, with any faults, such a
request is answered 200 only if it is admitted in the state in which the store is read, and who asks
for the profile is told the identifier and the name of the admitted identity.  Without faults the
admitted get 200, all others 401. -/
theorem step_guarded {key : Bytes} (verifying : app.authority.codec.verifying = some key)
    (time : 0 < app.timeout.nanos) {s : State}
    (clock : app.authority.codec.skew ≤ Instant.seconds s.clock) {req : Request}
    (guarded : IsGuarded req) :
    ∃ r, (app.step s (.request req)).1 = some r ∧
      (r.status = 200 → ∃ identity read,
        s.whenAnswered (some (s.clock + app.timeout.nanos)) s.faults.get = some read ∧
        app.authority.Admits s.clock read req.headers identity ∧
        (req.method = "GET" → r.Introduces identity.id identity.username)) ∧
      (s.faults = {} →
        ((∃ identity, app.authority.Admits s.clock s req.headers identity) → r.status = 200) ∧
        ((¬ ∃ identity, app.authority.Admits s.clock s req.headers identity) →
          r.status = 401)) := by
  obtain ⟨begun, r, begins, served, status, body⟩ := app.step_of_isGuarded guarded time s
  obtain ⟨p, presented, -⟩ := app.authority.present_eq verifying clock req.headers
  have works : app.work s.clock req = app.authority.guard p (app.inside req) := by
    rw [work, presented]
    rfl
  rw [works] at status body
  refine ⟨r, served, ?_, ?_⟩
  · intro passed
    rw [status] at passed
    obtain ⟨identity, t, store, ready, answered, admits, ran⟩ :=
      Authority.admitted_of_guard _ _ _ verifying clock presented passed
    obtain ⟨read, found, same⟩ := whenAnswered_begun begins answered
    refine ⟨identity, read, found, ?_, fun method => ?_⟩
    · rcases same with rfl | rfl <;> exact admits
    · have inner : app.inside req identity = profile identity := if_pos method
      rw [ran, inner] at passed body
      obtain ⟨name, ended⟩ := profile_of_passed _ _ _ _ passed
      obtain ⟨⟨claims, bears⟩, -⟩ := admits
      exact Response.introduces bears.reads (body _ ended)
  · intro calm
    have still : begun.faults = {} := by rcases begins with rfl | rfl <;> exact calm
    have answered : begun.whenAnswered (some (s.clock + app.timeout.nanos)) begun.faults.get =
        some begun := by rw [still]; rfl
    have same : ∀ identity, app.authority.Admits s.clock begun req.headers identity ↔
        app.authority.Admits s.clock s req.headers identity := by
      rcases begins with rfl | rfl <;> exact fun identity => Iff.rfl
    rcases Authority.guard_of_answered app.directory _ (app.inside req) verifying clock presented
      answered with ⟨identity, admits, store, ready, ran⟩ | ⟨nobody, refused⟩
    · rw [ran] at status
      have welcome : r.status = 200 := status.trans (app.inside_of_calm _ _ identity still)
      exact ⟨fun _ => welcome, fun others => absurd ⟨identity, (same identity).1 admits⟩ others⟩
    · refine ⟨?_, fun _ => status.trans refused⟩
      rintro ⟨identity, admits⟩
      exact absurd ((same identity).2 admits) (nobody identity)

/-- The owner of a session is told who that is. -/
theorem step_guarded_owner :
    let app : Application :=
      ⟨⟨⟨.hs256, .secret .sha256, none, some [0x6B], 2⟩, "",
        ⟨.ofSeconds 9, .ofSeconds 9, .ofSeconds 9⟩⟩, .empty, .ofSeconds 1, [], false⟩
    let identity : Identity := ⟨.ofNat 7, "ada", "first", none⟩
    let token := (Codec.Parts.signed .sha256 [0x6B] (Codec.segment (Codec.Header.render .hs256))
      (Codec.segment (Json.render (Claims.ofIdentity identity).toJson))).text
    let entry : Entry := ⟨(SessionRecord.mk "first" "second").render, 4000000000⟩
    let s : State :=
      { clock := 3000000000, store := Store.empty.put (sessionKey "" identity.id) entry }
    let headers : Headers := [("authorization", Bytes.ofString ("Bearer " ++ token))]
    app.authority.codec.skew ≤ Instant.seconds s.clock ∧
      ∃ r, (app.step s (.request ⟨"GET", "/api/users/me", headers, []⟩)).1 = some r ∧
        r.status = 200 ∧ r.Tells "id" (.str "00000000-0000-0000-0000-000000000007") ∧
          r.Tells "username" (.str "ada") := by
  intro app identity token entry s headers
  have clock : app.authority.codec.skew ≤ Instant.seconds s.clock := by decide
  have carried : Credential.token? headers = some token := by decide +kernel
  have decoded : app.authority.codec.decode (Instant.seconds s.clock) token =
      .ok (Claims.ofIdentity identity) :=
    Codec.decode_signed rfl rfl clock (Claims.portable_ofIdentity identity 2 _)
  have live : app.authority.liveRecord? s identity.id = some ⟨"first", "second"⟩ := by
    decide +kernel
  have bears : app.authority.Bears s.clock headers (Claims.ofIdentity identity) identity :=
    ⟨token, carried, decoded, Claims.ofClaims_ofIdentity rfl⟩
  obtain ⟨r, served, passes, calm⟩ := app.step_guarded rfl (by decide) clock
    (.inl ⟨rfl, by decide⟩ : IsGuarded ⟨"GET", "/api/users/me", headers, []⟩)
  have welcome : r.status = 200 := (calm rfl).1 ⟨identity, ⟨_, bears⟩, _, live, rfl⟩
  obtain ⟨admitted, read, -, ⟨⟨claims, borne⟩, -⟩, told⟩ := passes welcome
  -- no one else is admitted than who bears the token
  obtain rfl := Authority.bears_unique bears borne
  have written : identity.id.toText = "00000000-0000-0000-0000-000000000007" := by decide +kernel
  exact ⟨clock, r, served, welcome, written ▸ (told rfl).id, (told rfl).username⟩

end Application

end SessionAuthority

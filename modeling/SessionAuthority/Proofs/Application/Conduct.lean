import SessionAuthority.Proofs.Application.Guard
import SessionAuthority.Proofs.Session.Conduct

/-!
# What requests may write

Every request is a program that writes once, at the end (`conducts_answer`), under a licence that
depends on its route and on what it has seen (`licence`).  A login may write a session for the
listed user whose password it has, a refresh for the subject of a token whose nonce it found in the
refresh slot, and both write the record of two nonces of their own.  A logout may remove the session
of the identity whose access nonce it found stored.  All others write nothing.  A request on one of
these three routes is answered 200 just if it has written.
-/
set_option autoImplicit false

namespace SessionAuthority

theorem BodyKind.accept_status_ne {α : Type} {kind : BodyKind α} {headers : Headers} {body : Bytes}
    {e : ApiError} (refused : kind.accept headers body = .error e) : e.status ≠ 200 := by
  rw [accept] at refused
  split at refused
  · cases refused
    exact (by decide : (400 : Nat) ≠ 200)
  · split at refused
    · cases refused
    · cases refused
      exact (by decide : (422 : Nat) ≠ 200)

theorem Presented.ofClaims_of_identity {p : Presented} {claims : Claims} {identity : Identity}
    (shown : p.identity = .ok (claims, identity)) : Identity.ofClaims claims = .ok identity := by
  cases p with
  | missing => cases shown
  | rejected why => cases shown
  | verified claims' =>
      rw [identity_verified] at shown
      cases typed : Identity.ofClaims claims' with
      | error why => rw [typed] at shown; cases shown
      | ok identity' => rw [typed] at shown; cases shown; exact typed

namespace Authority

variable (a : Authority)

/-- Who is shown by a request bears a token of that identity. -/
theorem bears_of_present {now : Instant} {headers : Headers} {p : Presented} {claims : Claims}
    {identity : Identity} (presented : a.present now headers = .done p)
    (shown : p.identity = .ok (claims, identity)) : a.Bears now headers claims identity := by
  have typed := Presented.ofClaims_of_identity shown
  rw [present] at presented
  split at presented
  · cases presented
    cases shown
  · rename_i token carried
    split at presented
    · rename_i read decoded
      cases presented
      rw [Presented.identity_verified] at shown
      cases ofClaims : Identity.ofClaims read with
      | error why => rw [ofClaims] at shown; cases shown
      | ok other =>
          rw [ofClaims] at shown
          cases shown
          exact ⟨token, carried, decoded, typed⟩
    · cases presented
      cases shown
    · cases presented

theorem identify_eq_ok {now : Instant} {token : String} {claims : Claims} {identity : Identity}
    (identified : a.identify now token = .ok (claims, identity)) :
    a.parse now token = .ok claims ∧ Identity.ofClaims claims = .ok identity := by
  rw [identify] at identified
  cases read : a.parse now token with
  | refused why => rw [read] at identified; cases identified
  | crashed c => rw [read] at identified; cases identified
  | ok other =>
      rw [read, Outcome.bind] at identified
      cases typed : Identity.ofClaims other with
      | error why => rw [typed] at identified; cases identified
      | ok named =>
          rw [typed] at identified
          cases identified
          exact ⟨rfl, typed⟩

variable {l : Licence} {unwritten : List Seen → Response → Prop} {written : Response → Prop}

/-- A request shows what it shows without a call. -/
theorem present_cases (now : Instant) (headers : Headers) :
    (∃ p, a.present now headers = .done p) ∨ ∃ c, a.present now headers = .crash c := by
  rw [present]
  split
  · exact .inl ⟨_, rfl⟩
  · split
    · exact .inl ⟨_, rfl⟩
    · exact .inl ⟨_, rfl⟩
    · exact .inr ⟨_, rfl⟩

theorem transacts_present (now : Instant) (headers : Headers) {f : Presented → Program Response}
    {seen : List Seen}
    (rest : ∀ p, a.present now headers = .done p → (f p).Transacts l unwritten written seen) :
    Program.Transacts l unwritten written seen (a.present now headers >>= f) := by
  rcases a.present_cases now headers with ⟨p, presented⟩ | ⟨c, crashed⟩
  · rw [presented]
    exact rest p presented
  · rw [crashed]
    trivial

/-- Authorized is who shows an identity whose nonce is stored in the access slot. -/
theorem transacts_authorize (p : Presented) (seen : List Seen) :
    Action.Transacts l (fun seen' identity => ∃ claims stored,
        p.identity = .ok (claims, identity) ∧ isLive stored .access identity.uid = true ∧
          seen' = seen ++ [.stored (a.key identity.id) stored])
      (fun _ => False) seen (a.authorize p) := by
  rw [authorize]
  split
  · exact Action.transacts_throw
  · rename_i claims identity shown
    obtain ⟨named, carried⟩ := ofClaims_eq_ok (Presented.ofClaims_of_identity shown)
    refine (a.transacts_checkLive named carried .access seen).bind ?_ fun _ => False.elim
    rintro _ _ ⟨stored, rfl, live⟩
    exact Action.transacts_pure ⟨claims, stored, shown, live, rfl⟩

/-- **The guard** lets through who is authorized, with a prolongation detached. -/
theorem transacts_guard {p : Presented} {answer : Identity → Program Response} {seen : List Seen}
    (refused : ∀ seen why, unwritten seen (ApiError.ofAuth why).response)
    (passed : ∀ claims identity stored, p.identity = .ok (claims, identity) →
      isLive stored .access identity.uid = true →
      let seen := seen ++ [.stored (a.key identity.id) stored]
      l.detach seen ⟨a.key identity.id, a.lifetimes.inactivity⟩ ∧
        (answer identity).Transacts l unwritten written seen) :
    (a.guard p answer).Transacts l unwritten written seen := by
  rw [guard]
  refine Program.Transacts.bind (a.transacts_authorize p seen) ?_ ?_
  · intro seen' r ready
    cases r with
    | error why =>
        refine ⟨trivial, fun _ => ?_⟩
        exact refused _ why
    | ok identity =>
        obtain ⟨claims, stored, shown, live, rfl⟩ := ready identity rfl
        obtain ⟨detached, rest⟩ := passed claims identity stored shown live
        refine ⟨detached, fun _ => ?_⟩
        show Program.Transacts l unwritten written (_ ++ []) (answer identity)
        rwa [List.append_nil]
  · rintro r ⟨_, _, impossible⟩
    exact impossible.elim

end Authority

namespace Application

variable (app : Application)

/-! ## The licence of a request -/

/-- What a request has seen that entitles it to a session for a subject. -/
def Grants (now : Instant) (req : Request) (seen : List Seen) (subject : Uuid) : Route → Prop
  | .login => ∃ r user, LoginRequest.kind.accept req.headers req.body = .ok r ∧
      .listed r.email (some user) ∈ seen ∧
      Password.verify r.password user.passwordHash = true ∧ user.id = subject
  | .refresh => ∃ r claims identity stored,
      RefreshRequest.kind.accept req.headers req.body = .ok r ∧
      app.authority.identify now r.token = .ok (claims, identity) ∧
      .stored (app.authority.key identity.id) stored ∈ seen ∧
      Authority.isLive stored .refresh identity.uid = true ∧ identity.id = subject
  | _ => False

/-- A request on a guarded route has seen that the session of its identity is live. -/
def Authorizes (now : Instant) (req : Request) (seen : List Seen) (identity : Identity)
    (route : Route) : Prop :=
  route.guarded = true ∧ (∃ claims, app.authority.Bears now req.headers claims identity) ∧
    ∃ stored, .stored (app.authority.key identity.id) stored ∈ seen ∧
      Authority.isLive stored .access identity.uid = true

def licence (now : Instant) (req : Request) (route : Route) : Licence where
  set seen key value ttl := ∃ subject access refresh, app.Grants now req seen subject route ∧
    Seen.nonces seen = [access, refresh] ∧ key = app.authority.key subject ∧
    value = (Authority.pairRecord access refresh).render ∧
    ttl = app.authority.lifetimes.inactivity
  delete seen key := route = .logout ∧ ∃ identity, app.Authorizes now req seen identity route ∧
    key = app.authority.key identity.id
  detach seen p := ∃ identity, app.Authorizes now req seen identity route ∧
    p = ⟨app.authority.key identity.id, app.authority.lifetimes.inactivity⟩

/-! ## Programs under their licence -/

theorem exchanged_ofAuth_status_ne {why : AuthError} :
    (exchanged (.error (.ofAuth why))).status ≠ 200 :=
  Authority.ofAuth_status_ne

/-- An exchange of a password or a token has written just if it ends with a pair. -/
def Exchanges (l : Licence) (p : Program (Except ApiError TokenPair)) : Prop :=
  p.Transacts l (fun _ r => (exchanged r).status ≠ 200) (fun r => (exchanged r).status = 200) []

theorem exchanges_login (now : Instant) {req : Request} {r : LoginRequest}
    (accepted : LoginRequest.kind.accept req.headers req.body = .ok r) :
    Exchanges (app.licence now req .login) (app.authority.login now r) := by
  rw [Authority.login]
  refine ⟨trivial, fun answer => ?_⟩
  have refuse (why : LoginFailure) (seen : List Seen) :
      (Authority.refuseLogin why).Transacts (app.licence now req .login)
        (fun _ r => (exchanged r).status ≠ 200) (fun r => (exchanged r).status = 200) seen :=
    ⟨trivial, fun _ => (by decide : (401 : Nat) ≠ 200)⟩
  cases answer with
  | error e => exact (by decide : (500 : Nat) ≠ 200)
  | ok listed =>
      cases listed with
      | none => exact refuse .unknownIdentity _
      | some user =>
          show Program.Transacts _ _ _ [.listed r.email (some user)]
            (if Password.verify r.password user.passwordHash then _ else _)
          cases known : Password.verify r.password user.passwordHash with
          | false => exact refuse .badPassword _
          | true =>
              refine Program.Transacts.bind (app.authority.transacts_issue now
                ⟨user.id, user.email⟩ ?licensed) ?missed ?met
              case licensed =>
                intro access refresh
                refine ⟨user.id, access, refresh, ⟨r, user, accepted, ?_, known, rfl⟩, ?_⟩
                · simp
                · exact ⟨rfl, rfl, rfl, rfl⟩
              case missed =>
                intro seen r refused
                cases r with
                | error why => exact exchanged_ofAuth_status_ne
                | ok pair => exact (refused pair rfl).elim
              case met =>
                rintro _ ⟨pair, rfl, -⟩
                exact ⟨⟨_, rfl⟩, fun _ => rfl⟩

theorem exchanges_refresh (now : Instant) {req : Request} {r : RefreshRequest}
    (accepted : RefreshRequest.kind.accept req.headers req.body = .ok r) :
    Exchanges (app.licence now req .refresh) (app.authority.refresh now r) := by
  have renewed : Action.Transacts (app.licence now req .refresh) (fun _ _ => False)
      (fun _ => True) [] (app.authority.renew now r.token) := by
    rw [Authority.renew]
    have identified : Action.Transacts (app.licence now req .refresh) _ (fun _ => False) [] _ :=
      Action.transacts_ofOutcome (app.authority.identify now r.token)
    refine identified.bind ?_ fun _ => False.elim
    rintro _ ⟨claims, identity⟩ ⟨rfl, identified⟩
    obtain ⟨-, typed⟩ := app.authority.identify_eq_ok identified
    obtain ⟨named, carried⟩ := Authority.ofClaims_eq_ok typed
    refine (app.authority.transacts_checkLive named carried .refresh []).bind ?_ fun _ => False.elim
    rintro _ _ ⟨stored, rfl, live⟩
    refine app.authority.transacts_issue now identity.subject ?_
    intro access refresh
    refine ⟨identity.id, access, refresh,
      ⟨r, claims, identity, stored, accepted, identified, ?_, live, rfl⟩, ?_⟩
    · simp
    · exact ⟨rfl, rfl, rfl, rfl⟩
  rw [Authority.refresh]
  refine Program.Transacts.bind renewed ?_ ?_
  · intro seen r refused
    cases r with
    | error why =>
        exact ⟨trivial, fun _ => ⟨trivial, fun _ => exchanged_ofAuth_status_ne⟩⟩
    | ok pair => exact (refused pair rfl).elim
  · rintro _ ⟨pair, rfl, -⟩
    exact ⟨⟨_, rfl⟩, fun _ => rfl⟩

/-- How the requests of a route conduct themselves: on a route for posting to, a response has the
status 200 just if something was written before. -/
def Conducts (now : Instant) (req : Request) (route : Route) (seen : List Seen)
    (p : Program Response) : Prop :=
  p.Transacts (app.licence now req route) (fun _ r => route.posts = true → r.status ≠ 200)
    (fun r => route.posts = true ∧ r.status = 200) seen

theorem conducts_onMethod {now : Instant} {req : Request} {route : Route} {seen : List Seen}
    {p : Program Response} (conducts : app.Conducts now req route seen p) :
    app.Conducts now req route seen (onMethod route req p) := by
  rw [onMethod]
  split
  · exact conducts
  · exact fun _ => (by decide : (405 : Nat) ≠ 200)

theorem conducts_onBody {α : Type} {kind : BodyKind α} {now : Instant} {req : Request}
    {route : Route} (posts : route.posts = true)
    {exchange : α → Program (Except ApiError TokenPair)}
    (exchanges : ∀ a, kind.accept req.headers req.body = .ok a →
      Exchanges (app.licence now req route) (exchange a)) :
    app.Conducts now req route [] (onBody kind req exchange) := by
  rw [onBody]
  split
  · rename_i e refused
    exact fun _ => BodyKind.accept_status_ne refused
  · rename_i a accepted
    refine Program.Transacts.bind (exchanges a accepted) ?_ ?_
    · exact fun _ r failed _ => failed
    · exact fun r succeeded => ⟨posts, succeeded⟩

/-- A response that no call comes before. -/
theorem conducts_pure {now : Instant} {req : Request} {route : Route} {seen : List Seen}
    (reads : route.posts = false) (r : Response) :
    app.Conducts now req route seen (pure r) := by
  intro posts
  rw [reads] at posts
  cases posts

theorem conducts_profile {now : Instant} {req : Request} {seen : List Seen} (identity : Identity) :
    app.Conducts now req .profile seen (profile identity) :=
  ⟨trivial, fun answer => by
    cases answer <;> exact fun posts => nomatch posts⟩

theorem conducts_logout {now : Instant} {req : Request} {seen : List Seen} {identity : Identity}
    (authorizes : app.Authorizes now req seen identity .logout) :
    app.Conducts now req .logout seen (app.logout identity) := by
  rw [logout]
  have licensed : (app.licence now req .logout).delete seen (app.authority.key identity.id) :=
    ⟨rfl, identity, authorizes, rfl⟩
  refine Program.Transacts.bind (app.authority.transacts_revoke licensed) ?_ ?_
  · intro seen r refused
    cases r with
    | error why => exact fun _ => Authority.ofAuth_status_ne
    | ok done => exact (refused done rfl).elim
  · rintro _ ⟨done, rfl, -⟩
    exact ⟨rfl, rfl⟩

/-- A guarded route conducts itself as what stands inside the guard does. -/
theorem conducts_guard {now : Instant} {req : Request} {route : Route}
    (guarded : route.guarded = true) {p : Presented}
    (presented : app.authority.present now req.headers = .done p)
    {answer : Identity → Program Response}
    (conducts : ∀ seen identity, app.Authorizes now req seen identity route →
      app.Conducts now req route seen (answer identity)) :
    app.Conducts now req route [] (app.authority.guard p answer) := by
  refine app.authority.transacts_guard ?_ ?_
  · exact fun _ _ _ => Authority.ofAuth_status_ne
  · intro claims identity stored shown live
    have bears := app.authority.bears_of_present presented shown
    have authorizes : app.Authorizes now req
        ([] ++ [.stored (app.authority.key identity.id) stored]) identity route :=
      ⟨guarded, ⟨claims, bears⟩, stored, by simp, live⟩
    exact ⟨⟨identity, authorizes, rfl⟩, conducts _ identity authorizes⟩

/-- **Every request conducts itself**, whatever its method and whatever it carries. -/
theorem conducts_answer (now : Instant) (req : Request) (route : Route) :
    app.Conducts now req route [] (app.answer now req route) := by
  cases route with
  | health => exact app.conducts_onMethod (app.conducts_pure rfl _)
  | document => exact app.conducts_onMethod (app.conducts_pure rfl _)
  | metrics =>
      refine app.conducts_onMethod ?_
      rw [metrics]
      split
      · exact ⟨trivial, fun tally => app.conducts_pure rfl _⟩
      · exact app.conducts_pure rfl _
  | status =>
      refine app.authority.transacts_present now req.headers fun p _ => ?_
      exact app.conducts_onMethod (app.conducts_pure rfl _)
  | login =>
      refine app.authority.transacts_present now req.headers fun p _ => ?_
      exact app.conducts_onMethod (app.conducts_onBody rfl fun r => app.exchanges_login now)
  | refresh =>
      refine app.authority.transacts_present now req.headers fun p _ => ?_
      exact app.conducts_onMethod (app.conducts_onBody rfl fun r => app.exchanges_refresh now)
  | logout =>
      refine app.authority.transacts_present now req.headers fun p presented => ?_
      refine app.conducts_guard rfl presented fun seen identity authorizes => ?_
      exact app.conducts_onMethod (app.conducts_logout authorizes)
  | profile =>
      refine app.authority.transacts_present now req.headers fun p presented => ?_
      refine app.conducts_guard rfl presented fun seen identity authorizes => ?_
      exact app.conducts_onMethod (app.conducts_profile identity)

/-! ## The step that serves a request -/

def worked (req : Request) (s : State) : Ending Response × State :=
  if req.method = "OPTIONS" then (.finished (Origin.preflight app.origins req.headers), s)
  else app.answerInTime req s

theorem step_request (s : State) (req : Request) :
    ∃ r e, app.step s (.request req) =
        (some r, ((app.worked req (identifier req s).2).2.count e).settle) ∧
      r.status = (app.worked req (identifier req s).2).1.status := by
  rw [worked, step, serve]
  by_cases options : req.method = "OPTIONS"
  · simp only [options, if_true]
    exact ⟨_, _, rfl, status_framed req _⟩
  · simp only [options, if_false]
    exact ⟨_, _, rfl, (status_framed req _).trans (app.status_responseTo req _)⟩

def sentOut (req : Request) (id : Bytes) (r : Response) (s : State) : Response × State :=
  ((framed req r).withHeader identifierHeader id, s.count (.answered req.method req.path r.status))

/-- A request that asks what is allowed is told so, and nothing else happens. -/
theorem serve_of_options {req : Request} (options : req.method = "OPTIONS") (s : State) :
    app.serve req s = sentOut req (identifier req s).1 (Origin.preflight app.origins req.headers)
      (identifier req s).2 := by
  simp only [serve, sentOut, options, if_true]

/-- Any other request is told what its work comes to. -/
theorem serve_of_work {req : Request} (works : req.method ≠ "OPTIONS") (s : State) :
    app.serve req s = sentOut req (identifier req s).1
      (app.responseTo req (app.answerInTime req (identifier req s).2).1)
      (app.answerInTime req (identifier req s).2).2 := by
  simp only [serve, sentOut, works, if_false]

theorem identifier_clock (req : Request) (s : State) : (identifier req s).2.clock = s.clock := by
  rcases identifier_state req s with same | same <;> rw [same]
  rfl

theorem identifier_faults (req : Request) (s : State) :
    (identifier req s).2.faults = s.faults := by
  rcases identifier_state req s with same | same <;> rw [same]
  rfl

theorem identifier_store (req : Request) (s : State) : (identifier req s).2.store = s.store := by
  rcases identifier_state req s with same | same <;> rw [same]
  rfl

/-- A request takes its identifier and changes nothing else. -/
theorem identifier_eq (req : Request) (s : State) :
    ∃ nonces, s.nonces ≤ nonces ∧ (identifier req s).2 = { s with nonces } := by
  rcases identifier_state req s with same | same
  · exact ⟨s.nonces, Nat.le_refl _, same⟩
  · exact ⟨s.nonces + 1, Nat.le_succ _, same⟩

/-- **A served request** has either written nothing, and then a post is not answered 200, or it has
written and is answered 200. -/
theorem step_conducts {s : State} {req : Request} {route : Route}
    (found : Route.ofPath? req.path = some route) {before : List Seen → State → Prop}
    {after : State → Prop}
    (keeps : (app.licence s.clock req route).Keeps app.directory before after)
    (held : before [] (identifier req s).2) :
    ∃ r ended, app.step s (.request req) = (some r, State.settle ended) ∧
      ((∃ seen, before seen ended ∧
          (req.method = "POST" → route.posts = true → r.status ≠ 200)) ∨
        route.posts = true ∧ r.status = 200 ∧ after ended) := by
  obtain ⟨r, e, served, status⟩ := app.step_request s req
  refine ⟨r, _, served, ?_⟩
  rw [worked] at status ⊢
  by_cases options : req.method = "OPTIONS"
  · simp only [options, if_true]
    exact .inl ⟨[], keeps.count e held, fun post => absurd post (by decide)⟩
  rw [if_neg options] at status ⊢
  rw [answerInTime, found, identifier_clock] at status ⊢
  by_cases late : app.timeout.nanos = 0
  · rw [if_pos late] at status ⊢
    refine .inl ⟨[], keeps.count e held, fun _ _ => ?_⟩
    rw [status]
    exact (by decide : (408 : Nat) ≠ 200)
  rw [if_neg late] at status ⊢
  rcases keeps.run (some (s.clock + app.timeout.nanos)) (app.conducts_answer s.clock req route) held
    with ⟨seen, kept, refused⟩ | ⟨inner, finished, ⟨posts, succeeded⟩, kept⟩
  · refine .inl ⟨seen, keeps.count e kept, fun _ posts => ?_⟩
    rw [status]
    dsimp only
    cases ending : (State.run app.directory (some (s.clock + app.timeout.nanos))
        (app.answer s.clock req route) (identifier req s).2).1 with
    | finished inner => exact refused inner ending posts
    | crashed c => exact (by decide : (500 : Nat) ≠ 200)
    | abandoned => exact (by decide : (408 : Nat) ≠ 200)
  · refine .inr ⟨posts, ?_, keeps.counted e kept⟩
    rw [status]
    dsimp only
    rw [finished]
    exact succeeded

end Application

end SessionAuthority

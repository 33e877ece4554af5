import SessionAuthority.Proofs.Application.Rotation
import SessionAuthority.Proofs.Booking
import SessionAuthority.Proofs.Tally

/-!
# The counters account for every change of a session

A pair is counted where it is issued, its login or refresh where it succeeds, a revocation where the
session is gone, and a rejection where a refresh or the guard refuses.  These calls stand in
different places, before and after others that may fail, crash or be cut short.

Each program books what its result says and nothing else (`Authority.books_login`,
`Authority.books_refresh`, `Authority.books_revoke`).  From there on it is bookkeeping: a request
books what its status and the decision of its guard account for (`Application.worked_fits`), a run
books what its steps do (`Application.after_accounted`), and the counters are read off
(`Application.counters_account`).
-/
set_option autoImplicit false

namespace SessionAuthority

namespace Authority

variable (a : Authority)

/-! ## What the authority books -/

theorem books_mint (now : Instant) (subject : Subject) (lifetime : Span) :
    Action.Books (fun es _ => es = []) [] (a.mint now subject lifetime) := by
  rw [mint]
  by_cases long : longestLifetime.nanos < lifetime.nanos
  · simp only [long, if_true]
    exact rfl
  by_cases late : lastDateSecond < Instant.seconds (now + lifetime.nanos)
  · simp only [long, late, if_true, if_false]
    exact rfl
  · simp only [long, late, if_false]
    refine Action.Books.ask (.inl rfl) fun nonce => ?_
    cases a.sign (tokenClaims subject nonce (now + lifetime.nanos) now) with
    | ok text => exact rfl
    | error e => exact rfl

/-- An issue that ends with a pair has counted it, and nothing else. -/
theorem books_issue (now : Instant) (subject : Subject) :
    Action.Books (fun es _ => es = [.pairIssued]) [] (a.issue now subject) := by
  rw [issue]
  refine (a.books_mint now subject _).bind ?_
  rintro _ access rfl
  refine (a.books_mint now subject _).bind ?_
  rintro _ refresh rfl
  refine Action.Books.ask (.inl rfl) fun stored => ?_
  refine (Action.books_ofStore stored).bind ?_
  rintro _ _ rfl
  exact Action.Books.ask (.inl rfl) fun _ => rfl

theorem books_checkLive (claims : Claims) (slot : Slot) :
    Action.Books (fun es _ => es = []) [] (a.checkLive claims slot) := by
  rw [checkLive]
  split
  · refine Action.Books.ask (.inl rfl) fun answer => ?_
    refine (Action.books_ofStore answer).bind ?_
    rintro _ stored rfl
    split
    · exact rfl
    · exact rfl
  · exact rfl

theorem books_authorize (p : Presented) :
    Action.Books (fun es _ => es = []) [] (a.authorize p) := by
  rw [authorize]
  split
  · exact rfl
  · refine (a.books_checkLive _ .access).bind ?_
    rintro _ _ rfl
    exact rfl

/-- A revocation that succeeds has counted itself. -/
theorem books_revoke (subject : Uuid) :
    Action.Books (fun es _ => es = [.sessionRevoked]) [] (a.revoke subject) := by
  rw [revoke]
  refine Action.Books.ask (.inl rfl) fun answer => ?_
  refine (Action.books_ofStore answer).bind ?_
  rintro _ _ rfl
  exact Action.Books.ask (.inl rfl) fun _ => rfl

theorem books_renew (now : Instant) (token : String) :
    Action.Books (fun es _ => es = [.pairIssued]) [] (a.renew now token) := by
  rw [renew]
  refine (Action.books_ofOutcome (a.identify now token)).bind ?_
  rintro _ ⟨claims, identity⟩ rfl
  refine (a.books_checkLive claims .refresh).bind ?_
  rintro _ _ rfl
  exact a.books_issue now identity.subject

/-- A login with a pair has counted both; one without has at most counted its failure. -/
theorem books_login (now : Instant) (r : LoginRequest) :
    (a.login now r).Books (fun es r => match r with
      | .ok _ => es = [.loginSucceeded, .pairIssued]
      | .error e => e.response.status ≠ 200 ∧ (es = [] ∨ ∃ why, es = [.loginFailed why])) [] := by
  rw [login]
  refine ⟨.inl rfl, fun answer => ?_⟩
  have refuse (why : LoginFailure) : (refuseLogin why).Books (fun es r => match r with
      | .ok _ => es = [.loginSucceeded, .pairIssued]
      | .error e => e.response.status ≠ 200 ∧ (es = [] ∨ ∃ why, es = [.loginFailed why])) [] :=
    ⟨.inl rfl, fun _ => ⟨(by decide : (401 : Nat) ≠ 200), .inr ⟨why, rfl⟩⟩⟩
  cases answer with
  | error e => exact ⟨(by decide : (500 : Nat) ≠ 200), .inl rfl⟩
  | ok listed =>
      cases listed with
      | none => exact refuse .unknownIdentity
      | some user =>
          show Program.Books _ []
            (if Password.verify r.password user.passwordHash then _ else _)
          split
          · refine Program.Books.bind (a.books_issue now ⟨user.id, user.email⟩) ?_
            rintro es (why | pair) ended
            · exact ⟨ofAuth_status_ne, .inl ended⟩
            · obtain rfl : es = [.pairIssued] := ended
              exact ⟨.inr ⟨_, rfl⟩, fun _ => rfl⟩
          · exact refuse .badPassword

/-- A refresh with a pair has counted both; one without has counted its failure and why. -/
theorem books_refresh (now : Instant) (r : RefreshRequest) :
    (a.refresh now r).Books (fun es r => match r with
      | .ok _ => es = [.refreshed true, .pairIssued]
      | .error e => e.response.status ≠ 200 ∧ ∃ kind, es = [.rejected kind, .refreshed false])
      [] := by
  rw [refresh]
  refine Program.Books.bind (a.books_renew now r.token) ?_
  rintro es (why | pair) ended
  · obtain rfl : es = [] := ended
    exact ⟨.inl rfl, fun _ => ⟨.inr ⟨_, rfl⟩, fun _ => ⟨ofAuth_status_ne, why.kind, rfl⟩⟩⟩
  · obtain rfl : es = [.pairIssued] := ended
    exact ⟨.inr ⟨_, rfl⟩, fun _ => rfl⟩

end Authority

/-! ## Accounts -/

/-- What is booked accounts for the requests that passed on each route, and for those that were
declined. -/
structure Accounted (es : List Event) (passed : Route → Nat) (declined : Nat) : Prop where
  pairs : es.count .pairIssued = es.count .loginSucceeded + es.count (.refreshed true)
  logins : es.count .loginSucceeded = passed .login
  refreshes : es.count (.refreshed true) = passed .refresh
  revocations : es.count .sessionRevoked = passed .logout
  rejections : es.countP Event.isRejection = es.count (.refreshed false) + declined

theorem Accounted.append {es later : List Event} {passed passed' : Route → Nat}
    {declined declined' : Nat} (first : Accounted es passed declined)
    (second : Accounted later passed' declined') :
    Accounted (later ++ es) (fun route => passed route + passed' route) (declined + declined') := by
  obtain ⟨pairs, logins, refreshes, revocations, rejections⟩ := first
  obtain ⟨pairs', logins', refreshes', revocations', rejections'⟩ := second
  constructor <;> simp only [List.count_append, List.countP_append] <;> omega

def Ending.refused {α : Type} : Ending (Except AuthError α) → Bool
  | .finished (.error _) => true
  | _ => false

namespace Application

/-! ## What one request books -/

/-- A request with a response of this status was posted to a route and answered 200. -/
def passes (req : Request) (status : Nat) (route : Route) : Bool :=
  decide (Route.ofPath? req.path = some route ∧ req.method = "POST" ∧ status = 200)

/-- What is booked fits the status of one response. -/
def Fits (req : Request) (declined : Bool) (es : List Event) (status : Nat) : Prop :=
  Accounted es (fun route => (passes req status route).toNat) declined.toNat

section Fits

variable {req : Request} {status : Nat} {route : Route}

theorem passes_of_status (refused : status ≠ 200) (route : Route) :
    passes req status route = false :=
  decide_eq_false fun passed => refused passed.2.2

/-- Nothing passes with a response of another status. -/
theorem fits_refused {declined : Bool} {es : List Event} (refused : status ≠ 200)
    (accounted : Accounted es (fun _ => 0) declined.toNat) : Fits req declined es status := by
  unfold Fits
  simp only [passes_of_status refused]
  exact accounted

theorem fits_of_status (refused : status ≠ 200) : Fits req false [] status :=
  fits_refused refused ⟨rfl, rfl, rfl, rfl, rfl⟩

/-- A post that passes does so on its own route only. -/
theorem fits_posted {es : List Event} (found : Route.ofPath? req.path = some route)
    (method : req.method = "POST")
    (accounted : Accounted es (fun other => (decide (route = other)).toNat) 0) :
    Fits req false es 200 := by
  have only (other : Route) : passes req 200 other = decide (route = other) := by
    simp [passes, found, method]
  unfold Fits
  simp only [only]
  exact accounted

/-- Where no post passes, nothing is booked. -/
theorem fits_nil (missed : ∀ route, route.posts = true → passes req status route = false) :
    Fits req false [] status := by
  constructor
  · rfl
  · rw [missed .login rfl]
    rfl
  · rw [missed .refresh rfl]
    rfl
  · rw [missed .logout rfl]
    rfl
  · rfl

/-- No post passes where nothing can be posted. -/
theorem fits_of_reading (found : Route.ofPath? req.path = some route)
    (reads : route.posts = false) (status : Nat) : Fits req false [] status := by
  apply fits_nil
  intro other posts
  apply decide_eq_false
  rintro ⟨found', -⟩
  cases found.symm.trans found'
  rw [reads] at posts
  cases posts

end Fits

def KeepsBooks (req : Request) (p : Program Response) : Prop :=
  p.Books (fun es r => Fits req false es r.status) []

section Books

variable (app : Application) {now : Instant} {req : Request} {route : Route}

/-- A route takes a method, and fits what it books then. -/
theorem books_onMethod {answer : Program Response}
    (taken : route.takes req.method = true → KeepsBooks req answer) :
    KeepsBooks req (onMethod route req answer) := by
  rw [onMethod]
  split
  · rename_i takes
    exact taken takes
  · exact fits_of_status (by decide : (405 : Nat) ≠ 200)

theorem books_onBody {α : Type} {kind : BodyKind α}
    {exchange : α → Program (Except ApiError TokenPair)}
    (exchanges : ∀ a, (exchange a).Books (fun es r => Fits req false es (exchanged r).status) []) :
    KeepsBooks req (onBody kind req exchange) := by
  rw [onBody]
  cases accepted : kind.accept req.headers req.body with
  | error e => exact fits_of_status (BodyKind.accept_status_ne accepted)
  | ok a => exact (exchanges a).bind fun es r fits => fits

theorem books_present {f : Presented → Program Response} {ends : List Event → Response → Prop}
    (rest : ∀ p, (f p).Books ends []) :
    (app.authority.present now req.headers >>= f).Books ends [] := by
  rcases app.authority.present_cases now req.headers with ⟨p, presented⟩ | ⟨c, crashed⟩
  · rw [presented]
    exact rest p
  · rw [crashed]
    exact rfl

theorem posted_of_takes (posts : route.posts = true) (takes : route.takes req.method = true) :
    req.method = "POST" := by
  rw [Route.takes, if_pos posts] at takes
  exact beq_iff_eq.1 takes

theorem books_loginRoute (found : Route.ofPath? req.path = some .login) :
    KeepsBooks req (app.answer now req .login) := by
  refine app.books_present fun _ => books_onMethod fun takes => books_onBody fun r => ?_
  refine (app.authority.books_login now r).mono fun es result ended => ?_
  have method := posted_of_takes rfl takes
  cases result with
  | ok pair =>
      subst ended
      apply fits_posted found method
      constructor <;> decide
  | error e =>
      obtain ⟨refused, rfl | ⟨why, rfl⟩⟩ := ended
      · exact fits_of_status refused
      · exact fits_refused refused ⟨rfl, rfl, rfl, rfl, rfl⟩

theorem books_refreshRoute (found : Route.ofPath? req.path = some .refresh) :
    KeepsBooks req (app.answer now req .refresh) := by
  refine app.books_present fun _ => books_onMethod fun takes => books_onBody fun r => ?_
  refine (app.authority.books_refresh now r).mono fun es result ended => ?_
  have method := posted_of_takes rfl takes
  cases result with
  | ok pair =>
      subst ended
      apply fits_posted found method
      constructor <;> decide
  | error e =>
      obtain ⟨refused, kind, rfl⟩ := ended
      exact fits_refused refused ⟨rfl, rfl, rfl, rfl, rfl⟩

theorem books_logout (found : Route.ofPath? req.path = some .logout) (identity : Identity) :
    KeepsBooks req (onMethod .logout req (app.logout identity)) := by
  refine books_onMethod fun takes => ?_
  have method := posted_of_takes rfl takes
  rw [logout]
  refine Program.Books.bind (app.authority.books_revoke identity.id) fun es r ended => ?_
  cases r with
  | error why =>
      obtain rfl : es = [] := ended
      exact fits_of_status Authority.ofAuth_status_ne
  | ok done =>
      obtain rfl : es = [.sessionRevoked] := ended
      apply fits_posted found method
      constructor <;> decide

theorem books_profile (found : Route.ofPath? req.path = some .profile) (identity : Identity) :
    KeepsBooks req (onMethod .profile req (profile identity)) :=
  books_onMethod fun _ => ⟨.inl rfl, fun _ => fits_of_reading found rfl 200⟩

/-- A guarded route answers through the guard, and what stands behind it fits what it books. -/
theorem books_guarded (found : Route.ofPath? req.path = some route)
    (guarded : route.guarded = true) :
    ∃ inside : Identity → Program Response,
      (∀ identity, KeepsBooks req (inside identity)) ∧
        ∀ now, app.answer now req route =
          (app.authority.present now req.headers >>= fun p => app.authority.guard p inside) := by
  cases route with
  | logout => exact ⟨_, app.books_logout found, fun _ => rfl⟩
  | profile => exact ⟨_, books_profile found, fun _ => rfl⟩
  | _ => cases guarded

/-- What is answered without a guard fits what is booked. -/
theorem books_unguarded (found : Route.ofPath? req.path = some route)
    (unguarded : route.guarded = false) :
    KeepsBooks req (app.answer now req route) := by
  cases route with
  | health => exact books_onMethod fun _ => fits_of_reading found rfl 200
  | document => exact books_onMethod fun _ => fits_of_reading found rfl 200
  | metrics =>
      refine books_onMethod fun _ => ?_
      rw [metrics]
      split
      · exact ⟨.inl rfl, fun _ => fits_of_reading found rfl 200⟩
      · exact fits_of_reading found rfl 404
  | login => exact app.books_loginRoute found
  | refresh => exact app.books_refreshRoute found
  | status =>
      exact app.books_present fun _ => books_onMethod fun _ => fits_of_reading found rfl 200
  | logout => cases unguarded
  | profile => cases unguarded

end Books

/-! ## Runs -/

section Runs

variable (app : Application) {req : Request} {directory : Directory} {deadline : Option Instant}

/-- A run books what its ending accounts for, which is nothing if it has no response. -/
theorem run_fits {p : Program Response} (books : KeepsBooks req p) (s : State) :
    ∃ es, (s.run directory deadline p).2.booked = es ++ s.booked ∧
      Fits req false es (s.run directory deadline p).1.status := by
  rcases State.run_books directory deadline books (s := s) (List.nil_append _).symm with
    ⟨r, t, es, ran, fits, booked⟩ | ⟨ending, t, ran, unfinished, booked⟩
  · rw [ran]
    exact ⟨es, booked, fits⟩
  · rw [ran]
    refine ⟨[], booked, fits_of_status ?_⟩
    cases ending with
    | finished r => exact absurd rfl (unfinished r)
    | crashed c => exact (by decide : (500 : Nat) ≠ 200)
    | abandoned => exact (by decide : (408 : Nat) ≠ 200)

/-- The guard books a rejection just if nobody is authorized. -/
theorem guard_fits {p : Presented} {answer : Identity → Program Response}
    (passed : ∀ identity, KeepsBooks req (answer identity)) (s : State) :
    ∃ es, (s.run directory deadline (app.authority.guard p answer)).2.booked = es ++ s.booked ∧
      Fits req (s.run directory deadline (app.authority.authorize p).run).1.refused es
        (s.run directory deadline (app.authority.guard p answer)).1.status := by
  rw [Authority.guard, State.run_bind]
  rcases State.run_books directory deadline (app.authority.books_authorize p) (s := s)
      (List.nil_append _).symm with
    ⟨r, t, es, ran, ended, booked⟩ | ⟨ending, t, ran, unfinished, booked⟩
  · obtain rfl : es = [] := by cases r <;> exact ended
    rw [ran, Ending.andThen_finished]
    cases r with
    | error why =>
        refine ⟨[.rejected why.kind], congrArg (_ :: ·) booked, ?_⟩
        exact fits_refused Authority.ofAuth_status_ne ⟨rfl, rfl, rfl, rfl, rfl⟩
    | ok identity =>
        have books : KeepsBooks req (do
            app.authority.detachProlong identity.id
            answer identity) := ⟨.inl rfl, fun _ => passed identity⟩
        rw [← List.nil_append s.booked, ← booked]
        exact run_fits books t
  · rw [ran]
    cases ending with
    | finished r => exact absurd rfl (unfinished r)
    | crashed c => exact ⟨[], booked, fits_of_status (by decide : (500 : Nat) ≠ 200)⟩
    | abandoned => exact ⟨[], booked, fits_of_status (by decide : (408 : Nat) ≠ 200)⟩

/-- The guard is asked whether a request may go on, and refuses it. -/
def declines (req : Request) (begun : State) : Bool :=
  match Route.ofPath? req.path, app.authority.present begun.clock req.headers with
  | some route, .done p =>
      route.guarded && req.method != "OPTIONS" && app.timeout.nanos != 0 &&
        (begun.run app.directory (some (begun.clock + app.timeout.nanos))
          (app.authority.authorize p).run).1.refused
  | _, _ => false

theorem declines_of_guarded {route : Route} {p : Presented} {begun : State}
    (found : Route.ofPath? req.path = some route) (guarded : route.guarded = true)
    (presented : app.authority.present begun.clock req.headers = .done p)
    (works : req.method ≠ "OPTIONS") (time : app.timeout.nanos ≠ 0) :
    app.declines req begun = (begun.run app.directory (some (begun.clock + app.timeout.nanos))
      (app.authority.authorize p).run).1.refused := by
  simp [declines, found, presented, guarded, works, time]

/-- The guard is asked only where there is one, for a request that shows something and has time. -/
theorem declines_inversion {begun : State} (refused : app.declines req begun = true) :
    ∃ route p, Route.ofPath? req.path = some route ∧ route.guarded = true ∧
      app.authority.present begun.clock req.headers = .done p ∧ req.method ≠ "OPTIONS" ∧
      app.timeout.nanos ≠ 0 := by
  rw [declines] at refused
  split at refused
  · rename_i route p found presented
    simp only [Bool.and_eq_true, bne_iff_ne] at refused
    obtain ⟨⟨⟨guarded, works⟩, time⟩, -⟩ := refused
    exact ⟨route, p, found, guarded, presented, works, time⟩
  · cases refused

/-- A request to a guarded route books what its guard decides. -/
theorem guarded_fits {route : Route} {begun : State}
    (found : Route.ofPath? req.path = some route) (guarded : route.guarded = true)
    (works : req.method ≠ "OPTIONS") (time : app.timeout.nanos ≠ 0) :
    let worked := begun.run app.directory (some (begun.clock + app.timeout.nanos))
      (app.answer begun.clock req route)
    ∃ es, worked.2.booked = es ++ begun.booked ∧
      Fits req (app.declines req begun) es worked.1.status := by
  obtain ⟨inside, books, answers⟩ := app.books_guarded found guarded
  rw [answers]
  rcases app.authority.present_cases begun.clock req.headers with ⟨p, presented⟩ | ⟨c, crashed⟩
  · rw [app.declines_of_guarded found guarded presented works time, presented]
    exact app.guard_fits books begun
  · have declined : app.declines req begun = false := by
      rw [Bool.eq_false_iff]
      intro refused
      obtain ⟨_, p, -, -, presented, -⟩ := app.declines_inversion refused
      cases crashed.symm.trans presented
    rw [declined, crashed]
    exact ⟨[], rfl, fits_of_status (by decide : (500 : Nat) ≠ 200)⟩

/-- **What a request books** accounts for its status and for what its guard decided. -/
theorem worked_fits (req : Request) (begun : State) :
    ∃ es, (app.worked req begun).2.booked = es ++ begun.booked ∧
      Fits req (app.declines req begun) es (app.worked req begun).1.status := by
  -- unless the guard is asked, nobody is declined
  have undeclined (unasked : ∀ route, Route.ofPath? req.path = some route →
      route.guarded = true → req.method ≠ "OPTIONS" → app.timeout.nanos = 0) :
      app.declines req begun = false := by
    rw [Bool.eq_false_iff]
    intro refused
    obtain ⟨route, p, found, guarded, -, works, time⟩ := app.declines_inversion refused
    exact time (unasked route found guarded works)
  rw [worked]
  by_cases options : req.method = "OPTIONS"
  · rw [if_pos options, undeclined fun _ _ _ works => absurd options works]
    refine ⟨[], rfl, fits_nil fun route _ => decide_eq_false ?_⟩
    rintro ⟨-, post, -⟩
    rw [options] at post
    exact absurd post (by decide)
  rw [if_neg options, answerInTime]
  by_cases late : app.timeout.nanos = 0
  · rw [if_pos late, undeclined fun _ _ _ _ => late]
    exact ⟨[], rfl, fits_of_status (by decide : (408 : Nat) ≠ 200)⟩
  rw [if_neg late]
  cases found : Route.ofPath? req.path with
  | none =>
      have unknown : ∀ other, Route.ofPath? req.path ≠ some other := by
        intro other here
        rw [found] at here
        cases here
      rw [undeclined fun route here => absurd here (unknown route)]
      exact ⟨[], rfl, fits_of_status (by decide : (404 : Nat) ≠ 200)⟩
  | some route =>
      cases guarded : route.guarded with
      | true => exact app.guarded_fits found guarded options late
      | false =>
          have unasked : ∀ other, Route.ofPath? req.path = some other →
              other.guarded = true → req.method ≠ "OPTIONS" → app.timeout.nanos = 0 := by
            intro other here guarded'
            cases found.symm.trans here
            rw [guarded] at guarded'
            cases guarded'
          rw [undeclined unasked]
          exact run_fits (app.books_unguarded found guarded) begun

end Runs

/-! ## The account of a run -/

def occurrences (app : Application) (happens : State → Step → Bool) : State → List Step → Nat
  | _, [] => 0
  | s, step :: later =>
      (happens s step).toNat + app.occurrences happens (app.step s step).2 later

def passed (app : Application) (route : Route) (s : State) : Step → Bool
  | .request req => (app.step s (.request req)).1.any fun r => passes req r.status route
  | _ => false

def declined (app : Application) (s : State) : Step → Bool
  | .request req => app.declines req (identifier req s).2
  | _ => false

variable (app : Application)

theorem step_booked (s : State) (req : Request) :
    (app.step s (.request req)).2.booked = (app.worked req (identifier req s).2).2.booked := by
  show State.booked (State.settle (app.serve req s).2) = _
  rw [State.booked_settle, worked]
  split
  · rename_i options
    rw [app.serve_of_options options]
    exact State.booked_count _ _
  · rename_i works
    rw [app.serve_of_work works]
    exact State.booked_count _ _

/-- **A step books what happens in it.** -/
theorem step_accounted (s : State) (step : Step) :
    ∃ es, (app.step s step).2.booked = es ++ s.booked ∧
      Accounted es (fun route => (app.passed route s step).toNat) (app.declined s step).toNat := by
  cases step with
  | request req =>
      obtain ⟨r, e, served, status⟩ := app.step_request s req
      obtain ⟨es, booked, fits⟩ := app.worked_fits req (identifier req s).2
      have begun : (identifier req s).2.booked = s.booked := by
        obtain ⟨nonces, -, same⟩ := identifier_eq req s
        rw [same]
        rfl
      rw [begun] at booked
      refine ⟨es, (app.step_booked s req).trans booked, ?_⟩
      simp only [passed, declined, served, Option.any_some, status]
      exact fits
  | advance span =>
      exact ⟨[], State.booked_settle _, ⟨rfl, rfl, rfl, rfl, rfl⟩⟩
  | misbehave faults =>
      exact ⟨[], State.booked_settle _, ⟨rfl, rfl, rfl, rfl, rfl⟩⟩

/-- **A run books what happens in its steps.** -/
theorem after_accounted (s : State) (steps : List Step) :
    ∃ es, (app.after s steps).booked = es ++ s.booked ∧
      Accounted es (fun route => app.occurrences (app.passed route) s steps)
        (app.occurrences app.declined s steps) := by
  induction steps generalizing s with
  | nil => exact ⟨[], rfl, ⟨rfl, rfl, rfl, rfl, rfl⟩⟩
  | cons step later ih =>
      obtain ⟨es, booked, accounted⟩ := app.step_accounted s step
      obtain ⟨es', booked', accounted'⟩ := ih (app.step s step).2
      refine ⟨es' ++ es, ?_, accounted.append accounted'⟩
      rw [after_cons, booked', booked, List.append_assoc]

/-- **The counters account for every change of a session.**  In every run of a fresh service, after
each of its steps: as many pairs were issued as logins and refreshes succeeded, these are the logins
and the refreshes that were answered 200, as many sessions were revoked as logouts were answered
200, and the rejections of all kinds are the refreshes that failed and the requests that the guard
refused. -/
theorem counters_account (clock : Instant) (supply : Nat → Uuid) (steps : List Step) :
    let start : State := { clock, supply }
    let tally := (app.after start steps).tally
    let logins := tally.value (sampleName "auth_logins_total" [("status", statusLabel true)])
    let refreshes (succeeded : Bool) :=
      tally.value (sampleName "auth_refreshes_total" [("status", statusLabel succeeded)])
    tally.value (sampleName "auth_token_pairs_issued_total" []) = logins + refreshes true ∧
      logins = app.occurrences (app.passed .login) start steps ∧
      refreshes true = app.occurrences (app.passed .refresh) start steps ∧
      tally.value (sampleName "auth_sessions_revoked_total" []) =
        app.occurrences (app.passed .logout) start steps ∧
      tally.ofMetric "auth_rejections_total" =
        refreshes false + app.occurrences app.declined start steps := by
  intro start tally logins refreshes
  obtain ⟨es, booked, accounted⟩ := app.after_accounted start steps
  have all : tally.filter Event.isBooked = es := by
    rw [← List.append_nil es]
    exact booked
  have counted {e : Event} (own : e.isBooked = true) : es.count e = tally.count e := by
    rw [← all, List.count_filter own]
  have rejections : es.countP Event.isRejection = tally.countP Event.isRejection := by
    rw [← all, List.countP_filter]
    congr 1
    funext e
    cases e <;> rfl
  have refreshes_eq (succeeded : Bool) : refreshes succeeded = es.count (.refreshed succeeded) :=
    (tally.value_refreshes succeeded).trans (counted rfl).symm
  have logins_eq : logins = es.count .loginSucceeded :=
    tally.value_logins.trans (counted rfl).symm
  rw [tally.value_pairs, tally.value_revocations, tally.ofMetric_rejections, ← counted rfl,
    ← counted rfl, ← rejections, refreshes_eq, refreshes_eq, logins_eq]
  exact ⟨accounted.pairs, accounted.logins, accounted.refreshes, accounted.revocations,
    accounted.rejections⟩

/-- Who asks for the profile without a token is declined, who asks what is allowed there is not. -/
example :
    let app : Application :=
      ⟨⟨⟨.hs256, .secret .sha256, some [0x6B], some [0x6B], 30⟩, "",
        ⟨.ofSeconds 60, .ofSeconds 600, .ofSeconds 60⟩⟩, .empty, .ofSeconds 1, [], false⟩
    app.occurrences app.declined { clock := 0 }
      [.request ⟨"OPTIONS", "/api/users/me", [], []⟩,
        .request ⟨"GET", "/api/users/me", [], []⟩] = 1 := by
  decide +kernel

end Application

end SessionAuthority

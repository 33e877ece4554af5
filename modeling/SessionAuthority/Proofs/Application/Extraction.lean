import SessionAuthority.Proofs.Application.Calm
import SessionAuthority.Proofs.Application.Rotation
import SessionAuthority.Proofs.Watching

/-!
# Looking at a token decides nothing

On the routes of the interface every request has its token looked at before anything else.  As long
as the skew does not reach beyond the clock that stage ends for every request, whatever the codec
is, and it ends with what the credentials show (`Authority.present_eq_shown`).  So it can only
matter where the result is used:

* two requests for a pair that agree but for their credentials make the very same step;
* what a client is told of its own token is a function of the codec, the instant and the credentials
  (`statusBody`), and nothing is done to the sessions for it.

`extraction_undecisive` says both of every state that a service can come into.
-/
set_option autoImplicit false

namespace SessionAuthority

/-! ## Credentials among the headers -/

namespace Headers

def credentialNames : List String := ["authorization", "cookie"]

def credentials (h : Headers) : Headers := h.filter fun field => credentialNames.contains field.1

def withoutCredentials (h : Headers) : Headers :=
  h.filter fun field => !credentialNames.contains field.1

theorem first?_filter (h : Headers) {keep : String → Bool} {name : String}
    (kept : keep name = true) :
    first? (h.filter fun field => keep field.1) name = h.first? name := by
  unfold first?
  induction h with
  | nil => rfl
  | cons field rest ih =>
      obtain ⟨other, value⟩ := field
      by_cases same : name = other
      · subst same
        rw [List.filter_cons_of_pos (by exact kept), List.lookup_cons_self, List.lookup_cons_self]
      · have differs : (name == other) = false := by simpa using same
        rw [List.lookup_cons, differs, ← ih, List.filter_cons]
        split
        · rw [List.lookup_cons, differs]
        · rfl

theorem all_filter (h : Headers) {keep : String → Bool} {name : String} (kept : keep name = true) :
    all (h.filter fun field => keep field.1) name = h.all name := by
  unfold all
  rw [List.filter_filter]
  congr 2
  funext field
  by_cases same : field.1 = name
  · simp [same, kept]
  · simp [same]

end Headers

/-- A token is found by the credentials alone. -/
theorem Credential.token?_credentials (h : Headers) : token? h.credentials = token? h := by
  unfold token? Headers.credentials
  rw [Headers.first?_filter h (by decide), Headers.all_filter h (by decide)]

/-! ## The stage ends -/

/-- Up to the clock the skew lets every codec answer, also one without a key. -/
theorem Codec.decode_ne_crashed {c : Codec} {now : Nat} (clock : c.skew ≤ now) (token : String)
    (crash : Crash) : c.decode now token ≠ .crashed crash := by
  cases held : c.verifying with
  | none => simp [decode, held]
  | some key =>
      rcases decode_total held clock token with ⟨claims, answered⟩ | ⟨why, refused, -⟩
      · rw [answered]
        intro same
        cases same
      · rw [refused]
        intro same
        cases same

/-- What credentials show to a codec at an instant, if reading them does not crash. -/
def Codec.shown (c : Codec) (now : Instant) (credentials : Headers) : Presented :=
  match Credential.token? credentials with
  | none => .missing
  | some token =>
      match c.decode now.seconds token with
      | .ok claims => .verified claims
      | .refused why => .rejected why
      | .crashed _ => .missing

/-- **The stage ends for every request**, with what its credentials show. -/
theorem Authority.present_eq_shown (a : Authority) {now : Instant}
    (clock : a.codec.skew ≤ now.seconds) (headers : Headers) :
    a.present now headers = .done (a.codec.shown now headers.credentials) := by
  unfold present parse Codec.shown
  rw [Credential.token?_credentials]
  cases Credential.token? headers with
  | none => rfl
  | some token =>
      dsimp only
      cases decoded : a.codec.decode now.seconds token with
      | ok claims => rfl
      | refused why => rfl
      | crashed crash => exact absurd decoded (Codec.decode_ne_crashed clock token crash)

/-- What a client is told of its own token, from the codec, the instant and the credentials. -/
def statusBody (c : Codec) (now : Instant) (credentials : Headers) : Bytes :=
  Json.render (c.shown now credentials).status.toJson

/-! ## Requests that differ in their credentials -/

/-- Two requests are the same but for their credentials, of which either may have any. -/
structure Request.AgreesBut (req req' : Request) : Prop where
  method : req.method = req'.method
  target : req.target = req'.target
  body : req.body = req'.body
  others : req.headers.withoutCredentials = req'.headers.withoutCredentials

namespace Request.AgreesBut

variable {req req' : Request} (agrees : req.AgreesBut req')

include agrees

theorem path : req.path = req'.path := by
  rw [Request.path, Request.path, agrees.target]

/-- Any other header has the same first value in both. -/
theorem first? {name : String} (other : Headers.credentialNames.contains name = false) :
    req.headers.first? name = req'.headers.first? name := by
  let keep (name : String) : Bool := !Headers.credentialNames.contains name
  have kept : keep name = true := by simp only [keep, other, Bool.not_false]
  have left := Headers.first?_filter req.headers kept
  have right := Headers.first?_filter req'.headers kept
  exact left.symm.trans ((congrArg (·.first? name) agrees.others).trans right)

theorem saysJson : req.headers.saysJson = req'.headers.saysJson := by
  rw [Headers.saysJson, Headers.saysJson, agrees.first? (by decide)]

theorem accept {α : Type} (kind : BodyKind α) :
    kind.accept req.headers req.body = kind.accept req'.headers req'.body := by
  unfold BodyKind.accept BodyKind.read
  rw [agrees.saysJson, agrees.body]

theorem share (allowed : List Bytes) (r : Response) :
    Origin.share allowed req.headers r = Origin.share allowed req'.headers r := by
  unfold Origin.share Origin.fields Origin.granted?
  rw [agrees.first? (by decide)]

theorem identifier (s : State) :
    Application.identifier req s = Application.identifier req' s := by
  unfold Application.identifier
  rw [agrees.first? (by decide)]

theorem framed (r : Response) : Application.framed req r = Application.framed req' r := by
  unfold Application.framed
  rw [agrees.path, agrees.method]

theorem responseTo (app : Application) (ending : Ending Response) :
    app.responseTo req ending = app.responseTo req' ending := by
  cases ending with
  | finished r => exact agrees.share app.origins r
  | abandoned => exact agrees.share app.origins _
  | crashed c => rfl

theorem onBody {α : Type} (kind : BodyKind α)
    (exchange : α → Program (Except ApiError TokenPair)) :
    Application.onBody kind req exchange = Application.onBody kind req' exchange := by
  rw [Application.onBody, Application.onBody, agrees.accept]

theorem onMethod (route : Route) (answer : Program Response) :
    Application.onMethod route req answer = Application.onMethod route req' answer := by
  rw [Application.onMethod, Application.onMethod, agrees.method]

/-- Requests whose work is the same make the same step. -/
theorem step (app : Application) {s : State}
    (worked : app.answerInTime req (Application.identifier req s).2 =
      app.answerInTime req' (Application.identifier req s).2) :
    app.step s (.request req) = app.step s (.request req') := by
  unfold Application.step Application.serve Origin.preflight
  dsimp only
  rw [worked, agrees.identifier, agrees.method, agrees.path]
  simp only [agrees.share, agrees.responseTo, agrees.framed]

end Request.AgreesBut

/-! ## Nothing is left to do -/

namespace State

/-- No prolongation has yet to call, and none that waits is due. -/
structure AtRest (s : State) : Prop where
  ready : s.ready = []
  waiting : ∀ w ∈ s.waiting, s.clock < w.1

theorem AtRest.settle_eq {s : State} (rest : s.AtRest) : s.settle = s := by
  have early (w : Instant × Prolongation) (member : w ∈ s.waiting) : ¬ w.1 ≤ s.clock :=
    Nat.not_le.2 (rest.waiting w member)
  have due : s.due (fun wake => decide (wake ≤ s.clock)) = [] := by
    rw [due, List.filter_eq_nil_iff.2 (by simpa using early), List.mergeSort_nil]
  have kept : s.withoutDue (fun wake => decide (wake ≤ s.clock)) = s := by
    rw [withoutDue, List.filter_eq_self.2 (by simpa using early)]
  rw [settle, startReady_of_nil rest.ready, due, kept, List.foldl_nil]

/-- Whatever was pending, nothing is left to do afterwards. -/
theorem atRest_settle (s : State) : s.settle.AtRest := by
  let now (wake : Instant) : Bool := decide (wake ≤ s.startReady.clock)
  obtain ⟨waiting, clock⟩ := s.settle_induction
    (motive := fun t : State => t.waiting = (s.startReady.withoutDue now).waiting ∧
      t.clock = s.startReady.clock) ⟨rfl, rfl⟩ fun t w _ same => by
      obtain ⟨store, tally, prolonged, -⟩ := t.prolong_eq w.2
      rw [prolonged]
      exact same
  refine ⟨s.settle_ready, fun w member => ?_⟩
  rw [waiting] at member
  have late : now w.1 = false := by simpa using (List.mem_filter.1 member).2
  rw [clock]
  exact Nat.not_le.1 (of_decide_eq_false late)

end State

namespace Application

variable (app : Application)

theorem atRest_after {s : State} (rest : s.AtRest) (steps : List Step) :
    (app.after s steps).AtRest := by
  induction steps generalizing s with
  | nil => exact rest
  | cons step later ih =>
      rw [after_cons]
      apply ih
      cases step <;> exact State.atRest_settle _

/-! ## The stage decides nothing -/

/-- Where the result of the stage is not used, it is as if it were not there. -/
theorem present_unused {now : Instant} (clock : app.authority.codec.skew ≤ now.seconds)
    (headers : Headers) (answer : Program Response) :
    (app.authority.present now headers >>= fun _ => answer) = answer := by
  rw [app.authority.present_eq_shown clock]
  rfl

/-- What a request for a pair is answered has nothing to do with its credentials. -/
theorem answer_agrees {req req' : Request} (agrees : req.AgreesBut req') {now : Instant}
    (clock : app.authority.codec.skew ≤ now.seconds) {route : Route}
    (exchanges : route = .login ∨ route = .refresh) :
    app.answer now req route = app.answer now req' route := by
  rcases exchanges with rfl | rfl
  · unfold answer
    dsimp only
    rw [app.present_unused clock, app.present_unused clock, agrees.onBody, agrees.onMethod]
  · unfold answer
    dsimp only
    rw [app.present_unused clock, app.present_unused clock, agrees.onBody, agrees.onMethod]

/-- A client that asks for its status is told of its token, and nothing is left over. -/
theorem answerInTime_status {s : State} {req : Request} (time : app.timeout.nanos ≠ 0)
    (clock : app.authority.codec.skew ≤ s.clock.seconds) (method : req.method = "GET")
    (path : req.path = "/api/auth/session") :
    app.answerInTime req s = (.finished (.json 200
      (app.authority.codec.shown s.clock req.headers.credentials).status.toJson), s) := by
  have found : Route.ofPath? req.path = some .status := by rw [path]; decide
  have takes : Route.status.takes req.method = true := by rw [method]; decide
  have answers : app.answer s.clock req .status =
      (app.authority.present s.clock req.headers >>= fun p =>
        onMethod .status req (pure (.json 200 p.status.toJson))) := rfl
  rw [answerInTime, if_neg time, found]
  dsimp only
  rw [answers, app.authority.present_eq_shown clock]
  show s.run _ _ (onMethod _ _ _) = _
  rw [onMethod, if_pos takes]
  rfl

/-- **Looking at a token decides nothing**, in any state that a service can come into and that the
skew does not reach beyond.  A request for a pair has the same response and the same consequences
with any other credentials.  A request for the status is answered 200, with a body that depends on
the codec, the instant and the credentials alone, and leaves the store as it is. -/
theorem extraction_undecisive {start : State} (rest : start.AtRest) (steps : List Step)
    (time : app.timeout.nanos ≠ 0)
    (clock : app.authority.codec.skew ≤ (app.after start steps).clock.seconds) :
    let s := app.after start steps
    (∀ req req' : Request, req.AgreesBut req' →
      req.path = "/api/auth/login" ∨ req.path = "/api/auth/refresh" →
      app.step s (.request req) = app.step s (.request req')) ∧
    ∀ req : Request, req.method = "GET" → req.path = "/api/auth/session" →
      ∃ response after, app.step s (.request req) = (some response, after) ∧
        response.status = 200 ∧
        response.body = statusBody app.authority.codec s.clock req.headers.credentials ∧
        after.store = s.store := by
  intro s
  have rest : s.AtRest := app.atRest_after rest steps
  refine ⟨fun req req' agrees path => ?_, fun req method path => ?_⟩
  · apply agrees.step app
    obtain ⟨route, found, exchanges⟩ : ∃ route, Route.ofPath? req.path = some route ∧
        (route = .login ∨ route = .refresh) := by
      rcases path with path | path
      · exact ⟨.login, by rw [path]; decide, .inl rfl⟩
      · exact ⟨.refresh, by rw [path]; decide, .inr rfl⟩
    rw [answerInTime, answerInTime, ← agrees.path, found]
    dsimp only
    rw [identifier_clock, app.answer_agrees agrees clock exchanges]
  · have begun : (identifier req s).2.clock = s.clock := identifier_clock req s
    have worked := app.answerInTime_status (s := (identifier req s).2) time
      (by rw [begun]; exact clock) method path
    obtain ⟨response, e, stepped, status, body⟩ := app.step_of_finished
      (by rw [method]; decide) (by rw [method]; decide) worked
    refine ⟨response, _, stepped, status, ?_, ?_⟩
    · rw [body, begun]
      rfl
    · obtain ⟨nonces, -, same⟩ := identifier_eq req s
      have idle : (State.count (identifier req s).2 e).AtRest := by
        rw [same]
        exact ⟨rest.ready, rest.waiting⟩
      rw [idle.settle_eq, same]
      rfl

/-- A user with a session logs in again and is answered 200 without credentials; the login is the
very same step with garbage in both places where a token is looked for, and the status with that
garbage is told and leaves the session where it is. -/
theorem extraction_undecisive_garbage :
    let hash := (Password.hashed 4 (List.replicate 16 0) "correct horse").text
    let user : User := ⟨.ofNat 7, "ada@example.org", "Ada", hash⟩
    let app : Application :=
      ⟨⟨⟨.hs256, .secret .sha256, some [0x6B], some [0x6B], 30⟩, "",
        ⟨.ofSeconds 60, .ofSeconds 600, .ofSeconds 60⟩⟩, ⟨[("ada@example.org", user)]⟩,
        .ofSeconds 1, [], false⟩
    let session : Entry := ⟨(SessionRecord.mk "first" "second").render, 1800000000000000000⟩
    let s : State :=
      { clock := 1700000000000000000, store := Store.empty.put (sessionKey "" user.id) session }
    let json : Headers := [("content-type", Bytes.ofString "application/json")]
    let garbage : Headers := [("authorization", Bytes.ofString "Bearer x.y.z"),
      ("cookie", Bytes.ofString "jwt=not a token")]
    let login (headers : Headers) : Request := ⟨"POST", "/api/auth/login", headers,
      Bytes.ofString
        "\x7b\"email\":\"ada@example.org\",\"password\":\"correct horse\"\x7d"⟩
    (∃ response after, app.step s (.request (login json)) = (some response, after) ∧
      response.status = 200 ∧
      app.step s (.request (login (json ++ garbage))) = (some response, after)) ∧
    ∃ response after,
      app.step s (.request ⟨"GET", "/api/auth/session", garbage, []⟩) = (some response, after) ∧
      response.status = 200 ∧ after.store.entry? (sessionKey "" user.id) = some session := by
  intro hash user app session s json garbage login
  have rest : s.AtRest := ⟨rfl, fun w member => absurd member List.not_mem_nil⟩
  have clock : app.authority.codec.skew ≤ s.clock.seconds := by decide
  obtain ⟨exchanges, asks⟩ := app.extraction_undecisive rest [] (by decide) clock
  have accepted : LoginRequest.kind.accept json (login json).body =
      .ok ⟨"ada@example.org", "correct horse"⟩ := by decide +kernel
  have issues : app.authority.Issues s.clock :=
    ⟨fun claims => ⟨_, Codec.encode_eq rfl rfl claims⟩, ⟨by decide, by decide⟩,
      ⟨by decide, by decide⟩, by decide, by decide⟩
  have path : Route.ofPath? (login json).path = some .login := by decide
  have listed : app.directory.find? "ada@example.org" = some user :=
    Directory.find?_single (by decide +kernel) user
  have known : Password.verify "correct horse" user.passwordHash = true :=
    Password.verify_hashed (by decide) (by decide) _
  obtain ⟨response, tally, passed, served⟩ := app.step_login (s := s) path rfl accepted
    ⟨_, app.authority.present_eq_shown clock json⟩ listed known issues (by decide) rfl
    (State.not_pending_of_nil rfl rfl)
  have agrees : (login json).AgreesBut (login (json ++ garbage)) := ⟨rfl, rfl, rfl, by decide⟩
  obtain ⟨told, after, asked, answered, -, kept⟩ :=
    asks ⟨"GET", "/api/auth/session", garbage, []⟩ rfl (by decide)
  refine ⟨⟨response, _, served, passed, ?_⟩, told, after, asked, answered, ?_⟩
  · rw [← served]
    exact (exchanges _ _ agrees (.inl (by decide))).symm
  · rw [kept]
    exact (Store.entry?_put _ _ _ _).trans (if_pos rfl)

end Application

end SessionAuthority

import SessionAuthority.Proofs.Application.Extraction
import SessionAuthority.Proofs.Password

/-!
# Refused logins cannot be told apart

Whether a user is listed cannot be found out by trying to log in.  A login fails for one of two
reasons (`Unrecognised`): the identity is not listed, or what is stored for it does not hold the
password, be it the hash of another one or no hash at all.  In both cases the program comes to the
same end, which is a function of the request and the clock in which no directory occurs
(`refusedEnding`).  So two services that differ in their directory alone give the same response, to
the last header, and do nothing to the sessions (`refusals_alike`).  Only what they count differs.
-/
set_option autoImplicit false

namespace SessionAuthority

/-! ## Why a login fails -/

/-- A stored text does not hold the password: it is no hash, or the hash of another password. -/
def Password.Foreign (password stored : String) : Prop :=
  ∀ h, Hash.parse? stored = some h →
    (Digest.Blowfish.digest h.cost (significant password) h.salt).take 23 ≠ h.digest

theorem Password.verify_of_foreign {password stored : String} (foreign : Foreign password stored) :
    verify password stored = false := by
  unfold verify
  cases parsed : Hash.parse? stored with
  | none => rfl
  | some h => exact beq_eq_false_iff_ne.2 (foreign h parsed)

/-- A text that is no hash holds no password. -/
theorem Password.foreign_of_unparsed {stored : String} (unparsed : Hash.parse? stored = none)
    (password : String) : Foreign password stored := by
  intro h parsed
  rw [unparsed] at parsed
  cases parsed

/-- The hash of another password holds this one not. -/
theorem Password.foreign_of_digest {h : Hash} (proper : h.Proper) {password : String}
    (differs : (Digest.Blowfish.digest h.cost (significant password) h.salt).take 23 ≠ h.digest) :
    Foreign password h.text := by
  intro other parsed
  rw [Hash.parse?_text proper] at parsed
  cases parsed
  exact differs

inductive Directory.Unrecognised (d : Directory) (r : LoginRequest) : LoginFailure → Prop where
  | unlisted (absent : d.find? r.email = none) : Unrecognised d r .unknownIdentity
  | foreign {user : User} (listed : d.find? r.email = some user)
      (foreign : Password.Foreign r.password user.passwordHash) : Unrecognised d r .badPassword

/-- Who is not recognised is refused, and the reason is counted. -/
theorem Authority.run_login_of_unrecognised (a : Authority) {directory : Directory}
    {r : LoginRequest} {why : LoginFailure} (unrecognised : directory.Unrecognised r why)
    (deadline : Option Instant) {s : State} (working : s.faults.lookup = .none) (now : Instant) :
    s.run directory deadline (a.login now r) =
      (.finished (.error invalidCredentials), s.count (.loginFailed why)) := by
  have asked := State.answer_lookup_of_working directory deadline working r.email
  rw [login, State.run_bind, State.run_ask directory deadline (.lookup r.email), asked,
    Ending.andThen_finished]
  cases unrecognised with
  | unlisted absent =>
      rw [absent]
      rfl
  | foreign listed foreign =>
      rw [listed]
      simp only [Password.verify_of_foreign foreign, Bool.false_eq_true, if_false]
      rfl

namespace Application

variable (app : Application)

/-! ## The end that every refusal comes to -/

def withDirectory (d : Directory) : Application := { app with directory := d }

/-- How the work on a login ends that is refused. -/
def refusedEnding (req : Request) (now : Instant) : Ending Response :=
  if app.timeout.nanos = 0 then .abandoned
  else
    match app.authority.present now req.headers with
    | .crash c => .crashed c
    | _ => .finished invalidCredentials.response

section Login

variable {req : Request} {r : LoginRequest} (path : req.path = "/api/auth/login")
  (method : req.method = "POST") (accepted : LoginRequest.kind.accept req.headers req.body = .ok r)

include path method accepted

/-- The work on a refused login ends in the same way, whatever the directory is. -/
theorem answerInTime_of_unrecognised {d : Directory} {why : LoginFailure}
    (unrecognised : d.Unrecognised r why) {s : State} (working : s.faults.lookup = .none) :
    ∃ tally, (app.withDirectory d).answerInTime req s =
      (app.refusedEnding req s.clock, { s with tally }) := by
  have found : Route.ofPath? req.path = some .login := by rw [path]; decide
  unfold refusedEnding
  by_cases time : app.timeout.nanos = 0
  · have abandoned : (app.withDirectory d).timeout.nanos = 0 := time
    rw [answerInTime, if_pos abandoned, if_pos time]
    exact ⟨s.tally, rfl⟩
  have runs : (app.withDirectory d).timeout.nanos ≠ 0 := time
  rw [if_neg time]
  rcases app.authority.present_cases s.clock req.headers with ⟨p, presented⟩ | ⟨c, crashed⟩
  · have refused := app.authority.run_login_of_unrecognised unrecognised
      (some (s.clock + app.timeout.nanos)) working s.clock
    have worked := (app.withDirectory d).answerInTime_of_accepted found rfl method runs accepted rfl
      ⟨p, presented⟩
    have ended : (app.withDirectory d).answerInTime req s =
        (.finished invalidCredentials.response, s.count (.loginFailed why)) :=
      worked.trans (congrArg (Ending.andThen · _) refused)
    rw [presented, ended]
    exact ⟨.loginFailed why :: s.tally, rfl⟩
  · have answers : (app.withDirectory d).answer s.clock req .login = .crash c := by
      unfold answer withDirectory
      dsimp only
      rw [crashed]
      rfl
    rw [answerInTime, if_neg runs, found, crashed]
    dsimp only
    rw [answers]
    exact ⟨s.tally, rfl⟩

/-- The response to a refused login has nothing to do with the directory, and all that is left of it
is a count, and a nonce taken if the request has no identifier. -/
theorem step_of_unrecognised {d : Directory} {why : LoginFailure}
    (unrecognised : d.Unrecognised r why) {s : State} (working : s.faults.lookup = .none)
    (rest : s.AtRest) {nonces : Nat} (begun : (identifier req s).2 = { s with nonces }) :
    ∃ tally, (app.withDirectory d).step s (.request req) =
      (some ((framed req (app.responseTo req (app.refusedEnding req s.clock))).withHeader
        identifierHeader (identifier req s).1), { s with nonces, tally }) := by
  have works : req.method ≠ "OPTIONS" := by rw [method]; decide
  obtain ⟨tally, worked⟩ := app.answerInTime_of_unrecognised path method accepted unrecognised
    (s := { s with nonces }) working
  have served := (app.withDirectory d).serve_of_work works s
  rw [begun, worked] at served
  have idle (tally : Tally) : ({ s with nonces, tally } : State).AtRest :=
    ⟨rest.ready, rest.waiting⟩
  rw [step, served]
  exact ⟨_, Prod.ext rfl (idle _).settle_eq⟩

end Login

/-- What a login is told that is refused within its time and the clock. -/
theorem refusedEnding_of_clock {now : Instant} (time : app.timeout.nanos ≠ 0)
    (clock : app.authority.codec.skew ≤ now.seconds) (req : Request) :
    app.refusedEnding req now = .finished invalidCredentials.response := by
  rw [refusedEnding, if_neg time, app.authority.present_eq_shown clock]

/-- **Refused logins cannot be told apart.**  Where nobody misbehaves, a service whose directory
does not list an identity and one that lists it, with any text that does not hold the password,
give the same response and take the same nonces, and neither does anything to the sessions.  It says
that the credentials are invalid, unless the service allows no time or the skew reaches beyond the
clock. -/
theorem refusals_alike {s : State} (calm : s.faults = {}) (rest : s.AtRest) {req : Request}
    {r : LoginRequest} (path : req.path = "/api/auth/login") (method : req.method = "POST")
    (accepted : LoginRequest.kind.accept req.headers req.body = .ok r)
    {first second : Directory} (unlisted : first.find? r.email = none) {user : User}
    (listed : second.find? r.email = some user)
    (foreign : Password.Foreign r.password user.passwordHash) :
    ∃ response nonces tally tally',
      (app.withDirectory first).step s (.request req) =
        (some response, { s with nonces, tally }) ∧
      (app.withDirectory second).step s (.request req) =
        (some response, { s with nonces, tally := tally' }) ∧
      (app.timeout.nanos ≠ 0 → app.authority.codec.skew ≤ s.clock.seconds →
        response.status = 401 ∧ response.body = invalidCredentials.response.body) := by
  have working : s.faults.lookup = .none := by rw [calm]
  obtain ⟨nonces, -, begun⟩ := identifier_eq req s
  obtain ⟨tally, served⟩ := app.step_of_unrecognised path method accepted (.unlisted unlisted)
    working rest begun
  obtain ⟨tally', served'⟩ := app.step_of_unrecognised path method accepted
    (.foreign listed foreign) working rest begun
  refine ⟨_, nonces, tally, tally', served, served', fun time clock => ?_⟩
  rw [app.refusedEnding_of_clock time clock req]
  refine ⟨status_framed req _, ?_⟩
  exact body_framed (by rw [method]; decide) _

/-- A login is refused alike where its email is not listed, where it is listed with a text that is
no hash, and where it is listed with a hash whose digest is off by one in every octet. -/
theorem refusals_alike_three_directories :
    let app : Application :=
      ⟨⟨⟨.hs256, .secret .sha256, some [0x6B], some [0x6B], 2⟩, "",
        ⟨.ofSeconds 9, .ofSeconds 9, .ofSeconds 9⟩⟩, .empty, .ofSeconds 1, [], false⟩
    let listing (stored : String) : Directory :=
      ⟨[("ada@example.org", ⟨.ofNat 7, "ada@example.org", "Ada", stored⟩)]⟩
    let hash := Password.hashed 4 (List.replicate 16 0) "correct horse"
    let other : Password.Hash := { hash with digest := hash.digest.map (· + 1) }
    let login : Request := ⟨"POST", "/api/auth/login",
      [("content-type", Bytes.ofString "application/json")],
      Bytes.ofString
        "\x7b\"email\":\"ada@example.org\",\"password\":\"correct horse\"\x7d"⟩
    let s : State := { clock := 3000000000 }
    let alike (stored : String) :=
      ∃ response after after',
        (app.withDirectory .empty).step s (.request login) = (some response, after) ∧
        (app.withDirectory (listing stored)).step s (.request login) = (some response, after') ∧
        response.status = 401 ∧ after.store = .empty ∧ after'.store = .empty
    alike "correct horse" ∧ alike other.text := by
  intro app listing hash other login s alike
  have accepted : LoginRequest.kind.accept login.headers login.body =
      .ok ⟨"ada@example.org", "correct horse"⟩ := by decide +kernel
  have listed (stored : String) : (listing stored).find? "ada@example.org" =
      some ⟨.ofNat 7, "ada@example.org", "Ada", stored⟩ :=
    Directory.find?_single (by decide +kernel) _
  have rest : s.AtRest := ⟨rfl, fun _ member => absurd member List.not_mem_nil⟩
  have refused {stored : String} (foreign : Password.Foreign "correct horse" stored) :
      alike stored := by
    obtain ⟨response, nonces, tally, tally', first, second, told⟩ := app.refusals_alike rfl rest
      (by decide) rfl accepted (rfl : Directory.empty.find? _ = none) (listed stored) foreign
    exact ⟨response, _, _, first, second, (told (by decide) (by decide)).1, rfl, rfl⟩
  have length : hash.digest.length = 23 := by
    simp [hash, Password.hashed, Digest.Blowfish.digest, Bytes.ofWord32]
  have differs {digest : Bytes} (filled : digest.length = 23) : digest ≠ digest.map (· + 1) := by
    cases digest with
    | nil => cases filled
    | cons b rest => simp
  refine ⟨refused (Password.foreign_of_unparsed (by decide +kernel) _), refused ?_⟩
  refine Password.foreign_of_digest ⟨by decide, rfl, ?_⟩ ?_
  · rw [List.length_map, length]
  · exact differs length

end Application

end SessionAuthority

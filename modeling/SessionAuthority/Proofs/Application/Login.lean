import SessionAuthority.Proofs.Application.Calm

/-!
# Who gives the right password is logged in

`step_login`: while nobody misbehaves, a login with the password of a listed user is answered 200,
and the user's session is the record of the two nonces that come next.
-/
set_option autoImplicit false

namespace SessionAuthority

/-- The one user of a directory is found under an email that is looked up as it stands. -/
theorem Directory.find?_single {email : String} (plain : lookedUpUnder email = email)
    (user : User) : find? ⟨[(email, user)]⟩ email = some user := by
  rw [find?, plain]
  exact List.lookup_cons_self

namespace Authority

variable (a : Authority) (directory : Directory) (deadline : Option Instant)

/-- A login goes on with the issue once the password is right. -/
theorem run_login_of_issued {s after : State} (calm : s.faults = {}) {now : Instant}
    {r : LoginRequest} {user : User} (listed : directory.find? r.email = some user)
    (known : Password.verify r.password user.passwordHash = true) {pair : TokenPair}
    (issued : s.run directory deadline (a.issue now ⟨user.id, user.email⟩).run =
      (.finished (.ok pair), after)) :
    s.run directory deadline (a.login now r) =
      (.finished (.ok pair), after.count .loginSucceeded) := by
  have working : s.faults.lookup = .none := by rw [calm]
  have asked := State.answer_lookup_of_working directory deadline working r.email
  rw [login, State.run_bind, State.run_ask directory deadline (.lookup r.email), asked,
    Ending.andThen_finished, listed]
  simp only [known, if_true]
  rw [State.run_bind, issued]
  rfl

theorem run_login {s : State} (calm : s.faults = {}) {now : Instant} {r : LoginRequest}
    {user : User} (listed : directory.find? r.email = some user)
    (known : Password.verify r.password user.passwordHash = true) (issues : a.Issues now) :
    ∃ pair, s.run directory deadline (a.login now r) =
      (.finished (.ok pair), (a.issued s user.id).count .loginSucceeded) := by
  obtain ⟨pair, issued⟩ :=
    a.run_issue_of_issues directory deadline calm issues ⟨user.id, user.email⟩
  exact ⟨pair, a.run_login_of_issued directory deadline calm listed known issued⟩

end Authority

namespace Application

variable (app : Application)

/-- **Who gives the right password is logged in.** -/
theorem step_login {s : State} {req : Request} {r : LoginRequest} {user : User}
    (path : Route.ofPath? req.path = some .login) (method : req.method = "POST")
    (accepted : LoginRequest.kind.accept req.headers req.body = .ok r)
    (presented : ∃ p, app.authority.present s.clock req.headers = .done p)
    (listed : app.directory.find? r.email = some user)
    (known : Password.verify r.password user.passwordHash = true)
    (issues : app.authority.Issues s.clock) (time : app.timeout.nanos ≠ 0)
    (calm : s.faults = {}) (idle : ∀ p, ¬ s.Pending p) :
    ∃ response tally, response.status = 200 ∧ app.step s (.request req) =
      (some response, { app.authority.issued (identifier req s).2 user.id with tally }) := by
  have begun : (identifier req s).2.faults = {} := (identifier_faults req s).trans calm
  obtain ⟨pair, ran⟩ := app.authority.run_login app.directory
    (some (s.clock + app.timeout.nanos)) begun listed known issues
  replace ran : State.run app.directory (some (s.clock + app.timeout.nanos))
      (app.authority.login s.clock r) (identifier req s).2 = (.finished (.ok pair),
        (app.authority.issued { (identifier req s).2 with store := (identifier req s).2.store }
          user.id).count .loginSucceeded) := ran
  obtain ⟨response, tally, status, -, served⟩ :=
    step_issued idle time path rfl method accepted rfl presented ran
  exact ⟨response, tally, status, served⟩

end Application

end SessionAuthority

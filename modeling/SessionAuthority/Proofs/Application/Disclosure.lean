import SessionAuthority.Proofs.Application.Rotation
import SessionAuthority.Proofs.Wording

/-!
# What failures tell

`failures_closed`: whatever goes wrong, and wherever, a client that is answered 500 reads
`internal error` and nothing else, and one that is answered 401 reads one of four messages
(`Response.Discreet`).  Two services that differ in no more than the words of their failures answer
every run of requests alike.

Both are shown by one walk through the programs: what a request is answered matches what the other
service answers it, with the same response, which is discreet (`matches_answer`).
-/
set_option autoImplicit false

namespace SessionAuthority

/-! ## What a client may read -/

/-- The body of a failure that is told in these words. -/
def failureBody (message : String) : Bytes :=
  Bytes.ofString ("\x7b\"error\":\"" ++ message ++ "\"\x7d")

/-- What a client is told whose credentials do not pass. -/
def refusals : List String :=
  ["no token found", "token is unauthorized", "token is expired", "invalid credentials provided"]

/-- A response that does not say what went wrong inside. -/
structure Response.Discreet (r : Response) : Prop where
  internal : r.status = 500 → r.body = failureBody "internal error"
  unauthorized : r.status = 401 → ∃ message ∈ refusals, r.body = failureBody message

theorem Response.discreet_of_status {r : Response} (first : r.status ≠ 500)
    (second : r.status ≠ 401) : r.Discreet :=
  ⟨fun same => absurd same first, fun same => absurd same second⟩

/-- Nothing but status and body counts. -/
theorem Response.Discreet.congr {r r' : Response} (discreet : r.Discreet)
    (status : r'.status = r.status) (body : r'.body = r.body) : r'.Discreet := by
  obtain ⟨internal, unauthorized⟩ := discreet
  rw [← status, ← body] at internal unauthorized
  exact ⟨internal, unauthorized⟩

theorem Origin.discreet_preflight (allowed : List Bytes) (headers : Headers) :
    (preflight allowed headers).Discreet :=
  Response.discreet_of_status (by decide : (200 : Nat) ≠ 500) (by decide : (200 : Nat) ≠ 401)

namespace ApiError

theorem discreet_internal : internal.response.Discreet :=
  ⟨fun _ => by decide +kernel, fun status => absurd status (by decide)⟩

theorem discreet_unauthorized {message : String} (listed : message ∈ refusals) :
    (unauthorized message).response.Discreet := by
  have other : (unauthorized message).response.status ≠ 500 := (by decide : (401 : Nat) ≠ 500)
  refine ⟨fun status => absurd status other, fun _ => ?_⟩
  refine ⟨message, listed, ?_⟩
  revert message
  decide +kernel

theorem discreet_ofAuth (why : AuthError) : (ofAuth why).response.Discreet := by
  cases why with
  | noCredential => exact discreet_unauthorized (by decide)
  | malformed => exact discreet_unauthorized (by decide)
  | signatureInvalid => exact discreet_unauthorized (by decide)
  | expired => exact discreet_unauthorized (by decide)
  | noActiveSession => exact discreet_unauthorized (by decide)
  | _ => exact discreet_internal

end ApiError

/-- A body that is not accepted is answered 400 or 422. -/
theorem BodyKind.accept_status {α : Type} {kind : BodyKind α} {headers : Headers} {body : Bytes}
    {e : ApiError} (refused : kind.accept headers body = .error e) :
    e.status = 400 ∨ e.status = 422 := by
  rw [accept] at refused
  split at refused
  · cases refused
    exact .inl rfl
  · split at refused
    · cases refused
    · cases refused
      exact .inr rfl

/-! ## Services that differ in words -/

/-- Two codecs are the same but for the words in which they fail to sign. -/
structure Codec.Reworded (c c' : Codec) : Prop where
  decode : ∀ now token, c'.decode now token = c.decode now token
  encode : ∀ claims, SessionAuthority.Reworded (c.encode claims) (c'.encode claims)

structure Application.Reworded (app app' : Application) : Prop where
  codec : app.authority.codec.Reworded app'.authority.codec
  rest : app' = { app with authority := { app.authority with codec := app'.authority.codec } }

theorem AuthError.Reworded.ofAuth {e e' : AuthError} (reworded : e.Reworded e') :
    ApiError.ofAuth e = ApiError.ofAuth e' := by
  rcases reworded with rfl | ⟨detail, detail', rfl, rfl⟩ <;> rfl

theorem AuthError.Reworded.kind {e e' : AuthError} (reworded : e.Reworded e') :
    e.kind = e'.kind := by
  rcases reworded with rfl | ⟨detail, detail', rfl, rfl⟩ <;> rfl

/-- Two exchanges end alike, with what is told discreetly. -/
def ExchangedAlike (r r' : Except ApiError TokenPair) : Prop :=
  r = r' ∧ (exchanged r).Discreet

theorem exchangedAlike_ofAuth {why why' : AuthError} (same : why.Reworded why') :
    ExchangedAlike (.error (.ofAuth why)) (.error (.ofAuth why')) :=
  ⟨by rw [same.ofAuth], ApiError.discreet_ofAuth why⟩

theorem exchangedAlike_ok (pair : TokenPair) : ExchangedAlike (.ok pair) (.ok pair) :=
  ⟨rfl, Response.discreet_of_status (by simp [exchanged, Response.json])
    (by simp [exchanged, Response.json])⟩

namespace Authority

variable (a : Authority) {codec : Codec} (reworded : a.codec.Reworded codec)

def withCodec (codec : Codec) : Authority := { a with codec }

include reworded

theorem sign_reworded (claims : Claims) :
    a.sign claims = (a.withCodec codec).sign claims ∨ ∃ detail detail',
      a.sign claims = .error (.internal detail) ∧
        (a.withCodec codec).sign claims = .error (.internal detail') := by
  have inside (a : Authority) {e : AuthError} (failed : a.codec.encode claims = .error e) :
      ∃ detail, a.sign claims = .error (.internal detail) := by
    rw [sign, failed]
    cases e <;> exact ⟨_, rfl⟩
  rcases reworded.encode claims with same | ⟨e, e', failed, failed'⟩
  · left
    rw [sign, sign, same]
    rfl
  · right
    obtain ⟨detail, failed⟩ := inside a failed
    obtain ⟨detail', failed'⟩ := inside (a.withCodec codec) failed'
    exact ⟨detail, detail', failed, failed'⟩

theorem matches_mint (now : Instant) (subject : Subject) (lifetime : Span) :
    Action.Matches Eq (a.mint now subject lifetime)
      ((a.withCodec codec).mint now subject lifetime) := by
  rw [mint, mint]
  by_cases long : longestLifetime.nanos < lifetime.nanos
  · simp only [long, if_true]
    exact Action.matches_throw (.inl rfl)
  by_cases late : lastDateSecond < Instant.seconds (now + lifetime.nanos)
  · simp only [long, late, if_true, if_false]
    exact .crash _ _
  · simp only [long, late, if_false]
    refine (Action.matches_ask .nonce).bind ?_
    rintro nonce _ rfl
    rcases a.sign_reworded reworded (tokenClaims subject nonce (now + lifetime.nanos) now) with
      same | ⟨detail, detail', failed, failed'⟩
    · rw [same]
      split
      · exact Action.matches_pure rfl
      · exact Action.matches_throw (.inl rfl)
    · rw [failed, failed']
      exact Action.matches_throw (.inr ⟨detail, detail', rfl, rfl⟩)

theorem matches_issue (now : Instant) (subject : Subject) :
    Action.Matches Eq (a.issue now subject) ((a.withCodec codec).issue now subject) := by
  rw [issue, issue]
  refine (a.matches_mint reworded now subject a.lifetimes.access).bind ?_
  rintro access _ rfl
  refine (a.matches_mint reworded now subject a.lifetimes.refresh).bind ?_
  rintro refresh _ rfl
  refine (Action.matches_ask (.set (a.key subject.id) _ a.lifetimes.inactivity)).bind ?_
  intro stored stored' same
  refine (Action.matches_ofStore same).bind ?_
  rintro _ _ rfl
  refine (Action.matches_ask (.count .pairIssued)).bind ?_
  rintro _ _ rfl
  exact Action.matches_pure rfl

omit reworded in
theorem matches_checkLive (claims : Claims) (slot : Slot) :
    Action.Matches Eq (a.checkLive claims slot) ((a.withCodec codec).checkLive claims slot) := by
  rw [checkLive, checkLive]
  split
  · rename_i subject nonce _ _
    refine (Action.matches_ask (.get (a.key subject))).bind ?_
    intro answer answer' same
    refine (Action.matches_ofStore same).bind ?_
    rintro stored _ rfl
    split
    · exact Action.matches_pure rfl
    · exact Action.matches_throw (.inl rfl)
  · exact Action.matches_throw (.inl rfl)

omit reworded in
theorem matches_revoke (subject : Uuid) :
    Action.Matches Eq (a.revoke subject) ((a.withCodec codec).revoke subject) := by
  rw [revoke, revoke]
  refine (Action.matches_ask (.delete (a.key subject))).bind ?_
  intro answer answer' same
  refine (Action.matches_ofStore same).bind ?_
  rintro _ _ rfl
  exact Action.matches_ask (.count .sessionRevoked)

theorem parse_reworded (now : Instant) (token : String) :
    (a.withCodec codec).parse now token = a.parse now token :=
  reworded.decode _ _

theorem present_reworded (now : Instant) (headers : Headers) :
    (a.withCodec codec).present now headers = a.present now headers := by
  simp only [present, a.parse_reworded reworded]

theorem identify_reworded (now : Instant) (token : String) :
    (a.withCodec codec).identify now token = a.identify now token := by
  simp only [identify, a.parse_reworded reworded]

omit reworded in
/-- The guard lets the same requests through, and refuses the others in the same words. -/
theorem matches_guard (p : Presented) {good : Response → Response → Prop}
    {answer answer' : Identity → Program Response}
    (refused : ∀ why, good (ApiError.ofAuth why).response (ApiError.ofAuth why).response)
    (passed : ∀ identity, (answer identity).Matches good (answer' identity)) :
    (a.guard p answer).Matches good ((a.withCodec codec).guard p answer') := by
  have authorized : Action.Matches Eq (a.authorize p) ((a.withCodec codec).authorize p) := by
    rw [authorize, authorize]
    split
    · exact Action.matches_throw (.inl rfl)
    · refine (a.matches_checkLive _ _).bind ?_
      rintro _ _ rfl
      exact Action.matches_pure rfl
  rw [guard, guard]
  refine Program.Matches.bind authorized fun r r' ends => ?_
  cases ends with
  | ok same =>
      cases same
      exact .call (.detach _ _) fun _ _ _ => passed _
  | @error e e' same =>
      show Program.Matches good
        (.call (.count (.rejected e.kind)) fun _ => .done (ApiError.ofAuth e).response)
        (.call (.count (.rejected e'.kind)) fun _ => .done (ApiError.ofAuth e').response)
      rw [← same.kind, ← same.ofAuth]
      exact .call _ fun _ _ _ => .done (refused e)

/-! ## Exchanges -/

omit reworded in
theorem matches_refuseLogin (why : LoginFailure) :
    (refuseLogin why).Matches ExchangedAlike (refuseLogin why) :=
  .call _ fun _ _ _ => .done ⟨rfl, ApiError.discreet_unauthorized (by decide)⟩

theorem matches_login (now : Instant) (r : LoginRequest) :
    (a.login now r).Matches ExchangedAlike ((a.withCodec codec).login now r) := by
  refine .call (.lookup r.email) fun answer answer' same => ?_
  rcases same with rfl | ⟨e, e', rfl, rfl⟩
  · rcases answer with e | _ | user
    · exact .done ⟨rfl, ApiError.discreet_internal⟩
    · exact matches_refuseLogin _
    · show Program.Matches ExchangedAlike
        (if Password.verify r.password user.passwordHash then _ else refuseLogin .badPassword)
        (if Password.verify r.password user.passwordHash then _ else refuseLogin .badPassword)
      split
      · refine Program.Matches.bind (a.matches_issue reworded now ⟨user.id, user.email⟩) ?_
        intro r r' ends
        cases ends with
        | ok same =>
            cases same
            exact .call _ fun _ _ _ => .done (exchangedAlike_ok _)
        | error same => exact .done (exchangedAlike_ofAuth same)
      · exact matches_refuseLogin _
  · exact .done ⟨rfl, ApiError.discreet_internal⟩

theorem matches_renew (now : Instant) (token : String) :
    Action.Matches Eq (a.renew now token) ((a.withCodec codec).renew now token) := by
  rw [renew, renew, a.identify_reworded reworded]
  have identified : Action.Matches Eq (Action.ofOutcome (a.identify now token))
      (Action.ofOutcome (a.identify now token)) := by
    cases a.identify now token with
    | ok shown => exact Action.matches_pure rfl
    | refused why => exact Action.matches_throw (.inl rfl)
    | crashed c => exact .crash c c
  refine identified.bind ?_
  rintro ⟨claims, identity⟩ _ rfl
  refine (a.matches_checkLive claims .refresh).bind ?_
  rintro _ _ rfl
  exact a.matches_issue reworded now identity.subject

theorem matches_refresh (now : Instant) (r : RefreshRequest) :
    (a.refresh now r).Matches ExchangedAlike ((a.withCodec codec).refresh now r) := by
  refine Program.Matches.bind (a.matches_renew reworded now r.token) ?_
  intro r r' ends
  cases ends with
  | ok same =>
      cases same
      exact .call _ fun _ _ _ => .done (exchangedAlike_ok _)
  | @error e e' same =>
      refine .call _ fun _ _ _ => ?_
      show Program.Matches ExchangedAlike
        (.call (.count (.rejected e.kind)) fun _ => .done (.error (.ofAuth e)))
        (.call (.count (.rejected e'.kind)) fun _ => .done (.error (.ofAuth e')))
      rw [← same.kind]
      exact .call _ fun _ _ _ => .done (exchangedAlike_ofAuth same)

end Authority

namespace Application

variable {app app' : Application}

/-! ## Routes -/

def Discreetly (r r' : Response) : Prop := r = r' ∧ r.Discreet

theorem discreetly_of_status {r : Response} (first : r.status ≠ 500) (second : r.status ≠ 401) :
    Discreetly r r := ⟨rfl, Response.discreet_of_status first second⟩

theorem matches_onMethod (route : Route) (req : Request) {p p' : Program Response}
    (alike : p.Matches Discreetly p') :
    (onMethod route req p).Matches Discreetly (onMethod route req p') := by
  rw [onMethod, onMethod]
  split
  · exact alike
  · exact .done (discreetly_of_status (by decide) (by decide))

theorem matches_onBody {α : Type} (kind : BodyKind α) (req : Request)
    {exchange exchange' : α → Program (Except ApiError TokenPair)}
    (alike : ∀ a, (exchange a).Matches ExchangedAlike (exchange' a)) :
    (onBody kind req exchange).Matches Discreetly (onBody kind req exchange') := by
  rw [onBody, onBody]
  split
  · rename_i e refused
    have status : e.response.status = 400 ∨ e.response.status = 422 :=
      BodyKind.accept_status refused
    exact .done (discreetly_of_status (by omega) (by omega))
  · refine Program.Matches.bind (alike _) ?_
    rintro r _ ⟨rfl, discreet⟩
    exact .done ⟨rfl, discreet⟩

theorem matches_success {r : Response} (status : r.status = 200) :
    (pure r : Program Response).Matches Discreetly (pure r) :=
  .done (discreetly_of_status (by omega) (by omega))

theorem matches_profile (identity : Identity) :
    (profile identity).Matches Discreetly (profile identity) := by
  refine .call (.lookup identity.username) fun answer answer' same => ?_
  -- a directory that refuses is no news: the profile then goes without a name
  rcases same with rfl | ⟨e, e', rfl, rfl⟩
  · exact matches_success rfl
  · exact matches_success rfl

theorem matches_logout (reworded : app.Reworded app') (identity : Identity) :
    (app.logout identity).Matches Discreetly (app'.logout identity) := by
  rw [reworded.rest]
  refine Program.Matches.bind (app.authority.matches_revoke identity.id) fun r r' ends => ?_
  cases ends with
  | ok same => exact matches_success rfl
  | error same => exact .done ⟨by rw [same.ofAuth], ApiError.discreet_ofAuth _⟩

theorem matches_metrics (reworded : app.Reworded app') :
    app.metrics.Matches Discreetly app'.metrics := by
  rw [metrics, metrics, reworded.rest]
  dsimp only
  split
  · refine .call .report ?_
    rintro tally _ rfl
    exact matches_success rfl
  · exact .done (discreetly_of_status (by decide) (by decide))

/-- **Every route answers in the same words**, and discreetly. -/
theorem matches_answer (reworded : app.Reworded app') (now : Instant) (req : Request)
    (route : Route) :
    (app.answer now req route).Matches Discreetly (app'.answer now req route) := by
  have presents {f f' : Presented → Program Response}
      (rest : ∀ p, (f p).Matches Discreetly (f' p)) :
      (app.authority.present now req.headers >>= f).Matches Discreetly
        (app'.authority.present now req.headers >>= f') := by
    have same : app'.authority.present now req.headers = app.authority.present now req.headers := by
      rw [reworded.rest]
      exact app.authority.present_reworded reworded.codec now req.headers
    rw [same]
    rcases app.authority.present_cases now req.headers with ⟨p, presented⟩ | ⟨c, crashed⟩
    · rw [presented]
      exact rest p
    · rw [crashed]
      exact .crash c c
  have guards (p : Presented) {answer answer' : Identity → Program Response}
      (passed : ∀ identity, (answer identity).Matches Discreetly (answer' identity)) :
      (app.authority.guard p answer).Matches Discreetly (app'.authority.guard p answer') := by
    rw [reworded.rest]
    exact app.authority.matches_guard p (fun why => ⟨rfl, ApiError.discreet_ofAuth why⟩) passed
  cases route with
  | health => exact matches_onMethod _ _ (matches_success rfl)
  | document => exact matches_onMethod _ _ (matches_success rfl)
  | metrics => exact matches_onMethod _ _ (matches_metrics reworded)
  | login =>
      refine presents fun _ => matches_onMethod _ _ (matches_onBody _ _ fun r => ?_)
      rw [reworded.rest]
      exact app.authority.matches_login reworded.codec now r
  | refresh =>
      refine presents fun _ => matches_onMethod _ _ (matches_onBody _ _ fun r => ?_)
      rw [reworded.rest]
      exact app.authority.matches_refresh reworded.codec now r
  | status => exact presents fun p => matches_onMethod _ _ (matches_success rfl)
  | logout =>
      exact presents fun p => guards p fun identity =>
        matches_onMethod _ _ (matches_logout reworded identity)
  | profile =>
      exact presents fun p => guards p fun identity =>
        matches_onMethod _ _ (matches_profile identity)

/-! ## Steps and runs -/

variable {s t : State}

theorem answerInTime_reworded (reworded : app.Reworded app') (same : s.Reworded t)
    (req : Request) :
    Ending.Reworded Discreetly (app.answerInTime req s) (app'.answerInTime req t) := by
  have timeout : app'.timeout = app.timeout := by rw [reworded.rest]
  have directory : app'.directory = app.directory := by rw [reworded.rest]
  rw [answerInTime, answerInTime, timeout, directory, same.clock]
  split
  · exact .abandoned same
  · split
    · exact .finished (discreetly_of_status (by decide) (by decide)) same
    · exact (matches_answer reworded s.clock req _).run app.directory _ same

/-- What comes of an ending tells as little as the ending. -/
theorem responseTo_reworded (reworded : app.Reworded app') (req : Request)
    {ending ending' : Ending Response × State} (alike : Ending.Reworded Discreetly ending ending') :
    Discreetly (app.responseTo req ending.1) (app'.responseTo req ending'.1) ∧
      ending.2.Reworded ending'.2 := by
  have origins : app'.origins = app.origins := by rw [reworded.rest]
  cases alike with
  | finished same kept =>
      obtain ⟨rfl, discreet⟩ := same
      exact ⟨⟨by rw [responseTo, responseTo, origins], discreet.congr rfl rfl⟩, kept⟩
  | crashed c c' kept => exact ⟨⟨rfl, ApiError.discreet_internal⟩, kept⟩
  | abandoned kept =>
      rw [responseTo, responseTo, origins]
      exact ⟨discreetly_of_status (by decide : (408 : Nat) ≠ 500) (by decide : (408 : Nat) ≠ 401),
        kept⟩

theorem identifier_reworded (same : s.Reworded t) (req : Request) :
    (identifier req t).1 = (identifier req s).1 ∧
      (identifier req s).2.Reworded (identifier req t).2 := by
  have taken := same.map (f := State.takeNonce) fun _ _ => rfl
  have next : t.nextNonce = s.nextNonce := by
    rw [same.rest]
    rfl
  rw [identifier, identifier, next]
  split
  · exact ⟨rfl, taken⟩
  · refine ⟨rfl, ?_⟩
    dsimp only
    split
    · exact same
    · exact taken

/-- **One request** is answered in the same words, and discreetly where there is a body. -/
theorem serve_reworded (reworded : app.Reworded app') (same : s.Reworded t) (req : Request) :
    (app'.serve req t).1 = (app.serve req s).1 ∧
      (req.method ≠ "HEAD" → (app.serve req s).1.Discreet) ∧
      (app.serve req s).2.Reworded (app'.serve req t).2 := by
  obtain ⟨named, begun⟩ := identifier_reworded same req
  have origins : app'.origins = app.origins := by rw [reworded.rest]
  -- on the way out neither status nor body is touched
  have sent {r : Response} (id : Bytes) (discreet : r.Discreet) {u u' : State}
      (kept : u.Reworded u') : (sentOut req id r u').1 = (sentOut req id r u).1 ∧
        (req.method ≠ "HEAD" → (sentOut req id r u).1.Discreet) ∧
        (sentOut req id r u).2.Reworded (sentOut req id r u').2 :=
    ⟨rfl, fun whole => discreet.congr (status_framed req r) (body_framed whole r), kept.count _⟩
  by_cases options : req.method = "OPTIONS"
  · rw [app.serve_of_options options, app'.serve_of_options options, origins, named]
    exact sent _ (Origin.discreet_preflight app.origins req.headers) begun
  · obtain ⟨⟨told, discreet⟩, kept⟩ :=
      responseTo_reworded reworded req (answerInTime_reworded reworded begun req)
    rw [app.serve_of_work options, app'.serve_of_work options, named, ← told]
    exact sent _ discreet kept

/-- Two things that happen are the same, but for the words of failures to come. -/
inductive Step.Reworded : Step → Step → Prop
  | same (step : Step) : Reworded step step
  | misbehave {faults faults' : Faults} :
      faults.Reworded faults' → Reworded (.misbehave faults) (.misbehave faults')

theorem step_reworded (reworded : app.Reworded app') (same : s.Reworded t) {step step' : Step}
    (alike : step.Reworded step') :
    (app'.step t step').1 = (app.step s step).1 ∧
      (app.step s step).2.Reworded (app'.step t step').2 := by
  cases alike with
  | misbehave faults =>
      refine ⟨rfl, State.Reworded.settle ⟨faults, ?_⟩⟩
      rw [same.rest]
  | same step =>
      cases step with
      | request req =>
          obtain ⟨told, -, kept⟩ := serve_reworded reworded same req
          exact ⟨congrArg some told, kept.settle⟩
      | advance span =>
          exact ⟨rfl, (same.map (f := fun s : State =>
            { s with clock := s.clock + span.nanos }) fun _ _ => rfl).settle⟩
      | misbehave faults =>
          refine ⟨rfl, State.Reworded.settle ⟨⟨.same _, .same _, .same _, .same _, .same _⟩, ?_⟩⟩
          rw [same.rest]

/-- What is answered to what happens one after the other. -/
def responses (app : Application) : State → List Step → List (Option Response)
  | _, [] => []
  | s, step :: later => (app.step s step).1 :: app.responses (app.step s step).2 later

theorem responses_reworded (reworded : app.Reworded app') (same : s.Reworded t)
    {steps steps' : List Step} (alike : List.Forall₂ Step.Reworded steps steps') :
    app'.responses t steps' = app.responses s steps := by
  induction alike generalizing s t with
  | nil => rfl
  | cons first _ ih =>
      obtain ⟨told, kept⟩ := step_reworded reworded same first
      rw [responses, responses, told, ih kept]

/-- **Failures tell nothing of themselves.**  In any state and with any faults, a request other than
for the head alone is answered 500 or 401 in fixed words only; and services, states and faults that
differ in no more than the words of their failures are not told apart by any run of requests. -/
theorem failures_closed (app : Application) (s : State) :
    (∀ req, ∃ r, (app.step s (.request req)).1 = some r ∧ (req.method ≠ "HEAD" → r.Discreet)) ∧
      ∀ (app' : Application) (t : State) (steps steps' : List Step), app.Reworded app' →
        s.Reworded t → List.Forall₂ Step.Reworded steps steps' →
          app'.responses t steps' = app.responses s steps := by
  refine ⟨fun req => ⟨_, rfl, ?_⟩, fun app' t steps steps' reworded same alike =>
    responses_reworded reworded same alike⟩
  have unchanged : app.Reworded app := ⟨⟨fun _ _ => rfl, fun _ => .inl rfl⟩, rfl⟩
  exact (serve_reworded unchanged (.refl s) req).2.1

/-- A directory that is out of reach and then panics, and a key that cannot sign, are told of by
nothing but the status. -/
theorem failures_closed_outage :
    let service (signing : Option Bytes) : Application :=
      ⟨⟨⟨.rs256, .modulus .fixed .sha256, signing, none, 2⟩, "",
        ⟨.ofSeconds 9, .ofSeconds 9, .ofSeconds 9⟩⟩, .empty, .ofSeconds 1, [], false⟩
    let login : Request := ⟨"POST", "/api/auth/login",
      [("content-type", Bytes.ofString "application/json")],
      Bytes.ofString
        "\x7b\"email\":\"ada@example.org\",\"password\":\"correct horse\"\x7d"⟩
    let start (detail : String) : State :=
      { clock := 3000000000, faults := { lookup := .fail (.lookup detail) } }
    let steps (detail : String) : List Step :=
      [.request login, .misbehave { lookup := .panic detail }, .request login]
    let run := (service none).responses (start "no route to 10.0.0.7") (steps "row 5 is torn")
    (service (some [])).responses (start "timed out") (steps "out of memory") = run ∧
      run.map (·.map (·.status)) = [some 500, none, some 500] ∧
        ∀ r ∈ run.reduceOption, r.body = failureBody "internal error" := by
  intro service login start steps run
  have codecs : (service none).Reworded (service (some [])) := by
    refine ⟨⟨fun _ _ => rfl, fun claims => .inr ⟨.signingKeyMissing, .internal
      ("failed to sign token: " ++ ("RSA key invalid: " ++ "InvalidEncoding")), rfl, ?_⟩⟩, rfl⟩
    rfl
  have states : (start "no route to 10.0.0.7").Reworded (start "timed out") :=
    ⟨⟨.same _, .same _, .same _, .same _, .fail _ _⟩, rfl⟩
  have alike : List.Forall₂ Step.Reworded (steps "row 5 is torn") (steps "out of memory") :=
    .cons (.same _) (.cons (.misbehave ⟨.same _, .same _, .same _, .same _, .panic _ _⟩)
      (.cons (.same _) .nil))
  refine ⟨(failures_closed _ _).2 _ _ _ _ codecs states alike, by decide +kernel, ?_⟩
  decide +kernel

end Application

end SessionAuthority

import SessionAuthority.Proofs.Application.Login
import SessionAuthority.Proofs.Password
import SessionAuthority.Proofs.Session.Ledger

/-!
# Refresh tokens are single use and rotation is final

`rotation_final`: from an empty store on, whatever is requested one after the other and however the
collaborators misbehave, the nonces of a session that a login, a refresh or a logout has replaced or
removed are never let in again, neither by the guard nor by a refresh.  So no refresh token is
redeemed twice.

One lemma says what each step does to the nonces that are stored (`step_moves`); the ledger of
`State.Ledger` is carried through a whole run by it (`after_keeps`), and so is what is spent.  A
nonce that is let in stands in the store when the request comes (`stands_of_authorized`,
`stands_of_redeemed`).
-/
set_option autoImplicit false

namespace SessionAuthority

/-! ## What a request has seen -/

/-- What a program has seen on the way from a state is true of that state and of the directory, and
the nonces it has taken are new. -/
structure State.Observes (directory : Directory) (s : State) (seen : List Seen) (t : State) :
    Prop where
  supply : t.supply = s.supply
  nonces : s.nonces ≤ t.nonces
  store : t.store.Inherits s.store
  taken : ∀ u ∈ Seen.nonces seen, s.TakenFrom s.nonces t.nonces u
  stored : ∀ key value, .stored key (some value) ∈ seen →
    ∃ e, s.store.entry? key = some e ∧ e.value = value
  listed : ∀ identity user, .listed identity user ∈ seen → user = directory.find? identity

/-- A nonce that is live in what was seen of the store stands there. -/
theorem State.Observes.stands {directory : Directory} {s t : State} {seen : List Seen}
    (observes : s.Observes directory seen t) {key nonce : String} {stored : Option Bytes}
    {slot : Slot} (member : .stored key stored ∈ seen)
    (live : Authority.isLive stored slot nonce = true) : s.Stands key nonce := by
  obtain ⟨record, read, same⟩ := Authority.isLive_iff.1 live
  obtain ⟨value, rfl, read⟩ := Option.bind_eq_some_iff.1 read
  obtain ⟨e, held, rfl⟩ := observes.stored key value member
  exact ⟨e, record, slot, held, read, same.symm⟩

/-- Who is answered 200 behind the guard was authorized. -/
theorem Authority.authorized_of_guard {a : Authority} (directory : Directory)
    (deadline : Option Instant) {s : State} {p : Presented} (answer : Identity → Program Response)
    (passed : (s.run directory deadline (a.guard p answer)).1.status = 200) :
    ∃ identity after,
      s.run directory deadline (a.authorize p).run = (.finished (.ok identity), after) := by
  rw [guard, State.run_bind] at passed
  rcases ran : s.run directory deadline (a.authorize p).run with ⟨(why | identity) | c | _, after⟩
  · rw [ran] at passed
    exact absurd passed ofAuth_status_ne
  · exact ⟨identity, after, rfl⟩
  · rw [ran] at passed
    exact absurd passed (by decide : (500 : Nat) ≠ 200)
  · rw [ran] at passed
    exact absurd passed (by decide : (408 : Nat) ≠ 200)

namespace Application

variable (app : Application)

/-- Whose session a post to a route is about. -/
def Concerns (now : Instant) (req : Request) (subject : Uuid) : Route → Prop
  | .login => ∃ r user, LoginRequest.kind.accept req.headers req.body = .ok r ∧
      app.directory.find? r.email = some user ∧ user.id = subject
  | .refresh => ∃ r claims identity, RefreshRequest.kind.accept req.headers req.body = .ok r ∧
      app.authority.identify now r.token = .ok (claims, identity) ∧ identity.id = subject
  | .logout => ∃ claims identity, app.authority.Bears now req.headers claims identity ∧
      identity.id = subject
  | _ => False

/-- The token in the body of a refresh carries a nonce. -/
def Presents (now : Instant) (req : Request) (nonce : String) : Prop :=
  ∃ r claims, RefreshRequest.kind.accept req.headers req.body = .ok r ∧
    app.authority.parse now r.token = .ok claims ∧ claims.uid? = some nonce

theorem concerns_unique {now : Instant} {req : Request} {subject other : Uuid} {route : Route}
    (concerns : app.Concerns now req subject route) (concerns' : app.Concerns now req other route) :
    subject = other := by
  cases route with
  | login =>
      obtain ⟨r, user, accepted, found, rfl⟩ := concerns
      obtain ⟨r', user', accepted', found', rfl⟩ := concerns'
      cases accepted.symm.trans accepted'
      cases found.symm.trans found'
      rfl
  | refresh =>
      obtain ⟨r, claims, identity, accepted, identified, rfl⟩ := concerns
      obtain ⟨r', claims', identity', accepted', identified', rfl⟩ := concerns'
      cases accepted.symm.trans accepted'
      cases identified.symm.trans identified'
      rfl
  | logout =>
      obtain ⟨claims, identity, bears, rfl⟩ := concerns
      obtain ⟨claims', identity', bears', rfl⟩ := concerns'
      rw [Authority.bears_unique bears bears']
  | _ => exact concerns.elim

theorem presents_unique {now : Instant} {req : Request} {nonce other : String}
    (presents : app.Presents now req nonce) (presents' : app.Presents now req other) :
    nonce = other := by
  obtain ⟨r, claims, accepted, parsed, carried⟩ := presents
  obtain ⟨r', claims', accepted', parsed', carried'⟩ := presents'
  cases accepted.symm.trans accepted'
  cases parsed.symm.trans parsed'
  exact Option.some.inj (carried.symm.trans carried')

/-- What is true once a request on a route has written: it is about one subject, whose session only
it has written or removed, and a refresh has presented a nonce of that session. -/
structure Settles (now : Instant) (req : Request) (route : Route) (s t : State) (subject : Uuid) :
    Prop where
  concerns : app.Concerns now req subject route
  redeems : route = .refresh → ∃ nonce, app.Presents now req nonce ∧
    s.Stands (app.authority.key subject) nonce
  moves : s.Moves (some (app.authority.key subject)) t

/-- A session is written for whom the request is about. -/
theorem settles_set {now : Instant} {req : Request} {route : Route} {s t : State}
    {seen : List Seen} (observes : s.Observes app.directory seen t) {subject access refresh : Uuid}
    (grants : app.Grants now req seen subject route) (nonces : Seen.nonces seen = [access, refresh])
    {e : Entry} (value : e.value = (Authority.pairRecord access refresh).render) :
    app.Settles now req route s { t with store := t.store.put (app.authority.key subject) e }
      subject := by
  have first := observes.taken access (by rw [nonces]; simp)
  have second := observes.taken refresh (by rw [nonces]; simp)
  refine ⟨?_, ?_, observes.supply, observes.nonces, fun key e' held => ?_⟩
  · cases route with
    | login =>
        obtain ⟨r, user, accepted, member, -, same⟩ := grants
        exact ⟨r, user, accepted, (observes.listed _ _ member).symm, same⟩
    | refresh =>
        obtain ⟨r, claims, identity, stored, accepted, identified, -, -, same⟩ := grants
        exact ⟨r, claims, identity, accepted, identified, same⟩
    | _ => exact grants.elim
  · rintro rfl
    obtain ⟨r, claims, identity, stored, accepted, identified, member, live, rfl⟩ := grants
    obtain ⟨parsed, typed⟩ := app.authority.identify_eq_ok identified
    exact ⟨identity.uid, ⟨r, claims, accepted, parsed, (Authority.ofClaims_eq_ok typed).2⟩,
      observes.stands member live⟩
  · rw [Store.entry?_put] at held
    split at held
    · rename_i here
      obtain rfl := Option.some.inj held
      exact .inr ⟨congrArg some here.symm, access, refresh, first, second, value⟩
    · rename_i other
      refine .inl ⟨fun same => other (Option.some.inj same).symm, ?_⟩
      exact observes.store key e' held

/-- A session is removed of whom the request is about. -/
theorem settles_delete {now : Instant} {req : Request} {s t : State} {seen : List Seen}
    (observes : s.Observes app.directory seen t) {identity : Identity}
    (bears : ∃ claims, app.authority.Bears now req.headers claims identity) :
    app.Settles now req .logout s
      { t with store := t.store.delete (app.authority.key identity.id) } identity.id := by
  obtain ⟨claims, bears⟩ := bears
  refine ⟨⟨claims, identity, bears, rfl⟩, nofun, observes.supply, observes.nonces,
    fun key e held => ?_⟩
  rw [Store.delete, Store.entry?_erase] at held
  split at held
  · cases held
  · rename_i other
    refine .inl ⟨fun same => other (Option.some.inj same).symm, ?_⟩
    exact observes.store key e held

/-- Every request sees what is there, and writes one session at most. -/
theorem keeps_observes (now : Instant) (req : Request) (route : Route) (s : State) :
    (app.licence now req route).Keeps app.directory (s.Observes app.directory)
      fun t => ∃ subject, app.Settles now req route s t subject where
  wait := by
    intro seen t target observes
    have bides := (State.Bides.refl (s := t) fun p pending => pending).waitUntil target
    refine ⟨bides.supply.trans observes.supply, ?_, bides.store.trans observes.store, ?_,
      observes.stored, observes.listed⟩
    · rw [bides.nonces]
      exact observes.nonces
    · rw [bides.nonces]
      exact observes.taken
  nonce := by
    intro seen t observes
    refine ⟨observes.supply, Nat.le_succ_of_le observes.nonces, observes.store, ?_, ?_, ?_⟩
    · intro u member
      rw [Seen.nonces_append, Seen.nonces_nonce] at member
      rcases List.mem_append.1 member with old | new
      · exact (observes.taken u old).mono rfl (Nat.le_succ _)
      · obtain rfl := List.mem_singleton.1 new
        exact ⟨t.nonces, observes.nonces, Nat.lt_succ_self _, by rw [← observes.supply]; rfl⟩
    · exact fun key value member => observes.stored key value (by simpa using member)
    · exact fun identity user member => observes.listed identity user (by simpa using member)
  count := by
    intro seen t e observes
    exact ⟨observes.supply, observes.nonces, observes.store, observes.taken, observes.stored,
      observes.listed⟩
  detach := by
    intro seen t p _ observes
    exact ⟨observes.supply, observes.nonces, observes.store, observes.taken, observes.stored,
      observes.listed⟩
  get := by
    intro seen t key observes
    refine ⟨observes.supply, observes.nonces, (Store.inherits_get _ _ _).trans observes.store, ?_,
      ?_, ?_⟩
    · intro u member
      rw [Seen.nonces_append, Seen.nonces_stored, List.append_nil] at member
      exact observes.taken u member
    · intro other value member
      rcases List.mem_append.1 member with old | new
      · exact observes.stored other value old
      · obtain ⟨here, found⟩ := Seen.stored.inj (List.mem_singleton.1 new)
        obtain ⟨e, held, value, -⟩ := Store.entry?_of_get found.symm
        obtain ⟨o, held', same⟩ := observes.store key e held
        exact ⟨o, here ▸ held', same.trans value⟩
    · exact fun identity user member => observes.listed identity user (by simpa using member)
  lookup := by
    intro seen t identity observes
    refine ⟨observes.supply, observes.nonces, observes.store, ?_, ?_, ?_⟩
    · intro u member
      rw [Seen.nonces_append, Seen.nonces_listed, List.append_nil] at member
      exact observes.taken u member
    · exact fun key value member => observes.stored key value (by simpa using member)
    · intro other user member
      rcases List.mem_append.1 member with old | new
      · exact observes.listed other user old
      · obtain ⟨here, found⟩ := Seen.listed.inj (List.mem_singleton.1 new)
        rw [here, found]
  set := by
    rintro seen t key value ttl store ⟨subject, access, refresh, grants, nonces, rfl, same, -⟩
      stored observes
    obtain ⟨-, rfl⟩ := Store.set_eq_ok stored
    exact ⟨subject, app.settles_set observes grants nonces same⟩
  delete := by
    rintro seen t key ⟨rfl, identity, ⟨-, bears, -⟩, rfl⟩ observes
    exact ⟨identity.id, app.settles_delete observes bears⟩
  counted := by
    rintro t e ⟨subject, concerns, redeems, moves⟩
    exact ⟨subject, concerns, redeems, moves.supply, moves.nonces, moves.entry⟩

/-! ## Steps -/

theorem observes_begun (req : Request) (s : State) :
    s.Observes app.directory [] (identifier req s).2 := by
  rcases identifier_state req s with same | same <;> rw [same]
  · exact ⟨rfl, Nat.le_refl _, .refl _, nofun, nofun, nofun⟩
  · exact ⟨rfl, Nat.le_succ _, .refl _, nofun, nofun, nofun⟩

/-- Who has only looked has moved nothing. -/
theorem moves_of_observes {s t : State} {seen : List Seen}
    (observes : s.Observes app.directory seen t) : s.Moves none t :=
  ⟨observes.supply, observes.nonces, fun key e held => .inl ⟨nofun, observes.store key e held⟩⟩

/-- **What a request does to the stored sessions**: nothing, and then a post is not answered 200, or
it settles with one subject. -/
theorem request_moves (s : State) (req : Request) :
    ∃ r after, app.step s (.request req) = (some r, after) ∧
      (s.Moves none after ∧ (∀ route, Route.ofPath? req.path = some route →
          req.method = "POST" → route.posts = true → r.status ≠ 200) ∨
        ∃ route subject, Route.ofPath? req.path = some route ∧
          app.Settles s.clock req route s after subject) := by
  cases found : Route.ofPath? req.path with
  | none =>
      obtain ⟨r, e, served, -⟩ := app.step_request s req
      refine ⟨r, _, served, .inl ⟨State.Moves.settle ?_, nofun⟩⟩
      have idle : (app.worked req (identifier req s).2).2 = (identifier req s).2 := by
        rw [worked]
        split
        · rfl
        · rw [answerInTime, found]
          split <;> rfl
      have begun := app.moves_of_observes (app.observes_begun req s)
      rw [idle]
      exact ⟨begun.supply, begun.nonces, begun.entry⟩
  | some route =>
      obtain ⟨r, ended, served, ⟨seen, observes, refused⟩ | ⟨-, -, subject, settles⟩⟩ :=
        app.step_conducts found (app.keeps_observes s.clock req route s) (app.observes_begun req s)
      · refine ⟨r, _, served, .inl ⟨(app.moves_of_observes observes).settle, ?_⟩⟩
        rintro _ ⟨⟩
        exact refused
      · exact ⟨r, _, served, .inr ⟨route, subject, rfl, settles.concerns, settles.redeems,
          settles.moves.settle⟩⟩

/-- **Each step** writes or removes one session at most. -/
theorem step_moves (s : State) (step : Step) :
    ∃ written, s.Moves written (app.step s step).2 := by
  have settled {t : State} (supply : t.supply = s.supply) (nonces : t.nonces = s.nonces)
      (store : t.store = s.store) : s.Moves none t.settle := by
    have moves : s.Moves none t := ⟨supply, nonces ▸ Nat.le_refl _,
      fun key e held => .inl ⟨nofun, e, store ▸ held, rfl⟩⟩
    exact moves.settle
  cases step with
  | request req =>
      obtain ⟨r, after, served, ⟨moves, -⟩ | ⟨route, subject, -, settles⟩⟩ :=
        app.request_moves s req
      · exact ⟨none, by rw [served]; exact moves⟩
      · exact ⟨_, by rw [served]; exact settles.moves⟩
  | advance span => exact ⟨none, settled rfl rfl rfl⟩
  | misbehave faults => exact ⟨none, settled rfl rfl rfl⟩

/-! ## Runs -/

def after (s : State) (steps : List Step) : State :=
  steps.foldl (fun s step => (app.step s step).2) s

@[simp] theorem after_nil (s : State) : app.after s [] = s := rfl

@[simp] theorem after_cons (s : State) (step : Step) (later : List Step) :
    app.after s (step :: later) = app.after (app.step s step).2 later := rfl

theorem after_append (s : State) (steps later : List Step) :
    app.after s (steps ++ later) = app.after (app.after s steps) later :=
  List.foldl_append

/-- **A run keeps the ledger**, and what is spent when it begins is spent when it ends. -/
theorem after_keeps (s : State) (steps : List Step) (distinct : (app.after s steps).Distinct) :
    s.Distinct ∧ (s.Ledger → (app.after s steps).Ledger) ∧
      ∀ nonce, s.Spent nonce → (app.after s steps).Spent nonce := by
  induction steps generalizing s with
  | nil => exact ⟨distinct, id, fun _ => id⟩
  | cons step rest ih =>
      obtain ⟨distinct', ledger, spent⟩ := ih (app.step s step).2 distinct
      obtain ⟨written, moves⟩ := app.step_moves s step
      exact ⟨moves.distinct distinct', fun held => ledger (moves.ledger distinct' held),
        fun nonce held => spent nonce (moves.spent distinct' held)⟩

/-! ## Who is let in -/

def Answered (s : State) (req : Request) (status : Nat) : Prop :=
  ∃ r, (app.step s (.request req)).1 = some r ∧ r.status = status

/-- A token with this nonce is posted to be refreshed, and is. -/
structure Redeemed (s : State) (req : Request) (nonce : String) : Prop where
  method : req.method = "POST"
  path : req.path = "/api/auth/refresh"
  presents : app.Presents s.clock req nonce
  answered : app.Answered s req 200

def Authorized (s : State) (req : Request) (identity : Identity) : Prop :=
  ∃ p after, app.authority.present s.clock req.headers = .done p ∧
    (identifier req s).2.run app.directory (some (s.clock + app.timeout.nanos))
      (app.authority.authorize p).run = (.finished (.ok identity), after)

/-- Who is authorized shows an identity whose nonce stands in the store. -/
theorem stands_of_authorize {s after : State} {req : Request} {p : Presented} {identity : Identity}
    (ran : (identifier req s).2.run app.directory (some (s.clock + app.timeout.nanos))
      (app.authority.authorize p).run = (.finished (.ok identity), after)) :
    (∃ claims, p.identity = .ok (claims, identity)) ∧
      s.Stands (app.authority.key identity.id) identity.uid := by
  have kept := (app.keeps_observes s.clock req .profile s).run
    (some (s.clock + app.timeout.nanos)) (app.authority.transacts_authorize p [])
    (app.observes_begun req s)
  rw [ran] at kept
  obtain ⟨seen, observes, passed⟩ | ⟨_, -, ⟨_, -, impossible⟩, -⟩ := kept
  · obtain ⟨claims, stored, shown, live, rfl⟩ := passed _ rfl identity rfl
    exact ⟨⟨claims, shown⟩, observes.stands (by simp) live⟩
  · exact impossible.elim

theorem stands_of_authorized {s : State} {req : Request} {identity : Identity}
    (authorized : app.Authorized s req identity) :
    s.Stands (app.authority.key identity.id) identity.uid := by
  obtain ⟨p, after, -, ran⟩ := authorized
  exact (app.stands_of_authorize ran).2

/-- A post that is answered 200 settles with one subject. -/
theorem settles_of_answered {s : State} {req : Request} {route : Route}
    (found : Route.ofPath? req.path = some route) (posts : route.posts = true)
    (method : req.method = "POST") (answered : app.Answered s req 200) :
    ∃ subject, app.Settles s.clock req route s (app.step s (.request req)).2 subject := by
  obtain ⟨r, after, served, ⟨-, refused⟩ | ⟨route', subject, found', settles⟩⟩ :=
    app.request_moves s req
  · obtain ⟨r', served', succeeded⟩ := answered
    rw [served] at served'
    cases served'
    exact absurd succeeded (refused route found method posts)
  · cases found.symm.trans found'
    rw [served]
    exact ⟨subject, settles⟩

/-- The nonce of a token that is redeemed stands in the store, under the key of its subject. -/
theorem settles_of_redeemed {s : State} {req : Request} {nonce : String}
    (redeemed : app.Redeemed s req nonce) :
    ∃ subject, app.Settles s.clock req .refresh s (app.step s (.request req)).2 subject ∧
      s.Stands (app.authority.key subject) nonce := by
  have found : Route.ofPath? req.path = some .refresh := by
    rw [redeemed.path]
    decide
  obtain ⟨subject, settles⟩ := app.settles_of_answered found rfl redeemed.method redeemed.answered
  obtain ⟨nonce', presents, stands⟩ := settles.redeems rfl
  rw [app.presents_unique redeemed.presents presents]
  exact ⟨subject, settles, stands⟩

/-- A guarded route is answered 200 only to who is authorized. -/
theorem authorized_of_answered {s : State} {req : Request} {route : Route}
    (found : Route.ofPath? req.path = some route) (guarded : route.guarded = true)
    (method : req.method ≠ "OPTIONS") (answered : app.Answered s req 200) :
    ∃ claims identity, app.authority.Bears s.clock req.headers claims identity ∧
      app.Authorized s req identity := by
  obtain ⟨r, e, served, status⟩ := app.step_request s req
  obtain ⟨r', served', succeeded⟩ := answered
  rw [served] at served'
  obtain rfl := Option.some.inj served'
  rw [succeeded, worked, if_neg method, answerInTime, found, identifier_clock] at status
  split at status
  · exact absurd status (by decide : (200 : Nat) ≠ 408)
  obtain ⟨answer, works⟩ : ∃ answer, app.answer s.clock req route =
      (do let p ← app.authority.present s.clock req.headers; app.authority.guard p answer) := by
    cases route with
    | logout => exact ⟨_, rfl⟩
    | profile => exact ⟨_, rfl⟩
    | _ => cases guarded
  dsimp only at status
  rw [works, State.run_bind] at status
  rcases app.authority.present_cases s.clock req.headers with ⟨p, presented⟩ | ⟨c, crashed⟩
  · rw [presented] at status
    obtain ⟨identity, after, ran⟩ := Authority.authorized_of_guard _ _ answer status.symm
    obtain ⟨⟨claims, shown⟩, -⟩ := app.stands_of_authorize ran
    exact ⟨claims, identity, app.authority.bears_of_present presented shown, p, after, presented,
      ran⟩
  · rw [crashed] at status
    exact absurd status (by decide : (200 : Nat) ≠ 500)

/-- What a request has settled with is spent from then on. -/
theorem spent_of_settles {s : State} {req : Request} {route : Route} {subject : Uuid}
    (ledger : s.Ledger)
    (settles : app.Settles s.clock req route s (app.step s (.request req)).2 subject)
    {later : List Step} (distinct : (app.after s (.request req :: later)).Distinct) {nonce : String}
    (stood : s.Stands (app.authority.key subject) nonce) :
    (app.after s (.request req :: later)).Spent nonce := by
  obtain ⟨distinct', -, spent⟩ := app.after_keeps (app.step s (.request req)).2 later distinct
  exact spent nonce (settles.moves.spends distinct' ledger stood)

/-- A request is not let in for a token with this nonce: the guard does not authorize it, no guarded
route answers it 200, and it is not redeemed. -/
structure ShutsOut (s : State) (req : Request) (nonce : String) : Prop where
  authorized : ∀ identity, app.Authorized s req identity → identity.uid ≠ nonce
  answered : ∀ route claims identity, Route.ofPath? req.path = some route →
    route.guarded = true → req.method ≠ "OPTIONS" →
    app.authority.Bears s.clock req.headers claims identity → identity.uid = nonce →
      ¬ app.Answered s req 200
  redeemed : ¬ app.Redeemed s req nonce

theorem shutsOut_of_spent {s : State} {nonce : String} (spent : s.Spent nonce) (req : Request) :
    app.ShutsOut s req nonce where
  authorized identity authorized same :=
    spent.gone _ (same ▸ app.stands_of_authorized authorized)
  answered := by
    intro route claims identity found guarded method bears same answered
    obtain ⟨claims', identity', bears', authorized⟩ :=
      app.authorized_of_answered found guarded method answered
    obtain rfl := Authority.bears_unique bears bears'
    exact spent.gone _ (same ▸ app.stands_of_authorized authorized)
  redeemed redeemed := by
    obtain ⟨subject, -, stands⟩ := app.settles_of_redeemed redeemed
    exact spent.gone _ stands

/-- **Refresh tokens are single use and rotation is final.** -/
theorem rotation_final {start : State} (empty : start.store = .empty) (earlier later : List Step)
    (req last : Request)
    (distinct : (app.after start (earlier ++ .request req :: later)).Distinct) :
    let s := app.after start earlier
    let t := app.after start (earlier ++ .request req :: later)
    (∀ nonce, app.Redeemed s req nonce → ¬ app.Redeemed t last nonce) ∧
      ∀ route, Route.ofPath? req.path = some route → route.posts = true → req.method = "POST" →
        app.Answered s req 200 →
        ∃ subject, (∀ other, app.Concerns s.clock req other route ↔ other = subject) ∧
          ∀ e record slot, s.store.entry? (app.authority.key subject) = some e →
            SessionRecord.read? e.value = some record →
            app.ShutsOut t last (record.nonce slot) := by
  rw [after_append] at distinct ⊢
  intro s t
  have before := app.after_keeps s (.request req :: later) distinct
  have ledger : s.Ledger := (app.after_keeps start earlier before.1).2.1 (State.ledger_empty empty)
  refine ⟨fun nonce redeemed again => ?_, fun route found posts method answered => ?_⟩
  · obtain ⟨subject, settles, stands⟩ := app.settles_of_redeemed redeemed
    have spent := app.spent_of_settles ledger settles distinct stands
    exact (app.shutsOut_of_spent spent last).redeemed again
  · obtain ⟨subject, settles⟩ := app.settles_of_answered found posts method answered
    refine ⟨subject, fun other => ⟨fun concerns => ?_, ?_⟩, fun e record slot held read => ?_⟩
    · exact app.concerns_unique concerns settles.concerns
    · rintro rfl
      exact settles.concerns
    · have stood : s.Stands (app.authority.key subject) (record.nonce slot) :=
        ⟨e, record, slot, held, read, rfl⟩
      exact app.shutsOut_of_spent (app.spent_of_settles ledger settles distinct stood) last

/-- A second login takes the first one's refresh token out of use. -/
theorem rotation_final_second_login :
    let hash := (Password.hashed 4 (List.replicate 16 0) "correct horse").text
    let user : User := ⟨.ofNat 7, "ada@example.org", "Ada", hash⟩
    let app : Application :=
      ⟨⟨⟨.hs256, .secret .sha256, some [0x6B], some [0x6B], 2⟩, "",
        ⟨.ofSeconds 9, .ofSeconds 9, .ofSeconds 9⟩⟩, ⟨[("ada@example.org", user)]⟩, .ofSeconds 1,
        [], false⟩
    let login : Request := ⟨"POST", "/api/auth/login",
      [("content-type", Bytes.ofString "application/json")],
      Bytes.ofString
        "\x7b\"email\":\"ada@example.org\",\"password\":\"correct horse\"\x7d"⟩
    let start : State := { clock := 3000000000 }
    let first := app.after start [.request login]
    let second := app.after start [.request login, .request login]
    start.store = .empty ∧ second.Distinct ∧ app.Answered first login 200 ∧
      ∀ last, app.ShutsOut second last (Uuid.nonce 3).toText := by
  intro hash user app login start
  have path : Route.ofPath? login.path = some .login := by decide
  have accepted : LoginRequest.kind.accept login.headers login.body =
      .ok ⟨"ada@example.org", "correct horse"⟩ := by decide +kernel
  have presented (now : Instant) : app.authority.present now login.headers = .done .missing := by
    rw [Authority.present, show Credential.token? login.headers = none from by decide +kernel]
  have listed : app.directory.find? "ada@example.org" = some user :=
    Directory.find?_single (by decide +kernel) user
  have known : Password.verify "correct horse" user.passwordHash = true :=
    Password.verify_hashed (by decide) (by decide) _
  have issues : app.authority.Issues start.clock :=
    ⟨fun claims => ⟨_, Codec.encode_eq rfl rfl claims⟩, ⟨by decide, by decide⟩,
      ⟨by decide, by decide⟩, by decide, by decide⟩
  let record (s : State) : SessionRecord :=
    Authority.pairRecord (s.supply (s.nonces + 2)) (s.supply (s.nonces + 3))
  have logs {s : State} (clock : s.clock = start.clock) (calm : s.faults = {})
      (idle : ∀ p, ¬ s.Pending p) : ∃ response after,
        app.step s (.request login) = (some response, after) ∧ response.status = 200 ∧
        after.clock = s.clock ∧ after.faults = {} ∧ (∀ p, ¬ after.Pending p) ∧
        after.supply = s.supply ∧ after.nonces = s.nonces + 3 ∧
        ∃ e, after.store.entry? (sessionKey "" user.id) = some e ∧ e.value = (record s).render := by
    have begun : (identifier login s).2 = s.takeNonce := by
      rw [identifier, show login.headers.first? identifierHeader = none from by decide +kernel]
    obtain ⟨response, tally, passed, served⟩ := app.step_login (s := s) path rfl accepted
      ⟨_, presented _⟩ listed known (clock ▸ issues) (by decide) calm idle
    rw [begun] at served
    let e : Entry :=
      ⟨(record s).render, Store.deadline s.clock app.authority.lifetimes.inactivity.millis⟩
    refine ⟨response, _, served, passed, rfl, calm, idle, rfl, rfl, e, ?_, rfl⟩
    exact (Store.entry?_put _ _ _ _).trans (if_pos rfl)
  have still : ∀ p, ¬ start.Pending p := State.not_pending_of_nil rfl rfl
  obtain ⟨response, first, once, -, clock, calm, idle, supply, nonces, e, held, value⟩ :=
    logs (s := start) rfl rfl still
  obtain ⟨response', second, twice, passed, -, -, -, supply', nonces', -⟩ := logs clock calm idle
  have one : app.after start [.request login] = first := by rw [after_cons, once, after_nil]
  have two : app.after start [.request login, .request login] = second := by
    rw [after_cons, once, after_cons, twice, after_nil]
  have distinct : (app.after start [.request login, .request login]).Distinct := by
    rw [two, State.Distinct, supply', supply, nonces', nonces]
    exact (by decide : ∀ i < 6, ∀ j < 6, Uuid.nonce (i + 1) = Uuid.nonce (j + 1) → i = j)
  have answered : app.Answered (app.after start [.request login]) login 200 := by
    rw [one]
    exact ⟨response', congrArg Prod.fst twice, passed⟩
  refine ⟨rfl, distinct, answered, fun last => ?_⟩
  obtain ⟨-, final⟩ := @rotation_final app start rfl [.request login] [] login last distinct
  obtain ⟨subject, concerns, shut⟩ := final .login path rfl rfl answered
  obtain rfl := (concerns user.id).1 ⟨_, user, accepted, listed, rfl⟩
  refine shut e (record start) .refresh ?_ ?_
  · rw [one]
    exact held
  · rw [value, SessionRecord.read?_render]

end Application

end SessionAuthority

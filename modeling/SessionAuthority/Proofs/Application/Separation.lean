import SessionAuthority.Proofs.Application.Conduct
import SessionAuthority.Proofs.Commons

/-!
# Sessions are kept apart

What a service does about sessions is an errand (`Errand`): it serves a request, or it issues,
checks, prolongs or revokes a session by itself.  An errand is about the session of one owner at
most (`Errand.owner?`), a subject at the services behind a prefix, and its calls keep to the key of
that owner (`Errand.confined`), whatever the collaborators answer.  Prefixes are any texts; one may
be a whole key of another service.  Keys still tell owners apart (`Owner.key_inj`), since the end of
a key is of one length and says which subject it is, and the rest says which prefix.

So errands do not meet in the store that they share (`sessions_apart`): those of some owners, say of
one subject or of all behind one prefix, go on as if no others had a turn.
-/
set_option autoImplicit false

namespace SessionAuthority

/-! ## Each program keeps to the keys of its subject -/

section Confined

variable {directory : Directory} {own : String → Prop}

namespace Authority

variable (a : Authority)

theorem confined_mint (now : Instant) (subject : Subject) (lifetime : Span) :
    (a.mint now subject lifetime).run.Confined directory own := by
  rw [mint]
  by_cases long : longestLifetime.nanos < lifetime.nanos
  · simp only [long, if_true]
    trivial
  by_cases late : lastDateSecond < Instant.seconds (now + lifetime.nanos)
  · simp only [long, late, if_true, if_false]
    trivial
  · simp only [long, late, if_false]
    refine Action.confined_bind (Action.confined_ask (Call.within_of_none rfl)) fun nonce => ?_
    cases a.sign (tokenClaims subject nonce (now + lifetime.nanos) now) <;> trivial

theorem confined_issue (now : Instant) {subject : Subject} (owned : own (a.key subject.id)) :
    (a.issue now subject).run.Confined directory own := by
  rw [issue]
  refine Action.confined_bind (a.confined_mint now subject _) fun access => ?_
  refine Action.confined_bind (a.confined_mint now subject _) fun refresh => ?_
  refine Action.confined_bind (Action.confined_ask (Call.within_of_some rfl owned)) fun stored => ?_
  refine Action.confined_bind (Action.confined_ofStore stored) fun _ => ?_
  exact Action.confined_bind (Action.confined_ask (Call.within_of_none rfl)) fun _ => trivial

theorem confined_checkLive {claims : Claims} (slot : Slot)
    (owned : ∀ subject, claims.subject? = some subject → own (a.key subject)) :
    (a.checkLive claims slot).run.Confined directory own := by
  rw [checkLive]
  split
  · rename_i subject nonce named carried
    refine Action.confined_bind
      (Action.confined_ask (Call.within_of_some rfl (owned subject named))) fun answer => ?_
    refine Action.confined_bind (Action.confined_ofStore answer) fun stored => ?_
    split <;> trivial
  · trivial

theorem confined_prolong {subject : Uuid} (owned : own (a.key subject)) :
    (a.prolong subject).Confined directory own := by
  rw [prolong]
  refine ⟨Call.within_of_some rfl owned, fun answer _ => ?_⟩
  cases answer with
  | ok found => trivial
  | error e => exact ⟨Call.within_of_none rfl, fun _ _ => trivial⟩

theorem confined_detachProlong {subject : Uuid} (owned : own (a.key subject)) :
    (a.detachProlong subject).Confined directory own :=
  ⟨Call.within_of_some rfl owned, fun _ _ => trivial⟩

theorem confined_revoke {subject : Uuid} (owned : own (a.key subject)) :
    (a.revoke subject).run.Confined directory own := by
  rw [revoke]
  refine Action.confined_bind (Action.confined_ask (Call.within_of_some rfl owned)) fun answer => ?_
  exact Action.confined_bind (Action.confined_ofStore answer) fun _ =>
    Action.confined_ask (Call.within_of_none rfl)

/-- A login keeps to the key of the user whom the directory lists. -/
theorem confined_login (now : Instant) {r : LoginRequest}
    (owned : ∀ user, directory.find? r.email = some user → own (a.key user.id)) :
    (a.login now r).Confined directory own := by
  rw [login]
  refine ⟨Call.within_of_none rfl, fun answer fits => ?_⟩
  have refuse (why : LoginFailure) : (refuseLogin why).Confined directory own :=
    ⟨Call.within_of_none rfl, fun _ _ => trivial⟩
  cases answer with
  | error e => trivial
  | ok listed =>
      cases listed with
      | none => exact refuse .unknownIdentity
      | some user =>
          show Program.Confined directory own
            (if Password.verify r.password user.passwordHash then _ else _)
          cases Password.verify r.password user.passwordHash with
          | false => exact refuse .badPassword
          | true =>
              have issued : (a.issue now ⟨user.id, user.email⟩).run.Confined directory own :=
                a.confined_issue now (owned user fits)
              refine Program.Confined.bind issued fun result => ?_
              cases result with
              | error why => trivial
              | ok pair => exact ⟨Call.within_of_none rfl, fun _ _ => trivial⟩

/-- A refresh keeps to the key of the token's identity. -/
theorem confined_refresh (now : Instant) {r : RefreshRequest}
    (owned : ∀ claims identity, a.identify now r.token = .ok (claims, identity) →
      own (a.key identity.id)) :
    (a.refresh now r).Confined directory own := by
  have renewed : (a.renew now r.token).run.Confined directory own := by
    rw [renew]
    cases identified : a.identify now r.token with
    | refused why => trivial
    | crashed c => trivial
    | ok named =>
        obtain ⟨claims, identity⟩ := named
        have here := owned claims identity identified
        obtain ⟨subject, -⟩ := ofClaims_eq_ok (a.identify_eq_ok identified).2
        show Program.Confined directory own
          (a.checkLive claims .refresh >>= fun _ => a.issue now identity.subject).run
        refine Action.confined_bind (a.confined_checkLive .refresh fun other named => ?_) fun _ =>
          a.confined_issue now here
        obtain rfl := Option.some.inj (subject.symm.trans named)
        exact here
  rw [refresh]
  refine Program.Confined.bind renewed fun result => ?_
  cases result with
  | ok pair => exact ⟨Call.within_of_none rfl, fun _ _ => trivial⟩
  | error why =>
      exact ⟨Call.within_of_none rfl, fun _ _ => ⟨Call.within_of_none rfl, fun _ _ => trivial⟩⟩

/-- The guard, and what stands behind it, keep to the key of the identity that is shown. -/
theorem confined_guard {p : Presented} {answer : Identity → Program Response}
    (owned : ∀ claims identity, p.identity = .ok (claims, identity) → own (a.key identity.id))
    (inside : ∀ identity, own (a.key identity.id) → (answer identity).Confined directory own) :
    (a.guard p answer).Confined directory own := by
  rw [guard, authorize]
  cases shown : p.identity with
  | error why => exact ⟨Call.within_of_none rfl, fun _ _ => trivial⟩
  | ok named =>
      obtain ⟨claims, identity⟩ := named
      have here := owned claims identity shown
      obtain ⟨subject, -⟩ := ofClaims_eq_ok (Presented.ofClaims_of_identity shown)
      have checked : (a.checkLive claims .access).run.Confined directory own := by
        refine a.confined_checkLive .access fun other named => ?_
        obtain rfl := Option.some.inj (subject.symm.trans named)
        exact here
      dsimp only
      rw [ExceptT.run_bind, bind_assoc]
      refine checked.bind fun result => ?_
      cases result with
      | error why => exact ⟨Call.within_of_none rfl, fun _ _ => trivial⟩
      | ok passed =>
          show Program.Confined directory own
            (a.detachProlong identity.id >>= fun _ => answer identity)
          exact (a.confined_detachProlong here).bind fun _ => inside identity here

/-- What a request shows of a token is found out without a call. -/
theorem confined_present (now : Instant) (headers : Headers) {f : Presented → Program Response}
    (rest : ∀ p, a.present now headers = .done p → (f p).Confined directory own) :
    (a.present now headers >>= f).Confined directory own := by
  rcases a.present_cases now headers with ⟨p, presented⟩ | ⟨c, crashed⟩
  · rw [presented]
    exact rest p presented
  · rw [crashed]
    trivial

end Authority

namespace Application

variable (app : Application)

theorem confined_onMethod {route : Route} {req : Request} {p : Program Response}
    (confined : p.Confined directory own) : (onMethod route req p).Confined directory own := by
  rw [onMethod]
  split
  · exact confined
  · trivial

theorem confined_onBody {γ : Type} {kind : BodyKind γ} {req : Request}
    {exchange : γ → Program (Except ApiError TokenPair)}
    (confined : ∀ a, kind.accept req.headers req.body = .ok a →
      (exchange a).Confined directory own) :
    (onBody kind req exchange).Confined directory own := by
  rw [onBody]
  split
  · trivial
  · rename_i a accepted
    exact (confined a accepted).bind fun _ => trivial

theorem confined_profile (identity : Identity) : (profile identity).Confined directory own :=
  ⟨Call.within_of_none rfl, fun _ _ => trivial⟩

theorem confined_logout {identity : Identity} (owned : own (app.authority.key identity.id)) :
    (app.logout identity).Confined directory own := by
  rw [logout]
  refine Program.Confined.bind (app.authority.confined_revoke owned) fun result => ?_
  cases result <;> trivial

/-- Whose session a request is about: that of the user who is listed under the email, or that of the
identity in the token. -/
def subject? (now : Instant) (req : Request) : Route → Option Uuid
  | .login => do
      let r ← (LoginRequest.kind.accept req.headers req.body).toOption
      let user ← app.directory.find? r.email
      pure user.id
  | .refresh => do
      let r ← (RefreshRequest.kind.accept req.headers req.body).toOption
      match app.authority.identify now r.token with
      | .ok (_, identity) => some identity.id
      | _ => none
  | .logout | .profile =>
      match app.authority.present now req.headers with
      | .done p => p.identity.toOption.map fun named => named.2.id
      | _ => none
  | _ => none

theorem subject?_of_guarded {now : Instant} {req : Request} {route : Route}
    (guarded : route.guarded = true) {p : Presented}
    (presented : app.authority.present now req.headers = .done p) {claims : Claims}
    {identity : Identity} (shown : p.identity = .ok (claims, identity)) :
    app.subject? now req route = some identity.id := by
  cases route with
  | logout => simp only [subject?, presented, shown, Except.toOption, Option.map_some]
  | profile => simp only [subject?, presented, shown, Except.toOption, Option.map_some]
  | _ => cases guarded

variable {app}

/-- **A request** keeps to the key of its subject. -/
theorem confined_answer {now : Instant} {req : Request} {route : Route}
    (owned : ∀ subject, app.subject? now req route = some subject →
      own (app.authority.key subject)) :
    (app.answer now req route).Confined app.directory own := by
  cases route with
  | health => exact confined_onMethod trivial
  | document => exact confined_onMethod trivial
  | metrics =>
      refine confined_onMethod ?_
      rw [metrics]
      split
      · exact ⟨Call.within_of_none rfl, fun _ _ => trivial⟩
      · trivial
  | status =>
      exact app.authority.confined_present now req.headers fun p _ => confined_onMethod trivial
  | login =>
      refine app.authority.confined_present now req.headers fun p _ => ?_
      refine confined_onMethod (confined_onBody fun r accepted => ?_)
      refine app.authority.confined_login now fun user listed => owned user.id ?_
      simp only [subject?, accepted, listed, Except.toOption, Option.bind_eq_bind, Option.bind_some]
      rfl
  | refresh =>
      refine app.authority.confined_present now req.headers fun p _ => ?_
      refine confined_onMethod (confined_onBody fun r accepted => ?_)
      refine app.authority.confined_refresh now fun claims identity identified =>
        owned identity.id ?_
      simp only [subject?, accepted, identified, Except.toOption, Option.bind_eq_bind,
        Option.bind_some]
  | logout =>
      refine app.authority.confined_present now req.headers fun p presented => ?_
      refine app.authority.confined_guard (fun claims identity shown =>
        owned identity.id (app.subject?_of_guarded rfl presented shown)) fun identity here => ?_
      exact confined_onMethod (app.confined_logout here)
  | profile =>
      refine app.authority.confined_present now req.headers fun p presented => ?_
      refine app.authority.confined_guard (fun claims identity shown =>
        owned identity.id (app.subject?_of_guarded rfl presented shown)) fun identity _ => ?_
      exact confined_onMethod (confined_profile identity)

end Application

end Confined

/-! ## Errands and their owners -/

/-- Whose a session is: a subject's at the services behind a prefix. -/
structure Owner where
  keyPrefix : String
  subject : Uuid
  deriving DecidableEq, Repr

def Owner.key (o : Owner) : String := sessionKey o.keyPrefix o.subject

theorem Owner.key_inj {o o' : Owner} : o.key = o'.key ↔ o = o' := by
  obtain ⟨pre, subject⟩ := o
  obtain ⟨pre', subject'⟩ := o'
  exact sessionKey_eq_iff.trans (Owner.mk.injEq pre subject pre' subject' ▸ Iff.rfl)

/-- What a service does: it serves a request, or does one thing about a session by itself. -/
inductive Errand where
  | request (app : Application) (now : Instant) (req : Request) (route : Route)
  | issue (a : Authority) (now : Instant) (subject : Subject)
  | check (a : Authority) (claims : Claims) (slot : Slot)
  | prolong (a : Authority) (subject : Uuid)
  | revoke (a : Authority) (subject : Uuid)

namespace Errand

abbrev Result : Errand → Type
  | request _ _ _ _ => Response
  | issue _ _ _ => Except AuthError TokenPair
  | check _ _ _ => Except AuthError Unit
  | prolong _ _ => Unit
  | revoke _ _ => Except AuthError Unit

def program : (e : Errand) → Program e.Result
  | request app now req route => app.answer now req route
  | issue a now subject => (a.issue now subject).run
  | check a claims slot => (a.checkLive claims slot).run
  | prolong a subject => a.prolong subject
  | revoke a subject => (a.revoke subject).run

def directory : Errand → Directory
  | request app _ _ _ => app.directory
  | _ => .empty

/-- Whose session an errand is about; it is about none without a subject. -/
def owner? : Errand → Option Owner
  | request app now req route =>
      (app.subject? now req route).map fun subject => ⟨app.authority.keyPrefix, subject⟩
  | issue a _ subject => some ⟨a.keyPrefix, subject.id⟩
  | check a claims _ => claims.subject?.map fun subject => ⟨a.keyPrefix, subject⟩
  | prolong a subject => some ⟨a.keyPrefix, subject⟩
  | revoke a subject => some ⟨a.keyPrefix, subject⟩

/-- **An errand** keeps to the key of its owner. -/
theorem confined {e : Errand} {own : String → Prop}
    (owned : ∀ o, e.owner? = some o → own o.key) : e.program.Confined e.directory own := by
  cases e with
  | request app now req route =>
      exact Application.confined_answer fun subject about =>
        owned ⟨app.authority.keyPrefix, subject⟩ (congrArg (Option.map _) about)
  | issue a now subject => exact a.confined_issue now (owned _ rfl)
  | check a claims slot =>
      exact a.confined_checkLive slot fun subject about =>
        owned ⟨a.keyPrefix, subject⟩ (congrArg (Option.map _) about)
  | prolong a subject => exact a.confined_prolong (owned _ rfl)
  | revoke a subject => exact a.confined_revoke (owned _ rfl)

variable {ι : Type}

/-- Errands over one store, none of them begun. -/
def sharing (work : ι → Errand) (store : Store) : Commons ι fun i => (work i).Result :=
  ⟨store, fun i => ⟨some (work i).program, []⟩⟩

/-- The errands of some owners keep to these owners' keys, and all others keep off them. -/
theorem parted_sharing [DecidableEq ι] (work : ι → Errand) (store : Store) (chosen : Owner → Bool) :
    (sharing work store).Parted (fun i => (work i).directory)
      (fun i => (work i).owner?.any chosen) fun key => ∃ o, chosen o = true ∧ key = o.key := by
  have begun {own : String → Prop} (i : ι) (owned : ∀ o, (work i).owner? = some o → own o.key) :
      ((sharing work store).workers i).Confined (work i).directory own := by
    refine ⟨fun p left => ?_, fun p member => absurd member List.not_mem_nil⟩
    obtain rfl := Option.some.inj left
    exact confined owned
  constructor
  · intro i mine
    refine begun i fun o about => ⟨o, ?_, rfl⟩
    rw [about, Option.any_some] at mine
    exact mine
  · intro i other
    refine begun i fun o about => ?_
    rintro ⟨o', member, same⟩
    obtain rfl := Owner.key_inj.1 same
    rw [about, Option.any_some, member] at other
    cases other

end Errand

/-- **No session is shared.**  Keys are the same only for one prefix and one subject; so the calls
of an errand are about the session of its owner alone, and whatever errands of whatever owners are
under way over one store, those of some owners come to the same, and find and leave the same under
their keys, as if no others had a turn. -/
theorem sessions_apart {ι : Type} [DecidableEq ι] :
    (∀ (p q : String) (u v : Uuid), sessionKey p u = sessionKey q v → p = q ∧ u = v) ∧
      (∀ e : Errand, e.program.Confined e.directory fun key => e.owner?.map Owner.key = some key) ∧
      ∀ (work : ι → Errand) (store : Store) (turns : List (Commons.Turn ι)) (chosen : Owner → Bool),
        let run := (Errand.sharing work store).run fun i => (work i).directory
        let mine (i : ι) : Bool := (work i).owner?.any chosen
        let shared := run turns
        let alone := run (turns.filter fun turn => mine turn.who)
        (∀ i, mine i = true → shared.workers i = alone.workers i) ∧
          ∀ o, chosen o = true → shared.store.entry? o.key = alone.store.entry? o.key := by
  refine ⟨fun p q u v => sessionKey_eq_iff.1, fun e => ?_, fun work store turns chosen => ?_⟩
  · exact Errand.confined fun o about => congrArg (Option.map Owner.key) about
  · intro run mine shared alone
    have parted := Errand.parted_sharing work store chosen
    obtain ⟨workers, agree⟩ := parted.level_run ⟨fun _ _ => rfl, fun _ _ => rfl⟩ turns
    exact ⟨workers, fun o member => agree o.key ⟨o, member, rfl⟩⟩

/-- A service whose prefix is a whole key of another service revokes a session of the same subject:
its own is gone, the other's is where it was. -/
theorem sessions_apart_imitated :
    let a : Authority := ⟨⟨.hs256, .secret .sha256, some [0x6B], none, 0⟩, "",
      ⟨.ofSeconds 60, .ofSeconds 60, .ofMillis 2⟩⟩
    let b : Authority := { a with keyPrefix := a.key (.ofNat 7) }
    let store := (Store.empty.put (a.key (.ofNat 7)) ⟨[1], 2⟩).put (b.key (.ofNat 7)) ⟨[1], 2⟩
    let after := (Errand.sharing (fun _ : Unit => .revoke b (.ofNat 7)) store).run
      (fun _ => .empty) [.proceed () { clock := 1 } none]
    after.store.entry? (a.key (.ofNat 7)) = some ⟨[1], 2⟩ ∧
      after.store.entry? (b.key (.ofNat 7)) = none := by
  intro a b store after
  let chosen (o : Owner) : Bool := o = ⟨"", .ofNat 7⟩
  have other : (Errand.revoke b (.ofNat 7)).owner?.any chosen = false := by decide +kernel
  have apart := (sessions_apart.2.2 (fun _ : Unit => .revoke b (.ofNat 7)) store
    [.proceed () { clock := 1 } none] chosen).2 ⟨"", .ofNat 7⟩ rfl
  simp only [List.filter_cons, other, Bool.false_eq_true, if_false, List.filter_nil] at apart
  refine ⟨apart.trans ?_, by decide +kernel⟩
  decide +kernel

end SessionAuthority

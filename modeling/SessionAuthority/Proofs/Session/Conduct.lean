import SessionAuthority.Proofs.Session.Runs
import SessionAuthority.Proofs.Transaction

/-!
# The authority's programs write once, at the end

What each program of the authority may write, and what it has seen before it does: an issue writes
the record of the two nonces that it took itself (`transacts_issue`), a check writes nothing and
passes only what the store holds (`transacts_checkLive`), a revocation removes the record of its
subject (`transacts_revoke`).  None of them is refused after it has written.
-/
set_option autoImplicit false

namespace SessionAuthority.Authority

variable (a : Authority) {l : Licence}

/-- A token takes a nonce and writes nothing. -/
theorem transacts_mint (now : Instant) (subject : Subject) (lifetime : Span) (seen : List Seen) :
    Action.Transacts l (fun seen' token => seen' = seen ++ [.nonce token.nonce])
      (fun _ => False) seen (a.mint now subject lifetime) := by
  rw [mint]
  by_cases long : longestLifetime.nanos < lifetime.nanos
  · simp only [long, if_true]
    exact Action.transacts_throw
  by_cases late : lastDateSecond < Instant.seconds (now + lifetime.nanos)
  · simp only [long, late, if_true, if_false]
    exact trivial
  · simp only [long, late, if_false]
    refine Action.Transacts.ask trivial fun nonce => ?_
    show Action.Transacts l _ _ (seen ++ [.nonce nonce]) _
    cases a.sign (tokenClaims subject nonce (now + lifetime.nanos) now) with
    | ok text => exact Action.transacts_pure rfl
    | error e => exact Action.transacts_throw

def pairRecord (access refresh : Uuid) : SessionRecord := ⟨access.toText, refresh.toText⟩

/-- **An issue** ends with a pair only after it has written the record of two nonces that it took
itself. -/
theorem transacts_issue (now : Instant) (subject : Subject) {seen : List Seen}
    (licensed : ∀ access refresh, l.set (seen ++ [.nonce access] ++ [.nonce refresh])
      (a.key subject.id) (pairRecord access refresh).render a.lifetimes.inactivity) :
    Action.Transacts l (fun _ _ => False) (fun _ => True) seen (a.issue now subject) := by
  rw [issue]
  refine (a.transacts_mint now subject _ seen).bind ?_ fun _ => False.elim
  rintro _ access rfl
  refine (a.transacts_mint now subject _ _).bind ?_ fun _ => False.elim
  rintro _ refresh rfl
  refine Action.Transacts.ask (licensed access.nonce refresh.nonce) fun stored => ?_
  cases stored with
  | ok done => exact ⟨⟨_, rfl⟩, fun _ => ⟨_, rfl, trivial⟩⟩
  | error e => exact Action.transacts_throw

/-- **A check** passes only claims whose nonce stands in what the store has under their subject's
key. -/
theorem transacts_checkLive {claims : Claims} {subject : Uuid} {nonce : String}
    (named : claims.subject? = some subject) (carried : claims.uid? = some nonce) (slot : Slot)
    (seen : List Seen) :
    Action.Transacts l (fun seen' _ => ∃ stored,
        seen' = seen ++ [.stored (a.key subject) stored] ∧ isLive stored slot nonce = true)
      (fun _ => False) seen (a.checkLive claims slot) := by
  rw [checkLive, named, carried]
  refine Action.Transacts.ask trivial fun answer => ?_
  cases answer with
  | error e => exact Action.transacts_throw
  | ok stored =>
      show Action.Transacts l _ _ (seen ++ [.stored (a.key subject) stored])
        (if isLive stored slot nonce then pure () else throw .noActiveSession)
      cases live : isLive stored slot nonce with
      | true => exact Action.transacts_pure ⟨stored, rfl, live⟩
      | false => exact Action.transacts_throw

/-- **A revocation** succeeds only after it has removed the subject's record. -/
theorem transacts_revoke {subject : Uuid} {seen : List Seen}
    (licensed : l.delete seen (a.key subject)) :
    Action.Transacts l (fun _ _ => False) (fun _ => True) seen (a.revoke subject) := by
  rw [revoke]
  refine Action.Transacts.ask licensed fun answer => ?_
  cases answer with
  | ok done => exact ⟨⟨_, rfl⟩, fun _ => ⟨_, rfl, trivial⟩⟩
  | error e => exact Action.transacts_throw

end SessionAuthority.Authority

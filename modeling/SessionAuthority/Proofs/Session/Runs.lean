import SessionAuthority.Proofs.State
import SessionAuthority.Proofs.Store
import SessionAuthority.Session.Authority

/-!
# What the authority's programs do

One lemma for each: how the program ends and what is left behind, as long as no collaborator
misbehaves.  A token is made just if its lifetime can be kept (`lifetime_cases`) and its claims are
signed (`run_mint_of_mintable`).  An issue either ends with a pair, and then the subject's entry is
the record of the two nonces that it took (`run_issue`), or it leaves all entries alone.
-/
set_option autoImplicit false

namespace SessionAuthority

/-- An action ends, but not with a result. -/
def Ending.Missed {α : Type} (ending : Ending (Except AuthError α)) : Prop :=
  ∀ a, ending ≠ .finished (.ok a)

theorem Ending.missed_error {α : Type} (e : AuthError) :
    Missed (.finished (.error e) : Ending (Except AuthError α)) := by
  intro a same
  cases same

theorem Ending.missed_crashed {α : Type} (c : Crash) :
    Missed (.crashed c : Ending (Except AuthError α)) := by
  intro a same
  cases same

theorem Ending.missed_abandoned {α : Type} :
    Missed (.abandoned : Ending (Except AuthError α)) := by
  intro a same
  cases same

/-- An action that misses its result is not gone on with. -/
theorem Ending.andThenOk_missed {α β : Type} {ending : Ending (Except AuthError α)}
    (missed : ending.Missed) (s : State)
    (next : α → State → Ending (Except AuthError β) × State) :
    ∃ after : Ending (Except AuthError β), andThenOk (ending, s) next = (after, s) ∧
      after.Missed := by
  rcases ending with (e | a) | c | _
  · exact ⟨_, rfl, missed_error e⟩
  · exact absurd rfl (missed a)
  · exact ⟨_, rfl, missed_crashed c⟩
  · exact ⟨_, rfl, missed_abandoned⟩

namespace Authority

variable (a : Authority) (directory : Directory) (deadline : Option Instant)

/-! ## One token -/

def Mintable (now : Instant) (lifetime : Span) : Prop :=
  lifetime.nanos ≤ longestLifetime.nanos ∧
    Instant.seconds (now + lifetime.nanos) ≤ lastDateSecond

def TooLong (lifetime : Span) : Prop := longestLifetime.nanos < lifetime.nanos

/-- A lifetime could be added to a date, but there is none that far from this instant. -/
def Overruns (now : Instant) (lifetime : Span) : Prop :=
  lifetime.nanos ≤ longestLifetime.nanos ∧
    lastDateSecond < Instant.seconds (now + lifetime.nanos)

def outOfRange : AuthError :=
  .internal ("token lifetime out of range: " ++
    "Source duration value is out of range for the target type")

/-- Every lifetime is too long, or overruns the calendar, or can be kept. -/
theorem lifetime_cases (now : Instant) (lifetime : Span) :
    TooLong lifetime ∨ Overruns now lifetime ∨ Mintable now lifetime := by
  unfold TooLong Overruns Mintable
  omega

/-- Claims are signed as by the codec, or the failure is an internal one. -/
theorem sign_cases (claims : Claims) :
    (∃ text, a.codec.encode claims = .ok text ∧ a.sign claims = .ok text) ∨
      (∀ text, a.codec.encode claims ≠ .ok text) ∧
        ∃ detail, a.sign claims = .error (.internal detail) := by
  rw [sign]
  cases a.codec.encode claims with
  | ok text => exact .inl ⟨text, rfl, rfl⟩
  | error e =>
      have unsigned (text : String) : Except.error e ≠ .ok text := by
        intro same
        cases same
      cases e <;> exact .inr ⟨unsigned, _, rfl⟩

section Mint

variable {now : Instant} {lifetime : Span} (subject : Subject) (s : State)

theorem run_mint_of_tooLong (long : TooLong lifetime) :
    s.run directory deadline (a.mint now subject lifetime).run =
      (.finished (.error outOfRange), s) := by
  have long : longestLifetime.nanos < lifetime.nanos := long
  rw [mint]
  simp only [long, if_true, State.run_action_bind, State.run_action_throw, Ending.andThenOk_error,
    outOfRange]

theorem run_mint_of_overruns (overruns : Overruns now lifetime) :
    s.run directory deadline (a.mint now subject lifetime).run = (.crashed .dateRange, s) := by
  have crash : s.run directory deadline (ExceptT.lift (.crash .dateRange) : Action PUnit).run =
      (.crashed .dateRange, s) := rfl
  rw [mint]
  simp only [Nat.not_lt.2 overruns.1, overruns.2, if_true, if_false, State.run_action_bind, crash,
    Ending.andThenOk_crashed]

/-- A lifetime that can be kept takes a nonce, and the token is made if its claims are signed. -/
theorem run_mint_of_mintable (mintable : Mintable now lifetime) :
    s.run directory deadline (a.mint now subject lifetime).run =
      (.finished ((a.sign (tokenClaims subject s.nextNonce (now + lifetime.nanos) now)).map
        fun text => ⟨text, s.nextNonce, now + lifetime.nanos⟩), s.takeNonce) := by
  rw [mint]
  simp only [Nat.not_lt.2 mintable.1, Nat.not_lt.2 mintable.2, if_false, State.run_action_bind]
  rw [State.run_nonce, Ending.andThenOk_ok]
  cases a.sign (tokenClaims subject s.nextNonce (now + lifetime.nanos) now) <;> rfl

theorem run_mint_of_encoded (mintable : Mintable now lifetime) {text : String}
    (encoded : a.codec.encode (tokenClaims subject s.nextNonce (now + lifetime.nanos) now) =
      .ok text) :
    s.run directory deadline (a.mint now subject lifetime).run =
      (.finished (.ok ⟨text, s.nextNonce, now + lifetime.nanos⟩), s.takeNonce) := by
  rw [a.run_mint_of_mintable directory deadline subject s mintable, sign, encoded]
  rfl

end Mint

/-- A token takes the next nonce, or there is none. -/
theorem run_mint (now : Instant) (subject : Subject) (lifetime : Span) (s : State) :
    (∃ token, s.run directory deadline (a.mint now subject lifetime).run =
        (.finished (.ok token), s.takeNonce) ∧ token.nonce = s.nextNonce) ∨
      ∃ ending after, s.run directory deadline (a.mint now subject lifetime).run =
        (ending, after) ∧ ending.Missed ∧ (after = s ∨ after = s.takeNonce) := by
  rcases lifetime_cases now lifetime with long | overruns | mintable
  · rw [a.run_mint_of_tooLong directory deadline subject s long]
    exact .inr ⟨_, _, rfl, Ending.missed_error _, .inl rfl⟩
  · rw [a.run_mint_of_overruns directory deadline subject s overruns]
    exact .inr ⟨_, _, rfl, Ending.missed_crashed _, .inl rfl⟩
  · rw [a.run_mint_of_mintable directory deadline subject s mintable]
    cases a.sign (tokenClaims subject s.nextNonce (now + lifetime.nanos) now) with
    | ok text => exact .inl ⟨_, rfl, rfl⟩
    | error e => exact .inr ⟨_, _, rfl, Ending.missed_error e, .inr rfl⟩

/-! ## Issue -/

def nextRecord (s : State) : SessionRecord :=
  ⟨s.nextNonce.toText, s.takeNonce.nextNonce.toText⟩

def issued (s : State) (subject : Uuid) : State :=
  { s.takeNonce.takeNonce with
    store := s.store.put (a.key subject)
      ⟨(nextRecord s).render, Store.deadline s.clock a.lifetimes.inactivity.millis⟩
    tally := .pairIssued :: s.tally }

/-- An issue whose tokens are made ends with them, and with the record of their nonces stored. -/
theorem run_issue_of_minted {s : State} (calm : s.faults = {})
    (takes : Store.Takes a.lifetimes.inactivity) {now : Instant} {subject : Subject}
    {access refresh : Token}
    (first : s.run directory deadline (a.mint now subject a.lifetimes.access).run =
      (.finished (.ok access), s.takeNonce) ∧ access.nonce = s.nextNonce)
    (second : s.takeNonce.run directory deadline (a.mint now subject a.lifetimes.refresh).run =
      (.finished (.ok refresh), s.takeNonce.takeNonce) ∧ refresh.nonce = s.takeNonce.nextNonce) :
    s.run directory deadline (a.issue now subject).run =
      (.finished (.ok ⟨access.text, refresh.text, access.expiry⟩), a.issued s subject.id) := by
  have still : s.takeNonce.takeNonce.faults = {} := calm
  have kept := Store.set_eq takes s.store s.clock (a.key subject.id) (nextRecord s).render
  have stored := State.run_set_of_calm directory deadline still kept
  have record : (⟨access.nonce.toText, refresh.nonce.toText⟩ : SessionRecord) =
      nextRecord s := by rw [first.2, second.2]; rfl
  rw [issue]
  simp only [State.run_action_bind]
  rw [first.1, Ending.andThenOk_ok, second.1, Ending.andThenOk_ok, record, stored,
    Ending.andThenOk_ok, State.run_ofStore_ok, Ending.andThenOk_ok, State.run_count,
    Ending.andThenOk_ok, State.run_action_pure]
  rfl

/-- **An issue** replaces the subject's entry by the record of its nonces, or fails and changes
nothing but the supply of nonces. -/
theorem run_issue {s : State} (calm : s.faults = {}) (takes : Store.Takes a.lifetimes.inactivity)
    (now : Instant) (subject : Subject) :
    (∃ pair, s.run directory deadline (a.issue now subject).run =
        (.finished (.ok pair), a.issued s subject.id)) ∨
      ∃ ending nonces, s.run directory deadline (a.issue now subject).run =
        (ending, { s with nonces }) ∧ ending.Missed := by
  rcases a.run_mint directory deadline now subject a.lifetimes.access s with
    ⟨access, ran, first⟩ | ⟨ending, after, ran, missed, left⟩
  · rcases a.run_mint directory deadline now subject a.lifetimes.refresh s.takeNonce with
      ⟨refresh, ran', second⟩ | ⟨ending, after, ran', missed, left⟩
    · exact .inl ⟨_, a.run_issue_of_minted directory deadline calm takes ⟨ran, first⟩
        ⟨ran', second⟩⟩
    · right
      rw [issue]
      simp only [State.run_action_bind]
      obtain ⟨ending, ends, missed⟩ := Ending.andThenOk_missed missed after _
      rw [ran, Ending.andThenOk_ok, ran', ends]
      rcases left with rfl | rfl
      · exact ⟨ending, s.nonces + 1, rfl, missed⟩
      · exact ⟨ending, s.nonces + 2, rfl, missed⟩
  · right
    rw [issue]
    simp only [State.run_action_bind]
    obtain ⟨ending, ends, missed⟩ := Ending.andThenOk_missed missed after _
    rw [ran, ends]
    rcases left with rfl | rfl
    · exact ⟨ending, after.nonces, rfl, missed⟩
    · exact ⟨ending, s.nonces + 1, rfl, missed⟩

/-- An authority can issue at an instant: its codec signs, and its lifetimes can be kept. -/
structure Issues (now : Instant) : Prop where
  signs : ∀ claims, ∃ text, a.codec.encode claims = .ok text
  access : Mintable now a.lifetimes.access
  refresh : Mintable now a.lifetimes.refresh
  inactivity : Store.Takes a.lifetimes.inactivity

/-- **An authority that can issue does.** -/
theorem run_issue_of_issues {s : State} (calm : s.faults = {}) {now : Instant}
    (issues : a.Issues now) (subject : Subject) :
    ∃ pair, s.run directory deadline (a.issue now subject).run =
      (.finished (.ok pair), a.issued s subject.id) := by
  obtain ⟨_, encoded⟩ := issues.signs
    (tokenClaims subject s.nextNonce (now + a.lifetimes.access.nanos) now)
  obtain ⟨_, encoded'⟩ := issues.signs
    (tokenClaims subject s.takeNonce.nextNonce (now + a.lifetimes.refresh.nanos) now)
  have first := a.run_mint_of_encoded directory deadline subject s issues.access encoded
  have second :=
    a.run_mint_of_encoded directory deadline subject s.takeNonce issues.refresh encoded'
  exact ⟨_, a.run_issue_of_minted directory deadline calm issues.inactivity ⟨first, rfl⟩
    ⟨second, rfl⟩⟩

/-! ## Verification -/

/-- The record of a subject's session, if the session is live and its record can be read. -/
def liveRecord? (s : State) (subject : Uuid) : Option SessionRecord :=
  (s.store.live? s.clock (a.key subject)).bind fun e => SessionRecord.read? e.value

/-- Claims carry the nonce that their subject's live session has in a slot. -/
def Holds (s : State) (claims : Claims) (slot : Slot) : Prop :=
  ∃ subject record, claims.subject? = some subject ∧ a.liveRecord? s subject = some record ∧
    claims.uid? = some (record.nonce slot)

theorem isLive_iff {stored : Option Bytes} {slot : Slot} {nonce : String} :
    isLive stored slot nonce = true ↔
      ∃ record, stored.bind SessionRecord.read? = some record ∧ nonce = record.nonce slot := by
  rw [isLive]
  cases stored.bind SessionRecord.read? with
  | none => simp
  | some record =>
      constructor
      · intro same
        exact ⟨record, rfl, (beq_iff_eq.1 same).symm⟩
      · rintro ⟨_, same, rfl⟩
        cases same
        exact beq_self_eq_true _

def checked (got : Except StoreError (Option Bytes)) (slot : Slot) (nonce : String) :
    Except AuthError Unit :=
  match got with
  | .ok stored => if isLive stored slot nonce then .ok () else .error .noActiveSession
  | .error e => .error (.internal ("session store: " ++ e.message))

/-- A check is one question to the store. -/
theorem run_checkLive_of_named {claims : Claims} {subject : Uuid} {nonce : String}
    (named : claims.subject? = some subject) (carried : claims.uid? = some nonce) (slot : Slot)
    (s : State) :
    s.run directory deadline (a.checkLive claims slot).run =
      Ending.andThen (s.answer directory deadline (.get (a.key subject))) fun got s =>
        (.finished (checked got slot nonce), s) := by
  rw [checkLive, named, carried]
  simp only [State.run_action_bind]
  rw [State.run_action_ask directory deadline (.get (a.key subject))]
  rcases s.answer directory deadline (.get (a.key subject)) with ⟨got | c | _, s⟩
  · cases got with
    | ok stored =>
        simp only [Ending.andThen_finished, Ending.andThenOk_ok, State.run_ofStore_ok, checked]
        split <;> rfl
    | error e => rfl
  · rfl
  · rfl

/-- Claims that name nobody, or carry no nonce, are not looked up. -/
theorem checkLive_of_missing {claims : Claims}
    (missing : claims.subject? = none ∨ claims.uid? = none) (slot : Slot) :
    a.checkLive claims slot = throw .noActiveSession := by
  rw [checkLive]
  split
  · rename_i subject nonce named carried
    rcases missing with absent | absent
    · rw [absent] at named; cases named
    · rw [absent] at carried; cases carried
  · rfl

theorem holds_iff_isLive {s : State} {claims : Claims} {subject : Uuid} {nonce : String}
    (named : claims.subject? = some subject) (carried : claims.uid? = some nonce) (slot : Slot) :
    a.Holds s claims slot ↔ isLive (s.store.get s.clock (a.key subject)).1 slot nonce = true := by
  obtain ⟨after, answered, -⟩ := s.store.get_eq s.clock (a.key subject)
  rw [isLive_iff, answered, Option.bind_map]
  constructor
  · rintro ⟨other, record, named', live, carried'⟩
    obtain rfl := Option.some.inj (named.symm.trans named')
    exact ⟨record, live, Option.some.inj (carried.symm.trans carried')⟩
  · rintro ⟨record, live, rfl⟩
    exact ⟨subject, record, named, live, carried⟩

/-- A check looks at the octets that are live under the key, and at nothing else. -/
theorem run_checkLive_of_entry {s : State} (working : s.faults.get = .none) {claims : Claims}
    {subject : Uuid} {nonce : String} (named : claims.subject? = some subject)
    (carried : claims.uid? = some nonce) {entry : Entry}
    (held : s.store.live? s.clock (a.key subject) = some entry) (slot : Slot) :
    (s.run directory deadline (a.checkLive claims slot).run).1 =
      .finished
        (if isLive (some entry.value) slot nonce then .ok () else .error .noActiveSession) := by
  obtain ⟨after, got, -⟩ := s.store.get_eq s.clock (a.key subject)
  rw [a.run_checkLive_of_named directory deadline named carried,
    State.answer_get_of_working directory deadline working, got, held, Option.map_some,
    Ending.andThen_finished]
  rfl

/-- **A check** passes just the claims that hold, and whatever it says changes nothing that is
live. -/
theorem run_checkLive {s : State} (calm : s.faults = {}) (claims : Claims) (slot : Slot) :
    ∃ store, (∀ key, store.live? s.clock key = s.store.live? s.clock key) ∧
      (a.Holds s claims slot ∧ s.run directory deadline (a.checkLive claims slot).run =
          (.finished (.ok ()), { s with store }) ∨
        ¬ a.Holds s claims slot ∧ s.run directory deadline (a.checkLive claims slot).run =
          (.finished (.error .noActiveSession), { s with store })) := by
  cases named : claims.subject? with
  | none =>
      refine ⟨s.store, fun _ => rfl, .inr ⟨?_, ?_⟩⟩
      · rintro ⟨subject, record, named', -⟩
        rw [named] at named'
        cases named'
      · rw [a.checkLive_of_missing (.inl named) slot]
        rfl
  | some subject =>
      cases carried : claims.uid? with
      | none =>
          refine ⟨s.store, fun _ => rfl, .inr ⟨?_, ?_⟩⟩
          · rintro ⟨subject, record, -, -, carried'⟩
            rw [carried] at carried'
            cases carried'
          · rw [a.checkLive_of_missing (.inr carried) slot]
            rfl
      | some nonce =>
          obtain ⟨after, got, same⟩ := s.store.get_eq s.clock (a.key subject)
          have working : s.faults.get = .none := by rw [calm]
          have answered := State.answer_get_of_working directory deadline working (a.key subject)
          have decided := a.holds_iff_isLive named carried slot (s := s)
          refine ⟨after, same, ?_⟩
          rw [decided, a.run_checkLive_of_named directory deadline named carried, answered,
            Ending.andThen_finished, checked, got]
          cases isLive ((s.store.live? s.clock (a.key subject)).map (·.value)) slot nonce with
          | true => exact .inl ⟨rfl, rfl⟩
          | false => exact .inr ⟨Bool.false_ne_true, rfl⟩

/-! ## The life of a session -/

/-- **A prolongation** starts the time of the subject's entry again, if that is live. -/
theorem run_prolong {s : State} (calm : s.faults = {}) (takes : Store.Takes a.lifetimes.inactivity)
    (subject : Uuid) :
    ∃ store, s.run directory deadline (a.prolong subject) = (.finished (), { s with store }) ∧
      ∀ key, store.live? s.clock key =
        if key = a.key subject then
          (s.store.live? s.clock (a.key subject)).map fun e =>
            { e with deadline := Store.deadline s.clock a.lifetimes.inactivity.millis }
        else s.store.live? s.clock key := by
  obtain ⟨after, kept, lives⟩ := Store.expire_eq takes s.store s.clock (a.key subject)
  have asked := State.run_expire_of_calm directory deadline calm kept
  refine ⟨after, ?_, lives⟩
  rw [prolong, State.run_bind, asked]
  rfl

/-- **A revocation** takes away the subject's entry. -/
theorem run_revoke {s : State} (calm : s.faults = {}) (subject : Uuid) :
    s.run directory deadline (a.revoke subject).run =
      (.finished (.ok ()), { s with
        store := s.store.delete (a.key subject)
        tally := .sessionRevoked :: s.tally }) := by
  have asked := State.run_delete_of_calm directory deadline calm (a.key subject)
  rw [revoke]
  simp only [State.run_action_bind]
  rw [asked, Ending.andThenOk_ok, State.run_ofStore_ok, Ending.andThenOk_ok, State.run_count]
  rfl

end Authority

end SessionAuthority

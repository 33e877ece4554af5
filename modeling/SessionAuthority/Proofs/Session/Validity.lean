import SessionAuthority.Proofs.Codec.Skew
import SessionAuthority.Proofs.Session.Table
import SessionAuthority.Proofs.Session.Tokens
import SessionAuthority.Proofs.Waiting

/-!
# What an issued pair is good for

An issue that ends with a pair is taken apart here: how both tokens were signed (`mint_eq_ok`) and
what the store holds since (`issue_eq_ok`), whatever the collaborators did meanwhile.  Each token
then tells whom it is for up to its expiry and the skew, in whole seconds, and from the next second
on nothing but that it has expired (`identify_signed`).  The record that was stored counts each of
the two in its own slot (`run_checkLive_of_held`).  `issue_valid` puts these together.

The instant of the issue and the clock of the state need not be the same: a pair may be issued later
than the request for it arrived.
-/
set_option autoImplicit false

namespace SessionAuthority

/-! ## Runs that ended with a result -/

namespace State

variable {directory : Directory} {deadline : Option Instant}

/-- A value that was stored is held from the moment at which the store had its turn. -/
theorem answer_set_eq_ok {s t : State} {key : String} {value : Bytes} {ttl : Span}
    (stored : s.answer directory deadline (.set key value ttl) = (.finished (.ok ()), t)) :
    Store.Takes ttl ∧
      t.store.live? t.clock key = some ⟨value, Store.deadline t.clock ttl.millis⟩ := by
  rw [answer] at stored
  cases answered : s.whenAnswered deadline s.faults.set with
  | none =>
      rcases meet_of_unanswered deadline answered Except.error (fun u : State =>
          u.update ((u.store.set u.clock key value ttl).map fun store => ((), store))) with
        ⟨e, refused⟩ | ⟨c, after, crashed⟩ | ⟨after, abandoned⟩
      · rw [refused] at stored
        cases stored
      · rw [crashed] at stored
        cases stored
      · rw [abandoned] at stored
        cases stored
  | some u =>
      rw [meet_of_answered deadline answered] at stored
      cases kept : u.store.set u.clock key value ttl with
      | error e =>
          rw [kept] at stored
          cases stored
      | ok store =>
          rw [kept] at stored
          cases stored
          obtain ⟨takes, rfl⟩ := Store.set_eq_ok kept
          refine ⟨takes, ?_⟩
          show (u.store.put key _).live? u.clock key = _
          rw [Store.live?_set takes, if_pos rfl]
          rfl

end State

namespace Authority

variable {a : Authority} {directory : Directory} {deadline : Option Instant}

/-- **A token that was made** has a lifetime that it can have, and its claims are signed. -/
theorem mint_eq_ok {now : Instant} {subject : Subject} {lifetime : Span} {s t : State}
    {token : Token}
    (minted : s.run directory deadline (a.mint now subject lifetime).run =
      (.finished (.ok token), t)) :
    t = s.takeNonce ∧ token.nonce = s.nextNonce ∧ token.expiry = now + lifetime.nanos ∧
      Mintable now lifetime ∧
      a.codec.encode (tokenClaims subject s.nextNonce (now + lifetime.nanos) now) =
        .ok token.text := by
  rcases lifetime_cases now lifetime with long | overruns | mintable
  · rw [a.run_mint_of_tooLong directory deadline subject s long] at minted
    cases minted
  · rw [a.run_mint_of_overruns directory deadline subject s overruns] at minted
    cases minted
  rw [a.run_mint_of_mintable directory deadline subject s mintable] at minted
  rcases a.sign_cases (tokenClaims subject s.nextNonce (now + lifetime.nanos) now) with
    ⟨text, encoded, signed⟩ | ⟨-, detail, failed⟩
  · rw [signed] at minted
    cases minted
    exact ⟨rfl, rfl, rfl, mintable, encoded⟩
  · rw [failed] at minted
    cases minted

/-- **A pair that was issued**: its tokens carry the two nonces taken, and the store holds just
these for its subject. -/
theorem issue_eq_ok {now : Instant} {subject : Subject} {s after : State} {pair : TokenPair}
    (issued : s.run directory deadline (a.issue now subject).run = (.finished (.ok pair), after)) :
    ∃ access refresh : Token,
      s.run directory deadline (a.mint now subject a.lifetimes.access).run =
        (.finished (.ok access), s.takeNonce) ∧
      s.takeNonce.run directory deadline (a.mint now subject a.lifetimes.refresh).run =
        (.finished (.ok refresh), s.takeNonce.takeNonce) ∧
      pair = ⟨access.text, refresh.text, access.expiry⟩ ∧
      Store.Takes a.lifetimes.inactivity ∧
      a.liveRecord? after subject.id = some (nextRecord s) := by
  rw [issue] at issued
  simp only [State.run_action_bind] at issued
  obtain ⟨access, _, minted, issued⟩ := Ending.andThenOk_eq_ok issued
  obtain ⟨rfl, first, -⟩ := mint_eq_ok minted
  obtain ⟨refresh, _, minted', issued⟩ := Ending.andThenOk_eq_ok issued
  obtain ⟨rfl, second, -⟩ := mint_eq_ok minted'
  obtain ⟨stored, u, answered, issued⟩ := Ending.andThenOk_eq_ok issued
  refine ⟨access, refresh, minted, minted', ?_⟩
  cases stored with
  | error e => cases issued
  | ok done =>
      rw [State.run_ofStore_ok, Ending.andThenOk_ok, State.run_count] at issued
      cases issued
      obtain ⟨takes, held⟩ :=
        State.answer_set_eq_ok (State.answer_of_run_ask directory deadline answered)
      refine ⟨rfl, takes, ?_⟩
      rw [liveRecord?, nextRecord, ← first, ← second]
      show (u.store.live? u.clock (a.key subject.id)).bind _ = _
      rw [held, Option.bind_some, SessionRecord.read?_render]

/-! ## From its text to whom a token is for -/

/-- The identity in a token with a date for its expiry. -/
theorem ofClaims_dated {subject : Subject} {nonce : Uuid} {expiry issued : Instant}
    (dated : expiry.seconds ≤ lastDateSecond) :
    Identity.ofClaims (tokenClaims subject nonce expiry issued) =
      .ok ⟨subject.id, subject.username, nonce.toText, some expiry.seconds⟩ := by
  have expires :
      (tokenClaims subject nonce expiry issued).expiry? = some (expiry.seconds : Int) := by
    unfold lastDateSecond at dated
    rw [Claims.expiry?, get?_exp_tokenClaims]
    apply if_pos
    omega
  have date : dateSecond? (expiry.seconds : Int) = some (expiry.seconds : Int) := by
    unfold dateSecond? firstDateSecond
    apply if_pos
    omega
  rw [Identity.ofClaims, subject?_tokenClaims, username?_tokenClaims, uid?_tokenClaims, expires,
    Option.bind_some, date]

/-- **A signed token** tells whom it is for while the second of the clock is not past its expiry by
more than the skew, and has expired from then on. -/
theorem identify_signed {hash : Digest.Hash} {secret : Bytes}
    (symmetric : a.codec.Symmetric hash secret) {subject : Subject} {nonce : Uuid}
    {expiry issued : Instant} {text : String} (order : issued ≤ expiry)
    (dated : expiry.seconds ≤ lastDateSecond)
    (encoded : a.codec.encode (tokenClaims subject nonce expiry issued) = .ok text)
    {now : Instant} (clock : a.codec.skew ≤ now.seconds) :
    a.identify now text =
      if now.seconds ≤ expiry.seconds + a.codec.skew then
        .ok (tokenClaims subject nonce expiry issued,
          ⟨subject.id, subject.username, nonce.toText, some expiry.seconds⟩)
      else .refused .expired := by
  have portable : (tokenClaims subject nonce expiry issued).Portable 0 0 :=
    portable_tokenClaims dated order
  have found := get?_exp_tokenClaims subject nonce expiry issued
  obtain ⟨-, decoded⟩ := Codec.read_encoded symmetric portable found encoded
  rw [identify, parse, decoded _ clock]
  by_cases past : expiry.seconds + a.codec.skew < now.seconds
  · rw [if_pos past, if_neg (Nat.not_le.2 past)]
    rfl
  · rw [if_neg past, if_pos (Nat.not_lt.1 past), Outcome.bind, ofClaims_dated dated]
    rfl

/-! ## What the stored record counts -/

/-- Claims count in the slot that holds their nonce, and in no other. -/
theorem run_checkLive_of_held (directory : Directory) (deadline : Option Instant) {s : State}
    (working : s.faults.get = .none) {claims : Claims}
    {subject : Uuid} {nonce : Uuid} (named : claims.subject? = some subject)
    (carried : claims.uid? = some nonce.toText) {record : SessionRecord}
    (held : a.liveRecord? s subject = some record) (slot : Slot) :
    (s.run directory deadline (a.checkLive claims slot).run).1 =
      .finished (if record.nonce slot = nonce.toText then .ok () else .error .noActiveSession) := by
  obtain ⟨entry, stored, read⟩ := Option.bind_eq_some_iff.1 held
  have live : isLive (some entry.value) slot nonce.toText = true ↔
      record.nonce slot = nonce.toText := by
    rw [isLive_iff, Option.bind_some, read]
    constructor
    · rintro ⟨other, found, same⟩
      rw [same, Option.some.inj found]
    · intro same
      exact ⟨record, rfl, same.symm⟩
  rw [a.run_checkLive_of_entry directory deadline working named carried stored]
  simp only [live]

/-! ## The pair -/

/-- Where nobody misbehaves, a pair is issued just if its lifetimes can be kept. -/
theorem issue_succeeds_iff {hash : Digest.Hash} {secret : Bytes}
    (symmetric : a.codec.Symmetric hash secret) (directory : Directory)
    (deadline : Option Instant) {s : State} (calm : s.faults = {}) (now : Instant)
    (subject : Subject) :
    (∃ pair after,
        s.run directory deadline (a.issue now subject).run = (.finished (.ok pair), after)) ↔
      Mintable now a.lifetimes.access ∧ Mintable now a.lifetimes.refresh ∧
        Store.Takes a.lifetimes.inactivity := by
  constructor
  · rintro ⟨pair, after, issued⟩
    obtain ⟨first, second, minted, minted', -, takes, -⟩ := issue_eq_ok issued
    obtain ⟨-, -, -, mintable, -⟩ := mint_eq_ok minted
    obtain ⟨-, -, -, mintable', -⟩ := mint_eq_ok minted'
    exact ⟨mintable, mintable', takes⟩
  · rintro ⟨mintable, mintable', takes⟩
    obtain ⟨pair, -, issued⟩ :=
      run_issue_eq symmetric directory deadline calm mintable mintable' takes subject
    exact ⟨pair, _, issued⟩

/-- **Every issued pair means what it says, for exactly its lifetime.**  Where nobody misbehaves,
there is one for all lifetimes that can be kept.  Whatever happened, at any instant that the skew
does not reach beyond, each token tells its subject, its nonce and its expiry as long as the second
is at most that expiry and the skew, and that it has expired otherwise; the expiry that comes with
the pair is the one in the access token.  Where the nonces are two, each token is live in its own
slot as soon as the pair is there, and in no other. -/
theorem issue_valid {algorithm : Algorithm} (keyed : algorithm ∈ Codec.secretAlgorithms)
    {secret : Bytes} {skew : Span} (built : Codec.ofSecret algorithm secret skew = .ok a.codec)
    (directory : Directory) (deadline : Option Instant) (now : Instant) (subject : Subject)
    (s : State) :
    let accessExpiry : Instant := now + a.lifetimes.access.nanos
    let refreshExpiry : Instant := now + a.lifetimes.refresh.nanos
    let access := tokenClaims subject s.nextNonce accessExpiry now
    let refresh := tokenClaims subject s.takeNonce.nextNonce refreshExpiry now
    (s.faults = {} →
      ((∃ pair after,
          s.run directory deadline (a.issue now subject).run = (.finished (.ok pair), after)) ↔
        Mintable now a.lifetimes.access ∧ Mintable now a.lifetimes.refresh ∧
          Store.Takes a.lifetimes.inactivity)) ∧
    ∀ pair after,
      s.run directory deadline (a.issue now subject).run = (.finished (.ok pair), after) →
      (∀ later : Instant, skew.seconds ≤ later.seconds →
        a.identify later pair.access =
          (if later.seconds ≤ accessExpiry.seconds + skew.seconds then
            .ok (access,
              ⟨subject.id, subject.username, s.nextNonce.toText, some accessExpiry.seconds⟩)
          else .refused .expired) ∧
        a.identify later pair.refresh =
          (if later.seconds ≤ refreshExpiry.seconds + skew.seconds then
            .ok (refresh, ⟨subject.id, subject.username, s.takeNonce.nextNonce.toText,
              some refreshExpiry.seconds⟩)
          else .refused .expired)) ∧
      pair.accessExpiry = accessExpiry ∧
      access.get? "exp" = some (.int pair.accessExpiry.seconds) ∧
      (s.nextNonce ≠ s.takeNonce.nextNonce → after.faults.get = .none →
        ∀ (directory : Directory) (deadline : Option Instant),
          let check (claims : Claims) (slot : Slot) :=
            (after.run directory deadline (a.checkLive claims slot).run).1
          check access .access = .finished (.ok ()) ∧
          check refresh .refresh = .finished (.ok ()) ∧
          check access .refresh = .finished (.error .noActiveSession) ∧
          check refresh .access = .finished (.error .noActiveSession)) := by
  intro accessExpiry refreshExpiry access refresh
  obtain ⟨hash, symmetric⟩ := Codec.symmetric_of_ofSecret keyed built
  obtain ⟨_, same⟩ := Codec.eq_of_ofSecret keyed built
  have skews : a.codec.skew = skew.seconds := by rw [same]
  refine ⟨fun calm => issue_succeeds_iff symmetric directory deadline calm now subject, ?_⟩
  intro pair after issued
  obtain ⟨first, second, minted, minted', rfl, -, held⟩ := issue_eq_ok issued
  obtain ⟨-, -, expires, mintable, encoded⟩ := mint_eq_ok minted
  obtain ⟨-, -, -, mintable', encoded'⟩ := mint_eq_ok minted'
  refine ⟨fun later clock => ?_, expires, ?_, fun apart working directory deadline => ?_⟩
  · rw [← skews] at clock ⊢
    constructor
    · exact identify_signed symmetric (Nat.le_add_right _ _) mintable.2 encoded clock
    · exact identify_signed symmetric (Nat.le_add_right _ _) mintable'.2 encoded' clock
  · rw [expires]
    exact get?_exp_tokenClaims ..
  · have counts := run_checkLive_of_held directory deadline working
      (subject?_tokenClaims subject s.nextNonce accessExpiry now) (uid?_tokenClaims ..) held
    have counts' := run_checkLive_of_held directory deadline working
      (subject?_tokenClaims subject s.takeNonce.nextNonce refreshExpiry now) (uid?_tokenClaims ..)
      held
    have differ : s.nextNonce.toText ≠ s.takeNonce.nextNonce.toText :=
      fun same => apart (Uuid.toText_inj.1 same)
    refine ⟨(counts .access).trans ?_, (counts' .refresh).trans ?_, (counts .refresh).trans ?_,
      (counts' .access).trans ?_⟩
    · simp [nextRecord, SessionRecord.nonce]
    · simp [nextRecord, SessionRecord.nonce]
    · simp [nextRecord, SessionRecord.nonce, Ne.symm differ]
    · simp [nextRecord, SessionRecord.nonce, differ]

/-- A pair that is issued at 100.9 seconds, with 1.2 seconds for its access token and a skew of 2:
the token counts through the whole second 104, and in the slot for access only. -/
theorem issue_valid_last_second :
    let a : Authority := ⟨Codec.ofKey [0x6B] 2, "", ⟨⟨1200000000⟩, .ofSeconds 10, .ofSeconds 60⟩⟩
    let s : State := { clock := 100900000000 }
    ∃ pair after claims identity,
      s.run .empty none (a.issue s.clock ⟨.ofNat 7, "Zoë"⟩).run = (.finished (.ok pair), after) ∧
      a.identify 104999999999 pair.access = .ok (claims, identity) ∧ identity.username = "Zoë" ∧
      identity.expiresAt = some 102 ∧
      a.identify 105000000000 pair.access = .refused .expired ∧
      (after.run .empty none (a.checkLive claims .access).run).1 = .finished (.ok ()) ∧
      (after.run .empty none (a.checkLive claims .refresh).run).1 =
        .finished (.error .noActiveSession) := by
  intro a s
  have built : Codec.ofSecret .hs256 [0x6B] (.ofSeconds 2) = .ok a.codec :=
    Codec.new_ofKey (by decide) 2
  obtain ⟨hash, symmetric⟩ := Codec.symmetric_of_ofSecret (by decide) built
  have access : Mintable s.clock a.lifetimes.access := ⟨by decide, by decide⟩
  have refresh : Mintable s.clock a.lifetimes.refresh := ⟨by decide, by decide⟩
  have takes : Store.Takes a.lifetimes.inactivity := ⟨by decide, by decide⟩
  obtain ⟨pair, -, issued⟩ :=
    run_issue_eq symmetric .empty none (s := s) rfl access refresh takes ⟨.ofNat 7, "Zoë"⟩
  obtain ⟨-, valid⟩ := issue_valid (by decide) built .empty none s.clock ⟨.ofNat 7, "Zoë"⟩ s
  obtain ⟨tokens, -, -, live⟩ := valid pair _ issued
  obtain ⟨counted, -, other, -⟩ := live (by decide) rfl .empty none
  have last := (tokens 104999999999 (by decide)).1
  have past := (tokens 105000000000 (by decide)).1
  rw [if_pos (by decide)] at last
  rw [if_neg (by decide)] at past
  have expiry : ((s.clock + a.lifetimes.access.nanos).seconds : Int) = 102 := by decide
  exact ⟨pair, _, _, _, issued, last, rfl, congrArg some expiry, past, counted, other⟩

end Authority

end SessionAuthority

import SessionAuthority.Proofs.Codec.Skew
import SessionAuthority.Proofs.Session.Runs
import SessionAuthority.Settings

/-!
# Lifetimes and the end of the calendar

A lifetime of more than 63 bits of milliseconds is too long to be added to any date, and a token
with it is refused (`outOfRange`).  Dates end long before that.  A lifetime between the two limits
passes the check and leads past the last date (`Overruns`), and the sum, which nothing checks, ends
the issue in a crash.

`issue_ending` says for every codec, every lifetime and every instant what comes of an issue: it
crashes just if one of its lifetimes overruns, a lifetime that is too long is reported as out of
range, and in all other cases there is a pair or an internal failure.  Such a lifetime can be had
from the settings (`issue_overruns`).
-/
set_option autoImplicit false

namespace SessionAuthority.Authority

variable (a : Authority) (directory : Directory) (deadline : Option Instant)

/-! ## One token -/

/-- The claims of the access token that is issued next. -/
def accessClaims (s : State) (now : Instant) (subject : Subject) : Claims :=
  tokenClaims subject s.nextNonce (now + a.lifetimes.access.nanos) now

theorem not_mintable_of_tooLong {now : Instant} {lifetime : Span} (long : TooLong lifetime) :
    ¬ Mintable now lifetime :=
  fun mintable => Nat.not_lt.2 mintable.1 long

theorem not_mintable_of_overruns {now : Instant} {lifetime : Span}
    (overruns : Overruns now lifetime) : ¬ Mintable now lifetime :=
  fun mintable => Nat.not_lt.2 mintable.2 overruns.2

theorem not_overruns_of_tooLong {now : Instant} {lifetime : Span} (long : TooLong lifetime) :
    ¬ Overruns now lifetime :=
  fun overruns => Nat.not_lt.2 overruns.1 long

/-- A token is made for what follows, or that is over. -/
theorem andThenOk_mint {β : Type} (now : Instant) (subject : Subject) (lifetime : Span) (s : State)
    (next : Token → State → Ending (Except AuthError β) × State) :
    let claims := tokenClaims subject s.nextNonce (now + lifetime.nanos) now
    let ended := Ending.andThenOk (s.run directory deadline (a.mint now subject lifetime).run) next
    TooLong lifetime ∧ ended.1 = .finished (.error outOfRange) ∨
      Overruns now lifetime ∧ ended.1 = .crashed .dateRange ∨
      Mintable now lifetime ∧
        ((∀ text, a.codec.encode claims ≠ .ok text) ∧
            (∃ detail, ended.1 = .finished (.error (.internal detail))) ∨
          ∃ text, a.codec.encode claims = .ok text ∧
            ended = next ⟨text, s.nextNonce, now + lifetime.nanos⟩ s.takeNonce) := by
  intro claims ended
  simp only [ended]
  rcases lifetime_cases now lifetime with long | overruns | mintable
  · rw [a.run_mint_of_tooLong directory deadline subject s long]
    exact .inl ⟨long, rfl⟩
  · rw [a.run_mint_of_overruns directory deadline subject s overruns]
    exact .inr (.inl ⟨overruns, rfl⟩)
  · rw [a.run_mint_of_mintable directory deadline subject s mintable]
    refine .inr (.inr ⟨mintable, ?_⟩)
    rcases a.sign_cases claims with ⟨text, encoded, signed⟩ | ⟨unsigned, detail, failed⟩
    · exact .inr ⟨text, encoded, by rw [signed]; rfl⟩
    · exact .inl ⟨unsigned, detail, by rw [failed]; rfl⟩

/-! ## A pair -/

/-- A lifetime of this kind is come upon in an issue: the access token's, or that of the refresh
token once the access token is made. -/
def Meets (s : State) (now : Instant) (subject : Subject) (kind : Span → Prop) : Prop :=
  kind a.lifetimes.access ∨
    Mintable now a.lifetimes.access ∧
      (∃ text, a.codec.encode (a.accessClaims s now subject) = .ok text) ∧
      kind a.lifetimes.refresh

/-- What is left of an issue once both tokens are made. -/
def keep (subject : Uuid) (access refresh : Token) : Action TokenPair := do
  let record : SessionRecord := ⟨access.nonce.toText, refresh.nonce.toText⟩
  let stored ← Action.ask (.set (a.key subject) record.render a.lifetimes.inactivity)
  Action.ofStore stored
  Action.ask (.count .pairIssued)
  pure ⟨access.text, refresh.text, access.expiry⟩

theorem run_issue_of_mints (s : State) (now : Instant) (subject : Subject) :
    s.run directory deadline (a.issue now subject).run =
      Ending.andThenOk (s.run directory deadline (a.mint now subject a.lifetimes.access).run)
        fun access s =>
          Ending.andThenOk (s.run directory deadline (a.mint now subject a.lifetimes.refresh).run)
            fun refresh s =>
              s.run directory deadline (a.keep subject.id access refresh).run := by
  simp only [issue, keep, State.run_action_bind]

/-- A store that works keeps the record, or refuses the time that it is to be kept for. -/
theorem run_keep {s : State} (working : s.faults.set = .none) (subject : Uuid)
    (access refresh : Token) :
    let ending := (s.run directory deadline (a.keep subject access refresh).run).1
    (∃ pair, ending = .finished (.ok pair)) ∨
      ∃ detail, ending = .finished (.error (.internal detail)) := by
  intro ending
  simp only [ending, keep, State.run_action_bind]
  rw [State.run_action_ask directory deadline (.set _ _ _)]
  simp only [State.answer, State.meet, working, State.update]
  cases s.store.set s.clock (a.key subject) _ a.lifetimes.inactivity with
  | ok store => exact .inl ⟨_, rfl⟩
  | error e => exact .inr ⟨_, rfl⟩

section Meets

variable {a} {s : State} {now : Instant} {subject : Subject} {kind : Span → Prop}

/-- Without an access token an issue comes upon no other lifetime. -/
theorem not_meets_of_unmade (other : ¬ kind a.lifetimes.access)
    (unmade : Mintable now a.lifetimes.access →
      ∀ text, a.codec.encode (a.accessClaims s now subject) ≠ .ok text) :
    ¬ a.Meets s now subject kind := by
  rintro (first | ⟨mintable, ⟨text, encoded⟩, -⟩)
  · exact other first
  · exact unmade mintable text encoded

/-- Once the access token is made it is the refresh token's lifetime that counts. -/
theorem meets_iff_of_made (other : ¬ kind a.lifetimes.access)
    (mintable : Mintable now a.lifetimes.access) {text : String}
    (encoded : a.codec.encode (a.accessClaims s now subject) = .ok text) :
    a.Meets s now subject kind ↔ kind a.lifetimes.refresh := by
  constructor
  · intro meets
    exact (meets.resolve_left other).2.2
  · intro second
    exact .inr ⟨mintable, ⟨text, encoded⟩, second⟩

end Meets

/-- An issue comes upon a lifetime that overruns, or upon one that is too long, or upon neither. -/
theorem issue_cases {s : State} (working : s.faults.set = .none) (now : Instant)
    (subject : Subject) :
    let ending := (s.run directory deadline (a.issue now subject).run).1
    (a.Meets s now subject (Overruns now) ∧ ¬ a.Meets s now subject TooLong ∧
        ending = .crashed .dateRange) ∨
      (¬ a.Meets s now subject (Overruns now) ∧ ending = .finished (.error outOfRange)) ∨
      ¬ a.Meets s now subject (Overruns now) ∧ ¬ a.Meets s now subject TooLong ∧
        ((∃ pair, ending = .finished (.ok pair)) ∨
          ∃ detail, ending = .finished (.error (.internal detail))) := by
  intro ending
  simp only [ending, a.run_issue_of_mints]
  rcases a.andThenOk_mint directory deadline now subject a.lifetimes.access s _ with
    ⟨long, ended⟩ | ⟨overruns, ended⟩ | ⟨mintable, made⟩
  · have unmade : ¬ Mintable now a.lifetimes.access := not_mintable_of_tooLong long
    refine .inr (.inl ⟨?_, ended⟩)
    exact not_meets_of_unmade (not_overruns_of_tooLong long) fun mintable => absurd mintable unmade
  · have unmade : ¬ Mintable now a.lifetimes.access := not_mintable_of_overruns overruns
    refine .inl ⟨.inl overruns, ?_, ended⟩
    exact not_meets_of_unmade (fun long => not_overruns_of_tooLong long overruns)
      fun mintable => absurd mintable unmade
  have short : ¬ TooLong a.lifetimes.access := fun long => not_mintable_of_tooLong long mintable
  have early : ¬ Overruns now a.lifetimes.access :=
    fun overruns => not_mintable_of_overruns overruns mintable
  rcases made with ⟨unsigned, detail, ended⟩ | ⟨text, encoded, ended⟩
  · refine .inr (.inr ⟨?_, ?_, .inr ⟨detail, ended⟩⟩)
    · exact not_meets_of_unmade early fun _ => unsigned
    · exact not_meets_of_unmade short fun _ => unsigned
  -- the access token is made, and everything hangs on the refresh token
  have late := meets_iff_of_made early mintable encoded
  have far := meets_iff_of_made short mintable encoded
  rw [ended, late, far]
  rcases a.andThenOk_mint directory deadline now subject a.lifetimes.refresh s.takeNonce _ with
    ⟨long, ended⟩ | ⟨overruns, ended⟩ | ⟨mintable, made⟩
  · exact .inr (.inl ⟨not_overruns_of_tooLong long, ended⟩)
  · exact .inl ⟨overruns, fun long => not_overruns_of_tooLong long overruns, ended⟩
  refine .inr (.inr ⟨?_, ?_, ?_⟩)
  · exact fun overruns => not_mintable_of_overruns overruns mintable
  · exact fun long => not_mintable_of_tooLong long mintable
  rcases made with ⟨-, detail, ended⟩ | ⟨text', -, ended⟩
  · exact .inr ⟨detail, ended⟩
  · rw [ended]
    exact a.run_keep directory deadline (s := s.takeNonce.takeNonce) working subject.id _ _

/-- **What comes of an issue** on a store that works.  It crashes just if it comes upon a lifetime
that overruns the calendar.  One that is too long is reported as out of range.  Otherwise there is a
pair or an internal failure, whatever the lifetimes, the codec, the subject and the instant. -/
theorem issue_ending {s : State} (working : s.faults.set = .none) (now : Instant)
    (subject : Subject) :
    let ending := (s.run directory deadline (a.issue now subject).run).1
    (ending = .crashed .dateRange ↔ a.Meets s now subject (Overruns now)) ∧
    (a.Meets s now subject TooLong → ending = .finished (.error outOfRange)) ∧
    (¬ a.Meets s now subject (Overruns now) →
      (∃ pair, ending = .finished (.ok pair)) ∨
        ∃ detail, ending = .finished (.error (.internal detail))) := by
  intro ending
  rcases a.issue_cases directory deadline working now subject with
    ⟨overruns, short, crashed⟩ | ⟨early, refused⟩ | ⟨early, short, ended⟩
  · exact ⟨⟨fun _ => overruns, fun _ => crashed⟩, fun long => absurd long short,
      fun early => absurd overruns early⟩
  · have whole : ending = .finished (.error outOfRange) := refused
    refine ⟨⟨fun crashed => ?_, fun overruns => absurd overruns early⟩, fun _ => whole,
      fun _ => .inr ⟨_, whole⟩⟩
    rw [whole] at crashed
    cases crashed
  · refine ⟨⟨fun crashed => ?_, fun overruns => absurd overruns early⟩,
      fun long => absurd long short, fun _ => ended⟩
    have crashed : ending = .crashed .dateRange := crashed
    rcases ended with ⟨pair, whole⟩ | ⟨detail, whole⟩
    · rw [show ending = _ from whole] at crashed
      cases crashed
    · rw [show ending = _ from whole] at crashed
      cases crashed

/-- In the year 2023 an access lifetime of 8208566876799 seconds reaches the last second of the
calendar, one second more crashes, and one that is too long is reported. -/
theorem issue_ending_last_second :
    let ending (access : Nat) :=
      let a : Authority :=
        ⟨Codec.ofKey [0x6B] 30, "", ⟨.ofSeconds access, .ofSeconds 7200, .ofSeconds 900⟩⟩
      let s : State := { clock := 1700000000000000000 }
      (s.run .empty none (a.issue s.clock ⟨.ofNat 7, "ada"⟩).run).1
    (∃ pair, ending 8208566876799 = .finished (.ok pair)) ∧
    ending 8208566876800 = .crashed .dateRange ∧
    ending 9223372036854776 = .finished (.error outOfRange) := by
  intro ending
  let a (access : Nat) : Authority :=
    ⟨Codec.ofKey [0x6B] 30, "", ⟨.ofSeconds access, .ofSeconds 7200, .ofSeconds 900⟩⟩
  let s : State := { clock := 1700000000000000000 }
  have comes (access : Nat) :=
    (a access).issue_ending .empty none (s := s) rfl s.clock ⟨.ofNat 7, "ada"⟩
  have issues : (a 8208566876799).Issues s.clock :=
    { signs := fun claims => ⟨_, Codec.encode_eq rfl rfl claims⟩
      access := ⟨by decide, by decide⟩
      refresh := ⟨by decide, by decide⟩
      inactivity := ⟨by decide, by decide⟩ }
  obtain ⟨pair, issued⟩ :=
    (a 8208566876799).run_issue_of_issues .empty none (s := s) rfl issues ⟨.ofNat 7, "ada"⟩
  refine ⟨⟨pair, congrArg Prod.fst issued⟩, (comes 8208566876800).1.2 (.inl ?_),
    (comes 9223372036854776).2.1 (.inl ?_)⟩
  · exact ⟨by decide, by decide⟩
  · exact (by decide : longestLifetime.nanos < (Span.ofSeconds 9223372036854776).nanos)

/-- **A lifetime from the settings can overrun the calendar.**  Nine trillion seconds for an access
token are less than what is refused as out of range, and every issue with them crashes. -/
theorem issue_overruns :
    let settings := TokenSettings.ofEnvironment
      [("JWT_ACCESS_EXPIRY", Bytes.ofString "9000000000000")]
    let a : Authority := ⟨Codec.ofKey (Bytes.ofString "secretpass") 30, "test",
      ⟨settings.accessLifetime, settings.refreshLifetime, .ofSeconds 900⟩⟩
    let s : State := { clock := 1700000000000000000 }
    a.lifetimes.access = .ofSeconds 9000000000000 ∧
      a.lifetimes.access.nanos ≤ longestLifetime.nanos ∧
      (s.run .empty none (a.issue s.clock ⟨.ofNat 7, "ada"⟩).run).1 = .crashed .dateRange := by
  intro settings a s
  have read : a.lifetimes.access = .ofSeconds 9000000000000 := by decide +kernel
  have short : a.lifetimes.access.nanos ≤ longestLifetime.nanos := by rw [read]; decide
  have overruns : Overruns s.clock a.lifetimes.access := ⟨short, by rw [read]; decide⟩
  refine ⟨read, short, ?_⟩
  rw [a.run_issue_of_mints, a.run_mint_of_overruns .empty none _ s overruns]
  rfl

end SessionAuthority.Authority

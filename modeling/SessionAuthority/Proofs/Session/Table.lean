import Mathlib.Data.List.Chain
import SessionAuthority.Proofs.Claims
import SessionAuthority.Proofs.Json.Record
import SessionAuthority.Proofs.Session.Runs

/-!
# One session for each subject

Seen from outside, the authority and its store are a table with at most one session for each
subject.  The table is a function of what was done (`session?`): the latest issue of the subject, if
no revocation came after it, with the instants at which its time started.  A session goes on as long
as no two neighbouring instants, the present one included, are a whole window apart (`Unbroken`).

`Agrees` ties a store to the table, and every deed keeps it (`Agrees.record`): what is live under a
subject's key is the record of its session, up to a window after the latest start.  So a check says
what the table says, after every run from an empty store (`checkLive_table`).  The nonces may come
from any supply, even one that repeats itself.
-/
set_option autoImplicit false

namespace SessionAuthority

/-- **A stored record is read back**, whatever its nonces are. -/
theorem SessionRecord.read?_render (r : SessionRecord) : read? r.render = some r := by
  have written : r.render = Json.render (.object (Json.texts
      [("access_token", r.access), ("refresh_token", r.refresh)])) := rfl
  rw [read?, written, Json.Shape.parse_render rfl (by decide)]
  rfl

/-! ## Histories -/

inductive Deed where
  | issue (subject : Subject)
  | revoke (subject : Uuid)
  | prolong (subject : Uuid)
  | check (claims : Claims) (slot : Slot)
  | advance (span : Span)

inductive Fact where
  | issued (subject : Uuid) (record : SessionRecord) (moment : Instant)
  | revoked (subject : Uuid)
  | prolonged (subject : Uuid) (moment : Instant)
  deriving DecidableEq, Repr

/-- The session of a subject: the record of the latest issue, unless it was revoked since, with the
instants of that issue and of every prolongation after it, the latest first. -/
def session? (subject : Uuid) : List Fact → Option (SessionRecord × List Instant)
  | [] => none
  | .issued other record moment :: earlier =>
      if other = subject then some (record, [moment]) else session? subject earlier
  | .revoked other :: earlier => if other = subject then none else session? subject earlier
  | .prolonged other moment :: earlier =>
      if other = subject then (session? subject earlier).map fun t => (t.1, moment :: t.2)
      else session? subject earlier

/-- No instant is a whole window, in milliseconds, after the one before it; the latest is first. -/
def Unbroken (window : Nat) (moments : List Instant) : Prop :=
  moments.IsChain fun later earlier => later < earlier + window * 1000000

namespace Authority

variable (a : Authority)

def perform (s : State) : Deed → State
  | .issue subject => (s.run .empty none (a.issue s.clock subject).run).2
  | .revoke subject => (s.run .empty none (a.revoke subject).run).2
  | .prolong subject => (s.run .empty none (a.prolong subject)).2
  | .check claims slot => (s.run .empty none (a.checkLive claims slot).run).2
  | .advance span => { s with clock := s.clock + span.nanos }

/-- What a history holds of a deed: an issue and a revocation only if they succeed. -/
def fact? (s : State) : Deed → Option Fact
  | .issue subject =>
      match (s.run .empty none (a.issue s.clock subject).run).1 with
      | .finished (.ok _) => some (.issued subject.id (nextRecord s) s.clock)
      | _ => none
  | .revoke subject =>
      match (s.run .empty none (a.revoke subject).run).1 with
      | .finished (.ok _) => some (.revoked subject)
      | _ => none
  | .prolong subject => some (.prolonged subject s.clock)
  | .check _ _ => none
  | .advance _ => none

def record (course : State × List Fact) (deed : Deed) : State × List Fact :=
  (a.perform course.1 deed, (a.fact? course.1 deed).toList ++ course.2)

/-- The state after some deeds, and their history, the latest first. -/
def course (s : State) (deeds : List Deed) : State × List Fact := deeds.foldl a.record (s, [])

theorem record_advance (course : State × List Fact) (span : Span) :
    a.record course (.advance span) =
      ({ course.1 with clock := course.1.clock + span.nanos }, course.2) := rfl

theorem course_append (s : State) (deeds later : List Deed) :
    a.course s (deeds ++ later) = later.foldl a.record (a.course s deeds) :=
  List.foldl_append

/-- The table's word on claims: their subject has a session that goes on, and they carry the nonce
that its issue wrote in the slot. -/
def Counts (history : List Fact) (now : Instant) (claims : Claims) (slot : Slot) : Prop :=
  ∃ subject record moments, claims.subject? = some subject ∧
    session? subject history = some (record, moments) ∧
    claims.uid? = some (record.nonce slot) ∧
    Unbroken a.lifetimes.inactivity.millis (now :: moments)

/-! ## The store holds the table -/

/-- An entry is what a store holds at an instant for a session that goes on. -/
def StandsFor (now : Instant) (entry : Entry) (session : Option (SessionRecord × List Instant)) :
    Prop :=
  ∃ record latest earlier, session = some (record, latest :: earlier) ∧
    Unbroken a.lifetimes.inactivity.millis (now :: latest :: earlier) ∧
    entry = ⟨record.render, Store.deadline latest a.lifetimes.inactivity.millis⟩

/-- What is live in the store is what the table holds. -/
structure Agrees (s : State) (history : List Fact) : Prop where
  calm : s.faults = {}
  live : ∀ subject entry, s.store.live? s.clock (a.key subject) = some entry ↔
    a.StandsFor s.clock entry (session? subject history)

theorem session?_ne_nil {subject : Uuid} {record : SessionRecord} {moments : List Instant} :
    ∀ {history : List Fact}, session? subject history = some (record, moments) → moments ≠ []
  | .issued other record moment :: earlier, found => by
      rw [session?] at found
      split at found
      · cases found; exact List.cons_ne_nil _ _
      · exact session?_ne_nil found
  | .revoked other :: earlier, found => by
      rw [session?] at found
      split at found
      · cases found
      · exact session?_ne_nil found
  | .prolonged other moment :: earlier, found => by
      rw [session?] at found
      split at found
      · obtain ⟨t, -, same⟩ := Option.map_eq_some_iff.1 found
        cases same
        exact List.cons_ne_nil _ _
      · exact session?_ne_nil found

theorem unbroken_cons {window : Nat} {now latest : Instant} {earlier : List Instant} :
    Unbroken window (now :: latest :: earlier) ↔
      now < Store.deadline latest window ∧ Unbroken window (latest :: earlier) :=
  List.isChain_cons_cons

theorem not_standsFor_none (now : Instant) (entry : Entry) : ¬ a.StandsFor now entry none := by
  rintro ⟨record, latest, earlier, found, -⟩
  cases found

theorem agrees_empty (start : Instant) (supply : Nat → Uuid) :
    a.Agrees { clock := start, supply } [] where
  calm := rfl
  live subject entry := by
    constructor
    · intro held
      cases held
    · intro stands
      exact absurd stands (a.not_standsFor_none _ _)

/-- A session that starts at this instant has its entry from now on. -/
theorem standsFor_now (takes : Store.Takes a.lifetimes.inactivity) {now : Instant} {entry : Entry}
    {record : SessionRecord} {earlier : List Instant} :
    a.StandsFor now entry (some (record, now :: earlier)) ↔
      Unbroken a.lifetimes.inactivity.millis (now :: earlier) ∧
        some ⟨record.render, Store.deadline now a.lifetimes.inactivity.millis⟩ = some entry := by
  constructor
  · rintro ⟨_, latest, _, found, unbroken, rfl⟩
    cases found
    exact ⟨(unbroken_cons.1 unbroken).2, rfl⟩
  · rintro ⟨unbroken, same⟩
    cases same
    exact ⟨record, now, earlier, rfl, unbroken_cons.2 ⟨Store.lt_deadline takes now, unbroken⟩, rfl⟩

section Steps

variable {a} {s : State} {history : List Fact}

/-- Time goes on: sessions may break, and none comes back. -/
theorem Agrees.later (agrees : a.Agrees s history) {now : Instant} (order : s.clock ≤ now) :
    a.Agrees { s with clock := now } history where
  calm := agrees.calm
  live subject entry := by
    rw [Store.live?_later s.store order, Option.filter_eq_some_iff, agrees.live]
    simp only [Entry.live, decide_eq_true_eq]
    constructor
    · rintro ⟨⟨record, latest, earlier, found, unbroken, rfl⟩, alive⟩
      obtain ⟨-, unbroken⟩ := unbroken_cons.1 unbroken
      exact ⟨record, latest, earlier, found, unbroken_cons.2 ⟨alive, unbroken⟩, rfl⟩
    · rintro ⟨record, latest, earlier, found, unbroken, rfl⟩
      obtain ⟨alive, unbroken⟩ := unbroken_cons.1 unbroken
      have before : s.clock < Store.deadline latest a.lifetimes.inactivity.millis :=
        Nat.lt_of_le_of_lt order alive
      exact ⟨⟨record, latest, earlier, found, unbroken_cons.2 ⟨before, unbroken⟩, rfl⟩, alive⟩

/-- Nothing that is live changes. -/
theorem Agrees.same (agrees : a.Agrees s history) {after : State} (calm : after.faults = s.faults)
    (clock : after.clock = s.clock)
    (same : ∀ key, after.store.live? s.clock key = s.store.live? s.clock key) :
    a.Agrees after history where
  calm := calm.trans agrees.calm
  live subject entry := by
    rw [clock, same]
    exact agrees.live subject entry

/-- What is live under one subject's key changes as the subject's session does. -/
theorem Agrees.change (agrees : a.Agrees s history) {after : State} {history' : List Fact}
    {subject : Uuid} {shown : Option Entry} (calm : after.faults = s.faults)
    (clock : after.clock = s.clock)
    (live : ∀ key, after.store.live? s.clock key =
      if key = a.key subject then shown else s.store.live? s.clock key)
    (elsewhere : ∀ other, other ≠ subject → session? other history' = session? other history)
    (here : ∀ entry, shown = some entry ↔
      a.StandsFor s.clock entry (session? subject history')) :
    a.Agrees after history' where
  calm := calm.trans agrees.calm
  live other entry := by
    rw [clock, live]
    by_cases own : other = subject
    · subst own
      rw [if_pos rfl]
      exact here entry
    · have apart : a.key other ≠ a.key subject := fun same => own (sessionKey_inj.1 same)
      rw [if_neg apart, elsewhere other own]
      exact agrees.live other entry

theorem Agrees.issued (agrees : a.Agrees s history) (takes : Store.Takes a.lifetimes.inactivity)
    (subject : Uuid) :
    a.Agrees (a.issued s subject) (.issued subject (nextRecord s) s.clock :: history) := by
  refine agrees.change rfl rfl (fun key => Store.live?_set takes s.store s.clock _ key _) ?_ ?_
  · intro other differs
    rw [session?, if_neg (Ne.symm differs)]
  · intro entry
    have alone : Unbroken a.lifetimes.inactivity.millis [s.clock] := List.isChain_singleton _
    rw [session?, if_pos rfl, a.standsFor_now takes, and_iff_right alone]

theorem Agrees.revoked (agrees : a.Agrees s history) (subject : Uuid) (tally : Tally) :
    a.Agrees { s with store := s.store.delete (a.key subject), tally }
      (.revoked subject :: history) := by
  refine agrees.change rfl rfl (fun key => Store.live?_delete s.store s.clock _ key) ?_ ?_
  · intro other differs
    rw [session?, if_neg (Ne.symm differs)]
  · intro entry
    rw [session?, if_pos rfl]
    exact ⟨nofun, fun stands => absurd stands (a.not_standsFor_none _ _)⟩

theorem Agrees.prolonged (agrees : a.Agrees s history)
    (takes : Store.Takes a.lifetimes.inactivity) {store : Store} {subject : Uuid}
    (live : ∀ key, store.live? s.clock key =
      if key = a.key subject then
        (s.store.live? s.clock (a.key subject)).map fun e =>
          { e with deadline := Store.deadline s.clock a.lifetimes.inactivity.millis }
      else s.store.live? s.clock key) :
    a.Agrees { s with store } (.prolonged subject s.clock :: history) := by
  refine agrees.change rfl rfl live ?_ ?_
  · intro other differs
    rw [session?, if_neg (Ne.symm differs)]
  · intro entry
    rw [session?, if_pos rfl]
    constructor
    · intro held
      obtain ⟨old, lived, rfl⟩ := Option.map_eq_some_iff.1 held
      obtain ⟨record, latest, earlier, found, unbroken, rfl⟩ := (agrees.live subject old).1 lived
      rw [found, Option.map_some, a.standsFor_now takes]
      exact ⟨unbroken, rfl⟩
    · intro stands
      cases found : session? subject history with
      | none =>
          rw [found] at stands
          exact absurd stands (a.not_standsFor_none _ _)
      | some session =>
          obtain ⟨record, moments⟩ := session
          obtain ⟨latest, earlier, rfl⟩ := List.exists_cons_of_ne_nil (session?_ne_nil found)
          rw [found, Option.map_some, a.standsFor_now takes] at stands
          obtain ⟨unbroken, same⟩ := stands
          have held := (agrees.live subject _).2 ⟨record, latest, earlier, found, unbroken, rfl⟩
          rw [held, Option.map_some, same]

/-- **Every deed keeps the store and the table together.** -/
theorem Agrees.record (agrees : a.Agrees s history) (takes : Store.Takes a.lifetimes.inactivity)
    (deed : Deed) :
    a.Agrees (a.record (s, history) deed).1 (a.record (s, history) deed).2 := by
  cases deed with
  | issue subject =>
      rcases a.run_issue .empty none agrees.calm takes s.clock subject with
        ⟨pair, ran⟩ | ⟨ending, nonces, ran, missed⟩
      · simp only [Authority.record, perform, fact?, ran]
        exact agrees.issued takes subject.id
      · have unrecorded : a.fact? s (.issue subject) = none := by
          rw [fact?, ran]
          split
          · rename_i pair ended; exact absurd ended (missed pair)
          · rfl
        simp only [Authority.record, perform, unrecorded, ran]
        exact agrees.same rfl rfl fun _ => rfl
  | revoke subject =>
      have ran := a.run_revoke .empty none agrees.calm subject
      simp only [Authority.record, perform, fact?, ran]
      exact agrees.revoked subject _
  | prolong subject =>
      obtain ⟨store, ran, live⟩ := a.run_prolong .empty none agrees.calm takes subject
      simp only [Authority.record, perform, fact?, ran]
      exact agrees.prolonged takes live
  | check claims slot =>
      obtain ⟨store, same, ⟨-, ran⟩ | ⟨-, ran⟩⟩ :=
        a.run_checkLive .empty none agrees.calm claims slot
      · simp only [Authority.record, perform, fact?, ran]
        exact agrees.same rfl rfl same
      · simp only [Authority.record, perform, fact?, ran]
        exact agrees.same rfl rfl same
  | advance span => exact agrees.later (Nat.le_add_right _ _)

/-- What a check looks for in the store is what the table says. -/
theorem Agrees.holds_iff (agrees : a.Agrees s history) (claims : Claims) (slot : Slot) :
    a.Holds s claims slot ↔ a.Counts history s.clock claims slot := by
  constructor
  · rintro ⟨subject, record, named, live, carried⟩
    obtain ⟨entry, held, read⟩ := Option.bind_eq_some_iff.1 live
    obtain ⟨written, latest, earlier, found, unbroken, rfl⟩ := (agrees.live subject entry).1 held
    rw [SessionRecord.read?_render] at read
    cases read
    exact ⟨subject, record, _, named, found, carried, unbroken⟩
  · rintro ⟨subject, record, moments, named, found, carried, unbroken⟩
    obtain ⟨latest, earlier, rfl⟩ := List.exists_cons_of_ne_nil (session?_ne_nil found)
    have held := (agrees.live subject _).2 ⟨record, latest, earlier, found, unbroken, rfl⟩
    refine ⟨subject, record, named, ?_, carried⟩
    rw [liveRecord?, held, Option.bind_some, SessionRecord.read?_render]

end Steps

/-! ## Whole runs -/

theorem agrees_foldl (takes : Store.Takes a.lifetimes.inactivity) (deeds : List Deed)
    (course : State × List Fact) (agrees : a.Agrees course.1 course.2) :
    a.Agrees (deeds.foldl a.record course).1 (deeds.foldl a.record course).2 := by
  induction deeds generalizing course with
  | nil => exact agrees
  | cons deed deeds ih => exact ih (a.record course deed) (agrees.record takes deed)

/-- The table is in the store after every run from an empty one. -/
theorem agrees_course (takes : Store.Takes a.lifetimes.inactivity) (start : Instant)
    (supply : Nat → Uuid) (deeds : List Deed) :
    a.Agrees (a.course { clock := start, supply } deeds).1
      (a.course { clock := start, supply } deeds).2 :=
  a.agrees_foldl takes deeds _ (a.agrees_empty start supply)

def verdict (s : State) (claims : Claims) (slot : Slot) : Ending (Except AuthError Unit) :=
  (s.run .empty none (a.checkLive claims slot).run).1

theorem verdict_eq {s : State} {history : List Fact} (agrees : a.Agrees s history)
    (claims : Claims) (slot : Slot) :
    (a.verdict s claims slot = .finished (.ok ()) ↔ a.Counts history s.clock claims slot) ∧
      (¬ a.Counts history s.clock claims slot →
        a.verdict s claims slot = .finished (.error .noActiveSession)) := by
  have decided := agrees.holds_iff claims slot
  obtain ⟨store, -, ⟨holds, ran⟩ | ⟨fails, ran⟩⟩ :=
    a.run_checkLive .empty none agrees.calm claims slot
  · have counts := decided.1 holds
    rw [verdict, ran]
    exact ⟨⟨fun _ => counts, fun _ => rfl⟩, fun fails => absurd counts fails⟩
  · rw [decided] at fails
    rw [verdict, ran]
    refine ⟨⟨fun same => ?_, fun counts => absurd counts fails⟩, fun _ => rfl⟩
    cases same

/-! ## What leaves a session alone -/

/-- A deed is no business of a subject's session: it concerns another subject, or only looks, or
comes too late to prolong it. -/
def Idle (history : List Fact) (now : Instant) (subject : Uuid) : Deed → Prop
  | .issue other => other.id ≠ subject
  | .revoke other => other ≠ subject
  | .prolong other => other = subject → ∀ record moments,
      session? subject history = some (record, moments) →
        ¬ Unbroken a.lifetimes.inactivity.millis (now :: moments)
  | .check _ _ => True
  | .advance _ => False

section Idle

variable {a} {s : State} {history : List Fact} {subject : Uuid} {deed : Deed}

theorem perform_clock (calm : s.faults = {}) (takes : Store.Takes a.lifetimes.inactivity)
    (idle : a.Idle history s.clock subject deed) : (a.perform s deed).clock = s.clock := by
  cases deed with
  | issue other =>
      rcases a.run_issue .empty none calm takes s.clock other with
        ⟨pair, ran⟩ | ⟨ending, nonces, ran, -⟩
      · rw [perform, ran]; rfl
      · rw [perform, ran]
  | revoke other => rw [perform, a.run_revoke .empty none calm other]
  | prolong other =>
      obtain ⟨store, ran, -⟩ := a.run_prolong .empty none calm takes other
      rw [perform, ran]
  | check claims slot =>
      obtain ⟨store, -, ⟨-, ran⟩ | ⟨-, ran⟩⟩ := a.run_checkLive .empty none calm claims slot <;>
        rw [perform, ran]
  | advance span => cases idle

theorem unbroken_earlier {window : Nat} {now later : Instant} {moments : List Instant}
    (order : now ≤ later) (unbroken : Unbroken window (later :: moments)) :
    Unbroken window (now :: moments) := by
  cases moments with
  | nil => exact List.isChain_singleton _
  | cons latest earlier =>
      obtain ⟨alive, unbroken⟩ := unbroken_cons.1 unbroken
      exact unbroken_cons.2 ⟨Nat.lt_of_le_of_lt order alive, unbroken⟩

/-- A session goes on at a later instant, with or without an idle deed before. -/
theorem session?_of_idle (idle : a.Idle history s.clock subject deed) {later : Instant}
    (order : s.clock ≤ later) (record : SessionRecord) :
    (∃ moments, session? subject ((a.fact? s deed).toList ++ history) = some (record, moments) ∧
        Unbroken a.lifetimes.inactivity.millis (later :: moments)) ↔
      ∃ moments, session? subject history = some (record, moments) ∧
        Unbroken a.lifetimes.inactivity.millis (later :: moments) := by
  cases deed with
  | issue other =>
      have unseen : session? subject ((a.fact? s (.issue other)).toList ++ history) =
          session? subject history := by
        rw [fact?]
        split
        · exact if_neg idle
        · rfl
      rw [unseen]
  | revoke other =>
      have unseen : session? subject ((a.fact? s (.revoke other)).toList ++ history) =
          session? subject history := by
        rw [fact?]
        split
        · exact if_neg idle
        · rfl
      rw [unseen]
  | prolong other =>
      have seen : session? subject ((a.fact? s (.prolong other)).toList ++ history) =
          if other = subject then
            (session? subject history).map fun t => (t.1, s.clock :: t.2)
          else session? subject history := rfl
      rw [seen]
      by_cases own : other = subject
      · rw [if_pos own]
        constructor
        · rintro ⟨moments, found, unbroken⟩
          obtain ⟨⟨_, started⟩, before, same⟩ := Option.map_eq_some_iff.1 found
          cases same
          exact absurd (unbroken_cons.1 unbroken).2 (idle own _ _ before)
        · rintro ⟨moments, found, unbroken⟩
          exact absurd (unbroken_earlier order unbroken) (idle own _ _ found)
      · rw [if_neg own]
  | check claims slot => rfl
  | advance span => cases idle

end Idle

/-- Claims count later just if they do with an idle deed before. -/
theorem counts_of_idle {s : State} {history : List Fact} {claims : Claims} {deed : Deed}
    (idle : ∀ subject, claims.subject? = some subject → a.Idle history s.clock subject deed)
    {later : Instant} (order : s.clock ≤ later) (slot : Slot) :
    a.Counts ((a.fact? s deed).toList ++ history) later claims slot ↔
      a.Counts history later claims slot := by
  constructor
  · rintro ⟨subject, record, moments, named, found, carried, unbroken⟩
    obtain ⟨started, found, unbroken⟩ :=
      (session?_of_idle (idle subject named) order record).1 ⟨moments, found, unbroken⟩
    exact ⟨subject, record, started, named, found, carried, unbroken⟩
  · rintro ⟨subject, record, moments, named, found, carried, unbroken⟩
    obtain ⟨started, found, unbroken⟩ :=
      (session?_of_idle (idle subject named) order record).2 ⟨moments, found, unbroken⟩
    exact ⟨subject, record, started, named, found, carried, unbroken⟩

theorem verdict_congr {s t : State} {history history' : List Fact} (agrees : a.Agrees s history)
    (agrees' : a.Agrees t history') {claims : Claims} {slot : Slot}
    (same : a.Counts history s.clock claims slot ↔ a.Counts history' t.clock claims slot) :
    a.verdict s claims slot = a.verdict t claims slot := by
  obtain ⟨passes, refuses⟩ := a.verdict_eq agrees claims slot
  obtain ⟨passes', refuses'⟩ := a.verdict_eq agrees' claims slot
  by_cases counts : a.Counts history s.clock claims slot
  · rw [passes.2 counts, passes'.2 (same.1 counts)]
  · rw [refuses counts, refuses' fun counts' => counts (same.2 counts')]

/-- **The authority keeps a table of sessions.**  From an empty store, after any deeds, a check
passes just the claims that count in the table, refuses all others for want of a session, and says
the same later whether or not an idle deed came in between. -/
theorem checkLive_table (takes : Store.Takes a.lifetimes.inactivity) (start : Instant)
    (supply : Nat → Uuid) (deeds : List Deed) (claims : Claims) (slot : Slot) :
    let course := a.course { clock := start, supply }
    let now := (course deeds).1
    let history := (course deeds).2
    (a.verdict now claims slot = .finished (.ok ()) ↔ a.Counts history now.clock claims slot) ∧
      (¬ a.Counts history now.clock claims slot →
        a.verdict now claims slot = .finished (.error .noActiveSession)) ∧
      ∀ deed wait,
        (∀ subject, claims.subject? = some subject → a.Idle history now.clock subject deed) →
        a.verdict (course (deeds ++ [deed, .advance wait])).1 claims slot =
          a.verdict (course (deeds ++ [.advance wait])).1 claims slot := by
  intro course now history
  have agrees : a.Agrees now history := a.agrees_course takes start supply deeds
  obtain ⟨passes, refuses⟩ := a.verdict_eq agrees claims slot
  refine ⟨passes, refuses, fun deed wait idle => ?_⟩
  have agrees₁ := a.agrees_course takes start supply (deeds ++ [deed, .advance wait])
  have agrees₂ := a.agrees_course takes start supply (deeds ++ [.advance wait])
  refine a.verdict_congr agrees₁ agrees₂ ?_
  rw [course_append, course_append, List.foldl_cons, List.foldl_cons, List.foldl_cons]
  cases named : claims.subject? with
  | none =>
      constructor
      · rintro ⟨subject, record, moments, named', -⟩
        rw [named] at named'; cases named'
      · rintro ⟨subject, record, moments, named', -⟩
        rw [named] at named'; cases named'
  | some subject =>
      have still := perform_clock agrees.calm takes (idle subject named)
      have decided := a.counts_of_idle idle (Nat.le_add_right _ wait.nanos) slot
      simp only [List.foldl_nil, record_advance]
      rw [show (a.record (course deeds) deed).1.clock = now.clock from still]
      exact decided

/-- A nanosecond short of its window a session still goes on. -/
theorem checkLive_table_last_moment :
    let a : Authority := ⟨⟨.hs256, .secret .sha256, some [0x6B], none, 0⟩, "",
      ⟨.ofSeconds 60, .ofSeconds 60, .ofMillis 2⟩⟩
    let deeds : List Deed := [.issue ⟨.ofNat 7, "n"⟩, .advance ⟨1999999⟩]
    let claims := Claims.ofIdentity ⟨.ofNat 7, "n", (Uuid.nonce 2).toText, none⟩
    Store.Takes a.lifetimes.inactivity ∧
      a.verdict (a.course { clock := 0, supply := Uuid.nonce } deeds).1 claims .refresh =
        .finished (.ok ()) := by
  intro a deeds claims
  have named := Claims.subject?_ofIdentity ⟨.ofNat 7, "n", (Uuid.nonce 2).toText, none⟩
  have carried := Claims.uid?_ofIdentity ⟨.ofNat 7, "n", (Uuid.nonce 2).toText, none⟩
  have takes : Store.Takes a.lifetimes.inactivity := ⟨by decide, by decide⟩
  have started : session? (.ofNat 7) (a.course { clock := 0, supply := Uuid.nonce } deeds).2 =
      some (⟨(Uuid.nonce 1).toText, (Uuid.nonce 2).toText⟩, [0]) := by decide +kernel
  have now : (a.course { clock := 0, supply := Uuid.nonce } deeds).1.clock = 1999999 := by
    decide +kernel
  have unbroken : Unbroken a.lifetimes.inactivity.millis [1999999, 0] :=
    List.isChain_cons_cons.2 ⟨by decide, List.isChain_singleton _⟩
  have counts : a.Counts (a.course { clock := 0, supply := Uuid.nonce } deeds).2
      (a.course { clock := 0, supply := Uuid.nonce } deeds).1.clock claims .refresh := by
    rw [now]
    exact ⟨_, _, _, named, started, carried, unbroken⟩
  exact ⟨takes,
    (checkLive_table a takes 0 Uuid.nonce deeds claims .refresh).1.2 counts⟩

end Authority

end SessionAuthority

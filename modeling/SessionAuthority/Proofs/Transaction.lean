import SessionAuthority.Proofs.State

/-!
# Programs that write once, at the end

A request does everything that can go wrong before it changes what is stored, and after the change
it only counts.  `Program.Transacts` says this of a program, together with what it must have seen
before each call that is more than a question (`Licence`), what is true of its result if it has
written nothing, and what if it has.  It composes as programs do (`Program.Transacts.bind`,
`Action.Transacts.bind`).

What such a program does to a running service is shown once: a property of states that holds while
nothing is written, and one that holds from then on, are carried through every run, however the
collaborators misbehave (`Licence.Keeps.run`).
-/
set_option autoImplicit false

namespace SessionAuthority

/-- What a program learns from those around it. -/
inductive Seen where
  | nonce (nonce : Uuid)
  | stored (key : String) (value : Option Bytes)
  | listed (identity : String) (user : Option User)
  deriving DecidableEq, Repr

/-- The nonces among what was seen, in the order in which they were taken. -/
def Seen.nonces (seen : List Seen) : List Uuid :=
  seen.filterMap fun
    | .nonce u => some u
    | _ => none

@[simp] theorem Seen.nonces_append (seen later : List Seen) :
    nonces (seen ++ later) = nonces seen ++ nonces later := List.filterMap_append

@[simp] theorem Seen.nonces_nonce (u : Uuid) : nonces [.nonce u] = [u] := rfl

@[simp] theorem Seen.nonces_stored (key : String) (value : Option Bytes) :
    nonces [.stored key value] = [] := rfl

@[simp] theorem Seen.nonces_listed (identity : String) (user : Option User) :
    nonces [.listed identity user] = [] := rfl

namespace Call

/-- What the answer to a call shows; a refusal shows nothing. -/
def seen : (c : Call) → c.Answer → List Seen
  | .nonce, u => [.nonce u]
  | .get key, .ok value => [.stored key value]
  | .lookup identity, .ok user => [.listed identity user]
  | _, _ => []

/-- Whether a call with this answer has changed what is stored. -/
def wrote : (c : Call) → c.Answer → Bool
  | .set _ _ _, .ok _ => true
  | .delete _, .ok _ => true
  | _, _ => false

end Call

/-- What a program may write and detach, by what it has seen before. -/
structure Licence where
  set : List Seen → String → Bytes → Span → Prop
  delete : List Seen → String → Prop
  detach : List Seen → Prolongation → Prop

/-- The calls that a licence admits.  Questions are free; a program never prolongs by itself. -/
def Licence.Allows (l : Licence) (seen : List Seen) : Call → Prop
  | .set key value ttl => l.set seen key value ttl
  | .delete key => l.delete seen key
  | .detach key ttl => l.detach seen ⟨key, ttl⟩
  | .expire _ _ => False
  | _ => True

namespace Program

variable {α β : Type}

/-- A program that ends well, and only counts before that. -/
def Settled (good : α → Prop) : Program α → Prop
  | done a => good a
  | crash _ => False
  | call c next => (∃ e, c = .count e) ∧ ∀ answer, (next answer).Settled good

/-- A program that keeps to a licence and is settled once it has written. -/
def Transacts (l : Licence) (unwritten : List Seen → α → Prop) (written : α → Prop) :
    List Seen → Program α → Prop
  | seen, done a => unwritten seen a
  | _, crash _ => True
  | seen, call c next => l.Allows seen c ∧ ∀ answer,
      if c.wrote answer then (next answer).Settled written
      else (next answer).Transacts l unwritten written (seen ++ c.seen answer)

theorem Settled.bind {good : α → Prop} {good' : β → Prop} {p : Program α} {f : α → Program β}
    (settled : p.Settled good) (rest : ∀ a, good a → (f a).Settled good') :
    (p >>= f).Settled good' := by
  induction p with
  | done a => exact rest a settled
  | crash c => exact settled.elim
  | call c next ih => exact ⟨settled.1, fun answer => ih answer (settled.2 answer)⟩

/-- A program that has not written when it hands over may be followed by one that does. -/
theorem Transacts.bind {l : Licence} {unwritten : List Seen → α → Prop} {written : α → Prop}
    {unwritten' : List Seen → β → Prop} {written' : β → Prop} {seen : List Seen}
    {p : Program α} {f : α → Program β} (first : p.Transacts l unwritten written seen)
    (missed : ∀ seen a, unwritten seen a → (f a).Transacts l unwritten' written' seen)
    (met : ∀ a, written a → (f a).Settled written') :
    (p >>= f).Transacts l unwritten' written' seen := by
  induction p generalizing seen with
  | done a => exact missed seen a first
  | crash c => trivial
  | call c next ih =>
      obtain ⟨allowed, rest⟩ := first
      refine ⟨allowed, fun answer => ?_⟩
      have answered := rest answer
      cases wrote : c.wrote answer with
      | true =>
          rw [wrote, if_pos rfl] at answered
          rw [if_pos rfl]
          exact answered.bind met
      | false =>
          rw [wrote, if_neg Bool.false_ne_true] at answered
          rw [if_neg Bool.false_ne_true]
          exact ih answer answered

end Program

namespace Action

variable {α β : Type} {l : Licence}

/-- An action that keeps to a licence.  If it is refused it has written nothing. -/
def Transacts (l : Licence) (unwritten : List Seen → α → Prop) (written : α → Prop)
    (seen : List Seen) (x : Action α) : Prop :=
  x.run.Transacts l (fun seen r => ∀ a, r = .ok a → unwritten seen a)
    (fun r => ∃ a, r = .ok a ∧ written a) seen

def Settled (good : α → Prop) (x : Action α) : Prop :=
  x.run.Settled fun r => ∃ a, r = .ok a ∧ good a

theorem Transacts.bind {unwritten : List Seen → α → Prop} {written : α → Prop}
    {unwritten' : List Seen → β → Prop} {written' : β → Prop} {seen : List Seen} {x : Action α}
    {f : α → Action β} (first : x.Transacts l unwritten written seen)
    (missed : ∀ seen a, unwritten seen a → (f a).Transacts l unwritten' written' seen)
    (met : ∀ a, written a → (f a).Settled written') :
    Action.Transacts l unwritten' written' seen (x >>= f) := by
  rw [Transacts, ExceptT.run_bind]
  refine Program.Transacts.bind first ?_ ?_
  · intro seen r ready
    cases r with
    | ok a => exact missed seen a (ready a rfl)
    | error e => exact fun a same => nomatch same
  · rintro r ⟨a, rfl, done⟩
    exact met a done

/-- A question, and what follows each answer. -/
theorem Transacts.ask {unwritten : List Seen → α → Prop} {written : α → Prop} {seen : List Seen}
    {c : Call} {f : c.Answer → Action α} (allowed : l.Allows seen c)
    (rest : ∀ answer, if c.wrote answer then (f answer).Settled written
      else (f answer).Transacts l unwritten written (seen ++ c.seen answer)) :
    Action.Transacts l unwritten written seen (Action.ask c >>= f) :=
  ⟨allowed, rest⟩

theorem transacts_pure {unwritten : List Seen → α → Prop} {written : α → Prop} {seen : List Seen}
    {a : α} (ready : unwritten seen a) :
    Action.Transacts l unwritten written seen (pure a : Action α) := by
  rintro _ ⟨⟩
  exact ready

theorem transacts_throw {unwritten : List Seen → α → Prop} {written : α → Prop}
    {seen : List Seen} {e : AuthError} :
    Action.Transacts l unwritten written seen (throw e : Action α) :=
  fun _ same => nomatch same

theorem transacts_ofOutcome (o : Outcome AuthError α) {written : α → Prop} {seen : List Seen} :
    Action.Transacts l (fun seen' a => seen' = seen ∧ o = .ok a) written seen
      (Action.ofOutcome o) := by
  cases o with
  | ok a => exact transacts_pure ⟨rfl, rfl⟩
  | refused e => exact fun _ same => nomatch same
  | crashed c => trivial

end Action

/-! ## Calls in a running service -/

namespace State

variable (s : State) (directory : Directory) (deadline : Option Instant)

/-- The answer to a call that nothing disturbs. -/
def respond : (c : Call) → c.Answer × State
  | .nonce => (s.nextNonce, s.takeNonce)
  | .count e => ((), s.count e)
  | .report => (s.tally, s)
  | .detach key ttl => ((), { s with ready := s.ready ++ [⟨key, ttl⟩] })
  | .get key => s.update (.ok (s.store.get s.clock key))
  | .set key value ttl =>
      s.update ((s.store.set s.clock key value ttl).map fun store => ((), store))
  | .expire key ttl => s.update (s.store.expire s.clock key ttl)
  | .delete key => s.update (.ok ((), s.store.delete key))
  | .lookup identity => (.ok (directory.find? identity), s)

/-- A state, or what becomes of it by waiting once. -/
def Waits (t : State) : Prop := t = s ∨ ∃ target, t = s.waitUntil target

/-- A call is answered after a wait, or refused at once, or nothing comes of the program. -/
theorem meet_cases {ε β : Type} (fault : Fault ε) (refuse : ε → β) (answer : State → β × State) :
    (∃ t, s.Waits t ∧
        s.meet deadline fault refuse answer = (.finished (answer t).1, (answer t).2)) ∨
      (∃ e, s.meet deadline fault refuse answer = (.finished (refuse e), s)) ∨
      ∃ ending t, (∀ a, ending ≠ .finished a) ∧ s.Waits t ∧
        s.meet deadline fault refuse answer = (ending, t) := by
  cases fault with
  | none => exact .inl ⟨s, .inl rfl, rfl⟩
  | fail e => exact .inr (.inl ⟨e, rfl⟩)
  | panic detail => exact .inr (.inr ⟨.crashed _, s, by simp, .inl rfl, rfl⟩)
  | delay wait =>
      rw [meet]
      by_cases instant : wait.nanos = 0
      · simp only [instant, if_true]
        exact .inl ⟨s, .inl rfl, rfl⟩
      simp only [instant, if_false]
      cases deadline with
      | none => exact .inl ⟨_, .inr ⟨_, rfl⟩, rfl⟩
      | some d =>
          by_cases reached : d ≤ s.clock + wait.nanos
          · simp only [reached, if_true]
            exact .inr (.inr ⟨.abandoned, _, by simp, .inr ⟨_, rfl⟩, rfl⟩)
          · simp only [reached, if_false]
            exact .inl ⟨_, .inr ⟨_, rfl⟩, rfl⟩

/-- The same of every call; one that is refused shows nothing and has changed nothing. -/
theorem answer_cases (c : Call) :
    (∃ t, s.Waits t ∧ s.answer directory deadline c =
        (.finished (t.respond directory c).1, (t.respond directory c).2)) ∨
      (∃ a, c.wrote a = false ∧ c.seen a = [] ∧
        s.answer directory deadline c = (.finished a, s)) ∨
      ∃ ending t, (∀ a, ending ≠ .finished a) ∧ s.Waits t ∧
        s.answer directory deadline c = (ending, t) := by
  -- a collaborator's call is met, and its refusal is an error
  have met {c : Call} {ε : Type} (fault : Fault ε) (refuse : ε → c.Answer)
      (silent : ∀ e, c.wrote (refuse e) = false ∧ c.seen (refuse e) = [])
      (same : s.answer directory deadline c =
        s.meet deadline fault refuse fun s => s.respond directory c) :
      (∃ t, s.Waits t ∧ s.answer directory deadline c =
          (.finished (t.respond directory c).1, (t.respond directory c).2)) ∨
        (∃ a, c.wrote a = false ∧ c.seen a = [] ∧
          s.answer directory deadline c = (.finished a, s)) ∨
        ∃ ending t, (∀ a, ending ≠ .finished a) ∧ s.Waits t ∧
          s.answer directory deadline c = (ending, t) := by
    rw [same]
    rcases s.meet_cases deadline fault refuse fun s => s.respond directory c with
      answered | ⟨e, refused⟩ | ended
    · exact .inl answered
    · exact .inr (.inl ⟨refuse e, (silent e).1, (silent e).2, refused⟩)
    · exact .inr (.inr ended)
  cases c with
  | nonce => exact .inl ⟨s, .inl rfl, rfl⟩
  | count e => exact .inl ⟨s, .inl rfl, rfl⟩
  | report => exact .inl ⟨s, .inl rfl, rfl⟩
  | detach key ttl => exact .inl ⟨s, .inl rfl, rfl⟩
  | get key => exact met s.faults.get .error (fun _ => ⟨rfl, rfl⟩) rfl
  | set key value ttl => exact met s.faults.set .error (fun _ => ⟨rfl, rfl⟩) rfl
  | expire key ttl => exact met s.faults.expire .error (fun _ => ⟨rfl, rfl⟩) rfl
  | delete key => exact met s.faults.delete .error (fun _ => ⟨rfl, rfl⟩) rfl
  | lookup identity => exact met s.faults.lookup .error (fun _ => ⟨rfl, rfl⟩) rfl

end State

/-! ## Runs -/

/-- Two properties of states go through the runs of programs with a licence: one that holds, of
what was seen too, while nothing is written, and one from then on. -/
structure Licence.Keeps (l : Licence) (directory : Directory) (before : List Seen → State → Prop)
    (after : State → Prop) : Prop where
  wait : ∀ {seen s} (target : Instant), before seen s → before seen (s.waitUntil target)
  nonce : ∀ {seen s}, before seen s → before (seen ++ [.nonce s.nextNonce]) s.takeNonce
  count : ∀ {seen s} (e : Event), before seen s → before seen (s.count e)
  detach : ∀ {seen s p}, l.detach seen p → before seen s →
    before seen { s with ready := s.ready ++ [p] }
  get : ∀ {seen s} (key : String), before seen s →
    before (seen ++ [.stored key (s.store.get s.clock key).1])
      { s with store := (s.store.get s.clock key).2 }
  lookup : ∀ {seen s} (identity : String), before seen s →
    before (seen ++ [.listed identity (directory.find? identity)]) s
  set : ∀ {seen s key value ttl store}, l.set seen key value ttl →
    s.store.set s.clock key value ttl = .ok store → before seen s → after { s with store }
  delete : ∀ {seen s key}, l.delete seen key → before seen s →
    after { s with store := s.store.delete key }
  counted : ∀ {s} (e : Event), after s → after (s.count e)

namespace Licence.Keeps

variable {α : Type} {l : Licence} {directory : Directory} {before : List Seen → State → Prop}
  {after : State → Prop} (keeps : l.Keeps directory before after) (deadline : Option Instant)

include keeps

theorem waits {seen : List Seen} {s t : State} (waits : s.Waits t) (held : before seen s) :
    before seen t := by
  rcases waits with rfl | ⟨target, rfl⟩
  · exact held
  · exact keeps.wait target held

/-- One call that nothing disturbs. -/
theorem respond {seen : List Seen} {s : State} {c : Call} (allowed : l.Allows seen c)
    (held : before seen s) :
    if c.wrote (s.respond directory c).1 then after (s.respond directory c).2
    else before (seen ++ c.seen (s.respond directory c).1) (s.respond directory c).2 := by
  cases c with
  | nonce => exact keeps.nonce held
  | count e =>
      have counted := keeps.count e held
      rwa [← List.append_nil seen] at counted
  | report => rwa [← List.append_nil seen] at held
  | detach key ttl =>
      have detached := keeps.detach allowed held
      rwa [← List.append_nil seen] at detached
  | get key => exact keeps.get key held
  | set key value ttl =>
      rw [State.respond]
      cases stored : s.store.set s.clock key value ttl with
      | ok store => exact keeps.set allowed stored held
      | error e => rwa [← List.append_nil seen] at held
  | expire key ttl => exact allowed.elim
  | delete key => exact keeps.delete allowed held
  | lookup identity => exact keeps.lookup identity held

theorem settled {good : α → Prop} {p : Program α} (settled : p.Settled good) {s : State}
    (held : after s) :
    ∃ a, (s.run directory deadline p).1 = .finished a ∧ good a ∧
      after (s.run directory deadline p).2 := by
  induction p generalizing s with
  | done a => exact ⟨a, rfl, settled, held⟩
  | crash c => exact settled.elim
  | call c next ih =>
      obtain ⟨⟨e, rfl⟩, rest⟩ := settled
      exact ih () (rest ()) (keeps.counted e held)

/-- **Every run of such a program** either writes nothing, or it finishes well after it has
written. -/
theorem run {unwritten : List Seen → α → Prop} {written : α → Prop} {p : Program α}
    {seen : List Seen} (transacts : p.Transacts l unwritten written seen) {s : State}
    (held : before seen s) :
    (∃ seen, before seen (s.run directory deadline p).2 ∧
        ∀ a, (s.run directory deadline p).1 = .finished a → unwritten seen a) ∨
      ∃ a, (s.run directory deadline p).1 = .finished a ∧ written a ∧
        after (s.run directory deadline p).2 := by
  induction p generalizing seen s with
  | done a =>
      refine .inl ⟨seen, held, ?_⟩
      rintro _ ⟨⟩
      exact transacts
  | crash c => exact .inl ⟨seen, held, fun _ same => by cases same⟩
  | call c next ih =>
      obtain ⟨allowed, rest⟩ := transacts
      rw [State.run]
      rcases s.answer_cases directory deadline c with
        ⟨t, waited, answered⟩ | ⟨a, unwrote, unseen, refused⟩ | ⟨ending, t, unended, waited, ended⟩
      · have responded := keeps.respond allowed (keeps.waits waited held)
        have next := rest (t.respond directory c).1
        rw [answered]
        cases wrote : c.wrote (t.respond directory c).1 with
        | true =>
            rw [wrote, if_pos rfl] at responded next
            exact .inr (keeps.settled deadline next responded)
        | false =>
            rw [wrote, if_neg Bool.false_ne_true] at responded next
            exact ih _ next responded
      · have next := rest a
        rw [unwrote, if_neg Bool.false_ne_true, unseen, List.append_nil] at next
        rw [refused]
        exact ih a next held
      · rw [ended]
        cases ending with
        | finished a => exact absurd rfl (unended a)
        | crashed crash => exact .inl ⟨seen, keeps.waits waited held, by simp⟩
        | abandoned => exact .inl ⟨seen, keeps.waits waited held, by simp⟩

end Licence.Keeps

end SessionAuthority

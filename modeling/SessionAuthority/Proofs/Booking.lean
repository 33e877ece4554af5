import SessionAuthority.Proofs.Transaction
import SessionAuthority.Proofs.Waiting

/-!
# Programs that count at their end

What a request counts it counts last: between such a call and the end of the program there is
nothing but other such calls, so that no collaborator can come in between.  `Program.Books` says
this of a program, together with what its result must have to do with what it has counted.

Beside the requests only the failures of prolongations are counted, and each request as a whole.
These are left out of what a state has booked (`State.booked`).  So a run books just what its
program does, if it ends with a result, and otherwise nothing (`State.run_books`), however the
collaborators misbehave and whatever runs beside it.
-/
set_option autoImplicit false

namespace SessionAuthority

variable {α β : Type}

/-- An event that the program of a request counts itself. -/
def Event.isBooked : Event → Bool
  | prolongFailed => false
  | answered _ _ _ => false
  | _ => true

def Call.booked : Call → List Event
  | .count e => [e].filter Event.isBooked
  | _ => []

/-! ## Programs -/

namespace Program

/-- A program that only counts once it has begun to, and whose result fits what it has counted.
The latest event is the first. -/
def Books (ends : List Event → α → Prop) : List Event → Program α → Prop
  | es, done a => ends es a
  | es, crash _ => es = []
  | es, call c next => (es = [] ∨ ∃ e, c = .count e) ∧
      ∀ answer, (next answer).Books ends (c.booked ++ es)

theorem Books.bind {mid : List Event → α → Prop} {ends : List Event → β → Prop} {es : List Event}
    {p : Program α} {f : α → Program β} (first : p.Books mid es)
    (rest : ∀ es a, mid es a → (f a).Books ends es) : (p >>= f).Books ends es := by
  induction p generalizing es with
  | done a => exact rest es a first
  | crash c => exact first
  | call c next ih => exact ⟨first.1, fun answer => ih answer (first.2 answer)⟩

theorem Books.mono {ends ends' : List Event → α → Prop} {es : List Event} {p : Program α}
    (books : p.Books ends es) (weaker : ∀ es a, ends es a → ends' es a) : p.Books ends' es := by
  induction p generalizing es with
  | done a => exact weaker es a books
  | crash c => exact books
  | call c next ih => exact ⟨books.1, fun answer => ih answer (books.2 answer)⟩

end Program

namespace Action

/-- An action that only counts once it has begun to, and is refused only before that. -/
def Books (ends : List Event → α → Prop) (es : List Event) (x : Action α) : Prop :=
  x.run.Books (fun es r => match r with
    | .ok a => ends es a
    | .error _ => es = []) es

theorem Books.bind {mid : List Event → α → Prop} {ends : List Event → β → Prop} {es : List Event}
    {x : Action α} {f : α → Action β} (first : x.Books mid es)
    (rest : ∀ es a, mid es a → (f a).Books ends es) : Action.Books ends es (x >>= f) := by
  rw [Books, ExceptT.run_bind]
  refine Program.Books.bind first fun es r ended => ?_
  cases r with
  | ok a => exact rest es a ended
  | error e => exact ended

/-- One call, and what follows each answer. -/
theorem Books.ask {ends : List Event → α → Prop} {es : List Event} {c : Call}
    {f : c.Answer → Action α} (front : es = [] ∨ ∃ e, c = .count e)
    (rest : ∀ answer, (f answer).Books ends (c.booked ++ es)) :
    Action.Books ends es (Action.ask c >>= f) :=
  ⟨front, rest⟩

theorem books_ofStore (stored : Except StoreError α) :
    Action.Books (fun es _ => es = []) [] (ofStore stored) := by
  cases stored <;> exact rfl

theorem books_ofOutcome (o : Outcome AuthError α) :
    Action.Books (fun es _ => es = []) [] (ofOutcome o) := by
  cases o <;> exact rfl

end Action

/-! ## Runs -/

namespace State

/-- What the programs of requests have counted so far, the latest first. -/
def booked (s : State) : List Event := s.tally.filter Event.isBooked

variable (s : State)

theorem booked_count (e : Event) : (s.count e).booked = [e].filter Event.isBooked ++ s.booked :=
  List.filter_append [e] s.tally

theorem booked_prolong (p : Prolongation) : (s.prolong p).booked = s.booked := by
  rw [prolong]
  split
  · rfl
  · exact s.booked_count .prolongFailed

theorem booked_start (p : Prolongation) : (s.start p).booked = s.booked := by
  rw [start]
  split
  · exact s.booked_prolong p
  · exact s.booked_count .prolongFailed
  · rfl
  · split
    · exact s.booked_prolong p
    · rfl

theorem booked_startReady : s.startReady.booked = s.booked :=
  List.foldlRecOn (motive := fun t : State => t.booked = s.booked) s.ready State.start rfl
    fun t same p _ => (t.booked_start p).trans same

theorem booked_waitUntil (target : Instant) : (s.waitUntil target).booked = s.booked := by
  obtain ⟨t, woken, ended⟩ := s.waitUntil_induction target
    (motive := fun t : State => t.booked = s.booked) s.booked_startReady
    fun t w _ same => (booked_prolong _ w.2).trans same
  rw [ended]
  exact woken

theorem booked_settle : s.settle.booked = s.booked := by
  apply s.settle_induction (motive := fun t : State => t.booked = s.booked) s.booked_startReady
  intro t w _ same
  exact (t.booked_prolong w.2).trans same

theorem booked_waits {t : State} (waits : s.Waits t) : t.booked = s.booked := by
  rcases waits with rfl | ⟨target, rfl⟩
  · rfl
  · exact s.booked_waitUntil target

variable (directory : Directory) (deadline : Option Instant)

theorem booked_respond (c : Call) : (s.respond directory c).2.booked = c.booked ++ s.booked := by
  have updated {γ : Type} (r : Except StoreError (γ × Store)) :
      (s.update r).2.booked = s.booked := by
    cases r <;> rfl
  cases c with
  | count e => exact s.booked_count e
  | get key => exact updated _
  | set key value ttl => exact updated _
  | expire key ttl => exact updated _
  | delete key => exact updated _
  | _ => rfl

/-- A call books what it counts, whatever comes of it. -/
theorem booked_answer (c : Call) :
    (s.answer directory deadline c).2.booked = c.booked ++ s.booked := by
  by_cases counts : ∃ e, c = .count e
  · obtain ⟨e, rfl⟩ := counts
    exact s.booked_count e
  have silent : c.booked = [] := by
    cases c with
    | count e => exact absurd ⟨e, rfl⟩ counts
    | _ => rfl
  rcases s.answer_cases directory deadline c with
    ⟨t, waits, answered⟩ | ⟨a, -, -, refused⟩ | ⟨ending, t, -, waits, ended⟩
  · rw [answered, booked_respond, s.booked_waits waits]
  · rw [refused, silent, List.nil_append]
  · rw [ended, silent, List.nil_append, s.booked_waits waits]

/-- **A run books what its program does** if it ends with a result, and nothing otherwise. -/
theorem run_books {ends : List Event → α → Prop} {es earlier : List Event} {p : Program α}
    (books : p.Books ends es) {s : State} (held : s.booked = es ++ earlier) :
    (∃ a t later, s.run directory deadline p = (.finished a, t) ∧ ends later a ∧
        t.booked = later ++ earlier) ∨
      ∃ ending t, s.run directory deadline p = (ending, t) ∧ (∀ a, ending ≠ .finished a) ∧
        t.booked = earlier := by
  induction p generalizing es s with
  | done a => exact .inl ⟨a, s, es, rfl, books, held⟩
  | crash c =>
      obtain rfl : es = [] := books
      refine .inr ⟨.crashed c, s, rfl, ?_, held⟩
      intro a same
      cases same
  | call c next ih =>
      obtain ⟨front, rest⟩ := books
      have counted := s.booked_answer directory deadline c
      rw [held, ← List.append_assoc] at counted
      rw [run]
      rcases answered : s.answer directory deadline c with ⟨a | crash | _, t⟩
      · rw [answered] at counted
        exact ih a (rest a) counted
      all_goals
        -- only what is not yet counted can fail to be answered
        have first : c.booked ++ es = [] := by
          cases c with
          | count e => cases answered
          | _ =>
              refine front.resolve_right ?_
              rintro ⟨e, same⟩
              cases same
        rw [answered, first] at counted
        refine .inr ⟨_, t, rfl, ?_, counted⟩
        intro a same
        cases same

end State

end SessionAuthority

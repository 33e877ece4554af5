import SessionAuthority.Proofs.State

/-!
# Failures that differ in words

The words of a failure, those of a refusal by a collaborator, of a panic and of a signature that
cannot be made, are for reports.  Two states that differ in such words only (`State.Reworded`) go on
to do so, whatever happens to both.  Two programs match (`Program.Matches`) if they make the same
calls and go on alike from answers that differ in words, and programs that match are run alike in
such states (`Program.Matches.run`).
-/
set_option autoImplicit false

namespace SessionAuthority

/-! ## Differences that are only in words -/

/-- Two answers are the same, or both are refusals. -/
def Reworded {ε α : Type} (a b : Except ε α) : Prop :=
  a = b ∨ ∃ e e', a = .error e ∧ b = .error e'

/-- Two refusals are the same, or both are failures inside. -/
def AuthError.Reworded (e e' : AuthError) : Prop :=
  e = e' ∨ ∃ detail detail', e = .internal detail ∧ e' = .internal detail'

/-- Two faults are the same but for the words of a refusal or a panic. -/
inductive Fault.Reworded {ε : Type} : Fault ε → Fault ε → Prop
  | same (f : Fault ε) : Reworded f f
  | fail (e e' : ε) : Reworded (.fail e) (.fail e')
  | panic (detail detail' : String) : Reworded (.panic detail) (.panic detail')

structure Faults.Reworded (f f' : Faults) : Prop where
  get : f.get.Reworded f'.get
  set : f.set.Reworded f'.set
  expire : f.expire.Reworded f'.expire
  delete : f.delete.Reworded f'.delete
  lookup : f.lookup.Reworded f'.lookup

structure State.Reworded (s t : State) : Prop where
  faults : s.faults.Reworded t.faults
  rest : t = { s with faults := t.faults }

def Call.Reworded : (c : Call) → c.Answer → c.Answer → Prop
  | .get _ => SessionAuthority.Reworded
  | .set _ _ _ => SessionAuthority.Reworded
  | .expire _ _ => SessionAuthority.Reworded
  | .delete _ => SessionAuthority.Reworded
  | .lookup _ => SessionAuthority.Reworded
  | .nonce => Eq
  | .count _ => Eq
  | .report => Eq
  | .detach _ _ => Eq

/-! ## States that differ in words -/

namespace State

variable {s t : State}

theorem Reworded.refl (s : State) : s.Reworded s :=
  ⟨⟨.same _, .same _, .same _, .same _, .same _⟩, rfl⟩

/-- What does not look at the faults keeps them apart. -/
theorem Reworded.map (reworded : s.Reworded t) {f : State → State}
    (blind : ∀ s faults, f { s with faults } = { f s with faults }) : (f s).Reworded (f t) := by
  obtain ⟨faults, rest⟩ := reworded
  have unmoved : (f s).faults = s.faults := by
    have same : f s = { f s with faults := s.faults } := blind s s.faults
    rw [same]
  have moved : f t = { f s with faults := t.faults } := by
    rw [rest]
    exact blind s _
  refine ⟨?_, ?_⟩
  · rw [moved, unmoved]
    exact faults
  · rw [moved]

theorem prolong_faults (p : Prolongation) (s : State) (faults : Faults) :
    prolong { s with faults } p = { s.prolong p with faults } := by
  rw [prolong, prolong]
  cases s.store.expire s.clock p.key p.ttl <;> rfl

theorem Reworded.prolong (reworded : s.Reworded t) (p : Prolongation) :
    (s.prolong p).Reworded (t.prolong p) :=
  reworded.map (f := (State.prolong · p)) (prolong_faults p)

theorem Reworded.count (reworded : s.Reworded t) (e : Event) : (s.count e).Reworded (t.count e) :=
  reworded.map (f := (State.count · e)) fun _ _ => rfl

theorem Reworded.clock (reworded : s.Reworded t) : t.clock = s.clock := by
  rw [reworded.rest]

theorem Reworded.ready (reworded : s.Reworded t) : t.ready = s.ready := by
  rw [reworded.rest]

theorem Reworded.due (reworded : s.Reworded t) (now : Instant → Bool) : t.due now = s.due now := by
  rw [reworded.rest]
  rfl

theorem Reworded.start (reworded : s.Reworded t) (p : Prolongation) :
    (s.start p).Reworded (t.start p) := by
  have expire := reworded.faults.expire
  rw [State.start, State.start]
  generalize s.faults.expire = fault at expire
  generalize t.faults.expire = fault' at expire
  cases expire with
  | fail e e' => exact reworded.count .prolongFailed
  | panic detail detail' => exact reworded
  | same fault =>
      cases fault with
      | none => exact reworded.prolong p
      | fail e => exact reworded.count .prolongFailed
      | panic detail => exact reworded
      | delay wait =>
          dsimp only
          split
          · exact reworded.prolong p
          · exact reworded.map (f := fun s : State =>
              { s with waiting := s.waiting ++ [(s.clock + wait.nanos, p)] }) fun _ _ => rfl

theorem Reworded.startReady (reworded : s.Reworded t) : s.startReady.Reworded t.startReady := by
  have emptied := reworded.map (f := fun s : State => { s with ready := [] }) fun _ _ => rfl
  rw [State.startReady, State.startReady, reworded.ready]
  exact List.foldl_rel (r := Reworded) emptied fun p _ s t reworded => reworded.start p

theorem Reworded.withoutDue (reworded : s.Reworded t) (now : Instant → Bool) :
    (s.withoutDue now).Reworded (t.withoutDue now) :=
  reworded.map (f := (State.withoutDue · now)) fun _ _ => rfl

theorem Reworded.waitUntil (reworded : s.Reworded t) (target : Instant) :
    (s.waitUntil target).Reworded (t.waitUntil target) := by
  have started := reworded.startReady
  have later {s t : State} (reworded : s.Reworded t) (wake : Instant) :=
    reworded.map (f := fun s : State => { s with clock := max s.clock wake }) fun _ _ => rfl
  rw [State.waitUntil, State.waitUntil, started.due]
  refine later (List.foldl_rel (r := Reworded) (started.withoutDue _) ?_) target
  exact fun w _ s t reworded => (later reworded w.1).prolong w.2

theorem Reworded.settle (reworded : s.Reworded t) : s.settle.Reworded t.settle := by
  have started := reworded.startReady
  rw [State.settle, State.settle, started.clock, started.due]
  exact List.foldl_rel (r := Reworded) (started.withoutDue _) fun w _ s t reworded =>
    reworded.prolong w.2

end State

/-- Two runs end alike, with results that are related, in states that differ in words. -/
inductive Ending.Reworded {α β : Type} (good : α → β → Prop) :
    Ending α × State → Ending β × State → Prop
  | finished {a : α} {b : β} {s t : State} :
      good a b → s.Reworded t → Reworded good (.finished a, s) (.finished b, t)
  | crashed (c c' : Crash) {s t : State} :
      s.Reworded t → Reworded good (.crashed c, s) (.crashed c', t)
  | abandoned {s t : State} :
      s.Reworded t → Reworded good (.abandoned, s) (.abandoned, t)

namespace State

variable {s t : State} (directory : Directory) (deadline : Option Instant)

theorem Reworded.meet {ε β : Type} (reworded : s.Reworded t) {fault fault' : Fault ε}
    (faults : fault.Reworded fault') {refuse : ε → β} {answer : State → β × State}
    {good : β → β → Prop} (refused : ∀ e e', good (refuse e) (refuse e'))
    (answered : ∀ s t : State, s.Reworded t →
      good (answer s).1 (answer t).1 ∧ (answer s).2.Reworded (answer t).2) :
    Ending.Reworded good (s.meet deadline fault refuse answer)
      (t.meet deadline fault' refuse answer) := by
  have finish {s t : State} (reworded : s.Reworded t) :
      Ending.Reworded good (.finished (answer s).1, (answer s).2)
        (.finished (answer t).1, (answer t).2) :=
    .finished (answered s t reworded).1 (answered s t reworded).2
  cases faults with
  | fail e e' => exact .finished (refused e e') reworded
  | panic detail detail' => exact .crashed _ _ reworded
  | same fault =>
      cases fault with
      | none => exact finish reworded
      | fail e => exact .finished (refused e e) reworded
      | panic detail => exact .crashed _ _ reworded
      | delay wait =>
          rw [State.meet, State.meet, reworded.clock]
          by_cases instant : wait.nanos = 0
          · simp only [instant, if_true]
            exact finish reworded
          simp only [instant, if_false]
          cases deadline with
          | none => exact finish (reworded.waitUntil _)
          | some d =>
              by_cases reached : d ≤ s.clock + wait.nanos
              · simp only [reached, if_true]
                exact .abandoned (reworded.waitUntil d)
              · simp only [reached, if_false]
                exact finish (reworded.waitUntil _)

/-- A call on what is stored is answered the same, with the store that it leaves. -/
theorem Reworded.update {α : Type} (reworded : s.Reworded t)
    {f : Instant → Store → Except StoreError (α × Store)} :
    SessionAuthority.Reworded (s.update (f s.clock s.store)).1 (t.update (f t.clock t.store)).1 ∧
      (s.update (f s.clock s.store)).2.Reworded (t.update (f t.clock t.store)).2 := by
  obtain ⟨faults, rest⟩ := reworded
  rw [rest]
  show SessionAuthority.Reworded _ (State.update _ (f s.clock s.store)).1 ∧
    State.Reworded _ (State.update _ (f s.clock s.store)).2
  cases f s.clock s.store with
  | error e => exact ⟨.inl rfl, faults, rfl⟩
  | ok kept => exact ⟨.inl rfl, faults, rfl⟩

theorem Reworded.answer (reworded : s.Reworded t) (c : Call) :
    Ending.Reworded c.Reworded (s.answer directory deadline c) (t.answer directory deadline c) := by
  have refused {ε α : Type} (e e' : ε) :
      SessionAuthority.Reworded (.error e : Except ε α) (.error e') := .inr ⟨e, e', rfl, rfl⟩
  have faults := reworded.faults
  cases c with
  | nonce =>
      refine .finished ?_ (reworded.map (f := takeNonce) fun _ _ => rfl)
      rw [reworded.rest]
      rfl
  | count e => exact .finished rfl (reworded.count e)
  | report =>
      refine .finished ?_ reworded
      rw [reworded.rest]
      rfl
  | detach key ttl =>
      exact .finished rfl (reworded.map
        (f := fun s : State => { s with ready := s.ready ++ [⟨key, ttl⟩] }) fun _ _ => rfl)
  | get key =>
      exact reworded.meet deadline faults.get refused fun s t reworded =>
        reworded.update (f := fun now store => .ok (store.get now key))
  | set key value ttl =>
      exact reworded.meet deadline faults.set refused fun s t reworded =>
        reworded.update (f := fun now store =>
          (store.set now key value ttl).map fun store => ((), store))
  | expire key ttl =>
      exact reworded.meet deadline faults.expire refused fun s t reworded =>
        reworded.update (f := fun now store => store.expire now key ttl)
  | delete key =>
      exact reworded.meet deadline faults.delete refused fun s t reworded =>
        reworded.update (f := fun _ store => .ok ((), store.delete key))
  | lookup identity =>
      exact reworded.meet deadline faults.lookup refused fun s t reworded => ⟨.inl rfl, reworded⟩

end State

/-! ## Programs that match -/

/-- Two programs make the same calls, go on alike from answers that differ in words, and end with
related results. -/
inductive Program.Matches {α β : Type} (good : α → β → Prop) : Program α → Program β → Prop
  | done {a : α} {b : β} : good a b → Matches good (.done a) (.done b)
  | crash (c c' : Crash) : Matches good (.crash c) (.crash c')
  | call (c : Call) {next : c.Answer → Program α} {next' : c.Answer → Program β} :
      (∀ answer answer', c.Reworded answer answer' → Matches good (next answer) (next' answer')) →
      Matches good (.call c next) (.call c next')

namespace Program

variable {α β γ δ : Type} {good : α → β → Prop} {good' : γ → δ → Prop}

theorem Matches.bind {p : Program α} {q : Program β} {f : α → Program γ} {g : β → Program δ}
    (first : p.Matches good q) (rest : ∀ a b, good a b → (f a).Matches good' (g b)) :
    (p >>= f).Matches good' (q >>= g) := by
  induction first with
  | done related => exact rest _ _ related
  | crash c c' => exact .crash c c'
  | call c _ ih => exact .call c ih

/-- **Programs that match run alike** in states that differ in words. -/
theorem Matches.run {p : Program α} {q : Program β} (alike : p.Matches good q)
    (directory : Directory) (deadline : Option Instant) {s t : State} (reworded : s.Reworded t) :
    Ending.Reworded good (s.run directory deadline p) (t.run directory deadline q) := by
  induction alike generalizing s t with
  | done related => exact .finished related reworded
  | crash c c' => exact .crashed c c' reworded
  | call c _ ih =>
      have answered := reworded.answer directory deadline c
      rw [State.run, State.run]
      generalize s.answer directory deadline c = first at answered
      generalize t.answer directory deadline c = second at answered
      cases answered with
      | finished related reworded => exact ih _ _ related reworded
      | crashed crash crash' reworded => exact .crashed _ _ reworded
      | abandoned reworded => exact .abandoned reworded

end Program

namespace Action

variable {α β γ δ : Type}

/-- Two results are related, or refused in words that may differ. -/
inductive Ends (good : α → β → Prop) : Except AuthError α → Except AuthError β → Prop
  | ok {a : α} {b : β} : good a b → Ends good (.ok a) (.ok b)
  | error {e e' : AuthError} : e.Reworded e' → Ends good (.error e) (.error e')

def Matches (good : α → β → Prop) (x : Action α) (y : Action β) : Prop :=
  x.run.Matches (Ends good) y.run

variable {good : α → β → Prop} {good' : γ → δ → Prop}

theorem Matches.bind {x : Action α} {y : Action β} {f : α → Action γ} {g : β → Action δ}
    (first : Action.Matches good x y) (rest : ∀ a b, good a b → Action.Matches good' (f a) (g b)) :
    Action.Matches good' (x >>= f) (y >>= g) := by
  rw [Matches, ExceptT.run_bind, ExceptT.run_bind]
  refine Program.Matches.bind first fun r r' ends => ?_
  cases ends with
  | ok related => exact rest _ _ related
  | error reworded => exact .done (.error reworded)

theorem matches_pure {a : α} {b : β} (related : good a b) :
    Action.Matches good (pure a) (pure b) := .done (.ok related)

theorem matches_throw {e e' : AuthError} (reworded : e.Reworded e') :
    Action.Matches good (throw e) (throw e') := .done (.error reworded)

theorem matches_ask (c : Call) : Action.Matches c.Reworded (Action.ask c) (Action.ask c) :=
  .call c fun _ _ reworded => .done (.ok reworded)

/-- What a store refuses is a failure inside. -/
theorem matches_ofStore {stored stored' : Except StoreError α}
    (reworded : SessionAuthority.Reworded stored stored') :
    Action.Matches Eq (Action.ofStore stored) (Action.ofStore stored') := by
  rcases reworded with rfl | ⟨e, e', rfl, rfl⟩
  · cases stored with
    | ok a => exact matches_pure rfl
    | error e => exact matches_throw (.inl rfl)
  · exact matches_throw (.inr ⟨_, _, rfl, rfl⟩)

end Action

end SessionAuthority

import SessionAuthority.State

/-!
# How programs run

A run is composed as its program is: of the runs of its parts (`run_bind`, `run_action_bind`), down
to single calls (`run_ask`, `run_action_ask`).
-/
set_option autoImplicit false

namespace SessionAuthority

variable {α β : Type} (directory : Directory) (deadline : Option Instant)

def Ending.andThen (ending : Ending α × State) (next : α → State → Ending β × State) :
    Ending β × State :=
  match ending with
  | (.finished a, s) => next a s
  | (.crashed c, s) => (.crashed c, s)
  | (.abandoned, s) => (.abandoned, s)

def Ending.andThenOk (ending : Ending (Except AuthError α) × State)
    (next : α → State → Ending (Except AuthError β) × State) :
    Ending (Except AuthError β) × State :=
  Ending.andThen ending fun
    | .ok a, s => next a s
    | .error e, s => (.finished (.error e), s)

@[simp] theorem Ending.andThen_finished (a : α) (s : State)
    (next : α → State → Ending β × State) : andThen (.finished a, s) next = next a s := rfl

@[simp] theorem Ending.andThenOk_ok (a : α) (s : State)
    (next : α → State → Ending (Except AuthError β) × State) :
    andThenOk (.finished (.ok a), s) next = next a s := rfl

@[simp] theorem Ending.andThenOk_error (e : AuthError) (s : State)
    (next : α → State → Ending (Except AuthError β) × State) :
    andThenOk (.finished (.error e), s) next = (.finished (.error e), s) := rfl

@[simp] theorem Ending.andThenOk_crashed (c : Crash) (s : State)
    (next : α → State → Ending (Except AuthError β) × State) :
    andThenOk (.crashed c, s) next = (.crashed c, s) := rfl

/-- What ended with a result got through its first part. -/
theorem Ending.andThenOk_eq_ok {ending : Ending (Except AuthError α) × State}
    {next : α → State → Ending (Except AuthError β) × State} {b : β} {t : State}
    (ended : andThenOk ending next = (.finished (.ok b), t)) :
    ∃ a u, ending = (.finished (.ok a), u) ∧ next a u = (.finished (.ok b), t) := by
  rcases ending with ⟨(e | a) | c | _, u⟩
  · cases ended
  · exact ⟨a, u, rfl, ended⟩
  · cases ended
  · cases ended

namespace State

/-! ## Composition -/

theorem run_bind (p : Program α) (f : α → Program β) (s : State) :
    s.run directory deadline (p >>= f) =
      Ending.andThen (s.run directory deadline p) fun a s => s.run directory deadline (f a) := by
  induction p generalizing s with
  | done a => rfl
  | crash c => rfl
  | call c next ih =>
      have unfolded : (Program.call c next >>= f) = .call c fun answer => next answer >>= f := rfl
      rw [unfolded, run, run]
      rcases s.answer directory deadline c with ⟨a | c | _, s⟩
      · exact ih a s
      · rfl
      · rfl

theorem run_ask (c : Call) (s : State) :
    s.run directory deadline (Program.ask c) = s.answer directory deadline c := by
  rw [Program.ask, run]
  rcases s.answer directory deadline c with ⟨a | c | _, s⟩ <;> rfl

theorem run_action_bind (x : Action α) (f : α → Action β) (s : State) :
    s.run directory deadline (x >>= f).run =
      Ending.andThenOk (s.run directory deadline x.run) fun a s =>
        s.run directory deadline (f a).run := by
  rw [ExceptT.run_bind, run_bind, Ending.andThenOk]
  congr 1
  funext r s
  cases r <;> rfl

theorem run_action_ask (c : Call) (s : State) :
    s.run directory deadline (Action.ask c).run =
      Ending.andThen (s.answer directory deadline c) fun a s => (.finished (.ok a), s) := by
  rw [Action.ask, ExceptT.run_lift, map_eq_pure_bind, run_bind, run_ask]
  rfl

theorem answer_of_run_ask {c : Call} {s t : State} {answer : c.Answer}
    (asked : s.run directory deadline (Action.ask c : Action c.Answer).run =
      (.finished (.ok answer), t)) :
    s.answer directory deadline c = (.finished answer, t) := by
  rw [run_action_ask] at asked
  generalize s.answer directory deadline c = ran at asked ⊢
  rcases ran with ⟨a | crash | _, u⟩
  · cases asked
    rfl
  · cases asked
  · cases asked

@[simp] theorem run_action_pure (a : α) (s : State) :
    s.run directory deadline (pure a : Action α).run = (.finished (.ok a), s) := rfl

@[simp] theorem run_action_throw (e : AuthError) (s : State) :
    s.run directory deadline (throw e : Action α).run = (.finished (.error e), s) := rfl

@[simp] theorem run_ofStore_ok (a : α) (s : State) :
    s.run directory deadline (Action.ofStore (.ok a)).run = (.finished (.ok a), s) := rfl

theorem run_nonce (s : State) :
    s.run directory deadline (Action.ask .nonce : Action Uuid).run =
      (.finished (.ok s.nextNonce), s.takeNonce) := rfl

theorem run_count (e : Event) (s : State) :
    s.run directory deadline (Action.ask (.count e) : Action Unit).run =
      (.finished (.ok ()), s.count e) := rfl

/-! ## Calls that nothing disturbs -/

theorem answer_get_of_working {s : State} (working : s.faults.get = .none) (key : String) :
    s.answer directory deadline (.get key) =
      (.finished (.ok (s.store.get s.clock key).1),
        { s with store := (s.store.get s.clock key).2 }) := by
  simp only [answer, meet, working, update]

theorem answer_lookup_of_working {s : State} (working : s.faults.lookup = .none)
    (identity : String) :
    s.answer directory deadline (.lookup identity) =
      (.finished (.ok (directory.find? identity)), s) := by
  simp only [answer, meet, working]

section Calm

variable {s : State} (calm : s.faults = {})

include calm

theorem run_set_of_calm {ttl : Span} {store : Store} {key : String} {value : Bytes}
    (kept : s.store.set s.clock key value ttl = .ok store) :
    s.run directory deadline
        (Action.ask (.set key value ttl) : Action (Except StoreError Unit)).run =
      (.finished (.ok (.ok ())), { s with store }) := by
  have still : s.faults.set = .none := by rw [calm]
  rw [run_action_ask directory deadline (.set key value ttl)]
  simp only [answer, meet, still, update, kept, Except.map, Ending.andThen_finished]

theorem run_delete_of_calm (key : String) :
    s.run directory deadline (Action.ask (.delete key) : Action (Except StoreError Unit)).run =
      (.finished (.ok (.ok ())), { s with store := s.store.delete key }) := by
  have still : s.faults.delete = .none := by rw [calm]
  rw [run_action_ask directory deadline (.delete key)]
  simp only [answer, meet, still, update, Ending.andThen_finished]

theorem run_expire_of_calm {ttl : Span} {found : Bool} {store : Store} {key : String}
    (kept : s.store.expire s.clock key ttl = .ok (found, store)) :
    s.run directory deadline (Program.ask (.expire key ttl)) =
      (.finished (.ok found), { s with store }) := by
  have still : s.faults.expire = .none := by rw [calm]
  rw [run_ask directory deadline (.expire key ttl)]
  simp only [answer, meet, still, update, kept]

end Calm

/-! ## Calls to a collaborator that may misbehave -/

section Faults

variable {ε : Type}

/-- The state in which a call to a collaborator with this fault is answered, if it ever is. -/
def whenAnswered (s : State) (deadline : Option Instant) : Fault ε → Option State
  | .none => some s
  | .fail _ => none
  | .panic _ => none
  | .delay wait =>
      let target := s.clock + wait.nanos
      if wait.nanos = 0 then some s
      else if deadline.any fun d => decide (d ≤ target) then none
      else some (s.waitUntil target)

theorem meet_of_answered {s t : State} {fault : Fault ε}
    (answered : s.whenAnswered deadline fault = some t) (refuse : ε → β)
    (answer : State → β × State) :
    s.meet deadline fault refuse answer = (.finished (answer t).1, (answer t).2) := by
  cases fault with
  | none => cases answered; rfl
  | fail e => cases answered
  | panic detail => cases answered
  | delay wait =>
      simp only [whenAnswered] at answered
      rw [meet]
      split at answered
      · rename_i instant
        cases answered
        simp only [instant, if_true]
      · rename_i instant
        simp only [instant, if_false]
        cases deadline with
        | none => cases answered; rfl
        | some d =>
            simp only [Option.any_some, decide_eq_true_eq] at answered
            split at answered
            · cases answered
            · rename_i reached
              cases answered
              simp only [reached, if_false]

/-- A call that is not answered is refused, or nothing comes of the program. -/
theorem meet_of_unanswered {s : State} {fault : Fault ε}
    (unanswered : s.whenAnswered deadline fault = none) (refuse : ε → β)
    (answer : State → β × State) :
    (∃ e, s.meet deadline fault refuse answer = (.finished (refuse e), s)) ∨
      (∃ c after, s.meet deadline fault refuse answer = (.crashed c, after)) ∨
      ∃ after, s.meet deadline fault refuse answer = (.abandoned, after) := by
  cases fault with
  | none => cases unanswered
  | fail e => exact .inl ⟨e, rfl⟩
  | panic detail => exact .inr (.inl ⟨_, _, rfl⟩)
  | delay wait =>
      simp only [whenAnswered] at unanswered
      rw [meet]
      split at unanswered
      · cases unanswered
      · rename_i instant
        simp only [instant, if_false]
        cases deadline with
        | none => cases unanswered
        | some d =>
            simp only [Option.any_some, decide_eq_true_eq] at unanswered
            split at unanswered
            · rename_i reached
              simp only [reached, if_true]
              exact .inr (.inr ⟨_, rfl⟩)
            · cases unanswered

/-- **A call seen from two states.**  A relation of states that waiting keeps, and that the answers
take into another, is taken into that by the call, which ends the same on both sides. -/
theorem meet_related (before after : State → State → Prop)
    (clock : ∀ s t, before s t → t.clock = s.clock)
    (waits : ∀ s t target, before s t → before (s.waitUntil target) (t.waitUntil target))
    (ends : ∀ s t, before s t → after s t) {answer answer' : State → β × State}
    (answers : ∀ s t, before s t →
      (answer s).1 = (answer' t).1 ∧ after (answer s).2 (answer' t).2)
    {s t : State} (related : before s t) (fault : Fault ε) (refuse : ε → β) :
    (s.meet deadline fault refuse answer).1 = (t.meet deadline fault refuse answer').1 ∧
      after (s.meet deadline fault refuse answer).2 (t.meet deadline fault refuse answer').2 := by
  have finish {s t : State} (related : before s t) :
      Ending.finished (answer s).1 = .finished (answer' t).1 ∧
        after (answer s).2 (answer' t).2 :=
    ⟨congrArg _ (answers s t related).1, (answers s t related).2⟩
  cases fault with
  | none => exact finish related
  | fail e => exact ⟨rfl, ends s t related⟩
  | panic detail => exact ⟨rfl, ends s t related⟩
  | delay wait =>
      rw [meet, meet, clock s t related]
      by_cases instant : wait.nanos = 0
      · simp only [instant, if_true]
        exact finish related
      simp only [instant, if_false]
      cases deadline with
      | none => exact finish (waits s t _ related)
      | some d =>
          dsimp only
          split
          · exact ⟨rfl, ends _ _ (waits s t d related)⟩
          · exact finish (waits s t _ related)

end Faults

/-! ## Taking a nonce concerns nothing else -/

theorem prolong_takeNonce (s : State) (p : Prolongation) :
    s.takeNonce.prolong p = (s.prolong p).takeNonce := by
  rw [prolong, prolong]
  have same : s.takeNonce.store.expire s.takeNonce.clock p.key p.ttl =
      s.store.expire s.clock p.key p.ttl := rfl
  rw [same]
  cases s.store.expire s.clock p.key p.ttl <;> rfl

theorem start_takeNonce (s : State) (p : Prolongation) :
    s.takeNonce.start p = (s.start p).takeNonce := by
  rw [start, start]
  have same : s.takeNonce.faults.expire = s.faults.expire := rfl
  rw [same]
  cases s.faults.expire with
  | none => exact prolong_takeNonce s p
  | fail e => rfl
  | panic detail => rfl
  | delay wait =>
      dsimp only
      split
      · exact prolong_takeNonce s p
      · rfl

theorem startReady_takeNonce (s : State) : s.takeNonce.startReady = s.startReady.takeNonce := by
  have started : s.ready.foldl start (takeNonce { s with ready := [] }) =
      takeNonce (s.ready.foldl start { s with ready := [] }) :=
    List.foldl_hom takeNonce fun s p => start_takeNonce s p
  exact started

theorem waitUntil_takeNonce (s : State) (target : Instant) :
    s.takeNonce.waitUntil target = (s.waitUntil target).takeNonce := by
  let wake (s : State) (w : Instant × Prolongation) : State :=
    State.prolong { s with clock := max s.clock w.1 } w.2
  let now (w : Instant) := decide (w < target)
  have woken : (s.startReady.due now).foldl wake (takeNonce (s.startReady.withoutDue now)) =
      takeNonce ((s.startReady.due now).foldl wake (s.startReady.withoutDue now)) :=
    List.foldl_hom takeNonce fun s w => prolong_takeNonce { s with clock := max s.clock w.1 } w.2
  rw [waitUntil, startReady_takeNonce]
  exact congrArg (fun s : State => { s with clock := max s.clock target }) woken

theorem whenAnswered_takeNonce {ε : Type} (s : State) (fault : Fault ε) :
    s.takeNonce.whenAnswered deadline fault = (s.whenAnswered deadline fault).map takeNonce := by
  cases fault with
  | none => rfl
  | fail e => rfl
  | panic detail => rfl
  | delay wait =>
      have same : s.takeNonce.clock = s.clock := rfl
      simp only [whenAnswered, waitUntil_takeNonce, same]
      split
      · rfl
      · split <;> rfl

end State

end SessionAuthority

import SessionAuthority.Proofs.Application.Conduct
import SessionAuthority.Proofs.Waiting

/-!
# The last write wins, however requests are interleaved

On a `Floor` any number of requests are on their way at once.  A `Turn` lets one of them make its
next call, lets a new one arrive, abandons one, has one prolongation make its call, or lets time go
on; the turns come in any order.  The floor keeps a book of the writes, with each task as it stood
when it wrote.

`last_write_wins`: whatever the turns, what is live under a subject's key is what the last write
under that key has set, to the octet, and that was an issue to the subject with nonces of its own.
Nothing else ever shows: a prolongation leaves every value as it is, and after a removal nothing is
live until the next issue.

Each turn either writes nothing, and then nothing new shows, or it is one issue or one removal
(`take_keeps`); runs follow by induction (`run_sound`).
-/
set_option autoImplicit false

namespace SessionAuthority

/-- A request on its way: when it began, what it has seen and what it has left to do. -/
structure Task where
  began : Instant
  req : Request
  route : Route
  seen : List Seen
  rest : Option (Program Response)

/-- A write, with the task as it stood when it wrote. -/
inductive Write where
  | set (task : Task) (key : String) (value : Bytes)
  | delete (task : Task) (key : String)

def Write.key : Write → String
  | set _ key _ => key
  | delete _ key => key

def Task.writes (t : Task) : (c : Call) → c.Answer → List Write
  | .set key value _, .ok _ => [.set t key value]
  | .delete key, .ok _ => [.delete t key]
  | _, _ => []

/-- Requests on their way over one store, and the writes so far, the latest first. -/
structure Floor where
  state : State
  tasks : List Task := []
  writes : List Write := []

/-- What can happen next on a floor. -/
inductive Turn where
  | arrive (req : Request)
  | proceed (task : Nat)
  | abandon (task : Nat)
  | prolong (pending : Nat)
  | advance (span : Span)

namespace Floor

def opened (clock : Instant) (supply : Nat → Uuid) : Floor where
  state := { clock, supply }

def live? (floor : Floor) (key : String) : Option Entry :=
  floor.state.store.live? floor.state.clock key

def last? (floor : Floor) (key : String) : Option Write := floor.writes.find? (·.key == key)

variable (app : Application) (floor : Floor)

def proceed (n : Nat) (t : Task) : Floor :=
  match t.rest with
  | some (.call c next) =>
      match floor.state.answer app.directory none c with
      | (.finished a, s) =>
          { state := s
            tasks := floor.tasks.set n { t with seen := t.seen ++ c.seen a, rest := some (next a) }
            writes := t.writes c a ++ floor.writes }
      | (_, s) => { floor with state := s, tasks := floor.tasks.set n { t with rest := none } }
  | _ => floor

def take : Turn → Floor
  | .arrive req =>
      match Route.ofPath? req.path with
      | none => floor
      | some route =>
          let s := (Application.identifier req floor.state).2
          let t : Task := ⟨s.clock, req, route, [], some (app.answer s.clock req route)⟩
          { floor with state := s, tasks := floor.tasks ++ [t] }
  | .proceed n =>
      match floor.tasks[n]? with
      | none => floor
      | some t => floor.proceed app n t
  | .abandon n =>
      match floor.tasks[n]? with
      | none => floor
      | some t => { floor with tasks := floor.tasks.set n { t with rest := none } }
  | .prolong n =>
      match floor.state.ready[n]? with
      | none => floor
      | some p =>
          { floor with
            state := State.prolong { floor.state with ready := floor.state.ready.eraseIdx n } p }
  | .advance span =>
      { floor with state := { floor.state with clock := floor.state.clock + span.nanos } }

def run (turns : List Turn) : Floor := turns.foldl (take app) floor

end Floor

/-- A write is an issue to a subject: its task was entitled to a session for the subject, and the
value is the record of the two nonces that it had taken. -/
def Write.Issues (app : Application) (subject : Uuid) (value : Bytes) : Write → Prop
  | .set t key value' => key = app.authority.key subject ∧ value' = value ∧
      app.Grants t.began t.req t.seen subject t.route ∧
      ∃ access refresh, Seen.nonces t.seen = [access, refresh] ∧
        value = (Authority.pairRecord access refresh).render
  | .delete _ _ => False

/-- A task keeps to the licence of its request, or it has written and only counts. -/
def Task.Sound (app : Application) (t : Task) : Prop :=
  ∀ p, t.rest = some p → app.Conducts t.began t.req t.route t.seen p ∨
    p.Settled fun r => t.route.posts = true ∧ r.status = 200

namespace State

/-- Whatever shows later showed before, with the same value. -/
def Sheds (s t : State) : Prop :=
  ∀ key e, t.store.live? t.clock key = some e →
    ∃ o, s.store.live? s.clock key = some o ∧ o.value = e.value

theorem Sheds.refl (s : State) : s.Sheds s := fun _ e live => ⟨e, live, rfl⟩

theorem answer_of_calm {s : State} (calm : s.faults = {}) (directory : Directory)
    (deadline : Option Instant) (c : Call) :
    s.answer directory deadline c =
      (.finished (s.respond directory c).1, (s.respond directory c).2) := by
  cases c <;> simp only [answer, respond, meet, calm]

/-- What a prolongation does to what shows: each value stays. -/
theorem values_prolong (s : State) (p : Prolongation) (key : String) :
    ((s.prolong p).store.live? (s.prolong p).clock key).map (·.value) =
      (s.store.live? s.clock key).map (·.value) := by
  obtain ⟨store, tally, same, -, -, taken, refused⟩ := s.prolong_eq p
  rw [same]
  show (store.live? s.clock key).map (·.value) = _
  by_cases takes : Store.Takes p.ttl
  · rw [taken takes key]
    split
    · rename_i here
      rw [here, Option.map_map]
      rfl
    · rfl
  · rw [refused takes]

theorem sheds_of_values {s t : State} (same : ∀ key, (t.store.live? t.clock key).map (·.value) =
    (s.store.live? s.clock key).map (·.value)) : s.Sheds t := by
  intro key e live
  have value := same key
  rw [live, Option.map_some] at value
  obtain ⟨o, live', same⟩ := Option.map_eq_some_iff.1 value.symm
  exact ⟨o, live', same⟩

end State

namespace Application

variable (app : Application)

/-- What an admitted call does: it writes nothing, and nothing new shows; or it is an issue; or it
is a removal. -/
theorem respond_changes {t : Task} {c : Call}
    (allowed : (app.licence t.began t.req t.route).Allows t.seen c) (s : State) :
    let a := (s.respond app.directory c).1
    let after := (s.respond app.directory c).2
    (t.writes c a = [] ∧ after.store.Inherits s.store ∧ s.Sheds after) ∨
      (∃ key value ttl subject, t.writes c a = [.set t key value] ∧
        (Write.set t key value).Issues app subject value ∧ after.clock = s.clock ∧
        s.store.set s.clock key value ttl = .ok after.store) ∨
      ∃ key, t.writes c a = [.delete t key] ∧ after.clock = s.clock ∧
        after.store = s.store.delete key := by
  cases c with
  | nonce => exact .inl ⟨rfl, .refl _, .refl s⟩
  | count e => exact .inl ⟨rfl, .refl _, .refl s⟩
  | report => exact .inl ⟨rfl, .refl _, .refl s⟩
  | detach key ttl => exact .inl ⟨rfl, .refl _, .refl s⟩
  | lookup identity => exact .inl ⟨rfl, .refl _, .refl s⟩
  | get key =>
      refine .inl ⟨rfl, Store.inherits_get _ _ _, fun other e live => ⟨e, ?_, rfl⟩⟩
      exact ((State.alike_get s key).live other).symm.trans live
  | expire key ttl => exact allowed.elim
  | delete key => exact .inr (.inr ⟨key, rfl, rfl, rfl⟩)
  | set key value ttl =>
      obtain ⟨subject, access, refresh, grants, nonces, here, written, -⟩ := allowed
      rw [State.respond]
      cases stored : s.store.set s.clock key value ttl with
      | error e => exact .inl ⟨rfl, .refl _, .refl s⟩
      | ok store =>
          exact .inr (.inl ⟨key, value, ttl, subject, rfl,
            ⟨here, rfl, grants, access, refresh, nonces, written⟩, rfl, stored⟩)

end Application

namespace Floor

structure Sound (app : Application) (floor : Floor) : Prop where
  calm : floor.state.faults = {}
  tasks : ∀ t ∈ floor.tasks, t.Sound app
  issued : ∀ t key value, .set t key value ∈ floor.writes →
    ∃ subject, (Write.set t key value).Issues app subject value
  held : ∀ key e, floor.state.store.entry? key = some e →
    ∃ t, floor.last? key = some (.set t key e.value)

/-- What a turn may change: nothing is written and nothing new shows, or it is one issue, or one
removal. -/
inductive Changes (app : Application) (floor next : Floor) : Prop
  | none (writes : next.writes = floor.writes)
      (store : next.state.store.Inherits floor.state.store) (sheds : floor.state.Sheds next.state)
  | issue (t : Task) (key : String) (value : Bytes) (ttl : Span) (subject : Uuid)
      (writes : next.writes = .set t key value :: floor.writes)
      (issues : (Write.set t key value).Issues app subject value)
      (clock : next.state.clock = floor.state.clock)
      (store : floor.state.store.set floor.state.clock key value ttl = .ok next.state.store)
  | removal (t : Task) (key : String) (writes : next.writes = .delete t key :: floor.writes)
      (store : next.state.store = floor.state.store.delete key)

variable {app : Application} {floor : Floor}

/-- A new write comes last under its key. -/
theorem last?_of_key {next : Floor} {w : Write} (writes : next.writes = w :: floor.writes)
    {key : String} (same : w.key = key) : next.last? key = some w := by
  rw [last?, writes, List.find?_cons, beq_iff_eq.2 same]

/-- Under any other key nothing new was written. -/
theorem last?_of_other {next : Floor} {w : Write} (writes : next.writes = w :: floor.writes)
    {key : String} (other : w.key ≠ key) : next.last? key = floor.last? key := by
  rw [last?, writes, List.find?_cons, beq_eq_false_iff_ne.2 other]
  rfl

/-- What turns change keeps a floor sound. -/
theorem Changes.sound {next : Floor} (changes : Changes app floor next) (sound : floor.Sound app)
    (calm : next.state.faults = {}) (tasks : ∀ t ∈ next.tasks, t.Sound app) : next.Sound app := by
  cases changes with
  | none writes store sheds =>
      refine ⟨calm, tasks, ?_, fun key e held => ?_⟩
      · rw [writes]
        exact sound.issued
      · obtain ⟨o, held', same⟩ := store key e held
        obtain ⟨t, last⟩ := sound.held key o held'
        refine ⟨t, ?_⟩
        rw [last?, writes, ← same]
        exact last
  | issue t key value ttl subject writes issues clock store =>
      obtain ⟨-, written⟩ := Store.set_eq_ok store
      refine ⟨calm, tasks, fun t' key' value' member => ?_, fun key' e held => ?_⟩
      · rw [writes] at member
        rcases List.mem_cons.1 member with new | old
        · rw [new]
          exact ⟨subject, by cases new; exact issues⟩
        · exact sound.issued t' key' value' old
      · rw [written, Store.entry?_put] at held
        split at held
        · rename_i here
          obtain rfl := Option.some.inj held
          exact ⟨t, here ▸ last?_of_key writes rfl⟩
        · rename_i other
          rw [last?_of_other writes (Ne.symm other)]
          exact sound.held key' e held
  | removal t key writes store =>
      refine ⟨calm, tasks, fun t' key' value' member => ?_, fun key' e held => ?_⟩
      · rw [writes] at member
        rcases List.mem_cons.1 member with new | old
        · cases new
        · exact sound.issued t' key' value' old
      · rw [store, Store.delete, Store.entry?_erase] at held
        split at held
        · cases held
        · rename_i other
          rw [last?_of_other writes (Ne.symm other)]
          exact sound.held key' e held

/-- A turn that comes to nothing. -/
theorem keeps_refl (sound : floor.Sound app) : floor.Sound app ∧ Changes app floor floor :=
  ⟨sound, .none rfl (.refl _) (.refl _)⟩

theorem Changes.keeps {next : Floor} (changes : Changes app floor next) (sound : floor.Sound app)
    (calm : next.state.faults = {}) (tasks : ∀ t ∈ next.tasks, t.Sound app) :
    next.Sound app ∧ Changes app floor next :=
  ⟨changes.sound sound calm tasks, changes⟩

/-- A task that makes its next call goes on soundly. -/
theorem sound_next {t : Task} {c : Call} {next : c.Answer → Program Response}
    (sound : t.Sound app) (rest : t.rest = some (.call c next)) (a : c.Answer) :
    Task.Sound app { t with seen := t.seen ++ c.seen a, rest := some (next a) } := by
  rintro p ⟨⟩
  rcases sound _ rest with ⟨-, conducts⟩ | ⟨-, settled⟩
  · have went := conducts a
    cases wrote : c.wrote a with
    | true =>
        rw [wrote, if_pos rfl] at went
        exact .inr went
    | false =>
        rw [wrote, if_neg Bool.false_ne_true] at went
        exact .inl went
  · exact .inr (settled a)

theorem respond_faults (s : State) (directory : Directory) (c : Call) :
    (s.respond directory c).2.faults = s.faults := by
  cases c with
  | set key value ttl =>
      rw [State.respond]
      cases s.store.set s.clock key value ttl <;> rfl
  | expire key ttl =>
      rw [State.respond]
      cases s.store.expire s.clock key ttl <;> rfl
  | _ => rfl

theorem tasks_set (sound : floor.Sound app) {n : Nat} {t : Task} (kept : t.Sound app) :
    ∀ u ∈ floor.tasks.set n t, u.Sound app := by
  intro u member
  rcases List.mem_or_eq_of_mem_set member with old | rfl
  · exact sound.tasks u old
  · exact kept

theorem proceed_keeps (sound : floor.Sound app) {n : Nat} {t : Task} (kept : t.Sound app) :
    (floor.proceed app n t).Sound app ∧ Changes app floor (floor.proceed app n t) := by
  rw [proceed]
  split
  case h_2 => exact keeps_refl sound
  case h_1 c next rest =>
    rw [State.answer_of_calm sound.calm]
    dsimp only
    have calm := (respond_faults floor.state app.directory c).trans sound.calm
    have tasks := tasks_set sound (n := n)
      (sound_next kept rest (floor.state.respond app.directory c).1)
    refine Changes.keeps ?_ sound calm tasks
    rcases kept _ rest with ⟨allowed, -⟩ | ⟨⟨e, rfl⟩, -⟩
    · rcases app.respond_changes allowed floor.state with
        ⟨writes, store, sheds⟩ | ⟨key, value, ttl, subject, writes, issues, clock, store⟩ |
        ⟨key, writes, -, store⟩
      · exact .none (congrArg (· ++ floor.writes) writes) store sheds
      · exact .issue t key value ttl subject (congrArg (· ++ floor.writes) writes) issues clock
          store
      · exact .removal t key (congrArg (· ++ floor.writes) writes) store
    · exact .none rfl (.refl _) (.refl _)

/-- **One turn** keeps a floor sound, and writes nothing, or is one issue or one removal. -/
theorem take_keeps (sound : floor.Sound app) (turn : Turn) :
    (floor.take app turn).Sound app ∧ Changes app floor (floor.take app turn) := by
  cases turn with
  | arrive req =>
      rw [take]
      split
      · exact keeps_refl sound
      · rename_i route found
        have store := Application.identifier_store req floor.state
        have clock := Application.identifier_clock req floor.state
        refine Changes.keeps (.none rfl ?_ fun key e live => ⟨e, ?_, rfl⟩) sound ?_
          fun t member => ?_
        · show (Application.identifier req floor.state).2.store.Inherits floor.state.store
          rw [store]
          exact .refl _
        · rw [← store, ← clock]
          exact live
        · exact (Application.identifier_faults req floor.state).trans sound.calm
        · rcases List.mem_append.1 member with old | new
          · exact sound.tasks t old
          · rw [List.mem_singleton.1 new]
            rintro p ⟨⟩
            exact .inl (app.conducts_answer _ req route)
  | proceed n =>
      rw [take]
      split
      · exact keeps_refl sound
      · rename_i t found
        exact proceed_keeps sound (sound.tasks t (List.mem_of_getElem? found))
  | abandon n =>
      rw [take]
      split
      · exact keeps_refl sound
      · exact Changes.keeps (.none rfl (.refl _) (.refl _)) sound sound.calm (tasks_set sound nofun)
  | prolong n =>
      rw [take]
      split
      · exact keeps_refl sound
      · rename_i p pending
        let waiting : State := { floor.state with ready := floor.state.ready.eraseIdx n }
        have values := waiting.values_prolong p
        obtain ⟨store, tally, same, inherits, -⟩ := waiting.prolong_eq p
        refine Changes.keeps (.none rfl ?_ (State.sheds_of_values values)) sound ?_ sound.tasks
        · show (waiting.prolong p).store.Inherits waiting.store
          rw [same]
          exact inherits
        · show (waiting.prolong p).faults = {}
          rw [same]
          exact sound.calm
  | advance span =>
      refine Changes.keeps (.none rfl (.refl _) fun key e live => ?_) sound sound.calm sound.tasks
      have order : floor.state.clock ≤ floor.state.clock + span.nanos := Nat.le_add_right _ _
      have shown : (floor.state.store.live? floor.state.clock key).filter
          (·.live (floor.state.clock + span.nanos)) = some e :=
        (floor.state.store.live?_later order key).symm.trans live
      exact ⟨e, (Option.filter_eq_some_iff.1 shown).1, rfl⟩

/-- A floor is sound after any turns. -/
theorem run_sound (sound : floor.Sound app) (turns : List Turn) :
    (floor.run app turns).Sound app := by
  induction turns generalizing floor with
  | nil => exact sound
  | cons turn rest ih => exact ih (take_keeps sound turn).1

theorem opened_sound (clock : Instant) (supply : Nat → Uuid) : (opened clock supply).Sound app :=
  ⟨rfl, nofun, nofun, nofun⟩

/-- What is live was set by the last write under its key. -/
theorem Sound.last (sound : floor.Sound app) {key : String} {e : Entry}
    (live : floor.live? key = some e) : ∃ t, floor.last? key = some (.set t key e.value) :=
  sound.held key e (Option.filter_eq_some_iff.1 live).1

/-- What is live under a subject's key was issued to that subject. -/
theorem Sound.issues (sound : floor.Sound app) {subject : Uuid} {e : Entry}
    (live : floor.live? (app.authority.key subject) = some e) :
    ∃ w, floor.last? (app.authority.key subject) = some w ∧ w.Issues app subject e.value := by
  obtain ⟨t, last⟩ := sound.last live
  obtain ⟨other, here, issues⟩ := sound.issued t _ _ (List.mem_of_find?_eq_some last)
  rw [Authority.key, Authority.key, sessionKey_inj] at here
  rw [← here] at issues
  exact ⟨_, last, rfl, issues⟩

theorem Sound.removed (sound : floor.Sound app) {key : String} {t : Task}
    (last : floor.last? key = some (.delete t key)) : floor.live? key = none := by
  cases live : floor.live? key with
  | none => rfl
  | some e =>
      obtain ⟨t', last'⟩ := sound.last live
      rw [last] at last'
      cases last'

/-- A turn that writes nothing shows nothing new. -/
theorem Changes.sheds {next : Floor} (changes : Changes app floor next)
    (writes : next.writes = floor.writes) : floor.state.Sheds next.state := by
  cases changes with
  | none _ _ sheds => exact sheds
  | issue t key value ttl subject written =>
      rw [writes] at written
      exact absurd written.symm (List.cons_ne_self _ _)
  | removal t key written =>
      rw [writes] at written
      exact absurd written.symm (List.cons_ne_self _ _)

/-- What is issued shows at once. -/
theorem Changes.shows {next : Floor} (changes : Changes app floor next) {t : Task} {key : String}
    {value : Bytes} (writes : next.writes = .set t key value :: floor.writes) :
    ∃ e, next.live? key = some e ∧ e.value = value := by
  cases changes with
  | none same =>
      rw [same] at writes
      exact absurd writes.symm (List.cons_ne_self _ _)
  | issue t' key' value' ttl subject written issues clock store =>
      obtain ⟨same, -⟩ := List.cons.inj (writes.symm.trans written)
      obtain ⟨-, rfl, rfl⟩ := Write.set.inj same
      obtain ⟨takes, stored⟩ := Store.set_eq_ok store
      refine ⟨⟨value, Store.deadline floor.state.clock ttl.millis⟩, ?_, rfl⟩
      rw [live?, clock, stored, Store.live?_set takes, if_pos rfl]
  | removal t' key' written =>
      obtain ⟨same, -⟩ := List.cons.inj (writes.symm.trans written)
      cases same

theorem take_prolong (n : Nat) (key : String) :
    let next := floor.take app (.prolong n)
    next.writes = floor.writes ∧
      (next.live? key).map (·.value) = (floor.live? key).map (·.value) := by
  rw [take]
  split
  · exact ⟨rfl, rfl⟩
  · rename_i p pending
    let waiting : State := { floor.state with ready := floor.state.ready.eraseIdx n }
    exact ⟨rfl, waiting.values_prolong p key⟩

/-- **The last write wins, however requests are interleaved.**  What is live under a subject's key
was set by the last write there, an issue to the subject.  So at most one nonce of each kind holds,
and nothing is live after a removal.  A turn that writes nothing shows nothing new, a prolongation
leaves each value as it is, and what is issued shows at once. -/
theorem last_write_wins (app : Application) (clock : Instant) (supply : Nat → Uuid)
    (turns : List Turn) :
    let floor := (opened clock supply).run app turns
    (∀ subject e, floor.live? (app.authority.key subject) = some e →
      ∃ w, floor.last? (app.authority.key subject) = some w ∧ w.Issues app subject e.value) ∧
    (∀ key t, floor.last? key = some (.delete t key) → floor.live? key = none) ∧
    (∀ claims claims' slot, app.authority.Holds floor.state claims slot →
      app.authority.Holds floor.state claims' slot → claims.subject? = claims'.subject? →
        claims.uid? = claims'.uid?) ∧
    (∀ turn, let next := floor.take app turn
      (next.writes = floor.writes → ∀ key e, next.live? key = some e →
        ∃ o, floor.live? key = some o ∧ o.value = e.value) ∧
      ∀ t key value, next.writes = .set t key value :: floor.writes →
        ∃ e, next.live? key = some e ∧ e.value = value) ∧
    ∀ n key, let next := floor.take app (.prolong n)
      next.writes = floor.writes ∧
        (next.live? key).map (·.value) = (floor.live? key).map (·.value) := by
  intro floor
  have sound : floor.Sound app := run_sound (opened_sound clock supply) turns
  refine ⟨?_, ?_, ?_, ?_, ?_⟩
  · exact fun subject e live => sound.issues live
  · exact fun key t last => sound.removed last
  · rintro claims claims' slot ⟨subject, record, named, stored, carried⟩
      ⟨subject', record', named', stored', carried'⟩ same
    rw [named, named'] at same
    cases same
    rw [stored] at stored'
    cases stored'
    exact carried.trans carried'.symm
  · intro turn next
    have changes := (take_keeps sound turn).2
    exact ⟨changes.sheds, fun t key value => changes.shows⟩
  · exact fun n key => take_prolong n key

end Floor

end SessionAuthority

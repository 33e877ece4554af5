import SessionAuthority.Program

/-!
# A running service

`State` is what changes while the service runs: the clock, the session store, how many nonces were
taken from the supply, the tally, the faults that its collaborators show at the moment, and the
prolongations that run beside the requests.  `run` answers the calls of a program one after the
other, up to a deadline at which the program is abandoned.

A prolongation is made by a request but not part of it: it is `ready` until the request gives way,
then it makes its one call to the store, and if that call is slow it is `waiting` meanwhile.
-/
set_option autoImplicit false

namespace SessionAuthority

/-- How a collaborator misbehaves. -/
inductive Fault (ε : Type) where
  | none
  | fail (e : ε)
  | panic (detail : String)
  | delay (wait : Span)
  deriving DecidableEq, Repr

structure Faults where
  get : Fault StoreError := .none
  set : Fault StoreError := .none
  expire : Fault StoreError := .none
  delete : Fault StoreError := .none
  lookup : Fault DirectoryError := .none
  deriving DecidableEq, Repr

/-- A session whose time is to start again. -/
structure Prolongation where
  key : String
  ttl : Span
  deriving DecidableEq, Repr

/-- What changes while the service runs. -/
structure State where
  clock : Instant
  store : Store := .empty
  supply : Nat → Uuid := Uuid.nonce
  nonces : Nat := 0
  tally : Tally := []
  faults : Faults := {}
  ready : List Prolongation := []
  waiting : List (Instant × Prolongation) := []

/-- How a program ends. -/
inductive Ending (α : Type) where
  | finished (a : α)
  | crashed (c : Crash)
  | abandoned
  deriving DecidableEq, Repr

namespace State

def count (s : State) (e : Event) : State := { s with tally := e :: s.tally }

def nextNonce (s : State) : Uuid := s.supply (s.nonces + 1)

def takeNonce (s : State) : State := { s with nonces := s.nonces + 1 }

/-! ## Prolongations beside the requests -/

/-- A prolongation's call to the store is answered. -/
def prolong (s : State) (p : Prolongation) : State :=
  match s.store.expire s.clock p.key p.ttl with
  | .ok (_, store) => { s with store }
  | .error _ => s.count .prolongFailed

/-- A prolongation makes its call to the store. -/
def start (s : State) (p : Prolongation) : State :=
  match s.faults.expire with
  | .none => s.prolong p
  | .fail _ => s.count .prolongFailed
  | .panic _ => s
  | .delay wait =>
      if wait.nanos = 0 then s.prolong p
      else { s with waiting := s.waiting ++ [(s.clock + wait.nanos, p)] }

def startReady (s : State) : State := s.ready.foldl start { s with ready := [] }

/-- The prolongations whose wait ends by now, the earliest first. -/
def due (s : State) (now : Instant → Bool) : List (Instant × Prolongation) :=
  (s.waiting.filter fun w => now w.1).mergeSort fun a b => a.1 ≤ b.1

def withoutDue (s : State) (now : Instant → Bool) : State :=
  { s with waiting := s.waiting.filter fun w => !now w.1 }

/-- The prolongations run as far as they can without the clock. -/
def settle (s : State) : State :=
  let s := s.startReady
  let now (wake : Instant) := decide (wake ≤ s.clock)
  (s.due now).foldl (fun s w => s.prolong w.2) (s.withoutDue now)

/-- The clock goes on to an instant, and what waits for an earlier one has its turn. -/
def waitUntil (s : State) (target : Instant) : State :=
  let s := s.startReady
  let now (wake : Instant) := decide (wake < target)
  let s := (s.due now).foldl
    (fun s w => State.prolong { s with clock := max s.clock w.1 } w.2) (s.withoutDue now)
  { s with clock := max s.clock target }

/-! ## Calls -/

/-- A call to a collaborator with its fault: it refuses, panics, or answers after a wait, which the
deadline may cut short. -/
def meet {ε β : Type} (s : State) (deadline : Option Instant) (fault : Fault ε) (refuse : ε → β)
    (answer : State → β × State) : Ending β × State :=
  let finish (s : State) : Ending β × State := (.finished (answer s).1, (answer s).2)
  match fault with
  | .none => finish s
  | .fail e => (.finished (refuse e), s)
  | .panic detail => (.crashed (.collaborator detail), s)
  | .delay wait =>
      if wait.nanos = 0 then finish s
      else
        let target := s.clock + wait.nanos
        match deadline with
        | none => finish (s.waitUntil target)
        | some d => if d ≤ target then (.abandoned, s.waitUntil d) else finish (s.waitUntil target)

def update {α : Type} (s : State) (r : Except StoreError (α × Store)) :
    Except StoreError α × State :=
  match r with
  | .ok (a, store) => (.ok a, { s with store })
  | .error e => (.error e, s)

def answer (s : State) (directory : Directory) (deadline : Option Instant) :
    (c : Call) → Ending c.Answer × State
  | .nonce => (.finished s.nextNonce, s.takeNonce)
  | .count e => (.finished (), s.count e)
  | .report => (.finished s.tally, s)
  | .detach key ttl => (.finished (), { s with ready := s.ready ++ [⟨key, ttl⟩] })
  | .get key =>
      s.meet deadline s.faults.get .error fun s => s.update (.ok (s.store.get s.clock key))
  | .set key value ttl =>
      s.meet deadline s.faults.set .error fun s =>
        s.update ((s.store.set s.clock key value ttl).map fun store => ((), store))
  | .expire key ttl =>
      s.meet deadline s.faults.expire .error fun s => s.update (s.store.expire s.clock key ttl)
  | .delete key =>
      s.meet deadline s.faults.delete .error fun s => s.update (.ok ((), s.store.delete key))
  | .lookup identity =>
      s.meet deadline s.faults.lookup .error fun s => (.ok (directory.find? identity), s)

/-- A program is run; nothing of it happens from the deadline on. -/
def run {α : Type} (directory : Directory) (deadline : Option Instant) :
    Program α → State → Ending α × State
  | .done a, s => (.finished a, s)
  | .crash c, s => (.crashed c, s)
  | .call c next, s =>
      match s.answer directory deadline c with
      | (.finished a, s) => run directory deadline (next a) s
      | (.crashed c, s) => (.crashed c, s)
      | (.abandoned, s) => (.abandoned, s)

end State

end SessionAuthority

import SessionAuthority.Directory
import SessionAuthority.Failure
import SessionAuthority.Store
import SessionAuthority.Tally

/-!
# Programs

A program is a tree of calls to what surrounds the service: the session store, the user directory,
the supply of nonces, the tally and the detached prolongation of a session.  What a call is answered
with, and whether the program ever goes on after it, is not the program's business, so that the same
program can be run to its end, abandoned between two calls or interleaved with others.

`Action` is a program that may be refused.
-/
set_option autoImplicit false

namespace SessionAuthority

/-- A call to what surrounds the service. -/
inductive Call where
  | nonce
  | count (event : Event)
  | report
  | detach (key : String) (ttl : Span)
  | get (key : String)
  | set (key : String) (value : Bytes) (ttl : Span)
  | expire (key : String) (ttl : Span)
  | delete (key : String)
  | lookup (identity : String)
  deriving DecidableEq, Repr

abbrev Call.Answer : Call → Type
  | nonce => Uuid
  | count _ => Unit
  | report => Tally
  | detach _ _ => Unit
  | get _ => Except StoreError (Option Bytes)
  | set _ _ _ => Except StoreError Unit
  | expire _ _ => Except StoreError Bool
  | delete _ => Except StoreError Unit
  | lookup _ => Except DirectoryError (Option User)

/-- A finite tree of calls. -/
inductive Program (α : Type) where
  | done (a : α)
  | crash (c : Crash)
  | call (c : Call) (next : c.Answer → Program α)

namespace Program

variable {α β γ : Type}

def bind : Program α → (α → Program β) → Program β
  | done a, f => f a
  | crash c, _ => crash c
  | call c next, f => call c fun answer => (next answer).bind f

instance : Monad Program where
  pure := done
  bind := bind

theorem bind_done (p : Program α) : p.bind done = p := by
  induction p with
  | done => rfl
  | crash => rfl
  | call c next ih => simp only [bind, ih]

theorem bind_assoc (p : Program α) (f : α → Program β) (g : β → Program γ) :
    (p.bind f).bind g = p.bind fun a => (f a).bind g := by
  induction p with
  | done => rfl
  | crash => rfl
  | call c next ih => simp only [bind, ih]

instance : LawfulMonad Program :=
  LawfulMonad.mk' Program bind_done (fun _ _ => rfl) bind_assoc

def ask (c : Call) : Program c.Answer := call c done

end Program

/-- A program that may be refused. -/
abbrev Action (α : Type) := ExceptT AuthError Program α

namespace Action

variable {α : Type}

def ask (c : Call) : Action c.Answer := ExceptT.lift (Program.ask c)

def ofOutcome : Outcome AuthError α → Action α
  | .ok a => ExceptT.mk (.done (.ok a))
  | .refused e => ExceptT.mk (.done (.error e))
  | .crashed c => ExceptT.mk (.crash c)

/-- A store's refusal, as the authority reports it. -/
def ofStore : Except StoreError α → Action α
  | .ok a => ExceptT.mk (.done (.ok a))
  | .error e => ExceptT.mk (.done (.error (.internal ("session store: " ++ e.message))))

end Action

end SessionAuthority

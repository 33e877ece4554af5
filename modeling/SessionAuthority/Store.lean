import SessionAuthority.Bytes
import SessionAuthority.Span

/-!
# Session store

A store maps keys to values that live for a time.  An entry is live strictly before its deadline.
Entries past it stay until `get` or `expire` comes across them, which no answer shows: every
operation asks about life first.

A time to live is taken in whole milliseconds, rounded down; none at all and more than 64 bits of
them are refused, and a refusal changes nothing.
-/
set_option autoImplicit false

namespace SessionAuthority

inductive StoreError where
  | backend (detail : String)
  | invalidTtl (ttl : Span)
  deriving DecidableEq, Repr

def StoreError.message : StoreError → String
  | backend detail => "Redis error: " ++ detail
  | invalidTtl ttl => "Invalid TTL: " ++ ttl.text

/-- A value and the instant its life ends. -/
structure Entry where
  value : Bytes
  deadline : Instant
  deriving DecidableEq, Repr

def Entry.live (e : Entry) (now : Instant) : Bool := now < e.deadline

/-- Entries by key; no key stands twice. -/
structure Store where
  entries : List (String × Entry)
  deriving DecidableEq, Repr

namespace Store

def empty : Store := ⟨[]⟩

/-- The milliseconds of a time to live. -/
def lifetime (ttl : Span) : Except StoreError Nat :=
  if ttl.millis = 0 ∨ 0xFFFFFFFFFFFFFFFF < ttl.millis then .error (.invalidTtl ttl)
  else .ok ttl.millis

def deadline (now : Instant) (millis : Nat) : Instant := now + millis * 1000000

/-- The entry under a key, live or not. -/
def entry? (s : Store) (key : String) : Option Entry := s.entries.lookup key

def erase (s : Store) (key : String) : Store := ⟨s.entries.filter fun e => e.1 != key⟩

def put (s : Store) (key : String) (e : Entry) : Store := ⟨(key, e) :: (s.erase key).entries⟩

def get (s : Store) (now : Instant) (key : String) : Option Bytes × Store :=
  match s.entry? key with
  | none => (none, s)
  | some e => if e.live now then (some e.value, s) else (none, s.erase key)

def set (s : Store) (now : Instant) (key : String) (value : Bytes) (ttl : Span) :
    Except StoreError Store :=
  (lifetime ttl).map fun millis => s.put key ⟨value, deadline now millis⟩

/-- Start the time of a live entry again; whether there was one. -/
def expire (s : Store) (now : Instant) (key : String) (ttl : Span) :
    Except StoreError (Bool × Store) :=
  (lifetime ttl).map fun millis =>
    match s.entry? key with
    | none => (false, s)
    | some e =>
        if e.live now then (true, s.put key { e with deadline := deadline now millis })
        else (false, s.erase key)

/-- Remove a key; that it was there is not asked for. -/
def delete (s : Store) (key : String) : Store := s.erase key

/-- How many entries are live. -/
def size (s : Store) (now : Instant) : Nat := (s.entries.filter fun e => e.2.live now).length

end Store

end SessionAuthority

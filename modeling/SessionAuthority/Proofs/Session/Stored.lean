import SessionAuthority.Proofs.Json.Document
import SessionAuthority.Proofs.Session.Table

/-!
# Whatever is stored under a key

The entry under a subject's key may have been written by anyone.  `checkLive_stored` says what a
check makes of any octets there: it passes or finds no active session, and it passes only if the
octets are a document that writes a session record whose slot holds the nonce of the claims.  There
is no failure in between, so a session cannot be held up by what cannot be read, and no nonce counts
that stands in anything but such a document.
-/
set_option autoImplicit false

namespace SessionAuthority

namespace SessionRecord

/-- The octets are a document that writes this record. -/
def StandsIn (record : SessionRecord) (stored : Bytes) : Prop :=
  shape.Document [record.access, record.refresh] stored

/-- A record is read only from octets that it stands in. -/
theorem standsIn_of_read? {stored : Bytes} {record : SessionRecord}
    (read : read? stored = some record) : record.StandsIn stored := by
  unfold read? at read
  split at read
  · rename_i access refresh parsed
    cases read
    exact Json.Shape.parse_document (by decide) parsed
  · cases read

end SessionRecord

namespace Authority

variable (a : Authority) (directory : Directory) (deadline : Option Instant)

/-- **Whatever octets are stored**, a check passes or finds no active session.  It passes just if
they read as a record with the nonce in its slot; they read as a record only if they are a document
that writes it; and every record reads back from what is written for it. -/
theorem checkLive_stored {s : State} (working : s.faults.get = .none) {claims : Claims}
    {subject : Uuid} {uid : String} (named : claims.subject? = some subject)
    (carried : claims.uid? = some uid) {entry : Entry}
    (held : s.store.live? s.clock (a.key subject) = some entry) (slot : Slot) :
    let ending := (s.run directory deadline (a.checkLive claims slot).run).1
    (ending = .finished (.ok ()) ∨ ending = .finished (.error .noActiveSession)) ∧
    (ending = .finished (.ok ()) ↔
      ∃ record, SessionRecord.read? entry.value = some record ∧ record.nonce slot = uid) ∧
    (∀ record, SessionRecord.read? entry.value = some record →
      Json.Grammar.Text entry.value ∧ record.StandsIn entry.value) ∧
    ∀ access refresh : String,
      SessionRecord.read? (SessionRecord.render ⟨access, refresh⟩) = some ⟨access, refresh⟩ := by
  intro ending
  have decided : ending = _ :=
    a.run_checkLive_of_entry directory deadline working named carried held slot
  have live : isLive (some entry.value) slot uid = true ↔
      ∃ record, SessionRecord.read? entry.value = some record ∧ uid = record.nonce slot :=
    isLive_iff
  refine ⟨?_, ?_, ?_, fun access refresh => SessionRecord.read?_render ⟨access, refresh⟩⟩
  · rw [decided]
    split
    · exact .inl rfl
    · exact .inr rfl
  · constructor
    · intro passed
      rw [decided] at passed
      split at passed
      · rename_i counts
        obtain ⟨record, read, same⟩ := live.1 counts
        exact ⟨record, read, same.symm⟩
      · cases passed
    · rintro ⟨record, read, same⟩
      rw [decided, if_pos (live.2 ⟨record, read, same.symm⟩)]
  · intro record read
    have stands := SessionRecord.standsIn_of_read? read
    exact ⟨stands.text, stands⟩

/-- A record as no issue writes it: slots in the other order, an escape, and a member more. -/
def foreignRecord : Bytes :=
  Bytes.ofString
    "\x7b\"refresh_token\": \"r\", \"x\": [true, \x7b\x7d], \"access_token\": \"\\u0075\"\x7d"

/-- A record that was written otherwise counts, and an octet that is no text at all does not. -/
theorem checkLive_stored_foreign :
    let a : Authority := ⟨⟨.hs256, .secret .sha256, none, none, 0⟩, "test",
      ⟨.ofSeconds 0, .ofSeconds 0, .ofSeconds 0⟩⟩
    let claims := Claims.ofIdentity ⟨.ofNat 7, "ada", "u", none⟩
    let verdict (stored : Bytes) :=
      let s : State := { clock := 0, store := Store.empty.put (a.key (.ofNat 7)) ⟨stored, 1⟩ }
      (s.run .empty none (a.checkLive claims .access).run).1
    verdict foreignRecord = .finished (.ok ()) ∧
      verdict [0xFF] = .finished (.error .noActiveSession) := by
  intro a claims verdict
  have named := Claims.subject?_ofIdentity ⟨.ofNat 7, "ada", "u", none⟩
  have carried := Claims.uid?_ofIdentity ⟨.ofNat 7, "ada", "u", none⟩
  have held (stored : Bytes) :
      (Store.empty.put (a.key (.ofNat 7)) ⟨stored, 1⟩).live? 0 (a.key (.ofNat 7)) =
        some ⟨stored, 1⟩ := by
    rw [Store.live?_put, if_pos rfl]
    rfl
  have checked (stored : Bytes) := a.checkLive_stored .empty none
    (s := { clock := 0, store := Store.empty.put (a.key (.ofNat 7)) ⟨stored, 1⟩ }) rfl named
    carried (held stored) .access
  constructor
  · have read : SessionRecord.read? foreignRecord = some ⟨"u", "r"⟩ := by decide +kernel
    exact (checked foreignRecord).2.1.2 ⟨_, read, rfl⟩
  · have unread : SessionRecord.read? [0xFF] = none := by decide +kernel
    refine (checked [0xFF]).1.resolve_left fun passed => ?_
    obtain ⟨record, read, -⟩ := (checked [0xFF]).2.1.1 passed
    rw [unread] at read
    cases read

end Authority

end SessionAuthority

import SessionAuthority.Proofs.Codec.Authenticity
import SessionAuthority.Proofs.Codec.RoundTrip

/-!
# Which expiries the clock is held against

`decode_integer_expiry` says until when a token is good whose expiry is an integer: until the
expiry is past by more than the skew.  But a negative integer is no number of seconds that can be
read (`Registered.seconds?`), so the clock is not held against it, and as it is a number after all
the token is not refused for it either.  A token with such an expiry is good for ever
(`decode_negative_expiry`).
-/
set_option autoImplicit false

namespace SessionAuthority.Codec

/-- The expiry that is held against the clock, for an integer: none if that is negative. -/
theorem expiry?_of_int {members : List (String × Json)} {e : Int}
    (found : Json.lookup? "exp" members = some (.int e)) :
    Registered.expiry? members = if 0 ≤ e then some e.toNat else none := by
  rw [Registered.expiry?, found, Option.bind_some, Registered.seconds?]

/-- Members with an integer expiry are refused just if that is not negative and too far past. -/
theorem accept_of_int {skew now : Nat} (clock : skew ≤ now) {members : List (String × Json)}
    (formed : Registered.wellFormed members = true) {e : Int}
    (found : (Claims.ofMembers members).get? "exp" = some (.int e)) :
    accept skew now members =
      if 0 ≤ e ∧ e + skew < now then .refused .expired else .ok (.ofMembers members) := by
  have held := expiry?_of_int (lookup?_of_get?_int formed found)
  have running : ¬ now < skew := Nat.not_lt.2 clock
  rw [accept, if_pos formed, held]
  by_cases readable : 0 ≤ e
  · have late : e.toNat < now - skew ↔ e + skew < now := by omega
    simp only [readable, true_and, if_true, running, if_false, found, Json.isNumber]
    by_cases past : e + skew < now
    · rw [if_pos past, if_pos (late.2 past)]
    · rw [if_neg past, if_neg fun passed => past (late.1 passed)]
  · have never : ¬ (0 ≤ e ∧ e + skew < now) := fun passed => readable passed.1
    rw [if_neg never]
    simp only [readable, if_false, found, Json.isNumber, if_true]

/-- **Until when a token with an integer expiry is good.**  Once accepted, it is refused at just
the times that are later than its expiry by more than the skew, if that is not negative, and never
if it is. -/
theorem decode_integer_expiry {c : Codec} {key : Bytes} (verifying : c.verifying = some key)
    {first : Nat} {token : String} {claims : Claims} (answer : c.decode first token = .ok claims)
    {e : Int} (found : claims.get? "exp" = some (.int e)) {now : Nat} (clock : c.skew ≤ now) :
    c.decode now token =
      if 0 ≤ e ∧ e + c.skew < now then .refused .expired else .ok claims := by
  have passed : Passed (c.decode first token) := by
    rw [answer]
    trivial
  obtain ⟨p, members, cut, named, signed, read, rest⟩ := decode_inversion verifying passed
  obtain ⟨rfl, formed, -⟩ := accept_eq_ok (rest.symm.trans answer)
  have verified := Parts.verify_eq_ok_iff.2 signed
  rw [decode_of_parts verifying cut named verified read]
  exact accept_of_int clock formed found

/-! ## Tokens with nothing but an expiry -/

/-- A codec that takes tokens signed with one secret, with half a minute of skew. -/
def halfMinute (secret : Bytes) : Codec := ⟨.hs256, .secret .sha256, none, some secret, 30⟩

/-- The claims that say when a token expires and nothing else. -/
def expiryAlone (e : Int) : Claims where
  members := [("exp", .int e)]
  canonical := .object (by simp [Json.Canonical.int]) (List.pairwise_singleton ..)

def expiring (secret : Bytes) (e : Int) : Parts :=
  Parts.signed .sha256 secret (segment (Header.render .hs256))
    (segment (Json.render (expiryAlone e).toJson))

theorem get?_expiryAlone (e : Int) : (expiryAlone e).get? "exp" = some (.int e) := by
  simp [Claims.get?, expiryAlone, Json.lookup?]

/-- What such a token comes to is decided by the clock. -/
theorem decode_expiring_eq_accept {c : Codec} {secret : Bytes} (pinned : c.algorithm = .hs256)
    (family : c.family = .secret .sha256) (verifying : c.verifying = some secret) {e : Int}
    (integral : (Json.int e).isIntegral = true) (now : Nat) :
    c.decode now (expiring secret e).text = accept c.skew now (expiryAlone e).members := by
  have object : (expiryAlone e).toJson.isIntegral = true := by
    simpa [Claims.toJson, expiryAlone, Json.isIntegral, Json.membersIntegral] using integral
  have shallow : (expiryAlone e).toJson.depth ≤ 127 := Nat.le_of_ble_eq_true rfl
  rw [expiring, ← pinned]
  exact decode_signed_eq_accept family verifying object shallow now

theorem accept_expiryAlone {skew now : Nat} (clock : skew ≤ now) (e : Int) :
    accept skew now (expiryAlone e).members =
      if 0 ≤ e ∧ e + skew < now then .refused .expired else .ok (expiryAlone e) := by
  have same := Claims.ofMembers_members (expiryAlone e)
  have found : (Claims.ofMembers (expiryAlone e).members).get? "exp" = some (.int e) := by
    rw [same, get?_expiryAlone]
  have formed : Registered.wellFormed (expiryAlone e).members = true := rfl
  rw [accept_of_int clock formed found, same]

theorem decode_expiring (secret : Bytes) {e : Int} (integral : (Json.int e).isIntegral = true)
    {now : Nat} (clock : 30 ≤ now) :
    (halfMinute secret).decode now (expiring secret e).text =
      if 0 ≤ e ∧ e + (30 : Nat) < now then .refused .expired else .ok (expiryAlone e) := by
  have decided := decode_expiring_eq_accept (c := halfMinute secret) rfl rfl rfl integral now
  rw [decided, halfMinute, accept_expiryAlone clock]

/-- A token that expires at the second 70 is good at 100 and refused at 101. -/
theorem decode_integer_expiry_last_second :
    let c := halfMinute [0x6B]
    let token := (expiring [0x6B] 70).text
    c.decode 100 token = .ok (expiryAlone 70) ∧ (expiryAlone 70).get? "exp" = some (.int 70) ∧
      c.skew ≤ 101 ∧ c.decode 101 token = .refused .expired := by
  intro c token
  have answer : c.decode 100 token = .ok (expiryAlone 70) := decode_expiring [0x6B] rfl (by decide)
  have found := get?_expiryAlone 70
  refine ⟨answer, found, by decide, ?_⟩
  exact decode_integer_expiry rfl answer found (by decide)

/-- **An expiry before the epoch never comes.**  A signed token whose expiry is the second -1 is
accepted in the year 2023, though the skew is half a minute. -/
theorem decode_negative_expiry :
    let c := halfMinute (Bytes.ofString "secretpass")
    let token := "eyJ0eXAiOiJKV1QiLCJhbGciOiJIUzI1NiJ9.eyJleHAiOi0xfQ" ++
      ".IWAKdzvTrT-fWTfpd0-s_nqaA1-nXSDJrF9WOgC5_20"
    ∃ claims, c.decode 1700000000 token = .ok claims ∧ claims.get? "exp" = some (.int (-1)) ∧
      c.skew ≤ 1700000000 ∧ ¬ (1700000000 : Int) ≤ -1 + c.skew := by
  intro c token
  have written : token = (expiring (Bytes.ofString "secretpass") (-1)).text := by decide +kernel
  refine ⟨expiryAlone (-1), ?_, get?_expiryAlone (-1), by decide, by decide⟩
  rw [written]
  exact decode_expiring _ rfl (by decide)

end SessionAuthority.Codec

import SessionAuthority.Proofs.Codec.Expiry

/-!
# What a wider skew changes

The skew is a grace given to expiries, so a wider one should refuse nothing that a narrower one
lets through.  That is so as long as the clock has reached it: the claims are accepted unchanged
(`decode_wider_skew`).  A skew that is longer than the time since the epoch cannot be taken from the
clock.  With such a codec every expiry that is held against the clock ends in a crash, also one that
lies in the future (`decode_skew_beyond_clock`), and only tokens without one come through.
-/
set_option autoImplicit false

namespace SessionAuthority

/-! ## Names that are kept -/

namespace Json

/-- Of members of one name, one is kept. -/
theorem exists_mem_keepLast {name : String} {v : Json} :
    ∀ {members : List (String × Json)}, (name, v) ∈ members → ∃ w, (name, w) ∈ keepLast members
  | [_], member => ⟨v, member⟩
  | first :: second :: rest, member => by
      simp only [keepLast]
      by_cases same : first.1 = second.1
      · -- the first of the two is dropped, and the second has its name
        have other : ∃ w, (name, w) ∈ second :: rest := by
          rcases List.mem_cons.1 member with rfl | later
          · exact ⟨second.2, by simp [show name = second.1 from same]⟩
          · exact ⟨v, later⟩
        obtain ⟨w, later⟩ := other
        rw [if_pos same]
        exact exists_mem_keepLast later
      · rw [if_neg same]
        rcases List.mem_cons.1 member with here | later
        · exact ⟨v, by simp [here]⟩
        · obtain ⟨w, kept⟩ := exists_mem_keepLast later
          exact ⟨w, List.mem_cons_of_mem _ kept⟩

theorem exists_mem_sortMembers {name : String} {v : Json} {members : List (String × Json)}
    (member : (name, v) ∈ members) : ∃ w, (name, w) ∈ sortMembers members := by
  unfold sortMembers
  apply exists_mem_keepLast
  exact (List.mergeSort_perm members _).mem_iff.2 member

end Json

/-- The expiry among the claims that the clock is held against, if they have one. -/
def Claims.heldExpiry? (c : Claims) : Option Nat :=
  (c.get? "exp").bind Codec.Registered.seconds?

namespace Codec

theorem seconds?_canonical (v : Json) :
    Registered.seconds? v.canonical = Registered.seconds? v := by
  cases v <;> rfl

/-- The expiry that stands among the claims is the one that was written. -/
theorem heldExpiry?_ofMembers {members : List (String × Json)}
    (formed : Registered.wellFormed members = true) :
    (Claims.ofMembers members).heldExpiry? = Registered.expiry? members := by
  unfold Claims.heldExpiry? Registered.expiry?
  cases first : Json.lookup? "exp" members with
  | none =>
      cases found : (Claims.ofMembers members).get? "exp" with
      | none => rfl
      | some v =>
          obtain ⟨w, member, -⟩ := mem_of_get?_ofMembers found
          exact absurd rfl (Json.lookup?_eq_none_iff.1 first _ member)
  | some v =>
      have kept : ∃ w, ("exp", w) ∈ (Claims.ofMembers members).members := by
        apply Json.exists_mem_sortMembers (v := v.canonical)
        rw [Json.canonicalMembers_eq_map]
        exact List.mem_map.2 ⟨_, Json.mem_of_lookup? first, rfl⟩
      obtain ⟨w, kept⟩ := kept
      have found := Json.lookup?_of_mem (Claims.ascending _) kept
      obtain ⟨u, member, rfl⟩ := mem_of_get?_ofMembers found
      obtain rfl := (registered_unique formed (by simp) (Json.mem_of_lookup? first)).2 u member
      rw [Claims.get?, found, Option.bind_some, Option.bind_some, seconds?_canonical]

/-! ## Two skews -/

/-- What is accepted with a skew is accepted with a wider one, unless the clock is held against an
expiry and has not reached the wider one. -/
theorem accept_wider {skew wider now : Nat} (order : skew ≤ wider)
    {members : List (String × Json)} {claims : Claims}
    (accepted : accept skew now members = .ok claims) :
    accept wider now members =
      if now < wider ∧ claims.heldExpiry?.isSome then .crashed .subtraction else .ok claims := by
  obtain ⟨rfl, formed, fresh⟩ := accept_eq_ok accepted
  rw [heldExpiry?_ofMembers formed]
  unfold accept at accepted ⊢
  rw [if_pos formed] at accepted ⊢
  cases expiry : Registered.expiry? members with
  | none =>
      simp only [expiry] at accepted
      simpa using accepted
  | some e =>
      have later := fresh e expiry
      simp only [expiry] at accepted
      split at accepted
      · cases accepted
      split at accepted
      · cases accepted
      by_cases early : now < wider
      · simp [early]
      · have unexpired : ¬ e < now - wider := by omega
        simpa [early, unexpired] using accepted

/-- A codec that is built from the same keys with another skew differs in nothing else. -/
theorem new_eq_map (algorithm : Algorithm) (signing verifying : Option Bytes) (skew other : Span) :
    new algorithm signing verifying other =
      (new algorithm signing verifying skew).map fun c => { c with skew := other.seconds } := by
  unfold new
  cases algorithm.family? with
  | none => rfl
  | some family =>
      simp only [bind, Except.bind]
      cases signing.mapM (signingKey family) with
      | error e => rfl
      | ok signer =>
          dsimp only
          split
          · rfl
          · rfl

/-- A codec that gives claims has a key to verify with. -/
theorem verifying_of_decode {c : Codec} {now : Nat} {token : String} {claims : Claims}
    (answer : c.decode now token = .ok claims) : ∃ key, c.verifying = some key := by
  cases held : c.verifying with
  | some key => exact ⟨key, rfl⟩
  | none =>
      simp only [decode, held] at answer
      cases answer

/-- **A wider skew lets through what a narrower one does**, unless the clock is held against the
expiry of the token and has not reached the wider skew: that ends in a crash. -/
theorem decode_wider_skew {algorithm : Algorithm} {signing verifying : Option Bytes}
    {skew wider : Span} (order : skew.seconds ≤ wider.seconds) {narrow broad : Codec}
    (built : new algorithm signing verifying skew = .ok narrow)
    (built' : new algorithm signing verifying wider = .ok broad) {now : Nat} {token : String}
    {claims : Claims} (answer : narrow.decode now token = .ok claims) :
    broad.decode now token =
      if now < wider.seconds ∧ claims.heldExpiry?.isSome then .crashed .subtraction
      else .ok claims := by
  have same := new_eq_map algorithm signing verifying skew skew
  have other := new_eq_map algorithm signing verifying skew wider
  rw [built, Except.map] at same other
  obtain rfl := Except.ok.inj (built'.symm.trans other)
  have skews : narrow.skew = skew.seconds := by rw [Except.ok.inj same]
  obtain ⟨key, held⟩ := verifying_of_decode answer
  have passed : Passed (narrow.decode now token) := by
    rw [answer]
    trivial
  obtain ⟨p, members, cut, named, signed, read, rest⟩ := decode_inversion held passed
  have verified := Parts.verify_eq_ok_iff.2 signed
  rw [decode_of_parts (c := { narrow with skew := wider.seconds }) held cut named verified read]
  apply accept_wider order
  rw [← skews, ← rest, answer]

/-! ## Up to the epoch and beyond it -/

def ofKey (secret : Bytes) (skew : Nat) : Codec :=
  ⟨.hs256, .secret .sha256, some secret, some secret, skew⟩

theorem new_ofKey {secret : Bytes} (filled : secret ≠ []) (skew : Nat) :
    new .hs256 (some secret) none (.ofSeconds skew) = .ok (ofKey secret skew) := by
  have whole : (Span.ofSeconds skew).seconds = skew := by simp [Span.ofSeconds, Span.seconds]
  have family : Algorithm.hs256.family? = some (.secret .sha256) := rfl
  have built := ofSecret_eq family filled (.ofSeconds skew)
  rw [whole] at built
  exact built

/-- At the second 100 a skew of 100 seconds changes nothing for a token that expired at 70, and one
of 101 has no answer. -/
theorem decode_wider_skew_reached :
    let decode (skew : Nat) := (ofKey [0x6B] skew).decode 100 (expiring [0x6B] 70).text
    decode 30 = .ok (expiryAlone 70) ∧ decode 100 = .ok (expiryAlone 70) ∧
      decode 101 = .crashed .subtraction := by
  intro decode
  have filled : ([0x6B] : Bytes) ≠ [] := by decide
  have answer : decode 30 = .ok (expiryAlone 70) := by
    show (ofKey [0x6B] 30).decode 100 (expiring [0x6B] 70).text = _
    rw [decode_expiring_eq_accept rfl rfl rfl rfl]
    exact accept_expiryAlone (by decide) 70
  refine ⟨answer, ?_, ?_⟩
  · exact decode_wider_skew (by decide) (new_ofKey filled 30) (new_ofKey filled 100) answer
  · exact decode_wider_skew (by decide) (new_ofKey filled 30) (new_ofKey filled 101) answer

/-- **Beyond the clock, a wider skew takes back what a narrower one grants.**  A signed token that
expires in the year 2033 is accepted in the year 2023 with half a minute of skew, and with a skew
that goes back one second beyond the epoch it is not answered at all. -/
theorem decode_skew_beyond_clock :
    let secret := Bytes.ofString "secretpass"
    let token := "eyJ0eXAiOiJKV1QiLCJhbGciOiJIUzI1NiJ9.eyJleHAiOjIwMDAwMDAwMDB9" ++
      ".lPXe8g-ayLFddP3qteQEj4CYi3e-IIDAlvW6JeHLewo"
    ∃ narrow broad claims, ofSecret .hs256 secret (.ofSeconds 30) = .ok narrow ∧
      ofSecret .hs256 secret (.ofSeconds 1700000001) = .ok broad ∧ 30 ≤ 1700000001 ∧
      narrow.decode 1700000000 token = .ok claims ∧
      broad.decode 1700000000 token = .crashed .subtraction := by
  intro secret token
  have filled : secret ≠ [] := by decide +kernel
  have written : token = (expiring secret 2000000000).text := by decide +kernel
  refine ⟨ofKey secret 30, ofKey secret 1700000001, expiryAlone 2000000000, new_ofKey filled 30,
    new_ofKey filled 1700000001, by decide, ?_, ?_⟩
  · have early : ¬ ((0 : Int) ≤ 2000000000 ∧
        (2000000000 : Int) + (30 : Nat) < (1700000000 : Nat)) := by
      omega
    rw [written, decode_expiring_eq_accept rfl rfl rfl rfl,
      show (ofKey secret 30).skew = 30 from rfl, accept_expiryAlone (by omega), if_neg early]
  · rw [written, decode_expiring_eq_accept rfl rfl rfl rfl]
    rfl

end Codec

end SessionAuthority

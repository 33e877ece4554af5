import SessionAuthority.Proofs.Base64
import SessionAuthority.Proofs.Claims
import SessionAuthority.Proofs.Codec.Parts
import SessionAuthority.Proofs.Json.RoundTrip

/-!
# Signed and verified by one codec

`decode_encode`: what a codec with a secret signs, it gives back unchanged, as long as the claims
are `Portable`: their numbers are integers of 64 bits, they nest no deeper than is read, the
registered names hold what they may, and the expiry, if there is one, is not past by more than the
skew.  There is one lemma for each part of the token: the header names its algorithm
(`algorithm?_signed`), the signature is the one that is asked for (`Parts.verify_signed`), the
payload is read as the members that were written (`members?_signed`), and the clock has nothing to
say (`accept_of_portable`).
-/
set_option autoImplicit false

namespace SessionAuthority

/-- The claims that a token can carry at a time, in seconds, without loss. -/
structure Claims.Portable (c : Claims) (skew now : Nat) : Prop where
  integral : c.toJson.isIntegral = true
  shallow : c.toJson.depth ≤ 127
  subject : ∀ v, c.get? "sub" = some v → Codec.Registered.isContainer v = false
  notBefore : ∀ v, c.get? "nbf" = some v → Codec.Registered.isContainer v = false
  expiry : ∀ v, c.get? "exp" = some v → ∃ e : Nat, v = .int e ∧ now ≤ e + skew

/-- Claims of an identity alone fit into every token. -/
theorem Claims.portable_ofIdentity (i : Identity) (skew now : Nat) :
    (Claims.ofIdentity i).Portable skew now := by
  have missing : ∀ name, name ≠ "id" → name ≠ "uid" → name ≠ "username" →
      (Claims.ofIdentity i).get? name = none := by
    intro name id uid username
    refine Json.lookup?_eq_none_iff.2 fun m member => ?_
    simp only [Claims.ofIdentity, List.mem_cons, List.not_mem_nil, or_false] at member
    rcases member with rfl | rfl | rfl
    · exact id.symm
    · exact uid.symm
    · exact username.symm
  refine ⟨rfl, Nat.le_of_ble_eq_true rfl, ?_, ?_, ?_⟩
  · intro v found
    rw [missing "sub" (by decide) (by decide) (by decide)] at found
    cases found
  · intro v found
    rw [missing "nbf" (by decide) (by decide) (by decide)] at found
    cases found
  · intro v found
    rw [missing "exp" (by decide) (by decide) (by decide)] at found
    cases found

namespace Codec

/-! ## The clock and the registered names -/

theorem not_filled_of_scalar {v : Json} (scalar : Registered.isContainer v = false) :
    Registered.isFilled v = false := by
  cases v <;> first | rfl | cases scalar

theorem wellFormed_of_portable {c : Claims} {skew now : Nat} (portable : c.Portable skew now) :
    Registered.wellFormed c.members = true := by
  simp only [Registered.wellFormed, List.all_eq_true]
  intro name registered
  rw [Json.filter_name_of_ascending c.ascending]
  cases found : Json.lookup? name c.members with
  | none => rfl
  | some v =>
      simp only [Option.map_some, Option.toList_some]
      simp only [List.mem_cons, List.not_mem_nil, or_false] at registered
      rcases registered with rfl | rfl | rfl | rfl | rfl
      · obtain ⟨e, rfl, -⟩ := portable.expiry v found
        rfl
      · simp [Registered.fits, not_filled_of_scalar (portable.notBefore v found)]
      · simp [Registered.fits, portable.subject v found]
      · rfl
      · rfl

/-- Portable claims stand the test of the clock. -/
theorem accept_of_portable {c : Claims} {skew now : Nat} (clock : skew ≤ now)
    (portable : c.Portable skew now) : accept skew now c.members = .ok c := by
  rw [accept, if_pos (wellFormed_of_portable portable), Claims.ofMembers_members]
  cases found : c.get? "exp" with
  | none =>
      have unread : Registered.expiry? c.members = none := by
        rw [Registered.expiry?, show Json.lookup? "exp" c.members = none from found]
        rfl
      simp only [unread]
  | some v =>
      obtain ⟨e, rfl, fresh⟩ := portable.expiry v found
      have read : Registered.expiry? c.members = some e := by
        rw [Registered.expiry?, show Json.lookup? "exp" c.members = some (.int e) from found]
        simp [Registered.seconds?]
      simp only [read, Json.isNumber, if_true]
      rw [if_neg (by omega), if_neg (by omega)]

/-! ## A codec with a secret -/

def secretAlgorithms : List Algorithm := [.hs256, .hs384, .hs512]

theorem family?_of_mem_secretAlgorithms {algorithm : Algorithm}
    (keyed : algorithm ∈ secretAlgorithms) : ∃ hash, algorithm.family? = some (.secret hash) := by
  simp only [secretAlgorithms, List.mem_cons, List.not_mem_nil, or_false] at keyed
  rcases keyed with rfl | rfl | rfl
  · exact ⟨.sha256, rfl⟩
  · exact ⟨.sha384, rfl⟩
  · exact ⟨.sha512, rfl⟩

theorem ofSecret_eq {algorithm : Algorithm} {hash : Digest.Hash}
    (family : algorithm.family? = some (.secret hash)) {secret : Bytes} (filled : secret ≠ [])
    (skew : Span) :
    ofSecret algorithm secret skew =
      .ok ⟨algorithm, .secret hash, some secret, some secret, skew.seconds⟩ := by
  have kept : secretKey secret = .ok secret := by
    rw [secretKey, if_neg (by simpa using filled)]
  simp [ofSecret, new, family, signingKey, verifyingKey, kept]
  rfl

/-! ## From the claims to the token and back -/

/-- Two parts under the signature of a secret. -/
def Parts.signed (hash : Digest.Hash) (secret : Bytes) (header payload : List Char) : Parts where
  header := header
  payload := payload
  signature := segment (Digest.hmac hash secret (octets (header ++ '.' :: payload)))

theorem Parts.verify_signed (hash : Digest.Hash) (secret : Bytes) (header payload : List Char) :
    (signed hash secret header payload).verify (.secret hash) secret = .ok () := by
  simp only [verify, message, signed, if_true]

theorem encode_eq {c : Codec} {hash : Digest.Hash} {secret : Bytes}
    (family : c.family = .secret hash) (signing : c.signing = some secret) (claims : Claims) :
    c.encode claims = .ok (Parts.signed hash secret (segment (Header.render c.algorithm))
      (segment (Json.render claims.toJson))).text := by
  simp only [encode, signing, family, sign, Parts.text, Parts.message, Parts.signed, signingText]

theorem ofText?_signed (hash : Digest.Hash) (secret header payload : Bytes) :
    Parts.ofText? (Parts.signed hash secret (segment header) (segment payload)).text =
      some (Parts.signed hash secret (segment header) (segment payload)) :=
  Parts.ofText?_eq_some_iff.2
    ⟨rfl, Base64.point_not_mem_encode _, Base64.point_not_mem_encode _⟩

/-- A header names the algorithm it was written for. -/
theorem parse?_render (algorithm : Algorithm) :
    Header.parse? (Header.render algorithm) = some algorithm := by
  cases algorithm <;> decide +kernel

theorem algorithm?_signed (hash : Digest.Hash) (secret : Bytes) (algorithm : Algorithm)
    (payload : List Char) :
    (Parts.signed hash secret (segment (Header.render algorithm)) payload).algorithm? =
      some algorithm := by
  simp only [Parts.algorithm?, Parts.signed, segment, Base64.decode?_encode, Option.bind_some,
    parse?_render]

theorem members?_signed (hash : Digest.Hash) (secret : Bytes) (header : List Char)
    {claims : Claims} (integral : claims.toJson.isIntegral = true)
    (shallow : claims.toJson.depth ≤ 127) :
    (Parts.signed hash secret header (segment (Json.render claims.toJson))).members? =
      some claims.members := by
  have parsed := Json.parse_render integral shallow
  simp only [Parts.members?, Parts.signed, segment, Base64.decode?_encode, parsed]
  rfl

/-- What is signed with the secret of a codec, the codec holds against the clock. -/
theorem decode_signed_eq_accept {c : Codec} {hash : Digest.Hash} {secret : Bytes}
    (family : c.family = .secret hash) (verifying : c.verifying = some secret) {claims : Claims}
    (integral : claims.toJson.isIntegral = true) (shallow : claims.toJson.depth ≤ 127)
    (now : Nat) :
    c.decode now (Parts.signed hash secret (segment (Header.render c.algorithm))
      (segment (Json.render claims.toJson))).text = accept c.skew now claims.members := by
  have whole := ofText?_signed hash secret (Header.render c.algorithm) (Json.render claims.toJson)
  have named := algorithm?_signed hash secret c.algorithm (segment (Json.render claims.toJson))
  have verified := Parts.verify_signed hash secret (segment (Header.render c.algorithm))
    (segment (Json.render claims.toJson))
  have read := members?_signed hash secret (segment (Header.render c.algorithm)) integral shallow
  rw [← family] at verified
  exact decode_of_parts verifying whole named verified read

/-- A codec with a secret takes what is signed with it. -/
theorem decode_signed {c : Codec} {hash : Digest.Hash} {secret : Bytes}
    (family : c.family = .secret hash) (verifying : c.verifying = some secret) {now : Nat}
    (clock : c.skew ≤ now) {claims : Claims} (portable : claims.Portable c.skew now) :
    c.decode now (Parts.signed hash secret (segment (Header.render c.algorithm))
      (segment (Json.render claims.toJson))).text = .ok claims := by
  rw [decode_signed_eq_accept family verifying portable.integral portable.shallow]
  exact accept_of_portable clock portable

/-- **What a codec with a secret signs, it gives back unchanged.** -/
theorem decode_encode {algorithm : Algorithm} (keyed : algorithm ∈ secretAlgorithms)
    {secret : Bytes} (filled : secret ≠ []) {skew now : Nat} (clock : skew ≤ now)
    {claims : Claims} (portable : claims.Portable skew now) :
    ∃ codec token, ofSecret algorithm secret (.ofSeconds skew) = .ok codec ∧
      codec.encode claims = .ok token ∧ codec.decode now token = .ok claims := by
  obtain ⟨hash, family⟩ := family?_of_mem_secretAlgorithms keyed
  have seconds : (Span.ofSeconds skew).seconds = skew := by
    simp [Span.ofSeconds, Span.seconds]
  have built := ofSecret_eq family filled (.ofSeconds skew)
  rw [seconds] at built
  exact ⟨_, _, built, encode_eq rfl rfl claims, decode_signed rfl rfl clock portable⟩

/-- Claims with a nested value, and an expiry that only the skew still admits. -/
theorem decode_encode_nested :
    ∃ claims : Claims, claims.get? "exp" = some (.int 95) ∧
      claims.get? "tags" = some (.array [.str "é\n", .object [("n", .int (-1))]]) ∧
      claims.Portable 5 100 ∧
      ∃ codec token, ofSecret .hs384 [0x6B] (.ofSeconds 5) = .ok codec ∧
        codec.encode claims = .ok token ∧ codec.decode 100 token = .ok claims := by
  have inner : Json.Canonical (.object [("n", .int (-1))]) :=
    .object (by simp [Json.Canonical.int]) (by decide)
  have items : ∀ v ∈ [Json.str "é\n", .object [("n", .int (-1))]], v.Canonical := by
    simp [Json.Canonical.str, inner]
  have outer : Json.Canonical
      (.object [("exp", .int 95), ("tags", .array [.str "é\n", .object [("n", .int (-1))]])]) :=
    .object (by simp [Json.Canonical.int, Json.Canonical.array items]) (by decide +kernel)
  have portable : (Claims.mk _ outer).Portable 5 100 := by
    refine ⟨rfl, Nat.le_of_ble_eq_true rfl, ?_, ?_, ?_⟩
    · intro v found
      cases found
    · intro v found
      cases found
    · intro v found
      cases found
      exact ⟨95, rfl, by decide⟩
  exact ⟨⟨_, outer⟩, rfl, rfl, portable,
    decode_encode (by decide) (by decide) (by decide) portable⟩

end Codec

end SessionAuthority

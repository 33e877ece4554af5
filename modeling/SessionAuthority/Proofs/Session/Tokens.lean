import SessionAuthority.Proofs.Codec.Expiry
import SessionAuthority.Proofs.Session.Runs

/-!
# Issued tokens

What an authority with one secret issues can be followed to the last octet.  The claims of a token
are its subject, its nonce, its expiry and the second of its issue (`members_tokenClaims`), and they
are read from its text until the expiry is past by more than the skew (`Authority.Wrote.read`).  A
pair is issued with the next two nonces (`Authority.run_issue_eq`).
-/
set_option autoImplicit false

namespace SessionAuthority

/-! ## The claims of a token -/

/-- Members have one ascending order only, and are sorted into it. -/
theorem Json.sortMembers_of_perm {members sorted : List (String × Json)}
    (perm : members.Perm sorted) (ascending : Ascending sorted) : sortMembers members = sorted := by
  have same : members.mergeSort (fun a b => nameLe a.1 b.1) = sorted := by
    refine List.Perm.eq_of_pairwise ?_ (List.pairwise_mergeSort
      (fun a b c => nameLe_trans a.1 b.1 c.1) (fun a b => nameLe_total a.1 b.1) members)
      (ascending.imp nameLe_of_nameLt) ((List.mergeSort_perm members _).trans perm)
    -- members that stand in each other's place have one name, so they are one
    rintro ⟨n, v⟩ ⟨m, w⟩ first second below above
    obtain rfl : n = m := Decidable.byContradiction fun ne =>
      ne_of_nameLt (nameLt_of_lt_of_le (nameLt_of_nameLe below ne) above) rfl
    have member := perm.mem_iff.1 ((List.mergeSort_perm members _).mem_iff.1 first)
    have found := lookup?_of_mem ascending member
    rw [lookup?_of_mem ascending second] at found
    rw [Option.some.inj found]
  rw [sortMembers, same, keepLast_of_ascending ascending]

section TokenClaims

variable (subject : Subject) (nonce : Uuid) (expiry issued : Instant)

theorem members_tokenClaims :
    (tokenClaims subject nonce expiry issued).members =
      [("exp", .int expiry.seconds), ("iat", .int issued.seconds), ("id", .str subject.id.toText),
        ("uid", .str nonce.toText), ("username", .str subject.username)] := by
  have names : ["exp", "iat", "id", "uid", "username"].Pairwise Json.nameLt := by decide +kernel
  refine Json.sortMembers_of_perm ?_ (List.pairwise_map.1 names)
  have halves (i n u e t : String × Json) : [i, n, u, e, t].Perm [e, t, i, n, u] :=
    @List.perm_append_comm _ [i, n, u] [e, t]
  exact (halves ..).trans ((((List.Perm.swap _ _ []).cons _).cons _).cons _)

theorem get?_exp_tokenClaims :
    (tokenClaims subject nonce expiry issued).get? "exp" = some (.int expiry.seconds) := by
  rw [Claims.get?, members_tokenClaims]
  rfl

theorem subject?_tokenClaims :
    (tokenClaims subject nonce expiry issued).subject? = some subject.id := by
  simp [Claims.subject?, Claims.str?, Claims.get?, members_tokenClaims, Json.lookup?, Json.str?,
    Uuid.parse?_toText]

theorem uid?_tokenClaims :
    (tokenClaims subject nonce expiry issued).uid? = some nonce.toText := by
  simp [Claims.uid?, Claims.str?, Claims.get?, members_tokenClaims, Json.lookup?, Json.str?]

theorem username?_tokenClaims :
    (tokenClaims subject nonce expiry issued).username? = some subject.username := by
  simp [Claims.username?, Claims.str?, Claims.get?, members_tokenClaims, Json.lookup?, Json.str?]

/-- The identity in a token is that of its subject, with the nonce of the token. -/
theorem ofClaims_tokenClaims :
    ∃ expiresAt, Identity.ofClaims (tokenClaims subject nonce expiry issued) =
      .ok ⟨subject.id, subject.username, nonce.toText, expiresAt⟩ := by
  rw [Identity.ofClaims, subject?_tokenClaims, uid?_tokenClaims, username?_tokenClaims]
  exact ⟨_, rfl⟩

variable {subject nonce expiry issued}

theorem portable_tokenClaims (dated : expiry.seconds ≤ lastDateSecond) (order : issued ≤ expiry) :
    (tokenClaims subject nonce expiry issued).Portable 0 0 := by
  have members := members_tokenClaims subject nonce expiry issued
  have missing {name : String} (other : name ∉ ["exp", "iat", "id", "uid", "username"]) :
      (tokenClaims subject nonce expiry issued).get? name = none := by
    refine Json.lookup?_eq_none_iff.2 fun m member => ?_
    rw [members] at member
    rintro rfl
    exact other (List.mem_map_of_mem (f := Prod.fst) member)
  have earlier : Instant.seconds issued ≤ Instant.seconds expiry := Nat.div_le_div_right order
  have integral {seconds : Nat} (dated : seconds ≤ lastDateSecond) :
      (Json.int seconds).isIntegral = true := by
    simp only [lastDateSecond] at dated
    simp only [Json.isIntegral, decide_eq_true_eq]
    omega
  refine ⟨?_, ?_, ?_, ?_, ?_⟩
  · have both := And.intro (integral dated) (integral (Nat.le_trans earlier dated))
    simpa [Claims.toJson, members, Json.isIntegral, Json.membersIntegral] using both
  · rw [Claims.toJson, members]
    exact Nat.le_of_ble_eq_true rfl
  · intro v found
    rw [missing (by decide)] at found
    cases found
  · intro v found
    rw [missing (by decide)] at found
    cases found
  · intro v found
    rw [get?_exp_tokenClaims] at found
    cases found
    exact ⟨expiry.seconds, rfl, Nat.zero_le _⟩

end TokenClaims

/-! ## From the text of a token to its claims -/

namespace Codec

/-- A codec signs and verifies with one secret. -/
structure Symmetric (c : Codec) (hash : Digest.Hash) (secret : Bytes) : Prop where
  family : c.family = .secret hash
  signing : c.signing = some secret
  verifying : c.verifying = some secret

theorem eq_of_ofSecret {algorithm : Algorithm} (keyed : algorithm ∈ secretAlgorithms)
    {secret : Bytes} {skew : Span} {c : Codec} (built : ofSecret algorithm secret skew = .ok c) :
    ∃ hash, c = ⟨algorithm, .secret hash, some secret, some secret, skew.seconds⟩ := by
  obtain ⟨hash, family⟩ := family?_of_mem_secretAlgorithms keyed
  have filled : secret ≠ [] := by
    rintro rfl
    simp [ofSecret, new, family, signingKey, secretKey] at built
    cases built
  rw [ofSecret_eq family filled] at built
  exact ⟨hash, (Except.ok.inj built).symm⟩

theorem symmetric_of_ofSecret {algorithm : Algorithm} (keyed : algorithm ∈ secretAlgorithms)
    {secret : Bytes} {skew : Span} {c : Codec} (built : ofSecret algorithm secret skew = .ok c) :
    ∃ hash, c.Symmetric hash secret := by
  obtain ⟨hash, rfl⟩ := eq_of_ofSecret keyed built
  exact ⟨hash, rfl, rfl, rfl⟩

/-- The claims that are written in a token, whether or not they count. -/
def written? (token : String) : Option Claims :=
  (Parts.ofText? token).bind fun p => p.members?.map Claims.ofMembers

/-- What is signed can be read, and counts until the expiry is past by more than the skew. -/
theorem read_encoded {c : Codec} {hash : Digest.Hash} {secret : Bytes}
    (symmetric : c.Symmetric hash secret) {claims : Claims} (portable : claims.Portable 0 0)
    {e : Nat} (found : claims.get? "exp" = some (.int e)) {token : String}
    (encoded : c.encode claims = .ok token) :
    written? token = some claims ∧ ∀ now, c.skew ≤ now →
      c.decode now token = if e + c.skew < now then .refused .expired else .ok claims := by
  rw [encode_eq symmetric.family symmetric.signing] at encoded
  obtain rfl := Except.ok.inj encoded
  have whole := ofText?_signed hash secret (Header.render c.algorithm) (Json.render claims.toJson)
  have read := members?_signed hash secret (segment (Header.render c.algorithm)) portable.integral
    portable.shallow
  have same := Claims.ofMembers_members claims
  refine ⟨?_, fun now clock => ?_⟩
  · rw [written?, whole, Option.bind_some, read, Option.map_some, same]
  · rw [decode_signed_eq_accept symmetric.family symmetric.verifying portable.integral
        portable.shallow,
      accept_of_int clock (wellFormed_of_portable portable) (by rw [same, found]), same]
    have past : (0 ≤ (e : Int) ∧ (e : Int) + c.skew < now) ↔ e + c.skew < now := by omega
    simp only [past]

end Codec

namespace Authority

variable (a : Authority)

/-- A token was issued to a subject, with this nonce and this expiry. -/
def Wrote (subject : Subject) (nonce : Uuid) (expiry : Instant) (text : String) : Prop :=
  ∃ issued, issued ≤ expiry ∧ expiry.seconds ≤ lastDateSecond ∧
    a.codec.encode (tokenClaims subject nonce expiry issued) = .ok text

/-- A pair was issued to a subject, with these nonces and expiries. -/
structure Paired (subject : Subject) (access refresh : Uuid × Instant) (pair : TokenPair) :
    Prop where
  expiry : pair.accessExpiry = access.2
  access : a.Wrote subject access.1 access.2 pair.access
  refresh : a.Wrote subject refresh.1 refresh.2 pair.refresh

/-- The second that a pair states for its access token is that of a date. -/
theorem Paired.date {a : Authority} {subject : Subject} {access refresh : Uuid × Instant}
    {pair : TokenPair} (paired : a.Paired subject access refresh pair) :
    pair.accessExpiry.seconds ≤ lastDateSecond := by
  obtain ⟨issued, -, date, -⟩ := paired.access
  rw [paired.expiry]
  exact date

variable {a} {hash : Digest.Hash} {secret : Bytes} (symmetric : a.codec.Symmetric hash secret)

include symmetric

/-- **An issued token** names its subject and its nonce, and counts until its expiry is past by more
than the skew. -/
theorem Wrote.read {subject : Subject} {nonce : Uuid} {expiry : Instant} {text : String}
    (wrote : a.Wrote subject nonce expiry text) :
    ∃ claims identity, Codec.written? text = some claims ∧
      claims.get? "exp" = some (.int expiry.seconds) ∧ Identity.ofClaims claims = .ok identity ∧
      identity.id = subject.id ∧ identity.username = subject.username ∧
      identity.uid = nonce.toText ∧ ∀ now : Instant, a.codec.skew ≤ now.seconds →
        a.parse now text = if expiry.seconds + a.codec.skew < now.seconds then .refused .expired
          else .ok claims := by
  obtain ⟨issued, order, dated, encoded⟩ := wrote
  obtain ⟨expiresAt, typed⟩ := ofClaims_tokenClaims subject nonce expiry issued
  have found := get?_exp_tokenClaims subject nonce expiry issued
  obtain ⟨written, decoded⟩ :=
    Codec.read_encoded symmetric (portable_tokenClaims dated order) found encoded
  exact ⟨_, _, written, found, typed, rfl, rfl, rfl, fun now clock => decoded _ clock⟩

/-- An issued token carries the subject's identifier and name, and its expiry. -/
theorem Wrote.names {subject : Subject} {nonce : Uuid} {expiry : Instant} {text : String}
    (wrote : a.Wrote subject nonce expiry text) :
    ∃ claims, Codec.written? text = some claims ∧ claims.subject? = some subject.id ∧
      claims.username? = some subject.username ∧
      claims.get? "exp" = some (.int expiry.seconds) := by
  obtain ⟨issued, order, dated, encoded⟩ := wrote
  have found := get?_exp_tokenClaims subject nonce expiry issued
  obtain ⟨written, -⟩ :=
    Codec.read_encoded symmetric (portable_tokenClaims dated order) found encoded
  exact ⟨_, written, subject?_tokenClaims .., username?_tokenClaims .., found⟩

/-! ## Issue -/

variable (directory : Directory) (deadline : Option Instant)

theorem run_mint_eq {now : Instant} (subject : Subject) {lifetime : Span}
    (mintable : Mintable now lifetime) (s : State) :
    ∃ text, a.Wrote subject s.nextNonce (now + lifetime.nanos) text ∧
      s.run directory deadline (a.mint now subject lifetime).run =
        (.finished (.ok ⟨text, s.nextNonce, now + lifetime.nanos⟩), s.takeNonce) := by
  have encoded := Codec.encode_eq symmetric.family symmetric.signing
    (tokenClaims subject s.nextNonce (now + lifetime.nanos) now)
  exact ⟨_, ⟨now, Nat.le_add_right _ _, mintable.2, encoded⟩,
    a.run_mint_of_encoded directory deadline subject s mintable encoded⟩

/-- **An issue** with one secret ends with a pair of tokens that carry the two nonces taken. -/
theorem run_issue_eq {s : State} (calm : s.faults = {}) {now : Instant}
    (access : Mintable now a.lifetimes.access) (refresh : Mintable now a.lifetimes.refresh)
    (takes : Store.Takes a.lifetimes.inactivity) (subject : Subject) :
    ∃ pair, a.Paired subject (s.nextNonce, now + a.lifetimes.access.nanos)
        (s.takeNonce.nextNonce, now + a.lifetimes.refresh.nanos) pair ∧
      s.run directory deadline (a.issue now subject).run =
        (.finished (.ok pair), a.issued s subject.id) := by
  obtain ⟨first, wrote, ran⟩ := run_mint_eq symmetric directory deadline subject access s
  obtain ⟨second, wrote', ran'⟩ :=
    run_mint_eq symmetric directory deadline subject refresh s.takeNonce
  exact ⟨_, ⟨rfl, wrote, wrote'⟩,
    a.run_issue_of_minted directory deadline calm takes ⟨ran, rfl⟩ ⟨ran', rfl⟩⟩

end Authority

end SessionAuthority

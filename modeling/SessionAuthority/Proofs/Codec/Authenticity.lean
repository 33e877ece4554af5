import SessionAuthority.Json.Canonical
import SessionAuthority.Proofs.Base64
import SessionAuthority.Proofs.Codec.Parts

/-!
# Nothing is read before it is authenticated

`decode_authentic`: whatever text a codec is given,

* claims come only out of a token whose header names the codec's own algorithm and whose signature
  stands over the very text in front of it, under the codec's key.  They are the object in the
  payload, and their expiry is not past by more than the skew.  The same holds of every token that
  is called expired;
* a payload that is not authenticated has no say in the answer;
* a header of another algorithm is answered before payload, signature and key are looked at.

Claims, and the word that they are expired, have passed every check (`decode_inversion`).  What the
signature check accepts is said without reference to decoding (`Authenticates`), and how it refuses
depends on the signature alone (`Parts.verify_of_not_authenticates`).  On a clock that has reached
the skew there is no third kind of answer (`decode_total`).
-/
set_option autoImplicit false

namespace SessionAuthority.Codec

/-! ## Signatures -/

/-- A signature stands over a message.  For a secret it is the one text that signing writes; for a
public key its octets verify. -/
def Authenticates (family : Algorithm.Family) (key : Bytes) (message signature : List Char) :
    Prop :=
  match family with
  | .secret hash => signature = segment (Digest.hmac hash key (octets message))
  | .modulus padding hash =>
      ∃ s, Base64.decode? Base64.url signature = some s ∧
        Key.Modulus.verify padding hash key (octets message) s = true
  | .curve curve =>
      ∃ s, Base64.decode? Base64.url signature = some s ∧
        Key.Curve.verify curve key (octets message) s = true

def signatureRefusal (family : Algorithm.Family) (signature : List Char) : AuthError :=
  match family with
  | .secret _ => .signatureInvalid
  | _ => if (Base64.decode? Base64.url signature).isSome then .signatureInvalid else .malformed

theorem Parts.verify_eq_ok_iff {p : Parts} {family : Algorithm.Family} {key : Bytes} :
    p.verify family key = .ok () ↔ Authenticates family key p.message p.signature := by
  cases family with
  | secret hash =>
      simp only [verify, Authenticates]
      split <;> simp [*]
  | modulus padding hash =>
      simp only [verify, Authenticates]
      cases Base64.decode? Base64.url p.signature with
      | none => simp
      | some s => simp only [Option.some.injEq]; split <;> simp [*]
  | curve curve =>
      simp only [verify, Authenticates]
      cases Base64.decode? Base64.url p.signature with
      | none => simp
      | some s => simp only [Option.some.injEq]; split <;> simp [*]

theorem Parts.verify_of_not_authenticates {p : Parts} {family : Algorithm.Family} {key : Bytes}
    (forged : ¬ Authenticates family key p.message p.signature) :
    p.verify family key = .error (signatureRefusal family p.signature) := by
  cases family with
  | secret hash => exact if_neg forged
  | modulus padding hash =>
      simp only [Authenticates] at forged
      simp only [verify, signatureRefusal]
      cases read : Base64.decode? Base64.url p.signature with
      | none => rfl
      | some s => exact if_neg fun valid => forged ⟨s, read, valid⟩
  | curve curve =>
      simp only [Authenticates] at forged
      simp only [verify, signatureRefusal]
      cases read : Base64.decode? Base64.url p.signature with
      | none => rfl
      | some s => exact if_neg fun valid => forged ⟨s, read, valid⟩

/-- A signature is refused as one or as no text of octets at all. -/
theorem signatureRefusal_eq (family : Algorithm.Family) (signature : List Char) :
    signatureRefusal family signature = .signatureInvalid ∨
      signatureRefusal family signature = .malformed := by
  cases family with
  | secret hash => exact .inl rfl
  | modulus padding hash =>
      simp only [signatureRefusal]
      split
      · exact .inl rfl
      · exact .inr rfl
  | curve curve =>
      simp only [signatureRefusal]
      split
      · exact .inl rfl
      · exact .inr rfl

theorem signatureRefusal_ne_expired (family : Algorithm.Family) (signature : List Char) :
    signatureRefusal family signature ≠ .expired := by
  rcases signatureRefusal_eq family signature with same | same
  · rw [same]; decide
  · rw [same]; decide

theorem signatureRefusal_credential (family : Algorithm.Family) (signature : List Char) :
    (signatureRefusal family signature).isCredentialFailure = true := by
  rcases signatureRefusal_eq family signature with same | same
  · rw [same]; rfl
  · rw [same]; rfl

/-! ## The checks in order -/

/-- The answers that are given only at the end: claims, or that they are expired. -/
def Passed : Outcome AuthError Claims → Prop
  | .ok _ => True
  | .refused e => e = .expired
  | .crashed _ => True

/-- Whoever gets to the claims has passed every check in front of them. -/
theorem decode_inversion {c : Codec} {key : Bytes} (verifying : c.verifying = some key)
    {now : Nat} {token : String} (passed : Passed (c.decode now token)) :
    ∃ p members, Parts.ofText? token = some p ∧ p.algorithm? = some c.algorithm ∧
      Authenticates c.family key p.message p.signature ∧ p.members? = some members ∧
      c.decode now token = accept c.skew now members := by
  cases cut : Parts.ofText? token with
  | none => simp [decode, verifying, cut, Passed] at passed
  | some p =>
      cases named : p.algorithm? with
      | none => simp [decode, verifying, cut, named, Passed] at passed
      | some algorithm =>
          by_cases own : algorithm = c.algorithm
          · subst own
            by_cases signed : Authenticates c.family key p.message p.signature
            · have verified := Parts.verify_eq_ok_iff.2 signed
              cases read : p.members? with
              | none => simp [decode, verifying, cut, named, verified, read, Passed] at passed
              | some members =>
                  exact ⟨p, members, rfl, named, signed, read,
                    decode_of_parts verifying cut named verified read⟩
            · have refused := Parts.verify_of_not_authenticates signed
              simp only [decode, verifying, cut, named, refused, Passed, ne_eq, not_true_eq_false,
                if_false] at passed
              exact absurd passed (signatureRefusal_ne_expired _ _)
          · simp [decode, verifying, cut, named, own, Passed] at passed

/-- The answer to a token of the codec's algorithm that nobody signed. -/
theorem decode_of_not_authenticates {c : Codec} {key : Bytes} (verifying : c.verifying = some key)
    (now : Nat) {token : String} {p : Parts} (cut : Parts.ofText? token = some p)
    (forged : ¬ Authenticates c.family key p.message p.signature) :
    c.decode now token = .refused
      (match p.algorithm? with
        | none => .malformed
        | some algorithm =>
            if algorithm = c.algorithm then signatureRefusal c.family p.signature
            else .signatureInvalid) := by
  have refused := Parts.verify_of_not_authenticates forged
  cases named : p.algorithm? with
  | none => simp only [decode, verifying, cut, named]
  | some algorithm =>
      by_cases own : algorithm = c.algorithm
      · simp only [decode, verifying, cut, named, refused, own, ne_eq, not_true_eq_false, if_false,
          if_true]
      · simp only [decode, verifying, cut, named, own, ne_eq, not_false_eq_true, if_false, if_true]

/-- The answer to a token of another algorithm. -/
theorem decode_of_other_algorithm {c : Codec} {key : Bytes} (verifying : c.verifying = some key)
    (now : Nat) {token : String} {p : Parts} (cut : Parts.ofText? token = some p)
    {algorithm : Algorithm} (named : p.algorithm? = some algorithm)
    (other : algorithm ≠ c.algorithm) : c.decode now token = .refused .signatureInvalid := by
  simp only [decode, verifying, cut, named, other, ne_eq, not_false_eq_true, if_true]

/-! ## Nothing but claims and refusals -/

theorem accept_total {skew now : Nat} (clock : skew ≤ now) (members : List (String × Json)) :
    (∃ claims, accept skew now members = .ok claims) ∨
      ∃ why, accept skew now members = .refused why ∧ why.isCredentialFailure = true := by
  have running : ¬ now < skew := Nat.not_lt.2 clock
  simp only [accept, running, if_false]
  split
  · repeat' split
    all_goals first | exact .inl ⟨_, rfl⟩ | exact .inr ⟨_, rfl, rfl⟩
  · exact .inr ⟨_, rfl, rfl⟩

/-- A codec that can verify, on a clock that has reached its skew, gives claims or blames the
token. -/
theorem decode_total {c : Codec} {key : Bytes} (verifying : c.verifying = some key) {now : Nat}
    (clock : c.skew ≤ now) (token : String) :
    (∃ claims, c.decode now token = .ok claims) ∨
      ∃ why, c.decode now token = .refused why ∧ why.isCredentialFailure = true := by
  cases cut : Parts.ofText? token with
  | none => exact .inr ⟨.malformed, by simp only [decode, verifying, cut], rfl⟩
  | some p =>
      by_cases signed : Authenticates c.family key p.message p.signature
      · have verified := Parts.verify_eq_ok_iff.2 signed
        cases named : p.algorithm? with
        | none => exact .inr ⟨.malformed, by simp only [decode, verifying, cut, named], rfl⟩
        | some algorithm =>
            by_cases own : algorithm = c.algorithm
            · subst own
              cases read : p.members? with
              | none =>
                  refine .inr ⟨.malformed, ?_, rfl⟩
                  simp only [decode, verifying, cut, named, verified, read, ne_eq,
                    not_true_eq_false, if_false]
              | some members =>
                  rw [decode_of_parts verifying cut named verified read]
                  exact accept_total clock members
            · exact .inr ⟨_, decode_of_other_algorithm verifying now cut named own, rfl⟩
      · refine .inr ⟨_, decode_of_not_authenticates verifying now cut signed, ?_⟩
        split
        · rfl
        · split
          · exact signatureRefusal_credential _ _
          · rfl

/-! ## Claims and their expiry -/

theorem accept_eq_ok {skew now : Nat} {members : List (String × Json)} {claims : Claims}
    (accepted : accept skew now members = .ok claims) :
    claims = .ofMembers members ∧ Registered.wellFormed members = true ∧
      ∀ e, Registered.expiry? members = some e → now ≤ e + skew := by
  simp only [accept] at accepted
  split at accepted
  · rename_i formed
    refine ⟨?_, formed, ?_⟩
    · repeat' split at accepted
      all_goals cases accepted
      all_goals rfl
    · intro e expiry
      simp only [expiry] at accepted
      split at accepted
      · cases accepted
      · split at accepted
        · cases accepted
        · omega
  · cases accepted

/-- A claim comes from a member of its name. -/
theorem mem_of_get?_ofMembers {members : List (String × Json)} {name : String} {v : Json}
    (found : (Claims.ofMembers members).get? name = some v) :
    ∃ w, (name, w) ∈ members ∧ w.canonical = v := by
  have kept := Json.mem_of_mem_sortMembers (Json.mem_of_lookup? found)
  rw [Json.canonicalMembers_eq_map, List.mem_map] at kept
  obtain ⟨⟨n, w⟩, member, same⟩ := kept
  cases same
  exact ⟨w, member, rfl⟩

theorem eq_int_of_canonical {v : Json} {i : Int} (same : v.canonical = .int i) : v = .int i := by
  cases v <;> cases same
  rfl

/-- Of the members with a registered name, each is alone and has a value that it may have. -/
theorem registered_unique {members : List (String × Json)}
    (formed : Registered.wellFormed members = true) {name : String}
    (registered : name ∈ ["exp", "nbf", "sub", "iss", "aud"]) {v : Json}
    (member : (name, v) ∈ members) :
    Registered.fits name v = true ∧ ∀ w, (name, w) ∈ members → w = v := by
  have named {u : Json} (member : (name, u) ∈ members) :
      (name, u) ∈ members.filter (·.1 == name) :=
    List.mem_filter.2 ⟨member, by simp⟩
  have once := List.all_eq_true.1 formed name registered
  split at once
  · rename_i none
    have absent := named member
    rw [none] at absent
    cases absent
  · rename_i n u one
    have alone {w : Json} (other : (name, w) ∈ members) : w = u := by
      have found := named other
      rw [one, List.mem_singleton] at found
      exact congrArg Prod.snd found
    obtain rfl := alone member
    exact ⟨once, fun w other => alone other⟩
  · cases once

/-- An integer expiry among the claims stands alone among the members. -/
theorem lookup?_of_get?_int {members : List (String × Json)}
    (formed : Registered.wellFormed members = true) {e : Int}
    (found : (Claims.ofMembers members).get? "exp" = some (.int e)) :
    Json.lookup? "exp" members = some (.int e) := by
  obtain ⟨w, member, same⟩ := mem_of_get?_ofMembers found
  obtain rfl := eq_int_of_canonical same
  cases first : Json.lookup? "exp" members with
  | none => exact absurd rfl (Json.lookup?_eq_none_iff.1 first _ member)
  | some v => rw [(registered_unique formed (by simp) member).2 v (Json.mem_of_lookup? first)]

/-- The expiry that the clock is held against is the one among the claims. -/
theorem expiry?_of_get? {members : List (String × Json)}
    (formed : Registered.wellFormed members = true) {e : Nat}
    (found : (Claims.ofMembers members).get? "exp" = some (.int e)) :
    Registered.expiry? members = some e := by
  rw [Registered.expiry?, lookup?_of_get?_int formed found]
  simp [Registered.seconds?]

/-! ## The whole decision -/

/-- A text is a token that was signed under the key and names the algorithm. -/
structure Authentic (c : Codec) (key : Bytes) (token : String) (p : Parts) : Prop where
  whole : token = String.ofList (p.header ++ '.' :: p.payload ++ '.' :: p.signature)
  headerPlain : '.' ∉ p.header
  payloadPlain : '.' ∉ p.payload
  signaturePlain : '.' ∉ p.signature
  named : ∃ header, p.header = segment header ∧ Header.parse? header = some c.algorithm
  signed : Authenticates c.family key (p.header ++ '.' :: p.payload) p.signature

def Parts.Carries (p : Parts) (claims : Claims) : Prop :=
  ∃ text members, p.payload = segment text ∧ Json.parse text = .ok (.object members) ∧
    claims.toJson = (Json.object members).canonical

theorem authentic_of_checks {c : Codec} {key : Bytes} {token : String} {p : Parts}
    (cut : Parts.ofText? token = some p) (named : p.algorithm? = some c.algorithm)
    (signed : Authenticates c.family key p.message p.signature) : Authentic c key token p := by
  obtain ⟨whole, payloadPlain, signaturePlain⟩ := Parts.ofText?_eq_some_iff.1 cut
  obtain ⟨header, read, parsed⟩ := Option.bind_eq_some_iff.1 named
  exact ⟨whole, Base64.point_not_mem_of_decode? read, payloadPlain, signaturePlain,
    ⟨header, (Base64.encode_of_decode? read).symm, parsed⟩, signed⟩

theorem carries_of_members? {p : Parts} {members : List (String × Json)}
    (read : p.members? = some members) : p.Carries (.ofMembers members) := by
  simp only [Parts.members?] at read
  split at read
  · cases read
  · rename_i text decoded
    split at read
    · rename_i object parsed
      cases read
      exact ⟨text, members, (Base64.encode_of_decode? decoded).symm, parsed, rfl⟩
    · cases read

/-- What the answers of a codec rest on, at a time in seconds. -/
structure RestsOnSignature (c : Codec) (key : Bytes) (now : Nat) : Prop where
  /-- Claims are those of an authentic token that has not expired. -/
  accepted : ∀ token claims, c.decode now token = .ok claims →
    ∃ p, Authentic c key token p ∧ p.Carries claims ∧
      ∀ e : Nat, claims.get? "exp" = some (.int e) → c.skew ≤ now → now ≤ e + c.skew
  /-- Only an authentic token is called expired. -/
  expired : ∀ token, c.decode now token = .refused .expired → ∃ p, Authentic c key token p
  /-- Payloads that are not authenticated cannot be told apart. -/
  blind : ∀ header signature payload other, '.' ∉ signature → '.' ∉ payload → '.' ∉ other →
    ¬ Authenticates c.family key (header ++ '.' :: payload) signature →
    ¬ Authenticates c.family key (header ++ '.' :: other) signature →
    ∃ e, c.decode now (String.ofList (header ++ '.' :: payload ++ '.' :: signature)) = .refused e ∧
      c.decode now (String.ofList (header ++ '.' :: other ++ '.' :: signature)) = .refused e
  /-- A header of another algorithm decides alone. -/
  pinned : ∀ header algorithm payload signature, '.' ∉ payload → '.' ∉ signature →
    Header.parse? header = some algorithm → algorithm ≠ c.algorithm →
    c.decode now (String.ofList (segment header ++ '.' :: payload ++ '.' :: signature)) =
      .refused .signatureInvalid

/-- **Every answer of a codec rests on the signature**, over the bytes that are then read. -/
theorem decode_authentic {c : Codec} {key : Bytes} (verifying : c.verifying = some key)
    (now : Nat) : c.RestsOnSignature key now := by
  refine ⟨?accepted, ?expired, ?blind, ?pinned⟩
  case accepted =>
    intro token claims answer
    have passed : Passed (c.decode now token) := by rw [answer]; trivial
    obtain ⟨p, members, cut, named, signed, read, rest⟩ := decode_inversion verifying passed
    obtain ⟨rfl, formed, fresh⟩ := accept_eq_ok (rest.symm.trans answer)
    refine ⟨p, authentic_of_checks cut named signed, carries_of_members? read, ?_⟩
    intro e found _
    exact fresh e (expiry?_of_get? formed found)
  case expired =>
    intro token answer
    have passed : Passed (c.decode now token) := by rw [answer]; rfl
    obtain ⟨p, members, cut, named, signed, -, -⟩ := decode_inversion verifying passed
    exact ⟨p, authentic_of_checks cut named signed⟩
  case blind =>
    intro header signature payload other signaturePlain payloadPlain otherPlain forged forged'
    have cut : Parts.ofText? _ = some ⟨header, payload, signature⟩ :=
      Parts.ofText?_eq_some_iff.2 ⟨rfl, payloadPlain, signaturePlain⟩
    have cut' : Parts.ofText? _ = some ⟨header, other, signature⟩ :=
      Parts.ofText?_eq_some_iff.2 ⟨rfl, otherPlain, signaturePlain⟩
    -- what is refused is read off the header and the signature, which the two tokens share
    have refused := decode_of_not_authenticates verifying now cut forged
    have refused' := decode_of_not_authenticates verifying now cut' forged'
    exact ⟨_, refused, refused'⟩
  case pinned =>
    intro header algorithm payload signature payloadPlain signaturePlain parsed other
    have cut : Parts.ofText? _ = some ⟨segment header, payload, signature⟩ :=
      Parts.ofText?_eq_some_iff.2 ⟨rfl, payloadPlain, signaturePlain⟩
    have named : (⟨segment header, payload, signature⟩ : Parts).algorithm? = some algorithm := by
      simp only [Parts.algorithm?, segment, Base64.decode?_encode, Option.bind_some, parsed]
    exact decode_of_other_algorithm verifying now cut named other

/-- A codec of one secret algorithm refuses what names the other, whatever it carries. -/
theorem decode_authentic_confused :
    (Codec.mk .hs256 (.secret .sha256) none (some [0x6B]) 60).verifying = some [0x6B] ∧
      (Codec.mk .hs256 (.secret .sha256) none (some [0x6B]) 60).decode 100
          (String.ofList (segment (Header.render .hs512) ++ '.' :: ['e', '3', '0'] ++ '.' :: [])) =
        .refused .signatureInvalid :=
  ⟨rfl, (decode_authentic rfl 100).pinned _ .hs512 _ _ (by decide) (by decide) (by decide +kernel)
    (by decide)⟩

end SessionAuthority.Codec

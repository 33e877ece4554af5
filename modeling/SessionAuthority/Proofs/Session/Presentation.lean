import SessionAuthority.Login.Body
import SessionAuthority.Proofs.Http.Credential
import SessionAuthority.Proofs.Json.Record
import SessionAuthority.Proofs.Session.Tokens

/-!
# How issued tokens are presented

An issued token is made of graphic ASCII characters (`Authority.Wrote.graphic`), so it comes through
unchanged where a client puts it: behind the word `Bearer` in the `Authorization` header
(`Credential.token?_bearer`), or as the one field of a refresh (`RefreshRequest.accept_token`).
-/
set_option autoImplicit false

namespace SessionAuthority

/-! ## Where a client puts a token -/

/-- **A bearer token is the token of its request.** -/
theorem Credential.token?_bearer {headers : Headers} {token : String} (filled : token ≠ "")
    (graphic : ∀ c ∈ token.toList, Graphic c)
    (carried : headers.first? "authorization" = some (Bytes.ofString ("Bearer " ++ token))) :
    token? headers = some token := by
  have some : token.toList ≠ [] := fun none => filled (String.toList_eq_nil_iff.1 none)
  have word : ("Bearer ".toList.all fun d => decide (d.toNat < 0x80)) = true := by decide
  have ascii : ∀ c ∈ "Bearer ".toList ++ token.toList, c.toNat < 0x80 := by
    intro c member
    rcases List.mem_append.1 member with within | letter
    · exact of_decide_eq_true (List.all_eq_true.1 word c within)
    · exact (graphic c letter).showable.ascii
  have text : Bytes.ofString ("Bearer " ++ token) =
      Bytes.ofAscii ("Bearer ".toList ++ token.toList) := by
    rw [← Bytes.ofString_ofList ascii, String.ofList_append, String.ofList_toList,
      String.ofList_toList]
  have brings : BearerOf token.toList (Bytes.ofString ("Bearer " ++ token)) := by
    refine ⟨[], "Bearer".toList, 0, [], ?_, padding_nil, padding_nil, by decide⟩
    rw [text, List.append_nil]
    rfl
  have read := fromAuthorization?_of_bearerOf some graphic brings
  rw [token?_of_read (by rw [carried, Option.bind_some, read]), String.ofList_toList]

/-- **The token in a refresh is the one that was written there.** -/
theorem RefreshRequest.accept_token {headers : Headers} (json : headers.saysJson = true)
    {token : String} (filled : token ≠ "")
    (short : (Json.render (.object [("token", .str token)])).length ≤ bodyLimit) :
    kind.accept headers (Json.render (.object [("token", .str token)])) = .ok ⟨token⟩ := by
  have parsed : kind.shape.parse (Json.render (.object [("token", .str token)])) = .ok [token] :=
    @Json.Shape.parse_render kind.shape [("token", token)] rfl (by decide)
  have length : ¬ token.length < 1 := fun none =>
    filled (String.length_eq_zero_iff.1 (Nat.lt_one_iff.1 none))
  have short : ¬ bodyLimit < (Json.render (.object [("token", .str token)])).length :=
    Nat.not_lt.2 short
  have found : kind.read headers (Json.render (.object [("token", .str token)])) = .ok ⟨token⟩ := by
    rw [BodyKind.read, json, if_neg (by decide), if_neg short, parsed]
    rfl
  have passed : kind.violations ⟨token⟩ = [] := if_neg length
  simp only [BodyKind.accept, found, passed]

/-- A request carries a token: as a bearer token, or wherever else it is found. -/
def Request.Carries (req : Request) (token : String) : Prop :=
  req.headers.first? "authorization" = some (Bytes.ofString ("Bearer " ++ token)) ∨
    Credential.token? req.headers = some token

/-- A request submits a token: as the field of an object, or however else it is read. -/
def Request.Submits (req : Request) (token : String) : Prop :=
  (req.headers.saysJson = true ∧ req.body = Json.render (.object [("token", .str token)]) ∧
      req.body.length ≤ bodyLimit) ∨
    RefreshRequest.kind.accept req.headers req.body = .ok ⟨token⟩

/-! ## Issued tokens -/

namespace Authority.Wrote

variable {a : Authority} {hash : Digest.Hash} {secret : Bytes}
  (symmetric : a.codec.Symmetric hash secret) {subject : Subject} {nonce : Uuid} {expiry : Instant}
  {text : String} (wrote : a.Wrote subject nonce expiry text) {req : Request}

include symmetric wrote

/-- **An issued token** is made of graphic characters. -/
theorem graphic :
    text ≠ "" ∧ ∀ c ∈ text.toList, Graphic c := by
  obtain ⟨issued, -, -, encoded⟩ := wrote
  rw [Codec.encode_eq symmetric.family symmetric.signing] at encoded
  obtain rfl := Except.ok.inj encoded
  have symbols {b : Bytes} {c : Char} (member : c ∈ Codec.segment b) : Graphic c := by
    obtain ⟨n, small, rfl⟩ := Base64.mem_encode member
    exact (by decide : ∀ n < 64, Graphic (Base64.url.symbol n)) n small
  refine ⟨fun empty => ?_, fun c member => ?_⟩
  · have pointless := congrArg String.toList empty
    rw [Codec.Parts.text, String.toList_ofList] at pointless
    exact absurd (List.append_eq_nil_iff.1 pointless).2 (List.cons_ne_nil _ _)
  · rw [Codec.Parts.text, String.toList_ofList] at member
    simp only [Codec.Parts.message, Codec.Parts.signed, List.mem_append, List.mem_cons] at member
    rcases member with (header | rfl | payload) | rfl | signature
    · exact symbols header
    · decide
    · exact symbols payload
    · decide
    · exact symbols signature

theorem token?_of_carries (carries : req.Carries text) :
    Credential.token? req.headers = some text := by
  obtain ⟨filled, graphic⟩ := wrote.graphic symmetric
  exact carries.elim (Credential.token?_bearer filled graphic) id

theorem accept_of_submits (submits : req.Submits text) :
    RefreshRequest.kind.accept req.headers req.body = .ok ⟨text⟩ := by
  obtain ⟨filled, -⟩ := wrote.graphic symmetric
  rcases submits with ⟨json, written, short⟩ | accepted
  · rw [written] at short ⊢
    exact RefreshRequest.accept_token json filled short
  · exact accepted

end Authority.Wrote

end SessionAuthority

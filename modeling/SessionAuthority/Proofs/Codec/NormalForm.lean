import SessionAuthority.Proofs.Codec.Skew
import SessionAuthority.Proofs.Json.Extent
import SessionAuthority.Proofs.Session.Tokens

/-!
# Claims that are signed again

Whoever made a token, the claims that are read from it are in normal form, and they are claims that
the codec can sign and read itself: `decode_normal`.  A payload may have its names in any order,
repeat those that are not registered, and be written with any white space and any escapes.  Nothing
of that is left in the claims, so a second reading has nothing to change.

There are three ways for claims to be lost between the two readings.  They could be refused, for a
registered name or for their expiry; but both are checked on values that sorting does not change
(`accept_again`).  They could be too large to be read, but what was read once is within the limits
of the reader (`Json.parse_within`).  Or a double could be written as another one, which is why
numbers are to be integers.
-/
set_option autoImplicit false

namespace SessionAuthority.Codec

/-! ## The checks see what was read -/

theorem isContainer_canonical (v : Json) :
    Registered.isContainer v.canonical = Registered.isContainer v := by
  cases v <;> rfl

theorem not_filled_canonical {v : Json} (empty : Registered.isFilled v = false) :
    Registered.isFilled v.canonical = false := by
  cases v with
  | array items =>
      cases items with
      | nil => rfl
      | cons first rest => cases empty
  | object members =>
      cases members with
      | nil => simp [Json.canonical, Json.canonicalMembers, Json.sortMembers, Json.keepLast,
          Registered.isFilled]
      | cons first rest => cases empty
  | _ => rfl

/-- A value that may stand under a registered name may do so in normal form. -/
theorem fits_canonical {name : String} {v : Json} (fits : Registered.fits name v = true) :
    Registered.fits name v.canonical = true := by
  unfold Registered.fits at fits ⊢
  split
  · rename_i dated
    rw [if_pos dated, Bool.not_eq_true'] at fits
    rw [Bool.not_eq_true', not_filled_canonical fits]
  · rename_i undated
    rw [if_neg undated] at fits
    rw [isContainer_canonical]
    exact fits

theorem wellFormed_ofMembers {members : List (String × Json)}
    (formed : Registered.wellFormed members = true) :
    Registered.wellFormed (Claims.ofMembers members).members = true := by
  refine List.all_eq_true.2 fun name registered => ?_
  rw [Json.filter_name_of_ascending (Claims.ascending _)]
  cases found : Json.lookup? name (Claims.ofMembers members).members with
  | none => rfl
  | some v =>
      obtain ⟨w, member, rfl⟩ := mem_of_get?_ofMembers found
      exact fits_canonical (registered_unique formed registered member).1

/-- Members that are accepted are accepted in normal form, as the same claims. -/
theorem accept_again {skew now : Nat} {members : List (String × Json)} {claims : Claims}
    (accepted : accept skew now members = .ok claims) :
    accept skew now claims.members = .ok claims := by
  obtain ⟨rfl, formed, -⟩ := accept_eq_ok accepted
  have same : Registered.expiry? (Claims.ofMembers members).members =
      Registered.expiry? members := heldExpiry?_ofMembers formed
  unfold accept at accepted ⊢
  rw [if_pos formed] at accepted
  rw [if_pos (wellFormed_ofMembers formed), same, Claims.ofMembers_members]
  exact accepted

/-! ## Claims that were read -/

/-- Claims keep to the limits of the text that they were read from. -/
theorem within_of_members? {p : Parts} {members : List (String × Json)}
    (read : p.members? = some members) :
    (Claims.ofMembers members).toJson.Within Json.nesting := by
  obtain ⟨text, written, -, parsed, same⟩ := carries_of_members? read
  rw [same]
  exact (Json.parse_within parsed).canonical

/-- **Claims that were read are in normal form and stay so.**  Their text names, at every depth and
in the order of writing, ascending members, and a codec that signs them once more takes them back
unchanged at the same instant. -/
theorem decode_normal {algorithm : Algorithm} (keyed : algorithm ∈ secretAlgorithms)
    {secret : Bytes} {skew : Span} {c : Codec} (built : ofSecret algorithm secret skew = .ok c)
    {now : Nat} {token : String} {claims : Claims} (answer : c.decode now token = .ok claims)
    (whole : claims.toJson.Whole) :
    (Json.parse (Json.render claims.toJson) = .ok claims.toJson ∧ claims.toJson.Canonical) ∧
      ∃ again, c.encode claims = .ok again ∧ c.decode now again = .ok claims := by
  obtain ⟨hash, symmetric⟩ := symmetric_of_ofSecret keyed built
  have passed : Passed (c.decode now token) := by
    rw [answer]
    trivial
  obtain ⟨p, members, -, -, -, read, rest⟩ := decode_inversion symmetric.verifying passed
  have accepted : accept c.skew now members = .ok claims := rest.symm.trans answer
  obtain ⟨rfl, -, -⟩ := accept_eq_ok accepted
  have within := within_of_members? read
  have integral := within.isIntegral whole
  have shallow := within.depth_le
  refine ⟨⟨Json.parse_render integral shallow, Claims.canonical _⟩, _,
    encode_eq symmetric.family symmetric.signing _, ?_⟩
  rw [decode_signed_eq_accept symmetric.family symmetric.verifying integral shallow]
  exact accept_again accepted

/-! ## A token of another producer -/

/-- A payload with white space, escapes, and names out of order and repeated. -/
def foreignPayload : Bytes :=
  Bytes.ofString "\x7b \"z\": [\x7b\"b\":1, \"a\":\"\\u00e9\\/\", \"b\":-2\x7d],\"exp\" :95 \x7d"

def foreignMembers : List (String × Json) :=
  [("z", .array [.object [("b", .int 1), ("a", .str "é/"), ("b", .int (-2))]]), ("exp", .int 95)]

def foreign (secret : Bytes) : Parts :=
  Parts.signed .sha256 secret (segment (Bytes.ofString "\x7b \"alg\": \"HS256\" \x7d"))
    (segment foreignPayload)

theorem toJson_foreignMembers : (Claims.ofMembers foreignMembers).toJson =
    .object [("exp", .int 95), ("z", .array [.object [("a", .str "é/"), ("b", .int (-2))]])] := by
  have names : Json.nameLe "b" "a" = false ∧ Json.nameLe "a" "b" = true ∧
      Json.nameLe "b" "b" = true ∧ Json.nameLe "z" "exp" = false := by decide +kernel
  show (Json.object foreignMembers).canonical = _
  simp [foreignMembers, Json.canonical, Json.canonicalMembers, Json.canonicalItems,
    Json.sortMembers, Json.keepLast, List.mergeSort, names]

theorem decode_foreign : (ofKey [0x6B] 5).decode 100 (foreign [0x6B]).text =
    .ok (.ofMembers foreignMembers) := by
  have whole : Parts.ofText? (foreign [0x6B]).text = some (foreign [0x6B]) :=
    ofText?_signed .sha256 [0x6B] _ _
  have named : (foreign [0x6B]).algorithm? = some .hs256 := by decide +kernel
  have verified := Parts.verify_signed .sha256 [0x6B] (foreign [0x6B]).header
    (foreign [0x6B]).payload
  have read : (foreign [0x6B]).members? = some foreignMembers := by
    have parsed : Json.parse foreignPayload = .ok (.object foreignMembers) := rfl
    simp only [Parts.members?, foreign, Parts.signed, segment, Base64.decode?_encode, parsed]
  have found : (Claims.ofMembers foreignMembers).get? "exp" = some (.int 95) := by
    have members := Json.object.inj toJson_foreignMembers
    rw [Claims.get?, members]
    rfl
  rw [decode_of_parts (c := ofKey [0x6B] 5) rfl whole named verified read,
    accept_of_int (by decide) rfl found]
  rfl

/-- What the token of another producer says is signed again without loss, in the last second that
the skew admits. -/
theorem decode_normal_foreign :
    let c := ofKey [0x6B] 5
    ∃ claims, c.decode 100 (foreign [0x6B]).text = .ok claims ∧
      claims.toJson = .object
        [("exp", .int 95), ("z", .array [.object [("a", .str "é/"), ("b", .int (-2))]])] ∧
      claims.toJson.Whole ∧
      ∃ again, c.encode claims = .ok again ∧ c.decode 100 again = .ok claims := by
  intro c
  have inner : (Json.object [("a", .str "é/"), ("b", .int (-2))]).Whole :=
    .object (by simp [Json.Whole.str, Json.Whole.int])
  have items : (Json.array [.object [("a", .str "é/"), ("b", .int (-2))]]).Whole :=
    .array (by simp [inner])
  have whole : (Claims.ofMembers foreignMembers).toJson.Whole := by
    rw [toJson_foreignMembers]
    exact .object (by simp [Json.Whole.int, items])
  have built : ofSecret .hs256 [0x6B] (.ofSeconds 5) = .ok c := new_ofKey (by decide) 5
  have normal := decode_normal (by decide) built decode_foreign whole
  exact ⟨_, decode_foreign, toJson_foreignMembers, whole, normal.2⟩

end SessionAuthority.Codec

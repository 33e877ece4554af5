import SessionAuthority.Claims
import SessionAuthority.Proofs.Uuid

/-!
# Claims in normal form

Claims are what their own members make (`ofMembers_members`), and an identity without an expiry is
read back from claims that hold nothing else (`ofClaims_ofIdentity`).
-/
set_option autoImplicit false

namespace SessionAuthority.Claims

theorem ascending (c : Claims) : Json.Ascending c.members := by
  obtain ⟨members, canonical⟩ := c
  cases canonical with
  | object all ascending => exact ascending

/-- Claims are what their own members make. -/
theorem ofMembers_members (c : Claims) : Claims.ofMembers c.members = c := by
  obtain ⟨members, canonical⟩ := c
  have same := Json.canonical_eq_self canonical
  simp only [Json.canonical, Json.object.injEq] at same
  simp only [ofMembers, same]

/-! ## The claims of an identity -/

theorem ascending_identity (id uid username : Json) :
    Json.Ascending [("id", id), ("uid", uid), ("username", username)] := by
  have first : Json.nameLt "id" "uid" ∧ Json.nameLt "id" "username" := by decide +kernel
  have second : Json.nameLt "uid" "username" := by decide +kernel
  simp [Json.Ascending, first, second]

/-- The claims that name an identity and nothing else. -/
def ofIdentity (i : Identity) : Claims where
  members := [("id", .str i.id.toText), ("uid", .str i.uid), ("username", .str i.username)]
  canonical := .object (by simp [Json.Canonical.str]) (ascending_identity _ _ _)

theorem subject?_ofIdentity (i : Identity) : (ofIdentity i).subject? = some i.id := by
  simp [subject?, str?, get?, ofIdentity, Json.lookup?, Json.str?, Uuid.parse?_toText]

theorem uid?_ofIdentity (i : Identity) : (ofIdentity i).uid? = some i.uid := by
  simp [uid?, str?, get?, ofIdentity, Json.lookup?, Json.str?]

theorem username?_ofIdentity (i : Identity) : (ofIdentity i).username? = some i.username := by
  simp [username?, str?, get?, ofIdentity, Json.lookup?, Json.str?]

/-- An identity that does not expire is read back. -/
theorem ofClaims_ofIdentity {i : Identity} (lasting : i.expiresAt = none) :
    Identity.ofClaims (ofIdentity i) = .ok i := by
  have unset : (ofIdentity i).expiry? = none := by
    simp [expiry?, get?, ofIdentity, Json.lookup?]
  obtain ⟨id, username, uid, expiresAt⟩ := i
  obtain rfl : expiresAt = none := lasting
  simp only [Identity.ofClaims, subject?_ofIdentity, uid?_ofIdentity, username?_ofIdentity, unset,
    Option.bind_none]

end SessionAuthority.Claims

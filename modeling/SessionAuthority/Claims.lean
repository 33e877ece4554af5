import SessionAuthority.Failure
import SessionAuthority.Json.Canonical
import SessionAuthority.Json.Render
import SessionAuthority.Span
import SessionAuthority.Uuid

/-!
# Claims

A claim set is a list of named JSON values in normal form: at every depth no name stands twice and
names ascend.  It can be had only so, and equal claims are equal lists.  The authority itself reads
`id` (the subject), `username`, `uid` (the nonce of the issue) and `exp`; all others pass through.
`Identity.ofClaims` is the typed view of a verified token.
-/
set_option autoImplicit false

namespace SessionAuthority

/-- Named values, by ascending name at every depth. -/
structure Claims where
  members : List (String × Json)
  canonical : Json.Canonical (.object members)
  deriving Repr

instance : BEq Claims := ⟨fun a b => a.members == b.members⟩

instance : Inhabited Claims := ⟨⟨[], .object (fun _ member => nomatch member) .nil⟩⟩

namespace Claims

/-- The claims of these members: sorted at every depth, the last of a repeated name. -/
def ofMembers (members : List (String × Json)) : Claims :=
  ⟨_, Json.canonical_canonical (.object members)⟩

def toJson (c : Claims) : Json := .object c.members

def text (c : Claims) : String := c.toJson.renderText

def get? (c : Claims) (name : String) : Option Json := Json.lookup? name c.members

def str? (c : Claims) (name : String) : Option String := (c.get? name).bind Json.str?

/-- The claims with one more, in place of one of the same name. -/
def insert (c : Claims) (name : String) (value : Json) : Claims :=
  ⟨_, Json.canonical_canonical (.object (c.members ++ [(name, value)]))⟩

def subject? (c : Claims) : Option Uuid := (c.str? "id").bind Uuid.parse?

def username? (c : Claims) : Option String := c.str? "username"

/-- The nonce of the issue. -/
def uid? (c : Claims) : Option String := c.str? "uid"

/-- The expiry in seconds, when it is an integer of 64 bits with sign. -/
def expiry? (c : Claims) : Option Int :=
  match c.get? "exp" with
  | some (.int i) => if -0x8000000000000000 ≤ i ∧ i < 0x8000000000000000 then some i else none
  | _ => none

end Claims

/-- Who a verified token speaks for. -/
structure Identity where
  id : Uuid
  username : String
  uid : String
  expiresAt : Option Int
  deriving DecidableEq, Repr

/-- Seconds that are those of a date. -/
def dateSecond? (s : Int) : Option Int :=
  if firstDateSecond ≤ s ∧ s ≤ lastDateSecond then some s else none

/-- The identity in a claim set: `id`, `username` and `uid` must all be there. -/
def Identity.ofClaims (c : Claims) : Except AuthError Identity :=
  match c.subject?, c.username?, c.uid? with
  | some id, some username, some uid =>
      .ok ⟨id, username, uid, c.expiry?.bind dateSecond?⟩
  | _, _, _ => .error .malformed

end SessionAuthority

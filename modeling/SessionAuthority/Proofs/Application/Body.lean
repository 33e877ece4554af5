import SessionAuthority.Application.Answer
import SessionAuthority.Proofs.Claims
import SessionAuthority.Proofs.Json.RoundTrip

/-!
# What bodies tell

A client takes the body of a response for the text of an object and looks for members of it by name
(`Response.Tells`).  What it finds is said here without reference to how the body was written: the
answer to the owner of a session tells who that is (`Response.introduces`), and the answer to a
login or a renewal hands out a token pair (`Response.handsOut`).

Such a body is an object without containers in it, and its only number is the second of a date, for
which 64 bits are enough (`Identity.expiresAt_date`).  So it is read back as it was written
(`Json.parse_of_plain`).
-/
set_option autoImplicit false

namespace SessionAuthority

namespace Response

/-- The body is the text of an object in which this name stands once, with this value. -/
def Tells (r : Response) (name : String) (value : Json) : Prop :=
  ∃ members, Json.parse r.body = .ok (.object members) ∧
    members.filter (fun m => m.1 = name) = [(name, value)]

/-- The body tells an identifier and the name that goes with it. -/
structure Introduces (r : Response) (id : Uuid) (username : String) : Prop where
  id : r.Tells "id" (.str id.toText)
  username : r.Tells "username" (.str username)

/-- The body tells both tokens of a pair, and the second in which the access token expires. -/
structure HandsOut (r : Response) (pair : TokenPair) : Prop where
  access : r.Tells "accessToken" (.str pair.access)
  refresh : r.Tells "refreshToken" (.str pair.refresh)
  expiry : r.Tells "exp" (.int pair.accessExpiry.seconds)

end Response

/-! ## Objects without containers in them -/

namespace Json

/-- Neither a container nor a number that is not an integer of 64 bits. -/
def Plain (v : Json) : Prop := v.isIntegral = true ∧ v.depth = 0

theorem plain_str (s : String) : (Json.str s).Plain := ⟨rfl, rfl⟩

/-- The seconds of a date are a number of 64 bits. -/
theorem plain_second {second : Int}
    (date : firstDateSecond ≤ second ∧ second ≤ lastDateSecond) : (Json.int second).Plain := by
  obtain ⟨first, last⟩ := date
  unfold firstDateSecond at first
  unfold lastDateSecond at last
  refine ⟨?_, rfl⟩
  simp only [isIntegral, decide_eq_true_eq]
  omega

/-- Plain members are read back as they were written. -/
theorem parse_of_plain {members : List (String × Json)} (plain : ∀ m ∈ members, m.2.Plain) :
    parse (render (.object members)) = .ok (.object members) := by
  have kept : membersIntegral members = true ∧ membersDepth members = 0 := by
    induction members with
    | nil => exact ⟨rfl, rfl⟩
    | cons m later ih =>
        obtain ⟨integral, shallow⟩ := plain m List.mem_cons_self
        obtain ⟨others, flat⟩ := ih fun other among => plain other (List.mem_cons_of_mem m among)
        simp [membersIntegral, membersDepth, integral, shallow, others, flat]
  refine parse_render kept.1 ?_
  rw [depth, kept.2]
  decide

end Json

/-! ## The bodies of the service -/

theorem mem_member {α : Type} {name : String} {f : α → Json} {value : Option α}
    {m : String × Json} : m ∈ member name f value ↔ ∃ a, value = some a ∧ m = (name, f a) := by
  cases value <;> simp [member]

/-- A member of another name is not what is looked for. -/
theorem filter_member {α : Type} {name sought : String} (other : name ≠ sought) (f : α → Json)
    (value : Option α) : (member name f value).filter (fun m => m.1 = sought) = [] := by
  cases value <;> simp [member, other]

/-- An identity expires in a second of a date, if at all. -/
theorem Identity.expiresAt_date {claims : Claims} {identity : Identity}
    (read : Identity.ofClaims claims = .ok identity) {second : Int}
    (due : identity.expiresAt = some second) :
    firstDateSecond ≤ second ∧ second ≤ lastDateSecond := by
  rw [ofClaims] at read
  split at read
  · cases read
    obtain ⟨exp, -, dated⟩ := Option.bind_eq_some_iff.1 due
    rw [dateSecond?] at dated
    split at dated
    · rename_i within
      cases dated
      exact within
    · cases dated
  · cases read

namespace Response

variable {r : Response}

theorem tells_of_plain {members : List (String × Json)}
    (written : r.body = Json.render (.object members)) (plain : ∀ m ∈ members, m.2.Plain)
    {name : String} {value : Json}
    (once : members.filter (fun m => m.1 = name) = [(name, value)]) : r.Tells name value :=
  ⟨members, written ▸ Json.parse_of_plain plain, once⟩

/-- **A profile introduces the identity** that it is of, whatever else it tells. -/
theorem introduces {claims : Claims} {identity : Identity}
    (read : Identity.ofClaims claims = .ok identity) {name : Option String}
    (written : r.body = Json.render (Profile.toJson ⟨identity, name⟩)) :
    r.Introduces identity.id identity.username := by
  have plain : ∀ m ∈ [("id", Json.str identity.id.toText),
      ("username", .str identity.username)] ++ member "name" .str name ++
        member "expires_at" .int identity.expiresAt, m.2.Plain := by
    intro m among
    simp only [List.mem_append, List.mem_cons, List.not_mem_nil, or_false, mem_member] at among
    rcases among with ((rfl | rfl) | ⟨text, -, rfl⟩) | ⟨second, due, rfl⟩
    · exact Json.plain_str _
    · exact Json.plain_str _
    · exact Json.plain_str _
    · exact Json.plain_second (Identity.expiresAt_date read due)
  constructor <;> refine tells_of_plain written plain ?_
  · simp [filter_member]
  · simp [filter_member]

/-- **A pair is handed out** whole. -/
theorem handsOut {pair : TokenPair} (date : pair.accessExpiry.seconds ≤ lastDateSecond)
    (written : r.body = Json.render pair.toJson) : r.HandsOut pair := by
  have plain : ∀ m ∈ [("accessToken", Json.str pair.access), ("refreshToken", .str pair.refresh),
      ("exp", .int pair.accessExpiry.seconds)], m.2.Plain := by
    intro m among
    simp only [List.mem_cons, List.not_mem_nil, or_false] at among
    rcases among with rfl | rfl | rfl
    · exact Json.plain_str _
    · exact Json.plain_str _
    · exact Json.plain_second ⟨by unfold firstDateSecond; omega, by exact_mod_cast date⟩
  constructor <;> exact tells_of_plain written plain (by simp)

end Response

end SessionAuthority

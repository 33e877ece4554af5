import SessionAuthority.Hex
import SessionAuthority.Http.Message

/-!
# Where a request carries its token

In the `Authorization` header, behind the word `bearer`, or else in the cookie `jwt`.  Cookies are
percent-decoded; one that is not UTF-8 afterwards, or has no name, is passed over.
-/
set_option autoImplicit false

namespace SessionAuthority.Credential

def fromAuthorization? (value : Bytes) : Option (List Char) := do
  let cs ← visible? value
  let (scheme, token) ← Text.cutFirst? ' ' (Text.trimChars cs)
  guard (Text.lowerAscii scheme = "bearer".toList)
  let token := Text.trimChars token
  guard (!token.isEmpty)
  pure token

/-- The octets of a text in which `%` and two digits stand for one. -/
def percentDecode : List Char → Bytes
  | '%' :: a :: b :: rest =>
      match Hex.value? a, Hex.value? b with
      | some x, some y => (x * 16 + y).toUInt8 :: percentDecode rest
      | _, _ => 0x25 :: percentDecode (a :: b :: rest)
  | c :: rest => c.toNat.toUInt8 :: percentDecode rest
  | [] => []

/-- One cookie: name and value around the first equals sign. -/
def cookie? (cs : List Char) : Option (String × String) := do
  let (name, value) ← Text.cutFirst? '=' cs
  let name := Text.trimChars name
  guard (!name.isEmpty)
  let name ← (percentDecode name).toString?
  let value ← (percentDecode (Text.trimChars value)).toString?
  pure (name, value)

def cookies (values : List Bytes) : List (String × String) :=
  (values.filterMap visible?).flatMap fun cs => (Text.splitChars ';' cs).filterMap cookie?

/-- The value of the last cookie of a name. -/
def cookieValue? (name : String) (all : List (String × String)) : Option String :=
  all.reverse.lookup name

/-- The token that a request carries; never an empty one. -/
def token? (h : Headers) : Option String :=
  match (h.first? "authorization").bind fromAuthorization? with
  | some token => some (String.ofList token)
  | none => (cookieValue? "jwt" (cookies (h.all "cookie"))).filter (· != "")

end SessionAuthority.Credential

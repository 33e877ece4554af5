import SessionAuthority.Failure
import SessionAuthority.Json.Render
import SessionAuthority.Text.Blank

/-!
# Requests and responses

Header names are kept in lower case, header values as octets.  `ApiError` is a failure with a status
and a message for the client; every failure of authentication becomes one, and only credential
failures say what they are.
-/
set_option autoImplicit false

namespace SessionAuthority

/-- Header fields in order of appearance. -/
abbrev Headers := List (String × Bytes)

namespace Headers

/-- Fields from pairs as given, their names put in lower case. -/
def ofPairs (pairs : List (String × Bytes)) : Headers :=
  pairs.map fun p => (String.ofList (Text.lowerAscii p.1.toList), p.2)

def all (h : Headers) (name : String) : List Bytes := (h.filter (·.1 == name)).map (·.2)

def first? (h : Headers) (name : String) : Option Bytes := List.lookup name h

end Headers

/-- Whether an octet of a header value is a visible ASCII character, a blank or a tab. -/
def isVisible (b : UInt8) : Bool := b == 0x09 || (0x20 ≤ b && b < 0x7F)

/-- The characters of a header value, if all of them are visible ASCII. -/
def visible? (value : Bytes) : Option (List Char) :=
  if value.all isVisible then some (value.map fun b => Char.ofNat b.toNat) else none

structure Request where
  method : String
  target : String
  headers : Headers
  body : Bytes
  deriving DecidableEq, Repr

/-- The path of a request, without its query. -/
def Request.path (r : Request) : String :=
  String.ofList (r.target.toList.takeWhile fun c => c != '?' && c != '#')

/-- A response.  No body at all is different from an empty one with a stated length. -/
structure Response where
  status : Nat
  headers : Headers
  body : Bytes
  deriving DecidableEq, Repr

namespace Response

def value (s : String) : Bytes := Bytes.ofString s

def json (status : Nat) (body : Json) : Response :=
  ⟨status, [("content-type", value "application/json")], Json.render body⟩

def bare (status : Nat) : Response := ⟨status, [], []⟩

def withHeader (r : Response) (name : String) (v : Bytes) : Response :=
  { r with headers := r.headers ++ [(name, v)] }

/-- The response with the length of its body stated. -/
def measured (r : Response) : Response :=
  r.withHeader "content-length" (value (toString r.body.length))

/-- The response with its header fields by name, equal names in order. -/
def sorted (r : Response) : Response :=
  { r with headers := r.headers.mergeSort fun a b => Json.nameLe a.1 b.1 }

end Response

def reason? (status : Nat) : Option String :=
  List.lookup status [
    (100, "Continue"), (101, "Switching Protocols"), (102, "Processing"), (103, "Early Hints"),
    (200, "OK"), (201, "Created"), (202, "Accepted"), (203, "Non Authoritative Information"),
    (204, "No Content"), (205, "Reset Content"), (206, "Partial Content"), (207, "Multi-Status"),
    (208, "Already Reported"), (226, "IM Used"), (300, "Multiple Choices"),
    (301, "Moved Permanently"), (302, "Found"), (303, "See Other"), (304, "Not Modified"),
    (305, "Use Proxy"), (307, "Temporary Redirect"), (308, "Permanent Redirect"),
    (400, "Bad Request"), (401, "Unauthorized"), (402, "Payment Required"), (403, "Forbidden"),
    (404, "Not Found"), (405, "Method Not Allowed"), (406, "Not Acceptable"),
    (407, "Proxy Authentication Required"), (408, "Request Timeout"), (409, "Conflict"),
    (410, "Gone"), (411, "Length Required"), (412, "Precondition Failed"),
    (413, "Payload Too Large"), (414, "URI Too Long"), (415, "Unsupported Media Type"),
    (416, "Range Not Satisfiable"), (417, "Expectation Failed"), (418, "I'm a teapot"),
    (421, "Misdirected Request"), (422, "Unprocessable Entity"), (423, "Locked"),
    (424, "Failed Dependency"), (425, "Too Early"), (426, "Upgrade Required"),
    (428, "Precondition Required"), (429, "Too Many Requests"),
    (431, "Request Header Fields Too Large"), (451, "Unavailable For Legal Reasons"),
    (500, "Internal Server Error"), (501, "Not Implemented"), (502, "Bad Gateway"),
    (503, "Service Unavailable"), (504, "Gateway Timeout"), (505, "HTTP Version Not Supported"),
    (506, "Variant Also Negotiates"), (507, "Insufficient Storage"), (508, "Loop Detected"),
    (510, "Not Extended"), (511, "Network Authentication Required")]

/-- A failure as a client sees it. -/
structure ApiError where
  status : Nat
  message : String
  deriving DecidableEq, Repr

namespace ApiError

/-- A failure of the service; whatever it was, the client learns nothing of it. -/
def internal : ApiError := ⟨500, "internal error"⟩

def unauthorized (message : String) : ApiError := ⟨401, message⟩

def badRequest (message : String) : ApiError := ⟨400, message⟩

def unprocessable (message : String) : ApiError := ⟨422, message⟩

/-- The failure of an authentication as a client sees it. -/
def ofAuth (e : AuthError) : ApiError :=
  if e.isCredentialFailure then unauthorized e.publicMessage else internal

/-- Status, its usual words, and the message. -/
def text (e : ApiError) : String :=
  toString e.status ++ " " ++ (reason? e.status).getD "<unknown status code>" ++ ": " ++ e.message

def response (e : ApiError) : Response := .json e.status (.object [("error", .str e.message)])

end ApiError

end SessionAuthority

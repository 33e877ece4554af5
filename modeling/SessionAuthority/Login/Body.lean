import SessionAuthority.Http.MediaType
import SessionAuthority.Json.Record
import SessionAuthority.Login.Email

/-!
# Request bodies

A body is read as a record and then held to the rules of its fields.  A body that cannot be read is
answered with one of a few messages.  They are taken from the text of the fault, so a text of the
client's own that is quoted there can pass for a missing field (`BodyFault.message`).
-/
set_option autoImplicit false

namespace SessionAuthority

structure LoginRequest where
  email : String
  password : String
  deriving DecidableEq, Repr

structure RefreshRequest where
  token : String
  deriving DecidableEq, Repr

inductive BodyFault where
  | notJson
  | tooLong
  | record (fault : Json.RecordFault)
  deriving DecidableEq, Repr

namespace BodyFault

def text (body : Bytes) : BodyFault → String
  | notJson => "Expected request with `Content-Type: application/json`"
  | tooLong => "Failed to buffer the request body: length limit exceeded"
  | record f =>
      (if f.fault.cause.isShape then
        "Failed to deserialize the JSON body into the target type: "
      else "Failed to parse the request body as JSON: ") ++ f.text body

/-- What stands behind the first occurrence of `mark`. -/
def behind? (mark : List Char) : List Char → Option (List Char)
  | [] => if mark.isEmpty then some [] else none
  | c :: rest =>
      if mark.isPrefixOf (c :: rest) then some ((c :: rest).drop mark.length)
      else behind? mark rest

/-- What stands in front of the first occurrence of `mark`, or all of it. -/
def ahead (mark : List Char) : (done : List Char) → List Char → List Char
  | done, [] => done.reverse
  | done, c :: rest =>
      if mark.isPrefixOf (c :: rest) then done.reverse else ahead mark (c :: done) rest

def missingMark : List Char := "missing field `".toList

/-- What the client is told about a body that cannot be read: the field that its text announces as
missing, or that some value has the wrong type, or nothing in particular. -/
def message (body : Bytes) (f : BodyFault) : String :=
  if f = notJson then "Missing 'Content-Type: application/json' header"
  else
    let text := (f.text body).toList
    match behind? missingMark text with
    | some after =>
        String.ofList ((ahead missingMark [] after).takeWhile (· != '`')) ++ " is required"
    | none =>
        if (behind? "invalid type".toList text).isSome then "Invalid field type in request"
        else "Invalid request body"

end BodyFault

/-- A kind of body: how its record is written, what its values mean, and which rules they break. -/
structure BodyKind (α : Type) where
  shape : Json.Shape
  ofValues : List String → α
  violations : α → List String

def LoginRequest.kind : BodyKind LoginRequest where
  shape := ⟨"LoginRequest", ["email", "password"]⟩
  ofValues values := ⟨values.getD 0 "", values.getD 1 ""⟩
  violations r :=
    (if Email.isEmail r.email then [] else ["email must be a valid email address"]) ++
      if r.password.length < 8 then ["password must be at least 8 characters"] else []

def RefreshRequest.kind : BodyKind RefreshRequest where
  shape := ⟨"RefreshRequest", ["token"]⟩
  ofValues values := ⟨values.getD 0 ""⟩
  violations r := if r.token.length < 1 then ["token is required"] else []

/-- Octets of the longest body. -/
def bodyLimit : Nat := 2097152

namespace BodyKind

variable {α : Type}

def read (kind : BodyKind α) (headers : Headers) (body : Bytes) : Except BodyFault α :=
  if !headers.saysJson then .error .notJson
  else if body.length > bodyLimit then .error .tooLong
  else
    match kind.shape.parse body with
    | .error f => .error (.record f)
    | .ok values => .ok (kind.ofValues values)

/-- The request in a body, or the failure that the client is told of. -/
def accept (kind : BodyKind α) (headers : Headers) (body : Bytes) :
    Except ApiError α :=
  match kind.read headers body with
  | .error f => .error (.badRequest (f.message body))
  | .ok a =>
      match kind.violations a with
      | [] => .ok a
      | messages => .error (.unprocessable (", ".intercalate messages))

end BodyKind

end SessionAuthority

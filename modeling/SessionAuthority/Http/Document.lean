import SessionAuthority.Http.Route

/-!
# The description of the service

The document that tells clients which routes there are, what they take and what they answer.
-/
set_option autoImplicit false

namespace SessionAuthority.Document

def obj (members : List (String × Json)) : Json := .object members

def str (s : String) : Json := .str s

def strs (ss : List String) : Json := .array (ss.map .str)

/-! ## Routes -/

def reference (schema : String) : Json := obj [("$ref", str ("#/components/schemas/" ++ schema))]

def content (schema : String) : String × Json :=
  ("content", obj [("application/json", obj [("schema", reference schema)])])

/-- A response: its status, when it comes, and the schema of its body. -/
structure Answer where
  status : String
  description : String
  schema : String

def Answer.member (a : Answer) : String × Json :=
  (a.status, obj [("description", str a.description), content a.schema])

/-- What is said about a route. -/
structure Operation where
  route : Route
  tag : String
  summary : String
  name : String
  body : Option String
  answers : List Answer

/-- The operation in the document; a guarded route asks for a bearer token. -/
def Operation.member (o : Operation) : String × Json :=
  (o.route.path, obj [(if o.route.posts then "post" else "get", obj
    ([("tags", strs [o.tag]), ("summary", str o.summary), ("operationId", str o.name)] ++
      (match o.body with
        | some schema =>
            [("requestBody", obj [content schema, ("required", .bool true)])]
        | none => []) ++
      [("responses", obj (o.answers.map Answer.member))] ++
      if o.route.guarded then
        [("security", .array [obj [("bearer_auth", .array [])]])]
      else []))])

def failing (status description : String) : Answer := ⟨status, description, "ErrorResponse"⟩

def operations : List Operation := [
  ⟨.login, "Authentication", "Log in and receive an access/refresh token pair", "login_user",
    some "LoginRequest",
    [⟨"200", "Login successful", "LoginResponse"⟩, failing "400" "Malformed request body",
      failing "401" "Invalid credentials", failing "422" "Validation error",
      failing "500" "Internal server error"]⟩,
  ⟨.logout, "Authentication", "End the caller's session", "logout_user", none,
    [⟨"200", "Session revoked", "MessageResponse"⟩,
      failing "401" "Missing, invalid or inactive token",
      failing "500" "Internal server error"]⟩,
  ⟨.refresh, "Authentication", "Exchange a live refresh token for a new token pair",
    "refresh_token", some "RefreshRequest",
    [⟨"200", "New token pair issued", "LoginResponse"⟩,
      failing "401" "Refresh token invalid, expired or superseded",
      failing "500" "Internal server error"]⟩,
  ⟨.status, "Authentication", "Report whether the request carries a verifiable token",
    "session_status", none, [⟨"200", "Token status", "SessionStatus"⟩]⟩,
  ⟨.profile, "Users", "Get the identity bound to the caller's session", "get_me", none,
    [⟨"200", "Authenticated identity", "ProfileResponse"⟩,
      failing "401" "Missing, invalid or inactive token"]⟩]

/-! ## Schemas -/

def ofType (name : String) : List (String × Json) := [("type", str name)]

/-- The type of a property that may be absent. -/
def orNull (name : String) : List (String × Json) := [("type", strs [name, "null"])]

def format (name : String) : List (String × Json) := [("format", str name)]

def about (text : String) : List (String × Json) := [("description", str text)]

/-- A schema: its name, what is said about it, what must be there, and its properties by name. -/
def schema (name : String) (text : List (String × Json)) (required : List String)
    (properties : List (String × List (String × Json))) : String × Json :=
  (name, obj (ofType "object" ++ text ++
    [("required", strs required),
      ("properties", obj (properties.map fun p => (p.1, obj p.2)))]))

def schemas : List (String × Json) := [
  schema "ErrorResponse" [] ["error"] [("error", ofType "string")],
  schema "LoginRequest" [] ["email", "password"]
    [("email", ofType "string"), ("password", ofType "string")],
  schema "LoginResponse"
    (about "A freshly issued token pair. `exp` is the access token expiry in unix seconds.")
    ["accessToken", "refreshToken", "exp"]
    [("accessToken", ofType "string"), ("exp", ofType "integer" ++ format "int64"),
      ("refreshToken", ofType "string")],
  schema "MessageResponse" [] ["message"] [("message", ofType "string")],
  schema "ProfileResponse" [] ["id", "username"]
    [("expires_at",
        orNull "integer" ++ format "int64" ++ about "Access token expiry, unix seconds."),
      ("id", ofType "string" ++ format "uuid"),
      ("name", orNull "string" ++
        about "Display name from the user directory, when the subject is still listed."),
      ("username", ofType "string")],
  schema "RefreshRequest" [] ["token"] [("token", ofType "string")],
  schema "SessionStatus"
    (about ("Whether the request carried a token that passed signature and expiry\n" ++
      "checks. Liveness is not consulted."))
    ["authenticated"]
    [("authenticated", ofType "boolean"),
      ("error", orNull "string" ++
        about "Rejection message when a token was present but failed verification."),
      ("expires_at", orNull "integer" ++ format "int64"), ("username", orNull "string")]]

def securitySchemes : List (String × Json) := [
  ("bearer_auth",
    obj [("type", str "http"), ("scheme", str "bearer"), ("bearerFormat", str "JWT")]),
  ("cookie_auth", obj [("type", str "apiKey"), ("in", str "cookie"), ("name", str "jwt")])]

def tag (name text : String) : Json := obj (("name", str name) :: about text)

def document : Json := obj [
  ("openapi", str "3.1.0"),
  ("info", obj ([("title", str "Tokengate")] ++
    about ("Token-based session authority: signed access/refresh pairs backed by a revocable " ++
      "server-side session.") ++
    [("license", obj [("name", str "MIT")]), ("version", str "0.1.0")])),
  ("paths", obj (operations.map Operation.member)),
  ("components", obj [("schemas", obj schemas), ("securitySchemes", obj securitySchemes)]),
  ("tags", .array [
    tag "Authentication" "Login, refresh, logout and session status",
    tag "Users" "Identity of the authenticated caller"])]

end SessionAuthority.Document

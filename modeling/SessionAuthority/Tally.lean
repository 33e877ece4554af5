/-!
# What is counted

Every event that the service reports on, and the samples of an exposition that each of them adds one
to.  A `Tally` is the list of events so far, the latest first; a sample is the number of events that
touch it.  Requests are measured as taking no time, so each adds to every bucket of its histogram.
-/
set_option autoImplicit false

namespace SessionAuthority

inductive LoginFailure where
  | unknownIdentity
  | badPassword
  deriving DecidableEq, Repr

def LoginFailure.label : LoginFailure → String
  | unknownIdentity => "unknown_identity"
  | badPassword => "bad_password"

inductive Event where
  | loginSucceeded
  | loginFailed (why : LoginFailure)
  | pairIssued
  | refreshed (succeeded : Bool)
  | sessionRevoked
  | rejected (kind : String)
  | prolongFailed
  | answered (method path : String) (status : Nat)
  deriving DecidableEq, Repr

/-! ## Samples -/

/-- The characters of a label value between quotes.  A backslash in front of a quote or of another
backslash is taken for one that escapes it already; `pending` says that one was met just before. -/
def escapeLabel : (pending : Bool) → List Char → List Char
  | pending, [] => if pending then ['\\', '\\'] else []
  | pending, c :: rest =>
      if c = '\n' then '\\' :: 'n' :: escapeLabel pending rest
      else if c = '"' then '\\' :: '"' :: escapeLabel false rest
      else if c = '\\' then
        if pending then '\\' :: '\\' :: escapeLabel false rest else escapeLabel true rest
      else if pending then '\\' :: '\\' :: c :: escapeLabel false rest
      else c :: escapeLabel false rest

def quotedLabel (s : String) : String :=
  String.ofList ('"' :: escapeLabel false s.toList ++ ['"'])

def sampleName (name : String) (labels : List (String × String)) : String :=
  if labels.isEmpty then name
  else
    name ++ "\x7b" ++
      ",".intercalate (labels.map fun l => l.1 ++ "=" ++ quotedLabel l.2) ++ "\x7d"

/-- The upper ends of the buckets of request durations, in seconds. -/
def durationBuckets : List String :=
  ["0.001", "0.005", "0.01", "0.025", "0.05", "0.075", "0.1", "0.25", "0.5", "0.75", "1", "2.5",
    "5", "+Inf"]

def statusLabel (succeeded : Bool) : String := if succeeded then "success" else "failure"

/-- The samples that an event adds one to. -/
def Event.samples (buckets : Bool) : Event → List String
  | loginSucceeded => [sampleName "auth_logins_total" [("status", statusLabel true)]]
  | loginFailed why =>
      [sampleName "auth_logins_total" [("status", statusLabel false), ("reason", why.label)]]
  | pairIssued => [sampleName "auth_token_pairs_issued_total" []]
  | refreshed succeeded =>
      [sampleName "auth_refreshes_total" [("status", statusLabel succeeded)]]
  | sessionRevoked => [sampleName "auth_sessions_revoked_total" []]
  | rejected kind => [sampleName "auth_rejections_total" [("kind", kind)]]
  | prolongFailed => [sampleName "auth_session_prolong_failures_total" []]
  | answered method path status =>
      let place := [("method", method), ("path", path)]
      [sampleName "http_requests_total" (place ++ [("status", toString status)]),
        sampleName "http_request_duration_seconds_count" place] ++
        if buckets then
          durationBuckets.map fun le =>
            sampleName "http_request_duration_seconds_bucket" (place ++ [("le", le)])
        else []

/-- The events so far, the latest first. -/
abbrev Tally := List Event

/-- Every sample that is not zero, with its value. -/
def Tally.samples (t : Tally) (buckets : Bool) : List (String × Nat) :=
  let names := t.flatMap (Event.samples buckets)
  names.eraseDups.map fun name => (name, names.count name)

def Tally.page (t : Tally) : String :=
  String.join ((t.samples true).map fun s => s.1 ++ " " ++ toString s.2 ++ "\n")

end SessionAuthority

import SessionAuthority.Application.Answer
import SessionAuthority.State

/-!
# Serving requests

`Application.serve` carries one request to its response.  Around what the route answers stand, from
the inside out: the time that a request may take, the fields for other origins, the answer to a
crash, and the request identifier.  A known path has the length of its body stated; a method that it
does not take, whatever the response, is told the ones that it does.

`Application.step` is one step in the life of a service.
-/
set_option autoImplicit false

namespace SessionAuthority.Application

def identifierHeader : String := "x-request-id"

/-- The identifier of a request: its own, or the next nonce.  One that is no visible ASCII is kept,
but takes a nonce for reports. -/
def identifier (req : Request) (s : State) : Bytes × State :=
  match req.headers.first? identifierHeader with
  | none => (Bytes.ofString s.nextNonce.toText, s.takeNonce)
  | some given => (given, if (visible? given).isSome then s else s.takeNonce)

/-- What a request on a path is answered within the time it may take. -/
def answerInTime (app : Application) (req : Request) (s : State) : Ending Response × State :=
  if app.timeout.nanos = 0 then (.abandoned, s)
  else
    match Route.ofPath? req.path with
    | none => (.finished (.bare 404), s)
    | some route =>
        s.run app.directory (some (s.clock + app.timeout.nanos)) (app.answer s.clock req route)

/-- The response that an ending is; a crash does not say what it was, and no origin may read it. -/
def responseTo (app : Application) (req : Request) : Ending Response → Response
  | .finished r => Origin.share app.origins req.headers r
  | .abandoned => Origin.share app.origins req.headers (.bare 408)
  | .crashed _ => ApiError.internal.response

/-- The response of a known path: its length is stated, a method that is not taken is told which
are, and a request for the head alone gets no body. -/
def framed (req : Request) (r : Response) : Response :=
  match Route.ofPath? req.path with
  | none => r
  | some route =>
      let r := r.measured
      let r :=
        if route.takes req.method then r else r.withHeader "allow" (Response.value route.allow)
      if req.method = "HEAD" then { r with body := [] } else r

/-- One request and its response.  What runs beside it may be left over. -/
def serve (app : Application) (req : Request) (s : State) : Response × State :=
  let (id, s) := identifier req s
  let (r, s) :=
    if req.method = "OPTIONS" then (Origin.preflight app.origins req.headers, s)
    else
      let (ending, s) := app.answerInTime req s
      (app.responseTo req ending, s)
  let s := s.count (.answered req.method req.path r.status)
  ((framed req r).withHeader identifierHeader id, s)

inductive Step where
  | request (req : Request)
  | advance (span : Span)
  | misbehave (faults : Faults)
  deriving DecidableEq, Repr

/-- One step, after which what runs beside the requests goes on as far as it can. -/
def step (app : Application) (s : State) : Step → Option Response × State
  | .request req =>
      let (r, s) := app.serve req s
      (some r, s.settle)
  | .advance span => (none, State.settle { s with clock := s.clock + span.nanos })
  | .misbehave faults => (none, State.settle { s with faults })

end SessionAuthority.Application

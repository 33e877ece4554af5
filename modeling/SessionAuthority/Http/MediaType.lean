import SessionAuthority.Http.Message

/-!
# Media types

A media type is `type/subtype`, with parameters behind semicolons.  The part of the subtype behind
its last plus sign is the suffix.  Letter case does not matter.
-/
set_option autoImplicit false

namespace SessionAuthority

/-- A media type, its parameters left out. -/
structure MediaType where
  type : List Char
  subtype : List Char
  suffix : Option (List Char)
  deriving DecidableEq, Repr

namespace MediaType

def isToken (c : Char) : Bool := c.isAlphanum || "!#$%&'*+-.^_`|~".toList.contains c

/-- The octets a quoted parameter value may hold. -/
def isQuotable (c : Char) : Bool := 31 < c.toNat && c.toNat != 127

/-- Whether what follows a semicolon is a list of parameters. -/
def parametersOk : (fuel : Nat) → List Char → Bool
  | _, [] => true
  | 0, _ => false
  | fuel + 1, ' ' :: rest => parametersOk fuel rest
  | fuel + 1, cs =>
      match cs.takeWhile isToken, cs.dropWhile isToken with
      | [], _ => false
      | _, '=' :: '"' :: first :: rest =>
          if !isQuotable first then false
          else
            match rest.takeWhile fun c => isQuotable c && c != '"',
                rest.dropWhile fun c => isQuotable c && c != '"' with
            | _, '"' :: rest =>
                match rest.dropWhile (· == ' ') with
                | [] => true
                | ';' :: rest => parametersOk fuel rest
                | _ => false
            | _, _ => false
      | _, '=' :: rest =>
          match rest.takeWhile isToken, rest.dropWhile isToken with
          | _, [] => true
          | [], _ => false
          | _, ';' :: rest => parametersOk fuel rest
          | _, _ => false
      | _, _ => false

/-- The last plus sign that is not in front cuts off the suffix. -/
def cutSuffix (cs : List Char) : List Char × Option (List Char) :=
  match cs with
  | [] => ([], none)
  | c :: rest =>
      match Text.cutLast? '+' rest with
      | some (before, suffix) => (c :: before, some suffix)
      | none => (cs, none)

def parse? (cs : List Char) : Option MediaType := do
  let type := cs.takeWhile isToken
  guard (!type.isEmpty)
  match cs.dropWhile isToken with
  | '/' :: rest =>
      let sub := rest.takeWhile isToken
      let (subtype, suffix) := cutSuffix (Text.lowerAscii sub)
      let found : MediaType := ⟨Text.lowerAscii type, subtype, suffix⟩
      match sub, rest.dropWhile isToken with
      | _, [] => some found
      | _ :: _, ';' :: parameters =>
          if parametersOk parameters.length parameters then some found else none
      | _, _ => none
  | _ => none

def isJson (m : MediaType) : Bool :=
  m.type == "application".toList && (m.subtype == "json".toList || m.suffix == some "json".toList)

end MediaType

def Headers.saysJson (h : Headers) : Bool :=
  match (h.first? "content-type").bind visible? with
  | some cs =>
      match MediaType.parse? cs with
      | some m => m.isJson
      | none => false
  | none => false

end SessionAuthority

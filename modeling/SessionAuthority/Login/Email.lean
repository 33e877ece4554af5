import SessionAuthority.Http.Address
import SessionAuthority.Text.Domain

/-!
# Email addresses

An address is a user part and a domain around its last at-sign.  The user part is up to 64 ASCII
characters of a fixed set.  The domain is up to 255 characters: labels of letters, digits and inner
hyphens, or a text that ends in a network address between brackets, or a name of another script
whose ASCII form is one of these.
-/
set_option autoImplicit false

namespace SessionAuthority.Email

def isUserChar (c : Char) : Bool := c.isAlphanum || ".!#$%&'*+/=?^_`\x7b|\x7d~-".toList.contains c

def isLabel (cs : List Char) : Bool :=
  cs.length ≤ 63 && cs.all (fun c => c.isAlphanum || c == '-') &&
    match cs.head?, cs.getLast? with
    | some a, some b => a != '-' && b != '-'
    | _, _ => false

/-- Whether the characters are labels with points between them. -/
def isHost (cs : List Char) : Bool := (Text.splitChars '.' cs).all isLabel

/-- Whether the characters end in a network address between brackets. -/
def endsInAddress (cs : List Char) : Bool :=
  match cs.reverse with
  | ']' :: rest =>
      match Text.cutFirst? '[' rest with
      | some (address, _) => Address.isAddress address.reverse
      | none => false
  | _ => false

def isDomain (cs : List Char) : Bool := isHost cs || endsInAddress cs

def isEmail (s : String) : Bool :=
  match Text.cutLast? '@' s.toList with
  | none => false
  | some (user, domain) =>
      user.length ≤ 64 && domain.length ≤ 255 && !user.isEmpty && user.all isUserChar &&
        (isDomain domain ||
          match Text.Domain.toAscii? domain with
          | some ascii => isDomain ascii
          | none => false)

end SessionAuthority.Email

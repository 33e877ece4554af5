import SessionAuthority.Files
import SessionAuthority.Json.Record
import SessionAuthority.Text.Blank
import SessionAuthority.Text.Lower
import SessionAuthority.Uuid

/-!
# User directory

Users are listed under the lower case of their email, which no two may share.  A lookup trims the
identity it is given before it takes the lower case.  A directory file is a JSON list of users.
-/
set_option autoImplicit false

namespace SessionAuthority

structure User where
  id : Uuid
  email : String
  name : String
  passwordHash : String
  deriving DecidableEq, Repr

inductive DirectoryError where
  | io (why : FileError)
  | parse
  | duplicate (key : String)
  | lookup (detail : String)
  deriving DecidableEq, Repr

def DirectoryError.message : DirectoryError → String
  | io why => "failed to read user directory: " ++ why.message
  | parse => "failed to parse user directory"
  | duplicate key => "duplicate directory entry for " ++ key
  | lookup detail => detail

/-- Users by the lower case of their email. -/
structure Directory where
  users : List (String × User)
  deriving DecidableEq, Repr

namespace Directory

def empty : Directory := ⟨[]⟩

def listedUnder (email : String) : String := Text.lower email

def lookedUpUnder (identity : String) : String := Text.lower (Text.trim identity)

def insert (d : Directory) (u : User) : Except DirectoryError Directory :=
  let key := listedUnder u.email
  if (d.users.lookup key).isSome then .error (.duplicate key) else .ok ⟨d.users ++ [(key, u)]⟩

def ofUsers (users : List User) : Except DirectoryError Directory :=
  users.foldlM insert empty

def size (d : Directory) : Nat := d.users.length

def find? (d : Directory) (identity : String) : Option User :=
  d.users.lookup (lookedUpUnder identity)

def shape : Json.Shape := ⟨"DirectoryUser", ["id", "email", "name", "password_hash"]⟩

def userOf? : List String → Option User
  | [id, email, name, passwordHash] => do
      let id ← Uuid.parse? id
      pure ⟨id, email, name, passwordHash⟩
  | _ => none

def usersOf? (text : Bytes) : Option (List User) :=
  match shape.parseList text with
  | .ok records => records.mapM userOf?
  | .error _ => none

def ofFile (files : Files) (path : String) : Except DirectoryError Directory := do
  let text ← (files.read path).mapError .io
  let some users := usersOf? text
    | throw .parse
  ofUsers users

end Directory

end SessionAuthority

import SessionAuthority.Bytes

/-!
# JSON values

A value as a document writes it: an object is the list of its members in the order of writing, so
repeated names can be told apart from a single one.  `canonical` is the value that everything
downstream sees: at every depth names are in ascending byte order and the last member of a
repeated name is the one that counts.  `Canonical` says what the result looks like, without
reference to how it was computed.
-/
set_option autoImplicit false

namespace SessionAuthority

/-- A JSON value.  A number is an exact integer or the bits of a double. -/
inductive Json where
  | null
  | bool (b : Bool)
  | int (i : Int)
  | float (bits : UInt64)
  | str (s : String)
  | array (items : List Json)
  | object (members : List (String × Json))
  deriving Inhabited, BEq, Repr

namespace Json

/-- Byte order of two names. -/
def nameLe (a b : String) : Bool := decide (Bytes.ofString a ≤ Bytes.ofString b)

def nameLt (a b : String) : Prop := Bytes.ofString a < Bytes.ofString b

instance (a b : String) : Decidable (nameLt a b) :=
  inferInstanceAs (Decidable (Bytes.ofString a < Bytes.ofString b))

/-- Of neighbouring members of one name, the last. -/
def keepLast : List (String × Json) → List (String × Json)
  | [] => []
  | [m] => [m]
  | m :: n :: rest =>
      if m.1 = n.1 then keepLast (n :: rest) else m :: keepLast (n :: rest)

/-- Members by ascending name; of several of one name, the one written last. -/
def sortMembers (members : List (String × Json)) : List (String × Json) :=
  keepLast (members.mergeSort fun a b => nameLe a.1 b.1)

mutual

/-- The value with the members of every object sorted and without repetition. -/
def canonical : Json → Json
  | .array items => .array (canonicalItems items)
  | .object members => .object (sortMembers (canonicalMembers members))
  | v => v

def canonicalItems : List Json → List Json
  | [] => []
  | v :: rest => canonical v :: canonicalItems rest

def canonicalMembers : List (String × Json) → List (String × Json)
  | [] => []
  | (name, v) :: rest => (name, canonical v) :: canonicalMembers rest

end

def Ascending (members : List (String × Json)) : Prop :=
  members.Pairwise fun a b => nameLt a.1 b.1

instance (members : List (String × Json)) : Decidable (Ascending members) :=
  inferInstanceAs (Decidable (members.Pairwise fun a b => nameLt a.1 b.1))

/-- At every depth names are in strictly ascending byte order. -/
inductive Canonical : Json → Prop where
  | null : Canonical .null
  | bool (b : Bool) : Canonical (.bool b)
  | int (i : Int) : Canonical (.int i)
  | float (bits : UInt64) : Canonical (.float bits)
  | str (s : String) : Canonical (.str s)
  | array {items : List Json} (all : ∀ v ∈ items, Canonical v) : Canonical (.array items)
  | object {members : List (String × Json)} (all : ∀ m ∈ members, Canonical m.2)
      (ascending : Ascending members) : Canonical (.object members)

/-- The value of the first member of this name. -/
def lookup? (name : String) : List (String × Json) → Option Json
  | [] => none
  | (n, v) :: rest => if n = name then some v else lookup? name rest

def str? : Json → Option String
  | .str s => some s
  | _ => none

def isNumber : Json → Bool
  | .int _ => true
  | .float _ => true
  | _ => false

end Json

end SessionAuthority

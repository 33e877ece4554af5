/-!
# Octets

A byte string is a list of octets.  Texts enter as their UTF-8 form (`Bytes.ofString`) and leave
through a check that refuses anything else (`Bytes.toString?`), so `toString?_ofString` holds
without looking at a single character.  Numbers are written big end first.
-/
set_option autoImplicit false

namespace SessionAuthority

abbrev Bytes := List UInt8

namespace Bytes

/-- The UTF-8 octets of a text. -/
def ofString (s : String) : Bytes := s.toUTF8.data.toList

def toString? (b : Bytes) : Option String := String.fromUTF8? ⟨b.toArray⟩

/-- A text of these characters' low octets; for characters that are ASCII, its UTF-8 form. -/
def ofAscii (cs : List Char) : Bytes := cs.map fun c => c.toNat.toUInt8

/-- The number whose big-endian digits in base 256 are these octets. -/
def toNat (b : Bytes) : Nat := b.foldl (fun n x => n * 256 + x.toNat) 0

/-- The last `width` octets of a number, big end first. -/
def ofNat (width n : Nat) : Bytes :=
  (List.range width).map fun i => (n >>> (8 * (width - 1 - i)) % 256).toUInt8

def ofWord32 (w : UInt32) : Bytes :=
  [(w >>> 24).toUInt8, (w >>> 16).toUInt8, (w >>> 8).toUInt8, w.toUInt8]

/-- Octet by octet exclusive or, as long as the shorter argument. -/
def xor (a b : Bytes) : Bytes := List.zipWith (· ^^^ ·) a b

theorem toString?_ofString (s : String) : toString? (ofString s) = some s := by
  have valid : (⟨s.toUTF8.data.toList.toArray⟩ : ByteArray).IsValidUTF8 := by
    simpa using s.isValidUTF8
  simp only [toString?, ofString, String.fromUTF8?, valid, ↓reduceDIte, Option.some.injEq]
  rfl

/-- A text has the octets that it was read from. -/
theorem ofString_of_toString? {b : Bytes} {s : String} (read : toString? b = some s) :
    ofString s = b := by
  unfold toString? String.fromUTF8? at read
  split at read
  · cases read
    rfl
  · cases read

theorem ofString_injective {s t : String} (same : ofString s = ofString t) : s = t := by
  have := congrArg toString? same
  simpa [toString?_ofString] using this

/-- Lossy reading: an ill-formed octet stands for the replacement character. -/
def toLossyString (b : Bytes) : String :=
  (b.toString?).getD
    (String.ofList (b.map fun x => if x < 0x80 then Char.ofNat x.toNat else '\ufffd'))

end Bytes

end SessionAuthority

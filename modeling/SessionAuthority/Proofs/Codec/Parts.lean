import SessionAuthority.Codec
import SessionAuthority.Proofs.Text

/-!
# The parts of a token

A text is cut at its last two points, so its parts are determined by it and it by its parts
(`ofText?_eq_some_iff`).  Nothing is lost on the way: the text that the signature covers is the very
text in front of the last point.
-/
set_option autoImplicit false

namespace SessionAuthority

namespace Codec.Parts

def text (p : Parts) : String := String.ofList (p.message ++ '.' :: p.signature)

/-- **A text has these parts just if it is made of them** and the last two points are theirs. -/
theorem ofText?_eq_some_iff {token : String} {p : Parts} :
    ofText? token = some p ↔ token = p.text ∧ '.' ∉ p.payload ∧ '.' ∉ p.signature := by
  have list : token = p.text ↔ token.toList = p.message ++ '.' :: p.signature := by
    rw [text, ← String.toList_inj, String.toList_ofList]
  rw [list, ofText?]
  constructor
  · intro found
    split at found
    · cases found
    · rename_i message signature outer
      obtain ⟨whole, last⟩ := Text.cutLast?_eq_some_iff.1 outer
      split at found
      · cases found
      · rename_i header payload inner
        obtain ⟨rfl, middle⟩ := Text.cutLast?_eq_some_iff.1 inner
        cases found
        exact ⟨whole, middle, last⟩
  · rintro ⟨whole, middle, last⟩
    have outer : Text.cutLast? '.' token.toList = some (p.message, p.signature) :=
      Text.cutLast?_eq_some_iff.2 ⟨whole, last⟩
    have inner : Text.cutLast? '.' p.message = some (p.header, p.payload) :=
      Text.cutLast?_eq_some_iff.2 ⟨rfl, middle⟩
    simp only [outer, inner]

end Codec.Parts

namespace Codec

/-- What is left to decide once the parts are found, named, verified and read. -/
theorem decode_of_parts {c : Codec} {key : Bytes} (verifying : c.verifying = some key) {now : Nat}
    {token : String} {p : Parts} (cut : Parts.ofText? token = some p)
    (named : p.algorithm? = some c.algorithm) (verified : p.verify c.family key = .ok ())
    {members : List (String × Json)} (read : p.members? = some members) :
    c.decode now token = accept c.skew now members := by
  simp only [decode, verifying, cut, named, verified, read, ne_eq, not_true_eq_false, if_false]

end Codec

end SessionAuthority

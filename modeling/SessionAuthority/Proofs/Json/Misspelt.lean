import SessionAuthority.Proofs.Json.Document

/-!
# Faults of the text itself

The readers of strings, numbers and white space, and those of values that are passed over, refuse a
text only for a fault of the text (`Misspelt`): one that the grammar sees, whatever the text is read
as.  A lemma for each reader says so, from those for the readers that it calls.
-/
set_option autoImplicit false

namespace SessionAuthority.Json

/-! ## Failures -/

def Fails {ε α : Type} (P : ε → Prop) : Except ε α → Prop
  | .ok _ => True
  | .error e => P e

section Fails

variable {ε α β : Type} {P Q : ε → Prop}

theorem Fails.holds {r : Except ε α} (fails : Fails P r) {e : ε} (failed : r = .error e) :
    P e := by
  rw [failed] at fails
  exact fails

theorem Fails.mono {r : Except ε α} (fails : Fails P r) (implies : ∀ e, P e → Q e) :
    Fails Q r := by
  cases r with
  | ok a => trivial
  | error e => exact implies e fails

theorem Fails.map {r : Except ε α} (fails : Fails P r) (f : α → β) : Fails P (r.map f) := by
  cases r with
  | ok a => trivial
  | error e => exact fails

end Fails

def Misspelt (f : Fault) : Prop := f.cause.isShape = false

/-! ## Strings and numbers -/

theorem scanString_misspelt (done input : Bytes) : Fails Misspelt (scanString done input) := by
  fun_induction scanString done input with
  | case2 => trivial
  | case11 | case14 | case16 | case19 => assumption
  | _ => rfl

theorem readString_misspelt (input : Bytes) : Fails Misspelt (readString input) := by
  unfold readString
  split
  · rename_i scanned
    exact (scanString_misspelt [] input).holds scanned
  · split
    · trivial
    · rfl

theorem readWord_misspelt (letters input : Bytes) : Fails Misspelt (readWord letters input) := by
  fun_induction readWord letters input with
  | case1 => trivial
  | case3 => assumption
  | _ => rfl

theorem finish_misspelt (positive : Bool) (significand : Nat) (exponent : Int) (rest : Bytes) :
    Fails Misspelt (finish positive significand exponent rest) := by
  unfold finish
  split
  · trivial
  · rfl

theorem readExponentDigits_misspelt (positive positiveExponent : Bool) (significand : Nat)
    (start : Int) (exponent : Nat) (input : Bytes) :
    Fails Misspelt
      (readExponentDigits positive positiveExponent significand start exponent input) := by
  induction input generalizing exponent with
  | nil => exact finish_misspelt ..
  | cons b rest ih =>
      unfold readExponentDigits
      split
      · dsimp only
        split
        · split
          · rfl
          · trivial
        · exact ih _
      · exact finish_misspelt ..

theorem readExponent_misspelt (positive : Bool) (significand : Nat) (start : Int) (input : Bytes) :
    Fails Misspelt (readExponent positive significand start input) := by
  unfold readExponent
  dsimp only
  split
  · rfl
  · split
    · exact readExponentDigits_misspelt ..
    · rfl

theorem closeDouble_misspelt (positive : Bool) (significand : Nat) (exponent : Int)
    (input : Bytes) : Fails Misspelt (closeDouble positive significand exponent input) := by
  unfold closeDouble
  split
  · exact readExponent_misspelt ..
  · exact finish_misspelt ..

theorem readFraction_close_misspelt (positive : Bool) (start : Int) (significand count : Nat)
    (input : Bytes) :
    Fails Misspelt (readFraction.close positive start significand count input) := by
  unfold readFraction.close
  split
  · split <;> rfl
  · exact closeDouble_misspelt ..

theorem readFraction_misspelt (positive : Bool) (start : Int) (significand count : Nat)
    (input : Bytes) : Fails Misspelt (readFraction positive start significand count input) := by
  induction input generalizing significand count with
  | nil => exact readFraction_close_misspelt ..
  | cons b rest ih =>
      unfold readFraction
      split
      · dsimp only
        split
        · exact closeDouble_misspelt ..
        · exact ih _ _
      · exact readFraction_close_misspelt ..

theorem readLongInteger_misspelt (positive : Bool) (significand dropped : Nat) (input : Bytes) :
    Fails Misspelt (readLongInteger positive significand dropped input) := by
  induction input generalizing dropped with
  | nil => exact closeDouble_misspelt ..
  | cons b rest ih =>
      unfold readLongInteger
      split
      · exact ih _
      split
      · exact readFraction_misspelt ..
      · exact closeDouble_misspelt ..

theorem closeInteger_misspelt (positive : Bool) (significand : Nat) (rest : Bytes) :
    Fails Misspelt (closeInteger positive significand rest) := by
  unfold closeInteger
  split
  · trivial
  split
  · exact finish_misspelt ..
  · trivial

theorem readInteger_misspelt (positive : Bool) (significand : Nat) (input : Bytes) :
    Fails Misspelt (readInteger positive significand input) := by
  induction input generalizing significand with
  | nil => exact closeInteger_misspelt ..
  | cons b rest ih =>
      unfold readInteger
      split
      · dsimp only
        split
        · exact readLongInteger_misspelt ..
        · exact ih _
      split
      · exact readFraction_misspelt ..
      split
      · exact readExponent_misspelt ..
      · exact closeInteger_misspelt ..

theorem readNumber_misspelt (positive : Bool) (input : Bytes) :
    Fails Misspelt (readNumber positive input) := by
  unfold readNumber
  split
  · rfl
  split
  · split
    · split
      · rfl
      · exact readInteger_misspelt ..
    · exact readInteger_misspelt ..
  split
  · exact readInteger_misspelt ..
  · rfl

/-! ## Values that are passed over -/

theorem skipString_misspelt (input : Bytes) : Fails Misspelt (skipString input) := by
  fun_induction skipString input with
  | case2 => trivial
  | case5 | case7 | case10 => assumption
  | _ => rfl

theorem skipExponent_misspelt (input : Bytes) : Fails Misspelt (skipExponent input) := by
  unfold skipExponent
  dsimp only
  split
  · rfl
  · split
    · trivial
    · rfl

theorem skipFraction_misspelt (input : Bytes) : Fails Misspelt (skipFraction input) := by
  unfold skipFraction
  split
  · rfl
  split
  · dsimp only
    split
    · exact skipExponent_misspelt _
    · trivial
  · rfl

theorem skipNumberTail_misspelt (input : Bytes) : Fails Misspelt (skipNumberTail input) := by
  unfold skipNumberTail
  split
  · exact skipFraction_misspelt _
  split
  · exact skipExponent_misspelt _
  · trivial

theorem skipNumber_misspelt (input : Bytes) : Fails Misspelt (skipNumber input) := by
  unfold skipNumber
  split
  · rfl
  split
  · split
    · split
      · rfl
      · exact skipNumberTail_misspelt _
    · exact skipNumberTail_misspelt _
  split
  · exact skipNumberTail_misspelt _
  · rfl

theorem skipScalar?_misspelt {b : UInt8} {rest : Bytes} {r : Reading Unit}
    (scalar : skipScalar? b rest = some r) : Fails Misspelt r := by
  unfold skipScalar? at scalar
  split at scalar
  · cases scalar
    exact readWord_misspelt _ _
  split at scalar
  · cases scalar
    exact readWord_misspelt _ _
  split at scalar
  · cases scalar
    exact readWord_misspelt _ _
  split at scalar
  · cases scalar
    exact skipNumber_misspelt _
  split at scalar
  · cases scalar
    exact skipNumber_misspelt _
  split at scalar
  · cases scalar
    exact skipString_misspelt _
  · cases scalar

theorem readColon_misspelt (input : Bytes) : Fails Misspelt (readColon input) := by
  unfold readColon
  split
  · rfl
  · split
    · trivial
    · rfl

theorem skipName_misspelt (input : Bytes) : Fails Misspelt (skipName input) := by
  unfold skipName
  split
  · rfl
  split
  · split
    · rename_i skipped
      exact (skipString_misspelt _).holds skipped
    · exact readColon_misspelt _
  · rfl

theorem skipFrom_misspelt (fuel : Nat) (stage : Stage) (open_ : List Bracket) (input : Bytes) :
    Fails Misspelt (skipFrom fuel stage open_ input) := by
  fun_induction skipFrom fuel stage open_ input with
  | case6 _ _ _ _ _ _ _ _ _ scalar => exact skipScalar?_misspelt scalar
  | case14 _ _ _ _ _ _ _ _ named => exact (skipName_misspelt _).holds named
  | case22 _ _ _ _ _ named => exact (skipName_misspelt _).holds named
  | case8 | case16 => trivial
  | case1 | case2 | case5 | case9 | case12 | case17 | case20 | case21 | case25 => rfl
  | _ => assumption

theorem skipValue_misspelt (input : Bytes) : Fails Misspelt (skipValue input) :=
  skipFrom_misspelt ..

/-! ## What stands between -/

theorem readEnd_misspelt (input : Bytes) : Fails Misspelt (readEnd input) := by
  unfold readEnd
  split
  · trivial
  · rfl

theorem readNext_misspelt (first : Bool) (input : Bytes) :
    Fails Misspelt (readNext first input) := by
  unfold readNext
  split
  · rfl
  split
  · trivial
  split
  · trivial
  split
  · split
    · rfl
    split
    · rfl
    · trivial
  · rfl

theorem readListEnd_misspelt (input : Bytes) : Fails Misspelt (readListEnd input) := by
  unfold readListEnd
  split
  · rfl
  split
  · trivial
  split
  · split
    · rfl
    split <;> rfl
  · rfl

end SessionAuthority.Json

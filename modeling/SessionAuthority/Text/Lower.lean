import SessionAuthority.Text.CaseTable

/-!
# Lower case

The lower case of a text, character by character after the Unicode tables, with the two
exceptions they make: a capital I with a dot becomes two characters, and a capital sigma at the end
of a word takes its final form.
-/
set_option autoImplicit false

namespace SessionAuthority.Text

def within (ranges : List (Nat × Nat)) (n : Nat) : Bool :=
  ranges.any fun r => r.1 ≤ n && n ≤ r.2

/-- The lower case of a character that has one, sigma aside. -/
def lowerChar (c : Char) : Char :=
  if c.toNat < 0x80 then c.toLower
  else
    match lowerRuns.find? fun (first, last, step, _) =>
        first ≤ c.toNat && c.toNat ≤ last && (c.toNat - first) % step == 0 with
    | some (_, _, _, away) => Char.ofNat ((c.toNat : Int) + away).toNat
    | none => c

/-- Whether a cased character comes first once those to be passed over are gone. -/
def casedAhead (cs : List Char) : Bool :=
  match cs.dropWhile fun c => within passedRanges c.toNat with
  | c :: _ => within casedRanges c.toNat
  | [] => false

/-- The lower case of characters; `before` holds those in front of them in reverse order. -/
def lowerFrom (before : List Char) : List Char → List Char
  | [] => []
  | c :: rest =>
      let low :=
        if c = '\u0130' then ['i', '\u0307']
        else if c = '\u03a3' then
          if casedAhead before && !casedAhead rest then ['\u03c2'] else ['\u03c3']
        else [lowerChar c]
      low ++ lowerFrom (c :: before) rest

def lower (s : String) : String := String.ofList (lowerFrom [] s.toList)

end SessionAuthority.Text

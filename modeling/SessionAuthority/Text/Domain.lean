import SessionAuthority.Text.Blank
import SessionAuthority.Text.DomainTable
import SessionAuthority.Text.Lower
import SessionAuthority.Text.Punycode

/-!
# Domain names outside ASCII

A domain name of any script has an ASCII form: characters are put in lower case, some are dropped
or replaced, and every label that is still not ASCII is encoded behind `xn--`.  A name has no such
form if one of its characters may not stand in names, a label starts with a mark, a joiner stands
where nothing is to be joined, or letters that run in different directions are mixed.
-/
set_option autoImplicit false

namespace SessionAuthority.Text.Domain

open DomainTable

/-- What a character of a name stands for; nothing if it may not stand there. -/
def mapChar? (c : Char) : Option (List Char) :=
  let n := c.toNat
  if n < 0x80 then some [c.toLower]
  else if within allowed n then some [lowerChar c]
  else if within dropped n then some []
  else
    match asciiRuns.find? fun (first, last, _) => first ≤ n && n ≤ last with
    | some (first, _, start) => some [Char.ofNat (start + (n - first))]
    | none => (asciiTexts.lookup n).map String.toList

def isAscii (c : Char) : Bool := c.toNat < 0x80

inductive Direction where
  | left
  | right
  | rightDigit
  | digit
  | neutral
  | attached
  deriving DecidableEq, Repr

def direction (c : Char) : Direction :=
  let n := c.toNat
  if isAscii c then
    if c.isAlpha then .left else if c.isDigit then .digit else .neutral
  else if within DomainTable.rightToLeft n then .right
  else if within DomainTable.rightDigits n then .rightDigit
  else if within DomainTable.plainDigits n then .digit
  else if within DomainTable.attached n then .attached
  else if within DomainTable.neutral n then .neutral
  else .left

def directionsOk (label : List Char) : Bool :=
  let ds := label.map direction
  let last := (ds.reverse.dropWhile (· == .attached)).head?
  match ds.head? with
  | none => true
  | some .left =>
      ds.all (fun d => d != .right && d != .rightDigit) &&
        (last == some .left || last == some .digit)
  | some .right =>
      ds.all (· != .left) && !(ds.contains .digit && ds.contains .rightDigit) &&
        (last == some .right || last == some .digit || last == some .rightDigit)
  | some _ => false

/-- Whether every joiner has something to join; `before` is the label read so far, in reverse. -/
def joinersOk (before : List Char) : List Char → Bool
  | [] => true
  | c :: rest =>
      let joins :=
        if c = '\u200c' ∨ c = '\u200d' then
          match before with
          | b :: _ =>
              viramas.contains b.toNat ||
                (c = '\u200c' && direction b == .right && (rest.head?.map direction) == some .right)
          | [] => false
        else true
      joins && joinersOk (c :: before) rest

/-- Whether a label that is not ASCII may stand in a name. -/
def labelOk (label : List Char) : Bool :=
  label.all (fun c => mapChar? c == some [c]) && joinersOk [] label &&
    match label with
    | c :: _ => !within marks c.toNat
    | [] => true

def mark : List Char := "xn--".toList

/-- The label as it reads, and its ASCII form. -/
def label? (cs : List Char) : Option (List Char × List Char) :=
  if mark.isPrefixOf cs then
    match Punycode.decode? (cs.drop 4) with
    | none => none
    | some label =>
        if !label.all isAscii && labelOk label && Punycode.encode label == cs.drop 4 then
          some (label, cs)
        else none
  else if cs.all isAscii then some (cs, cs)
  else if labelOk cs then some (cs, mark ++ Punycode.encode cs)
  else none

def toAscii? (name : List Char) : Option (List Char) := do
  let mapped ← name.mapM mapChar?
  let labels ← (splitChars '.' mapped.flatten).mapM label?
  let mixed := labels.any fun l =>
    l.1.any fun c => direction c == .right || direction c == .rightDigit
  guard (!mixed || labels.all fun l => directionsOk l.1)
  pure (List.intercalate ['.'] (labels.map (·.2)))

end SessionAuthority.Text.Domain

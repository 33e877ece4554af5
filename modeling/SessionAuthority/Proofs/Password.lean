import SessionAuthority.Password
import SessionAuthority.Proofs.Base64
import SessionAuthority.Proofs.Text

/-!
# Stored hashes

A hash is read back as it was written (`Hash.parse?_text`), so every password matches the hash that
is made of it (`verify_written`), at every cost and with every salt.
-/
set_option autoImplicit false

namespace SessionAuthority.Password

/-- The character of a number in the alphabet of hashes, for one in the alphabet of tokens. -/
def letter (c : Char) : Char := alphabet.getD ((Base64.url.index? c).getD 0) '.'

def spell (b : Bytes) : List Char := (Base64.encode Base64.url b).map letter

theorem findIdx?_letter : ∀ n < 64,
    (alphabet.findIdx? (· == letter (Base64.url.symbol n))).map (Base64.url.symbol ·) =
      some (Base64.url.symbol n) := by decide +kernel

theorem letter_ne_dollar : ∀ n < 64, letter (Base64.url.symbol n) ≠ '$' := by decide +kernel

theorem respell?_map : ∀ {cs : List Char}, (∀ c ∈ cs, ∃ n < 64, Base64.url.symbol n = c) →
    respell? (cs.map letter) = some cs
  | [], _ => rfl
  | c :: rest, symbols => by
      obtain ⟨n, small, rfl⟩ := symbols c (List.mem_cons_self ..)
      have tail := respell?_map fun c member => symbols c (List.mem_cons_of_mem _ member)
      rw [respell?] at tail
      rw [respell?, List.map_cons, List.mapM_cons, findIdx?_letter n small, tail]
      rfl

theorem decode?_spell (b : Bytes) : decode? (spell b) = some b := by
  rw [decode?, spell, respell?_map fun c => Base64.mem_encode, Option.bind_some,
    Base64.decode?_encode]

theorem length_spell (b : Bytes) : (spell b).length = (b.length * 4 + 2) / 3 := by
  rw [spell, List.length_map, Base64.length_encode]

theorem dollar_not_mem_spell (b : Bytes) : '$' ∉ spell b := by
  intro member
  obtain ⟨c, written, same⟩ := List.mem_map.1 member
  obtain ⟨n, small, rfl⟩ := Base64.mem_encode written
  exact letter_ne_dollar n small same

namespace Hash

def costDigits (cost : Nat) : List Char :=
  [Char.ofNat (48 + cost / 10), Char.ofNat (48 + cost % 10)]

def text (h : Hash) : String :=
  String.ofList
    (['$', '2', 'b', '$'] ++ costDigits h.cost ++ '$' :: (spell h.salt ++ spell h.digest))

/-- What a stored hash can be made of. -/
structure Proper (h : Hash) : Prop where
  cost : 4 ≤ h.cost ∧ h.cost ≤ 31
  salt : h.salt.length = 16
  digest : h.digest.length = 23

theorem natural?_costDigits : ∀ cost ≤ 31,
    Text.natural? 0xFFFFFFFF (costDigits cost) = some cost ∧ '$' ∉ costDigits cost := by
  decide +kernel

theorem ne_dollar {cs : List Char} (plain : '$' ∉ cs) : ∀ c ∈ cs, (c == '$') = false :=
  fun _ member => beq_eq_false_iff_ne.2 (ne_of_mem_of_not_mem member plain)

/-- Each part ends at the next dollar sign, and there is nothing in front of the first one. -/
theorem parts_text {h : Hash} (proper : h.Proper) :
    (Text.splitChars '$' h.text.toList).filter (!·.isEmpty) =
      [['2', 'b'], costDigits h.cost, spell h.salt ++ spell h.digest] := by
  obtain ⟨-, plain⟩ := natural?_costDigits h.cost proper.cost.2
  have salt := dollar_not_mem_spell h.salt
  have digest := dollar_not_mem_spell h.digest
  have cut {part : List Char} (plain : '$' ∉ part) (rest : List Char) :
      (part ++ '$' :: rest).splitOnP (· == '$') = part :: rest.splitOnP (· == '$') :=
    List.splitOnP_append_cons_of_forall_mem (ne_dollar plain) '$' (by decide) rest
  have body : (spell h.salt ++ spell h.digest).splitOnP (· == '$') =
      [spell h.salt ++ spell h.digest] :=
    List.splitOnP_eq_singleton (ne_dollar (by simp [salt, digest]))
  have split : Text.splitChars '$' h.text.toList =
      [[], ['2', 'b'], costDigits h.cost, spell h.salt ++ spell h.digest] := by
    have version := cut (show '$' ∉ ['2', 'b'] by decide)
      (costDigits h.cost ++ '$' :: (spell h.salt ++ spell h.digest))
    rw [cut plain, body] at version
    have front := cut List.not_mem_nil
      (['2', 'b'] ++ '$' :: (costDigits h.cost ++ '$' :: (spell h.salt ++ spell h.digest)))
    rw [version] at front
    rw [Text.splitChars, text, String.toList_ofList, ← front]
    simp
  have length := length_spell h.salt
  have filled : spell h.salt ++ spell h.digest ≠ [] := by
    rw [proper.salt] at length
    intro empty
    rw [(List.append_eq_nil_iff.1 empty).1] at length
    cases length
  rw [split]
  simp [costDigits, filled]

/-- **A stored hash is read back.** -/
theorem parse?_text {h : Hash} (proper : h.Proper) : parse? h.text = some h := by
  have salted := length_spell h.salt
  have digested := length_spell h.digest
  rw [proper.salt] at salted
  rw [proper.digest] at digested
  obtain ⟨read, -⟩ := natural?_costDigits h.cost proper.cost.2
  have long : (spell h.salt ++ spell h.digest).length = 53 := by
    rw [List.length_append, salted, digested]
  have front : (spell h.salt ++ spell h.digest).take 22 = spell h.salt :=
    List.take_left' salted
  have back : (spell h.salt ++ spell h.digest).drop 22 = spell h.digest :=
    List.drop_left' salted
  have known : versions.contains ['2', 'b'] = true := by decide
  rw [parse?, parts_text proper]
  refine (guard_bind known _).trans ?_
  rw [read]
  refine (guard_bind long _).trans ?_
  rw [front, back, decode?_spell, decode?_spell]
  exact guard_bind proper.cost _

end Hash

def hashed (cost : Nat) (salt : Bytes) (password : String) : Hash :=
  ⟨cost, salt, (Digest.Blowfish.digest cost (significant password) salt).take 23⟩

/-- **A password matches the hash that is made of it.** -/
theorem verify_hashed {cost : Nat} {salt : Bytes} (range : 4 ≤ cost ∧ cost ≤ 31)
    (salted : salt.length = 16) (password : String) :
    verify password (hashed cost salt password).text = true := by
  have proper : (hashed cost salt password).Proper := by
    refine ⟨range, salted, ?_⟩
    simp [hashed, Digest.Blowfish.digest, Bytes.ofWord32]
  rw [verify, Hash.parse?_text proper]
  exact beq_self_eq_true _

end SessionAuthority.Password

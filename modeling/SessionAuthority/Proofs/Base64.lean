import SessionAuthority.Base64

/-!
# One written form

In the alphabet of tokens, writing and reading are inverse to each other.  `decode?_encode` says
that every byte string is read back, whatever is left over for the last group; `encode_of_decode?`
says that a text which is read at all is the written form of what it is read as, so no two texts
stand for the same octets.  In particular a point is in no written form (`point_not_mem_encode`),
which is what lets points divide the parts of a token.
-/
set_option autoImplicit false

namespace SessionAuthority.Base64

/-! ## Characters -/

theorem index?_symbol : ∀ n < 64, url.index? (url.symbol n) = some n := by decide

theorem ofNat_eq_of_toNat {c : Char} {n : Nat} (same : c.toNat = n) : Char.ofNat n = c := by
  rw [← same]; exact Char.ofNat_toNat c

/-- A character that is read is the one that writes its number. -/
theorem symbol_of_index? {c : Char} {n : Nat} (read : url.index? c = some n) :
    n < 64 ∧ url.symbol n = c := by
  unfold Variant.index? at read
  unfold Variant.symbol
  by_cases upper : 65 ≤ c.toNat ∧ c.toNat ≤ 90
  · simp only [upper, and_self, if_true, Option.some.injEq] at read
    rw [if_pos (by omega), ofNat_eq_of_toNat (c := c) (by omega)]
    exact ⟨by omega, rfl⟩
  by_cases lower : 97 ≤ c.toNat ∧ c.toNat ≤ 122
  · simp only [upper, lower, and_self, if_true, if_false, Option.some.injEq] at read
    rw [if_neg (by omega), if_pos (by omega), ofNat_eq_of_toNat (c := c) (by omega)]
    exact ⟨by omega, rfl⟩
  by_cases digit : 48 ≤ c.toNat ∧ c.toNat ≤ 57
  · simp only [upper, lower, digit, and_self, if_true, if_false, Option.some.injEq] at read
    rw [if_neg (by omega), if_neg (by omega), if_pos (by omega),
      ofNat_eq_of_toNat (c := c) (by omega)]
    exact ⟨by omega, rfl⟩
  simp only [upper, lower, digit, if_false] at read
  by_cases plus : c = url.plus
  · rw [if_pos plus] at read
    obtain rfl := Option.some.inj read
    exact ⟨by omega, by simp [plus]⟩
  by_cases slash : c = url.slash
  · rw [if_neg plus, if_pos slash] at read
    obtain rfl := Option.some.inj read
    exact ⟨by omega, by simp [slash]⟩
  · rw [if_neg plus, if_neg slash] at read
    cases read

theorem symbol_congr {c : Char} {i j : Nat} (writes : url.symbol i = c) (same : j = i) :
    url.symbol j = c := by rw [same, writes]

theorem point_ne_symbol : ∀ n < 64, url.symbol n ≠ '.' := by decide

/-! ## Octets and numbers -/

theorem octet_of_toNat {a : UInt8} {n : Nat} (same : n = a.toNat) : n.toUInt8 = a := by
  subst same; exact UInt8.ofNat_toNat

theorem toNat_octet {n : Nat} (small : n < 256) : n.toUInt8.toNat = n := by
  simp [Nat.mod_eq_of_lt small]

/-! ## Group by group -/

theorem encodeOnto_eq (v : Variant) :
    ∀ (b : Bytes) (done : List Char), encodeOnto v done b = done.reverse ++ encode v b
  | [], done => by simp [encode, encodeOnto]
  | [a], done => by simp [encode, encodeOnto]
  | [a, b], done => by simp [encode, encodeOnto]
  | a :: b :: c :: rest, done => by
      simp only [encode, encodeOnto]
      rw [encodeOnto_eq v rest, encodeOnto_eq v rest]
      simp

theorem encode_cons (v : Variant) (a b c : UInt8) (rest : Bytes) :
    encode v (a :: b :: c :: rest) = v.group a b c ++ encode v rest := by
  rw [encode, encodeOnto, encodeOnto_eq]
  simp

theorem encode_one (a : UInt8) :
    encode url [a] =
      [url.symbol (a.toNat * 65536 / 262144), url.symbol (a.toNat * 65536 / 4096 % 64)] := by
  simp [encode, encodeOnto, Variant.group, Variant.filler, url]

theorem encode_two (a b : UInt8) :
    encode url [a, b] =
      [url.symbol ((a.toNat * 65536 + b.toNat * 256) / 262144),
        url.symbol ((a.toNat * 65536 + b.toNat * 256) / 4096 % 64),
        url.symbol ((a.toNat * 65536 + b.toNat * 256) / 64 % 64)] := by
  simp [encode, encodeOnto, Variant.group, Variant.filler, url]

theorem decodeOnto?_eq (v : Variant) :
    ∀ (cs : List Char) (done : Bytes),
      decodeOnto? v done cs = (decodeOnto? v [] cs).map (done.reverse ++ ·)
  | a :: b :: c :: d :: rest, done => by
      simp only [decodeOnto?]
      cases v.fullGroup? a b c d with
      | none => rfl
      | some three =>
          simp only []
          rw [decodeOnto?_eq v rest, decodeOnto?_eq v rest (three.reverse ++ [])]
          cases decodeOnto? v [] rest <;> simp
  | [], done => by simp [decodeOnto?]
  | [a], done => by simp [decodeOnto?]
  | [a, b], done => by simp [decodeOnto?]
  | [a, b, c], done => by simp [decodeOnto?]

theorem decode?_url (cs : List Char) : decode? url cs = decodeOnto? url [] cs := rfl

theorem decode?_cons (a b c d : Char) (rest : List Char) :
    decode? url (a :: b :: c :: d :: rest) =
      (url.fullGroup? a b c d).bind fun three => (decode? url rest).map (three ++ ·) := by
  simp only [decode?_url, decodeOnto?]
  cases url.fullGroup? a b c d with
  | none => rfl
  | some three =>
      simp only [Option.bind_some]
      rw [decodeOnto?_eq]
      simp

theorem decode?_last {cs : List Char} (short : cs.length < 4) :
    decode? url cs = url.lastGroup? cs := by
  match cs with
  | [] | [_] | [_, _] | [_, _, _] => simp [decode?_url, decodeOnto?]
  | a :: b :: c :: d :: rest => simp at short; omega

theorem fullGroup?_symbols {i j k l : Nat} (hi : i < 64) (hj : j < 64) (hk : k < 64)
    (hl : l < 64) :
    url.fullGroup? (url.symbol i) (url.symbol j) (url.symbol k) (url.symbol l) =
      let n := i * 262144 + j * 4096 + k * 64 + l
      some [(n / 65536).toUInt8, (n / 256 % 256).toUInt8, (n % 256).toUInt8] := by
  simp only [Variant.fullGroup?, index?_symbol _ hi, index?_symbol _ hj, index?_symbol _ hk,
    index?_symbol _ hl]
  rfl

theorem lastGroup?_two {i j : Nat} (hi : i < 64) (hj : j < 64) :
    url.lastGroup? [url.symbol i, url.symbol j] =
      if (i * 64 + j) % 16 = 0 then some [((i * 64 + j) / 16).toUInt8] else none := by
  simp only [Variant.lastGroup?, index?_symbol _ hi, index?_symbol _ hj]
  rfl

theorem lastGroup?_three {i j k : Nat} (hi : i < 64) (hj : j < 64) (hk : k < 64) :
    url.lastGroup? [url.symbol i, url.symbol j, url.symbol k] =
      let n := i * 4096 + j * 64 + k
      if n % 4 = 0 then some [(n / 1024).toUInt8, (n / 4 % 256).toUInt8] else none := by
  simp only [Variant.lastGroup?, index?_symbol _ hi, index?_symbol _ hj, index?_symbol _ hk]
  rfl

/-! ## Round trips -/

/-- **Reading undoes writing**, at each of the three lengths of the last group. -/
theorem decode?_encode : ∀ b : Bytes, decode? url (encode url b) = some b
  | [] => rfl
  | [a] => by
      have ha := a.toNat_lt
      rw [encode_one, decode?_last (by simp), lastGroup?_two (by omega) (by omega),
        if_pos (by omega), octet_of_toNat (a := a) (by omega)]
  | [a, b] => by
      have ha := a.toNat_lt
      have hb := b.toNat_lt
      rw [encode_two, decode?_last (by simp), lastGroup?_three (by omega) (by omega) (by omega)]
      simp only []
      rw [if_pos (by omega), octet_of_toNat (a := a) (by omega), octet_of_toNat (a := b) (by omega)]
  | a :: b :: c :: rest => by
      have ha := a.toNat_lt
      have hb := b.toNat_lt
      have hc := c.toNat_lt
      rw [encode_cons]
      simp only [Variant.group, List.cons_append, List.nil_append]
      rw [decode?_cons, fullGroup?_symbols (by omega) (by omega) (by omega) (by omega)]
      simp only [Option.bind_some]
      rw [octet_of_toNat (a := a) (by omega), octet_of_toNat (a := b) (by omega),
        octet_of_toNat (a := c) (by omega), decode?_encode rest]
      rfl

/-- **Writing undoes reading**: what is accepted is the one written form of its octets. -/
theorem encode_of_decode? : ∀ {cs : List Char} {b : Bytes}, decode? url cs = some b →
    encode url b = cs
  | [], b, read => by
      obtain rfl : b = [] := by simpa [decode?_url, decodeOnto?, Variant.lastGroup?] using read.symm
      rfl
  | [w], b, read => by simp [decode?_url, decodeOnto?, Variant.lastGroup?] at read
  | [w, x], b, read => by
      rw [decode?_last (by simp)] at read
      simp only [Variant.lastGroup?, Option.bind_eq_bind, Option.bind_eq_some_iff] at read
      obtain ⟨i, hw, j, hx, read⟩ := read
      obtain ⟨hi, hw⟩ := symbol_of_index? hw
      obtain ⟨hj, hx⟩ := symbol_of_index? hx
      split at read
      · obtain rfl := Option.some.inj read
        rw [encode_one, toNat_octet (by omega), symbol_congr hw (by omega),
          symbol_congr hx (by omega)]
      · cases read
  | [w, x, y], b, read => by
      rw [decode?_last (by simp)] at read
      simp only [Variant.lastGroup?, Option.bind_eq_bind, Option.bind_eq_some_iff] at read
      obtain ⟨i, hw, j, hx, k, hy, read⟩ := read
      obtain ⟨hi, hw⟩ := symbol_of_index? hw
      obtain ⟨hj, hx⟩ := symbol_of_index? hx
      obtain ⟨hk, hy⟩ := symbol_of_index? hy
      split at read
      · obtain rfl := Option.some.inj read
        rw [encode_two, toNat_octet (by omega), toNat_octet (by omega), symbol_congr hw (by omega),
          symbol_congr hx (by omega), symbol_congr hy (by omega)]
      · cases read
  | w :: x :: y :: z :: rest, b, read => by
      rw [decode?_cons, Option.bind_eq_some_iff] at read
      obtain ⟨three, group, read⟩ := read
      obtain ⟨others, tail, rfl⟩ := Option.map_eq_some_iff.1 read
      simp only [Variant.fullGroup?, Option.bind_eq_bind, Option.bind_eq_some_iff] at group
      obtain ⟨i, hw, j, hx, k, hy, l, hz, group⟩ := group
      obtain ⟨hi, hw⟩ := symbol_of_index? hw
      obtain ⟨hj, hx⟩ := symbol_of_index? hx
      obtain ⟨hk, hy⟩ := symbol_of_index? hy
      obtain ⟨hl, hz⟩ := symbol_of_index? hz
      obtain rfl := Option.some.inj group
      simp only [List.cons_append, List.nil_append]
      rw [encode_cons, encode_of_decode? tail, Variant.group, toNat_octet (by omega),
        toNat_octet (by omega), toNat_octet (by omega), symbol_congr hw (by omega),
        symbol_congr hx (by omega), symbol_congr hy (by omega), symbol_congr hz (by omega)]
      rfl

/-- A written form is made of the symbols of numbers. -/
theorem mem_encode : ∀ {b : Bytes} {c : Char}, c ∈ encode url b → ∃ n < 64, url.symbol n = c
  | [], c, member => by simp [encode, encodeOnto] at member
  | [a], c, member => by
      have ha := a.toNat_lt
      simp only [encode_one, List.mem_cons, List.not_mem_nil, or_false] at member
      rcases member with rfl | rfl <;> exact ⟨_, by omega, rfl⟩
  | [a, b], c, member => by
      have ha := a.toNat_lt
      have hb := b.toNat_lt
      simp only [encode_two, List.mem_cons, List.not_mem_nil, or_false] at member
      rcases member with rfl | rfl | rfl <;> exact ⟨_, by omega, rfl⟩
  | a :: b :: c :: rest, d, member => by
      have ha := a.toNat_lt
      have hb := b.toNat_lt
      have hc := c.toNat_lt
      rw [encode_cons, List.mem_append] at member
      rcases member with group | tail
      · simp only [Variant.group, List.mem_cons, List.not_mem_nil, or_false] at group
        rcases group with rfl | rfl | rfl | rfl <;> exact ⟨_, by omega, rfl⟩
      · exact mem_encode tail

/-- No written form holds a point. -/
theorem point_not_mem_encode (b : Bytes) : '.' ∉ encode url b := by
  intro member
  obtain ⟨n, small, same⟩ := mem_encode member
  exact point_ne_symbol n small same

/-- Three octets are four characters, and what is left over rounds up. -/
theorem length_encode : ∀ b : Bytes, (encode url b).length = (b.length * 4 + 2) / 3
  | [] => rfl
  | [a] => by simp [encode_one]
  | [a, b] => by simp [encode_two]
  | a :: b :: c :: rest => by
      rw [encode_cons, List.length_append, length_encode rest]
      simp only [Variant.group, List.length_cons, List.length_nil]
      omega

theorem point_not_mem_of_decode? {cs : List Char} {b : Bytes} (read : decode? url cs = some b) :
    '.' ∉ cs := encode_of_decode? read ▸ point_not_mem_encode b

end SessionAuthority.Base64

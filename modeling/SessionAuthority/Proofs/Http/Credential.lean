import SessionAuthority.Proofs.Http.HeaderValue

/-!
# Which token a request carries

Two carriers, each read by a parser of its own, deliver the token that was put there.

* In the `Authorization` header a value is read up to the padding around it (`says_iff`).  It fails
  to give a token just if it is `Unusable` (`fromAuthorization?_eq_none_iff`): hidden behind an
  octet that is no visible ASCII, of another scheme, or a scheme with nothing behind it.
* The `Cookie` headers are read as the pieces that were joined there, header by header
  (`cookies_written`), and a piece gives a cookie of the name in front of its first equals sign
  (`names_of_cookie?`).

What the first header says is final unless it is unusable, and only then the cookies are asked
(`carriers_agree`).
-/
set_option autoImplicit false

namespace SessionAuthority

/-! ## The `Authorization` header -/

namespace Credential

def IsBearer (scheme : List Char) : Prop := Text.lowerAscii scheme = "bearer".toList

instance (scheme : List Char) : Decidable (IsBearer scheme) :=
  inferInstanceAs (Decidable (_ = _))

theorem fromAuthorization?_of_hidden {value : Bytes} (hidden : visible? value = none) :
    fromAuthorization? value = none := by
  rw [fromAuthorization?, hidden]
  rfl

/-- A text of one word has no token. -/
theorem fromAuthorization?_of_word {value : Bytes} {text : List Char} (stated : Says value text)
    (word : ' ' ∉ text) : fromAuthorization? value = none := by
  obtain ⟨cs, read, rfl⟩ := says_iff.1 stated
  rw [fromAuthorization?, read, Option.bind_eq_bind, Option.bind_some,
    Text.cutFirst?_eq_none_iff.2 word]
  rfl

theorem trimChars_ne_nil {scheme rest : List Char} (trimmed : Trimmed (scheme ++ ' ' :: rest)) :
    Text.trimChars rest ≠ [] := by
  intro none
  obtain ⟨front, back, parts, before, after, -⟩ := Text.trimChars_parts rest
  have blank : ∀ c ∈ ' ' :: rest, Text.isBlank c = true := by
    intro c member
    rw [parts, none, List.append_nil] at member
    rcases List.mem_cons.1 member with rfl | member
    · rfl
    · exact (List.mem_append.1 member).elim (before c) (after c)
  have last := trimmed.2 ((' ' :: rest).getLast (List.cons_ne_nil _ _)) <| by
    rw [List.getLast?_append, List.getLast?_eq_some_getLast (List.cons_ne_nil _ _)]
    rfl
  rw [blank _ (List.getLast_mem _)] at last
  cases last

/-- A text of several words has a token if the first of them says so. -/
theorem fromAuthorization?_of_words {value : Bytes} {scheme rest : List Char}
    (stated : Says value (scheme ++ ' ' :: rest)) (word : ' ' ∉ scheme) :
    fromAuthorization? value =
      if IsBearer scheme then some (Text.trimChars rest) else none := by
  obtain ⟨cs, read, text⟩ := says_iff.1 stated
  have cut : Text.cutFirst? ' ' (Text.trimChars cs) = some (scheme, rest) :=
    Text.cutFirst?_eq_some_iff.2 ⟨text, word⟩
  have filled : (!(Text.trimChars rest).isEmpty) = true := by
    rw [List.isEmpty_eq_false_iff.2 (trimChars_ne_nil stated.trimmed)]
    rfl
  rw [fromAuthorization?, read, Option.bind_eq_bind, Option.bind_some, cut, Option.bind_eq_bind,
    Option.bind_some]
  by_cases bearer : IsBearer scheme
  · rw [if_pos bearer]
    exact (guard_bind bearer _).trans (guard_bind filled _)
  · rw [if_neg bearer]
    exact guard_bind_of_not bearer _

/-- What the first `Authorization` header is when it carries no token. -/
inductive Unusable : Option Bytes → Prop
  /-- There is none. -/
  | absent : Unusable none
  /-- It is not visible ASCII. -/
  | hidden {value : Bytes} {b : UInt8} (member : b ∈ value) (hidden : isVisible b = false) :
      Unusable (some value)
  /-- Its first word is not the scheme. -/
  | otherScheme {value : Bytes} {scheme rest : List Char} (stated : Says value (scheme ++ rest))
      (word : ' ' ∉ scheme) (ends : ∀ c ∈ rest.head?, c = ' ') (other : ¬ IsBearer scheme) :
      Unusable (some value)
  /-- The scheme is all that it says. -/
  | noCredential {value : Bytes} {scheme : List Char} (stated : Says value scheme)
      (bearer : IsBearer scheme) : Unusable (some value)

theorem not_mem_of_isBearer {scheme : List Char} (bearer : IsBearer scheme) : ' ' ∉ scheme := by
  intro member
  have low : ' '.toLower ∈ Text.lowerAscii scheme := List.mem_map_of_mem member
  rw [bearer] at low
  revert low
  decide

/-- A header is unusable, or gives a token. -/
theorem fromAuthorization?_cases (value : Bytes) :
    Unusable (some value) ∨ ∃ token, fromAuthorization? value = some token ∧ token ≠ [] := by
  cases read : visible? value with
  | none =>
      obtain ⟨b, member, hidden⟩ := visible?_eq_none_iff.1 read
      exact .inl (.hidden member hidden)
  | some cs =>
      have stated : Says value (Text.trimChars cs) := says_iff.2 ⟨cs, read, rfl⟩
      cases cut : Text.cutFirst? ' ' (Text.trimChars cs) with
      | none =>
          by_cases bearer : IsBearer (Text.trimChars cs)
          · exact .inl (.noCredential stated bearer)
          · rw [← List.append_nil (Text.trimChars cs)] at stated
            exact .inl (.otherScheme stated (Text.cutFirst?_eq_none_iff.1 cut) (by simp) bearer)
      | some words =>
          obtain ⟨text, word⟩ := Text.cutFirst?_eq_some_iff.1 cut
          rw [text] at stated
          by_cases bearer : IsBearer words.1
          · refine .inr ⟨Text.trimChars words.2, ?_, trimChars_ne_nil stated.trimmed⟩
            exact (fromAuthorization?_of_words stated word).trans (if_pos bearer)
          · exact .inl (.otherScheme stated word (by simp) bearer)

/-- **The first header is unusable just if no token is read from it.** -/
theorem fromAuthorization?_eq_none_iff {header : Option Bytes} :
    header.bind fromAuthorization? = none ↔ Unusable header := by
  constructor
  · intro none
    cases header with
    | none => exact .absent
    | some value =>
        rcases fromAuthorization?_cases value with unusable | ⟨token, read, -⟩
        · exact unusable
        · rw [Option.bind_some, read] at none
          cases none
  · intro unusable
    cases unusable with
    | absent => rfl
    | hidden member hidden =>
        exact fromAuthorization?_of_hidden (visible?_eq_none_iff.2 ⟨_, member, hidden⟩)
    | noCredential stated bearer =>
        exact fromAuthorization?_of_word stated (not_mem_of_isBearer bearer)
    | @otherScheme value scheme rest stated word ends other =>
        cases rest with
        | nil =>
            rw [List.append_nil] at stated
            exact fromAuthorization?_of_word stated word
        | cons c rest =>
            obtain rfl := ends c rfl
            exact (fromAuthorization?_of_words stated word).trans (if_neg other)

/-- The scheme, one blank or more and the token, with padding around the whole. -/
def BearerOf (token : List Char) (value : Bytes) : Prop :=
  ∃ (lead scheme : List Char) (more : Nat) (trail : List Char),
    value = Bytes.ofAscii
        (lead ++ (scheme ++ ' ' :: (List.replicate more ' ' ++ token)) ++ trail) ∧
      Padding lead ∧ Padding trail ∧ IsBearer scheme

theorem graphic_of_toLower {c : Char} (low : Graphic c.toLower) : Graphic c := by
  unfold Char.toLower at low
  split at low
  · rename_i upper
    have above : 65 ≤ c.toNat := UInt32.le_iff_toNat_le.1 upper.1
    have below : c.toNat ≤ 90 := UInt32.le_iff_toNat_le.1 upper.2
    exact ⟨by omega, by omega⟩
  · exact low

theorem graphic_of_isBearer {scheme : List Char} (bearer : IsBearer scheme) :
    ∀ c ∈ scheme, Graphic c := by
  intro c member
  have low : c.toLower ∈ Text.lowerAscii scheme := List.mem_map_of_mem member
  rw [bearer] at low
  have all : ("bearer".toList.all fun d => decide (Graphic d)) = true := by decide
  exact graphic_of_toLower (of_decide_eq_true (List.all_eq_true.1 all _ low))

/-- **A header that brings a token of graphic characters gives just that.** -/
theorem fromAuthorization?_of_bearerOf {token : List Char} {value : Bytes} (filled : token ≠ [])
    (graphic : ∀ c ∈ token, Graphic c) (brings : BearerOf token value) :
    fromAuthorization? value = some token := by
  obtain ⟨lead, scheme, more, trail, rfl, before, after, bearer⟩ := brings
  have word := graphic_of_isBearer bearer
  have trimmed := trimmed_of_graphic graphic
  let gap := List.replicate more ' '
  have blanks : Padding gap := fun c member => .inl (List.eq_of_mem_replicate member)
  have stated : Says (Bytes.ofAscii (lead ++ (scheme ++ ' ' :: (gap ++ token)) ++ trail))
      (scheme ++ ' ' :: (gap ++ token)) := by
    refine ⟨lead, trail, rfl, before, after, ?_, ?_, ?_⟩
    · intro c member
      simp only [List.mem_append, List.mem_cons] at member
      rcases member with letter | rfl | blank | letter
      · exact (word c letter).showable
      · decide
      · exact blanks.shown c blank
      · exact (graphic c letter).showable
    · intro c found
      cases scheme with
      | nil => cases bearer
      | cons d scheme =>
          obtain rfl := Option.some.inj found
          exact Text.isBlank_of_graphic (word d List.mem_cons_self)
    · intro c found
      rw [← List.cons_append, ← List.append_assoc, List.getLast?_append,
        List.getLast?_eq_some_getLast filled] at found
      obtain rfl := Option.some.inj found
      exact trimmed.2 _ (List.getLast?_eq_some_getLast filled)
  have alone : Text.trimChars (gap ++ token) = token := by
    have padded := trimmed.of_padded blanks padding_nil
    rwa [List.append_nil] at padded
  rw [fromAuthorization?_of_words stated (not_mem_of_isBearer bearer), if_pos bearer, alone]

/-! ## Compact tokens -/

/-- A non-empty text of base64url characters and points. -/
def Compact (token : List Char) : Prop :=
  token ≠ [] ∧ ∀ c ∈ token, c.isAlphanum ∨ c = '-' ∨ c = '_' ∨ c = '.'

instance (token : List Char) : Decidable (Compact token) :=
  @instDecidableAnd _ _ inferInstance (List.decidableBAll _ token)

theorem ascii_of_isAlphanum {c : Char} (letter : c.isAlphanum) : c.toNat < 0x80 := by
  have ranges : (decide ('A'.val ≤ c.val ∧ c.val ≤ 'Z'.val) ||
      ('a'.val ≤ c.val && c.val ≤ 'z'.val) || ('0'.val ≤ c.val && c.val ≤ '9'.val)) = true := letter
  simp only [Bool.or_eq_true, Bool.and_eq_true, decide_eq_true_eq] at ranges
  rcases ranges with (⟨-, last⟩ | ⟨-, last⟩) | ⟨-, last⟩
  · exact Nat.lt_of_le_of_lt (UInt32.le_iff_toNat_le.1 last) (by decide)
  · exact Nat.lt_of_le_of_lt (UInt32.le_iff_toNat_le.1 last) (by decide)
  · exact Nat.lt_of_le_of_lt (UInt32.le_iff_toNat_le.1 last) (by decide)

namespace Compact

variable {token : List Char} (compact : Compact token)

include compact

/-- A character of a compact token is graphic, and means nothing in a cookie. -/
theorem plain : ∀ c ∈ token, Graphic c ∧ c ≠ '%' ∧ c ≠ ';' ∧ c ≠ '=' := by
  intro c member
  have ascii : c.toNat < 0x80 := by
    rcases compact.2 c member with letter | rfl | rfl | rfl
    · exact ascii_of_isAlphanum letter
    · decide
    · decide
    · decide
  exact ascii_forall (P := fun c => (c.isAlphanum ∨ c = '-' ∨ c = '_' ∨ c = '.') →
      Graphic c ∧ c ≠ '%' ∧ c ≠ ';' ∧ c ≠ '=')
    (by decide +kernel) ascii (compact.2 c member)

theorem graphic : ∀ c ∈ token, Graphic c := fun c member => (compact.plain c member).1

theorem trimmed : Trimmed token := trimmed_of_graphic compact.graphic

end Compact

/-! ## The `Cookie` headers -/

def cookieField (pieces : List (List Char)) : Bytes := Bytes.ofAscii ([';'].intercalate pieces)

/-- A piece that stays in one when cookies are cut apart. -/
def Piece (cs : List Char) : Prop := ∀ c ∈ cs, Showable c ∧ c ≠ ';'

instance (cs : List Char) : Decidable (Piece cs) := List.decidableBAll _ cs

def Names (piece : List Char) (name : String) : Prop :=
  ∃ before after, piece = before ++ '=' :: after ∧ '=' ∉ before ∧
    percentDecode (Text.trimChars before) = Bytes.ofString name

theorem names_iff {piece : List Char} {name : String} :
    Names piece name ↔
      (Text.cutFirst? '=' piece).map (fun parts => percentDecode (Text.trimChars parts.1)) =
        some (Bytes.ofString name) := by
  rw [Option.map_eq_some_iff]
  constructor
  · rintro ⟨before, after, parts, absent, decoded⟩
    exact ⟨(before, after), Text.cutFirst?_eq_some_iff.2 ⟨parts, absent⟩, decoded⟩
  · rintro ⟨⟨before, after⟩, cut, decoded⟩
    obtain ⟨parts, absent⟩ := Text.cutFirst?_eq_some_iff.1 cut
    exact ⟨before, after, parts, absent, decoded⟩

instance (piece : List Char) (name : String) : Decidable (Names piece name) :=
  decidable_of_iff _ names_iff.symm

theorem shown_intercalate {pieces : List (List Char)} (whole : ∀ p ∈ pieces, Piece p) :
    Shown ([';'].intercalate pieces) := by
  induction pieces with
  | nil =>
      intro c member
      cases member
  | cons p pieces ih =>
      have here (c : Char) (member : c ∈ p) : Showable c :=
        (whole p List.mem_cons_self c member).1
      have later := ih fun q member => whole q (List.mem_cons_of_mem _ member)
      cases pieces with
      | nil =>
          rw [List.intercalate_singleton]
          exact here
      | cons q pieces =>
          intro c member
          rw [List.intercalate_cons_cons, List.mem_append, List.mem_append] at member
          rcases member with (within | sep) | within
          · exact here c within
          · rw [List.mem_singleton.1 sep]
            decide
          · exact later c within

/-- What is cut apart is what was joined; a header of no piece has an empty one, and no cookie. -/
theorem cookies_cut {pieces : List (List Char)} (whole : ∀ p ∈ pieces, Piece p) :
    (Text.splitChars ';' ([';'].intercalate pieces)).filterMap cookie? =
      pieces.filterMap cookie? := by
  by_cases none : pieces = []
  · subst none
    rfl
  · have apart (p : List Char) (member : p ∈ pieces) : ';' ∉ p := fun within =>
      (whole p member ';' within).2 rfl
    have cut : Text.splitChars ';' ([';'].intercalate pieces) = pieces :=
      List.splitOn_intercalate ';' apart none
    rw [cut]

/-- **The cookies of some headers are those of the pieces in them.** -/
theorem cookies_written {jars : List (List (List Char))}
    (whole : ∀ pieces ∈ jars, ∀ p ∈ pieces, Piece p) :
    cookies (jars.map cookieField) = jars.flatten.filterMap cookie? := by
  induction jars with
  | nil => rfl
  | cons pieces jars ih =>
      have here := whole pieces List.mem_cons_self
      have read : visible? (cookieField pieces) = some ([';'].intercalate pieces) :=
        visible?_eq_some_iff.2 ⟨rfl, shown_intercalate here⟩
      rw [List.flatten_cons, List.filterMap_append, ← cookies_cut here,
        ← ih fun others member => whole others (List.mem_cons_of_mem _ member), List.map_cons,
        cookies, List.filterMap_cons_some read, List.flatMap_cons]
      rfl

theorem names_of_cookie? {piece : List Char} {name value : String}
    (read : cookie? piece = some (name, value)) : Names piece name := by
  unfold cookie? at read
  obtain ⟨⟨before, after⟩, cut, read⟩ := Option.bind_eq_some_iff.1 read
  obtain ⟨-, -, read⟩ := Option.bind_eq_some_iff.1 read
  obtain ⟨found, named, read⟩ := Option.bind_eq_some_iff.1 read
  obtain ⟨v, -, same⟩ := Option.bind_eq_some_iff.1 read
  obtain ⟨rfl, absent⟩ := Text.cutFirst?_eq_some_iff.1 cut
  cases same
  exact ⟨before, after, rfl, absent, (Bytes.ofString_of_toString? named).symm⟩

theorem percentDecode_plain {cs : List Char} (plain : '%' ∉ cs) :
    percentDecode cs = Bytes.ofAscii cs := by
  fun_induction percentDecode cs with
  | case1 => exact absurd List.mem_cons_self plain
  | case2 => exact absurd List.mem_cons_self plain
  | case3 c rest _ ih =>
      rw [ih (List.not_mem_of_not_mem_cons plain)]
      rfl
  | case4 => rfl

/-- Nothing in a compact text is escaped. -/
theorem Compact.decoded {cs : List Char} (compact : Compact cs) :
    (percentDecode cs).toString? = some (String.ofList cs) := by
  have plain : '%' ∉ cs := fun within => (compact.plain '%' within).2.1 rfl
  have ascii : ∀ c ∈ cs, c.toNat < 0x80 := fun c member =>
    (compact.graphic c member).showable.ascii
  rw [percentDecode_plain plain, ← Bytes.ofString_ofList ascii, Bytes.toString?_ofString]

/-- **A piece of a compact name and a compact value gives the cookie of both.** -/
theorem cookie?_of_compact {lead name value trail : List Char} (before : Padding lead)
    (after : Padding trail) (named : Compact name) (filled : Compact value) :
    cookie? (lead ++ (name ++ '=' :: value) ++ trail) =
      some (String.ofList name, String.ofList value) := by
  have absent : '=' ∉ lead ++ name := by
    intro within
    rcases List.mem_append.1 within with blank | letter
    · rcases before '=' blank with same | same
      · cases same
      · cases same
    · exact (named.plain '=' letter).2.2.2 rfl
  have cut : Text.cutFirst? '=' (lead ++ (name ++ '=' :: value) ++ trail) =
      some (lead ++ name, value ++ trail) :=
    Text.cutFirst?_eq_some_iff.2 ⟨by simp, absent⟩
  have front : Text.trimChars (lead ++ name) = name := by
    have padded := named.trimmed.of_padded before padding_nil
    rwa [List.append_nil] at padded
  have back : Text.trimChars (value ++ trail) = value :=
    filled.trimmed.of_padded padding_nil after
  have some : (!name.isEmpty) = true := by
    rw [List.isEmpty_eq_false_iff.2 named.1]
    rfl
  rw [cookie?, cut, Option.bind_eq_bind, Option.bind_some]
  dsimp only
  rw [front, back]
  refine (guard_bind some _).trans ?_
  rw [named.decoded, filled.decoded]
  rfl

theorem cookieValue?_of_last {name value : String} {front back : List (String × String)}
    (last : ∀ p ∈ back, p.1 ≠ name) :
    cookieValue? name (front ++ (name, value) :: back) = some value := by
  have behind : back.reverse.lookup name = none := by
    refine List.lookup_eq_none_iff.2 fun p member => ?_
    exact bne_iff_ne.2 (last p (List.mem_reverse.1 member)).symm
  rw [cookieValue?, List.reverse_append, List.reverse_cons, List.append_assoc, List.lookup_append,
    behind, Option.none_or, List.singleton_append, List.lookup_cons_self]

/-- The piece that brings a token, with padding around it. -/
def tokenPiece (lead token trail : List Char) : List Char :=
  lead ++ ("jwt".toList ++ '=' :: token) ++ trail

/-- Some `Cookie` headers in which one piece brings a token, and no piece behind it gives another
cookie of that name. -/
def CookieOf (token : List Char) (values : List Bytes) : Prop :=
  ∃ (jars : List (List (List Char))) (lead trail : List Char) (front back : List (List Char)),
    values = jars.map cookieField ∧ jars.flatten = front ++ tokenPiece lead token trail :: back ∧
      Padding lead ∧ Padding trail ∧ (∀ p ∈ front ++ back, Piece p) ∧
      ∀ p ∈ back, ¬ Names p "jwt"

theorem Padding.piece {cs : List Char} (padding : Padding cs) : Piece cs := by
  intro c member
  rcases padding c member with rfl | rfl
  · decide
  · decide

theorem Compact.piece {cs : List Char} (compact : Compact cs) : Piece cs := by
  intro c member
  obtain ⟨graphic, -, whole, -⟩ := compact.plain c member
  exact ⟨graphic.showable, whole⟩

theorem compact_jwt : Compact "jwt".toList := by decide +kernel

theorem piece_tokenPiece {lead token trail : List Char} (compact : Compact token)
    (before : Padding lead) (after : Padding trail) : Piece (tokenPiece lead token trail) := by
  intro c member
  simp only [tokenPiece, List.mem_append, List.mem_cons] at member
  rcases member with (blank | name | rfl | letter) | blank
  · exact before.piece c blank
  · exact compact_jwt.piece c name
  · decide
  · exact compact.piece c letter
  · exact after.piece c blank

/-- **Cookies that bring a compact token give just that.** -/
theorem cookieValue?_of_cookieOf {token : List Char} {values : List Bytes}
    (compact : Compact token) (brings : CookieOf token values) :
    cookieValue? "jwt" (cookies values) = some (String.ofList token) := by
  obtain ⟨jars, lead, trail, front, back, rfl, laid, before, after, others, last⟩ := brings
  have whole : ∀ pieces ∈ jars, ∀ p ∈ pieces, Piece p := by
    intro pieces member p within
    have there : p ∈ jars.flatten := List.mem_flatten.2 ⟨pieces, member, within⟩
    rw [laid, List.mem_append, List.mem_cons] at there
    rcases there with front | rfl | back
    · exact others p (List.mem_append_left _ front)
    · exact piece_tokenPiece compact before after
    · exact others p (List.mem_append_right _ back)
  have read : cookie? (tokenPiece lead token trail) =
      some (String.ofList "jwt".toList, String.ofList token) :=
    cookie?_of_compact before after compact_jwt compact
  rw [cookies_written whole, laid, List.filterMap_append, List.filterMap_cons_some read]
  refine cookieValue?_of_last fun cookie member same => ?_
  obtain ⟨p, within, named⟩ := List.mem_filterMap.1 member
  have names : Names p cookie.1 := names_of_cookie? named
  rw [same] at names
  exact last p within names

/-! ## The token of a request -/

theorem token?_of_read {h : Headers} {token : List Char}
    (read : (h.first? "authorization").bind fromAuthorization? = some token) :
    token? h = some (String.ofList token) := by
  rw [token?, read]

theorem token?_of_unusable {h : Headers} (unusable : Unusable (h.first? "authorization")) :
    token? h = (cookieValue? "jwt" (cookies (h.all "cookie"))).filter (· != "") := by
  rw [token?, fromAuthorization?_eq_none_iff.2 unusable]

theorem ofList_ne_empty {cs : List Char} (some : cs ≠ []) : String.ofList cs ≠ "" := by
  intro empty
  have chars := congrArg String.toList empty
  rw [String.toList_ofList] at chars
  exact some chars

/-- The first header is unusable, or it decides alone. -/
theorem unusable_or_read (header : Option Bytes) :
    Unusable header ∨ ∃ token, header.bind fromAuthorization? = some token ∧ token ≠ [] := by
  cases header with
  | none => exact .inl .absent
  | some value => exact fromAuthorization?_cases value

/-- **Both carriers deliver the token that they were given.**  The first `Authorization` header does
whatever else there is; the cookies do just if that header is absent or unusable.  No token is
empty. -/
theorem carriers_agree (h : Headers) :
    (∀ token value, Compact token → h.first? "authorization" = some value →
      BearerOf token value → token? h = some (String.ofList token)) ∧
    (∀ token, Compact token → Unusable (h.first? "authorization") →
      CookieOf token (h.all "cookie") → token? h = some (String.ofList token)) ∧
    (¬ Unusable (h.first? "authorization") → ∃ token, ∀ other : Headers,
      other.first? "authorization" = h.first? "authorization" → token? other = some token) ∧
    ∀ token, token? h = some token → token ≠ "" := by
  refine ⟨?_, ?_, ?_, ?_⟩
  · intro token value compact first brings
    refine token?_of_read ?_
    rw [first, Option.bind_some,
      fromAuthorization?_of_bearerOf compact.1 compact.graphic brings]
  · intro token compact unusable brings
    rw [token?_of_unusable unusable, cookieValue?_of_cookieOf compact brings]
    exact if_pos (bne_iff_ne.2 (ofList_ne_empty compact.1))
  · intro usable
    rcases unusable_or_read (h.first? "authorization") with unusable | ⟨token, read, -⟩
    · exact absurd unusable usable
    · refine ⟨String.ofList token, fun other same => token?_of_read ?_⟩
      rw [same, read]
  · intro token carried
    rcases unusable_or_read (h.first? "authorization") with unusable | ⟨cs, read, some⟩
    · rw [token?_of_unusable unusable, Option.filter_eq_some_iff] at carried
      exact bne_iff_ne.1 carried.2
    · rw [token?_of_read read] at carried
      cases carried
      exact ofList_ne_empty some

/-- A token of both letter cases, a digit and each of the other characters. -/
def sampleToken : List Char := "aZ.0-_".toList

/-- The token comes behind a scheme in odd letters, or in the second of two `Cookie` headers next to
another scheme. -/
theorem carriers_agree_both_ways :
    (let h : Headers := [("cookie", Bytes.ofString "jwt=other"),
      ("authorization", Bytes.ofString "\t bEARer   aZ.0-_ ")]
    token? h = some "aZ.0-_") ∧
    (let h : Headers := [("authorization", Bytes.ofString "Basic dXNlcg"),
      ("cookie", Bytes.ofString "theme=dark; jwtx=1"),
      ("cookie", Bytes.ofString "lang=en; jwt=aZ.0-_ ;a=b")]
    token? h = some "aZ.0-_") := by
  have compact : Compact sampleToken := by decide +kernel
  constructor
  · intro h
    have brings : BearerOf sampleToken (Bytes.ofString "\t bEARer   aZ.0-_ ") := by
      refine ⟨"\t ".toList, "bEARer".toList, 2, " ".toList, ?_, ?_, ?_, ?_⟩ <;> decide +kernel
    exact (carriers_agree h).1 sampleToken _ compact rfl brings
  · intro h
    have basic : Says (Bytes.ofString "Basic dXNlcg") ("Basic".toList ++ " dXNlcg".toList) := by
      refine ⟨[], [], by decide +kernel, padding_nil, padding_nil, by decide +kernel, ?_, ?_⟩
      · rintro c ⟨⟩
        rfl
      · rintro c ⟨⟩
        rfl
    have unusable : Unusable (h.first? "authorization") := by
      refine .otherScheme basic (by decide +kernel) ?_ (by decide +kernel)
      rintro c ⟨⟩
      rfl
    have brings : CookieOf sampleToken (h.all "cookie") := by
      refine ⟨[["theme=dark".toList, " jwtx=1".toList],
          ["lang=en".toList, tokenPiece " ".toList sampleToken " ".toList, "a=b".toList]],
        " ".toList, " ".toList, ["theme=dark".toList, " jwtx=1".toList, "lang=en".toList],
        ["a=b".toList], ?_, ?_, ?_, ?_, ?_, ?_⟩ <;> decide +kernel
    exact (carriers_agree h).2.1 sampleToken compact unusable brings

end Credential

end SessionAuthority

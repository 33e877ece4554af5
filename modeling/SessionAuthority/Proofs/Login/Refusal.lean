import Mathlib.Control.Monad.Basic
import SessionAuthority.Proofs.Login.Announcement

/-!
# What a refused body is told

The message is taken from the text of the fault, by the words that announce a missing field, and
what is named there is the word behind the first announcement (`message_of_first`).  So a message
names a field that is really missing, or nothing that the client chose (`BodyKind.Honest`), as long
as no quoted string announces one (`BodyKind.honest_of_unplanted`); and through one that does a
client can have any word told (`BodyKind.accept_planted`).
-/
set_option autoImplicit false

namespace SessionAuthority

/-! ## Messages -/

namespace BodyFault

theorem behind?_eq_none {mark text : List Char} (filled : mark ≠ [])
    (absent : ¬ mark <:+: text) : behind? mark text = none := by
  induction text with
  | nil =>
      rw [behind?, if_neg]
      exact fun empty => filled (List.isEmpty_iff.1 empty)
  | cons c text ih =>
      rw [List.infix_cons_iff, not_or] at absent
      rw [behind?, if_neg, ih absent.2]
      exact fun starts => absent.1 (List.isPrefixOf_iff_prefix.1 starts)

/-- The first occurrence of a mark is the one whose first character occurs first. -/
theorem behind?_of_front {c : Char} {mark front after : List Char} (absent : c ∉ front) :
    behind? (c :: mark) (front ++ (c :: mark ++ after)) = some after := by
  induction front with
  | nil =>
      have starts : (c :: mark).isPrefixOf (c :: mark ++ after) = true :=
        List.isPrefixOf_iff_prefix.2 (List.prefix_append ..)
      rw [List.nil_append, List.cons_append, behind?]
      exact (if_pos starts).trans (congrArg some (List.drop_left ..))
  | cons d front ih =>
      have other : ¬ (c :: mark).isPrefixOf (d :: (front ++ (c :: mark ++ after))) = true := by
        intro starts
        obtain ⟨rfl, -⟩ := List.cons_prefix_cons.1 (List.isPrefixOf_iff_prefix.1 starts)
        exact absent List.mem_cons_self
      rw [List.cons_append, behind?, if_neg other, ih (List.not_mem_of_not_mem_cons absent)]

theorem ahead_eq_append (mark done text : List Char) :
    ahead mark done text = done.reverse ++ ahead mark [] text := by
  induction text generalizing done with
  | nil => simp [ahead]
  | cons c text ih =>
      rw [ahead, ahead]
      split
      · simp
      · rw [ih (c :: done), ih [c]]
        simp

/-- Words of several do not start where one word is followed by a backtick. -/
theorem not_prefix_of_word {before after word tail : List Char} {blank tick : Char}
    (first : tick ∉ before) (differs : blank ≠ tick) (single : blank ∉ word) :
    ¬ before ++ blank :: after <+: word ++ tick :: tail := by
  intro starts
  induction word generalizing before with
  | nil =>
      cases before with
      | nil => exact differs (List.cons_prefix_cons.1 starts).1
      | cons d before =>
          obtain ⟨rfl, -⟩ := List.cons_prefix_cons.1 starts
          exact first List.mem_cons_self
  | cons c word ih =>
      cases before with
      | nil =>
          obtain ⟨rfl, -⟩ := List.cons_prefix_cons.1 starts
          exact single List.mem_cons_self
      | cons d before =>
          obtain ⟨-, more⟩ := List.cons_prefix_cons.1 starts
          exact ih (List.not_mem_of_not_mem_cons first) (List.not_mem_of_not_mem_cons single) more

/-- A word in front of a backtick is left whole where the text is cut at the next announcement. -/
theorem ahead_word {word tail : List Char} (single : ' ' ∉ word) :
    ∃ rest, ahead missingMark [] (word ++ '`' :: tail) = word ++ '`' :: rest := by
  have cut : missingMark = "missing".toList ++ ' ' :: "field `".toList := by decide
  have apart {word : List Char} (single : ' ' ∉ word) :
      ¬ missingMark.isPrefixOf (word ++ '`' :: tail) = true := by
    rw [List.isPrefixOf_iff_prefix, cut]
    exact not_prefix_of_word (by decide) (by decide) single
  induction word with
  | nil =>
      have here : ¬ missingMark.isPrefixOf ('`' :: tail) = true := apart single
      refine ⟨ahead missingMark [] tail, ?_⟩
      rw [List.nil_append, ahead, if_neg here, ahead_eq_append]
      rfl
  | cons c word ih =>
      obtain ⟨rest, same⟩ := ih (List.not_mem_of_not_mem_cons single)
      refine ⟨rest, ?_⟩
      have here := apart single
      rw [List.cons_append] at here ⊢
      rw [ahead, if_neg here, ahead_eq_append, same]
      rfl

/-- What a client may be told of a body that lacks no field. -/
def standing : List String :=
  ["Missing 'Content-Type: application/json' header", "Invalid field type in request",
    "Invalid request body"]

theorem message_of_silent {body : Bytes} {f : BodyFault}
    (silent : ¬ Announces (f.text body).toList) : f.message body ∈ standing := by
  have unmarked : behind? missingMark (f.text body).toList = none :=
    behind?_eq_none (by decide) silent
  unfold message
  split
  · exact List.mem_cons_self
  · dsimp only
    rw [unmarked]
    dsimp only
    split
    · simp [standing]
    · simp [standing]

/-- The word behind the first announcement is told as that of a missing field. -/
theorem message_of_first {f : Json.RecordFault} {body : Bytes} {word : String}
    {front tail : List Char} (single : OneWord word) (absent : 'm' ∉ front)
    (whole : ((record f).text body).toList =
      front ++ (missingMark ++ (word.toList ++ '`' :: tail))) :
    (record f).message body = word ++ " is required" := by
  have behind : behind? missingMark (front ++ (missingMark ++ (word.toList ++ '`' :: tail))) =
      some (word.toList ++ '`' :: tail) := behind?_of_front absent
  obtain ⟨later, cut⟩ : ∃ later, ahead missingMark [] (word.toList ++ '`' :: tail) =
      word.toList ++ '`' :: later := ahead_word single.1
  have named : (word.toList ++ '`' :: later).takeWhile (· != '`') = word.toList := by
    have plain : ∀ c ∈ word.toList, (c != '`') = true := by
      intro c member
      exact bne_iff_ne.2 fun same => single.2 (same ▸ member)
    rw [List.takeWhile_append_of_pos plain, List.takeWhile_cons_of_neg (by decide),
      List.append_nil]
  unfold message
  rw [if_neg (by intro same; cases same)]
  dsimp only
  rw [whole, behind]
  dsimp only
  rw [cut, named, String.ofList_toList]

/-- A missing field is named. -/
theorem message_of_missing {name : String} (single : OneWord name) (body rest : Bytes)
    (peeked : Bool) :
    (record ⟨.whole, ⟨.missingField name, rest, peeked⟩⟩).message body =
      name ++ " is required" := by
  obtain ⟨lead, tail, parts, front, -⟩ :=
    text_parts body ⟨.whole, ⟨.missingField name, rest, peeked⟩⟩
  have words : (Json.Cause.missingField name).text.toList =
      missingMark ++ (name.toList ++ ['`']) := toList_three ..
  have whole : ((record ⟨.whole, ⟨.missingField name, rest, peeked⟩⟩).text body).toList =
      lead ++ (missingMark ++ (name.toList ++ '`' :: tail)) := by
    rw [parts, words, List.append_assoc, List.append_assoc]
    rfl
  exact message_of_first single front whole

def planted (word : String) : String := "missing field `" ++ word ++ "`"

/-- A word whose characters show by themselves is announced in quotes too. -/
theorem quoted_planted {word : String} (shown : ∀ c ∈ word.toList, Text.quotedChar c = [c]) :
    (Text.quoted (planted word)).toList =
      '"' :: (missingMark ++ (word.toList ++ ['`'])) ++ ['"'] := by
  have letters : (planted word).toList = missingMark ++ (word.toList ++ ['`']) := toList_three ..
  have plain : word.toList.flatMap Text.quotedChar = word.toList := by
    rw [List.flatMap_congr shown]
    exact List.flatMap_singleton' _
  have mark : missingMark.flatMap Text.quotedChar = missingMark := by decide +kernel
  have tick : ['`'].flatMap Text.quotedChar = ['`'] := by decide +kernel
  rw [Text.quoted, String.toList_ofList, letters, List.flatMap_append, List.flatMap_append, mark,
    plain, tick]

/-- The word that a quoted text announces is told as that of a missing field. -/
theorem message_of_planted {word : String} (single : OneWord word)
    (shown : ∀ c ∈ word.toList, Text.quotedChar c = [c]) (body rest : Bytes) (peeked : Bool)
    (expected : String) :
    (record ⟨.whole, ⟨.invalidType (.str (planted word)) expected, rest, peeked⟩⟩).message body =
      word ++ " is required" := by
  obtain ⟨lead, tail, parts, front, -⟩ :=
    text_parts body ⟨.whole, ⟨.invalidType (.str (planted word)) expected, rest, peeked⟩⟩
  have found : (Json.Found.str (planted word)).text.toList =
      "string ".toList ++ (Text.quoted (planted word)).toList := String.toList_append
  have words : (Json.Cause.invalidType (.str (planted word)) expected).text.toList =
      "invalid type: ".toList ++ ((Json.Found.str (planted word)).text.toList ++
        (", expected " ++ expected).toList) := toList_pieces ..
  have absent : 'm' ∉ lead ++ ("invalid type: ".toList ++ ("string ".toList ++ ['"'])) := by
    have words : 'm' ∉ "invalid type: ".toList ++ ("string ".toList ++ ['"']) := by decide
    exact fun member => (List.mem_append.1 member).elim front words
  have whole : ((record ⟨.whole, ⟨.invalidType (.str (planted word)) expected, rest,
      peeked⟩⟩).text body).toList =
      (lead ++ ("invalid type: ".toList ++ ("string ".toList ++ ['"']))) ++ (missingMark ++
        (word.toList ++ '`' :: ('"' :: (", expected " ++ expected).toList ++ tail))) := by
    rw [parts, words, found, quoted_planted shown]
    generalize missingMark = mark
    simp only [List.append_assoc, List.cons_append, List.nil_append]
    rfl
  exact message_of_first single absent whole

end BodyFault

/-! ## Refusals -/

namespace BodyKind

variable {α : Type}

/-- A string that the refusal of a body quotes. -/
def Quotes (kind : BodyKind α) (headers : Headers) (body : Bytes) (s : String) : Prop :=
  ∃ f, kind.read headers body = .error (.record f) ∧ f.Quotes s

/-- No string of the body that its refusal quotes announces a missing field. -/
def Unplanted (kind : BodyKind α) (headers : Headers) (body : Bytes) : Prop :=
  ∀ s, Json.Spells body s → kind.Quotes headers body s → ¬ BodyFault.Announces s.toList

/-- A message that names a field as missing only if the body opens with an object that lacks that
field of the record, and that is one of a few otherwise. -/
def Honest (kind : BodyKind α) (body : Bytes) (message : String) : Prop :=
  (∀ name, message = name ++ " is required" →
    name ∈ kind.shape.fields ∧ Json.Shape.OpensWithout name body) ∧
  (message ∈ BodyFault.standing ∨ ∃ name ∈ kind.shape.fields, message = name ++ " is required")

theorem read_eq_error {kind : BodyKind α} {headers : Headers} {body : Bytes} {f : BodyFault}
    (failed : kind.read headers body = .error f) :
    f = .notJson ∨ f = .tooLong ∨ ∃ g, f = .record g ∧ kind.shape.Refuses body g := by
  unfold read at failed
  split at failed
  · cases failed
    exact .inl rfl
  split at failed
  · cases failed
    exact .inr (.inl rfl)
  split at failed
  · rename_i g refused
    cases failed
    exact .inr (.inr ⟨g, rfl, Json.Shape.parse_refuses refused⟩)
  · cases failed

/-- What is refused with this status could not be read. -/
theorem read_of_accept {kind : BodyKind α} {headers : Headers} {body : Bytes} {message : String}
    (refused : kind.accept headers body = .error (.badRequest message)) :
    ∃ f, kind.read headers body = .error f ∧ f.message body = message := by
  unfold accept at refused
  split at refused
  · rename_i f failed
    cases refused
    exact ⟨f, failed, rfl⟩
  · split at refused <;> cases refused

theorem honest_of_standing {kind : BodyKind α} {body : Bytes} {message : String}
    (stands : message ∈ BodyFault.standing) : kind.Honest body message := by
  refine ⟨?_, .inl stands⟩
  intro name same
  have ends : " is required".toList <:+ message.toList := by
    rw [same, String.toList_append]
    exact List.suffix_append ..
  have none : (BodyFault.standing.all fun m =>
      !" is required".toList.isSuffixOf m.toList) = true := by decide
  have differs := List.all_eq_true.1 none message stands
  rw [List.isSuffixOf_iff_suffix.2 ends] at differs
  cases differs

/-- **A message is honest unless a quoted string announces a missing field.** -/
theorem honest_of_unplanted {kind : BodyKind α} (plain : kind.shape.Plain) {headers : Headers}
    {body : Bytes} {message : String}
    (refused : kind.accept headers body = .error (.badRequest message))
    (unplanted : kind.Unplanted headers body) : kind.Honest body message := by
  obtain ⟨f, failed, rfl⟩ := read_of_accept refused
  rcases read_eq_error failed with rfl | rfl | ⟨g, rfl, refuses⟩
  · exact honest_of_standing List.mem_cons_self
  · refine honest_of_standing (BodyFault.message_of_silent ?_)
    have silent : '`' ∉ "Failed to buffer the request body: length limit exceeded".toList := by
      decide
    exact BodyFault.not_announces (by decide) silent
  cases refuses with
  | amiss amiss =>
      refine honest_of_standing (BodyFault.message_of_silent fun announced => ?_)
      obtain ⟨s, quotes, announces⟩ := BodyFault.announces_of_amiss plain amiss announced
      exact unplanted s (quotes.spells (.amiss amiss)) ⟨g, failed, quotes⟩ announces
  | @missing name rest peeked field lacks =>
      rw [BodyFault.message_of_missing (plain.2 name field)]
      refine ⟨?_, .inr ⟨name, field, rfl⟩⟩
      intro other same
      have letters := congrArg String.toList same
      rw [String.toList_append, String.toList_append] at letters
      obtain rfl : name = other := String.toList_inj.1 (List.append_cancel_right letters)
      exact ⟨field, lacks⟩

/-- **A client can have any word told as the name of a missing field**, by a body that is a string
in which it is announced. -/
theorem accept_planted {kind : BodyKind α} {headers : Headers} (json : headers.saysJson = true)
    {word : String} (single : OneWord word) (shown : ∀ c ∈ word.toList, Text.quotedChar c = [c])
    (short : (Json.renderString (BodyFault.planted word)).length ≤ bodyLimit) :
    kind.accept headers (Json.renderString (BodyFault.planted word)) =
      .error (.badRequest (word ++ " is required")) := by
  have failed : kind.read headers (Json.renderString (BodyFault.planted word)) =
      .error (.record ⟨.whole, ⟨.invalidType (.str (BodyFault.planted word))
        ("struct " ++ kind.shape.title), [], false⟩⟩) := by
    rw [read, json, if_neg (by decide), if_neg (Nat.not_lt.2 short),
      Json.Shape.parse_renderString]
  rw [accept, failed]
  dsimp only
  rw [BodyFault.message_of_planted single shown]

end BodyKind

/-! ## Logins and refreshes -/

/-- **The messages of refused logins and refreshes are honest unless a quoted string announces a
missing field.** -/
theorem refusals_honest (headers : Headers) (body : Bytes) (message : String) :
    (LoginRequest.kind.Unplanted headers body →
      LoginRequest.kind.accept headers body = .error (.badRequest message) →
        LoginRequest.kind.Honest body message) ∧
    (RefreshRequest.kind.Unplanted headers body →
      RefreshRequest.kind.accept headers body = .error (.badRequest message) →
        RefreshRequest.kind.Honest body message) := by
  have login : LoginRequest.kind.shape.Plain := by decide +kernel
  have refresh : RefreshRequest.kind.shape.Plain := by decide +kernel
  constructor
  · intro unplanted refused
    exact BodyKind.honest_of_unplanted login refused unplanted
  · intro unplanted refused
    exact BodyKind.honest_of_unplanted refresh refused unplanted

def jsonHeaders : Headers := [("content-type", Bytes.ofString "application/json")]

/-- What stands behind the object is not looked at when it lacks a field. -/
example : LoginRequest.kind.accept jsonHeaders (Bytes.ofString "\x7b\x7d x") =
    .error (.badRequest "email is required") := by decide +kernel

/-- Of an object with a password alone, a login is told that the email is missing and a refresh that
the token is. -/
theorem refusals_honest_password_alone :
    let body := Bytes.ofString "\x7b\"password\":\"hunter22\"\x7d"
    LoginRequest.kind.accept jsonHeaders body = .error (.badRequest "email is required") ∧
      LoginRequest.kind.Honest body "email is required" ∧
      RefreshRequest.kind.accept jsonHeaders body = .error (.badRequest "token is required") ∧
      RefreshRequest.kind.Honest body "token is required" := by
  intro body
  have unplanted {α : Type} {kind : BodyKind α} {name : String} {rest : Bytes} {peeked : Bool}
      (failed : kind.read jsonHeaders body =
        .error (.record ⟨.whole, ⟨.missingField name, rest, peeked⟩⟩)) :
      kind.Unplanted jsonHeaders body := by
    rintro s - ⟨f, again, quotes⟩
    cases failed.symm.trans again
    cases quotes
  have login : LoginRequest.kind.read jsonHeaders body =
      .error (.record ⟨.whole, ⟨.missingField "email", [], false⟩⟩) := by decide +kernel
  have refresh : RefreshRequest.kind.read jsonHeaders body =
      .error (.record ⟨.whole, ⟨.missingField "token", [], false⟩⟩) := by decide +kernel
  have loginTold : LoginRequest.kind.accept jsonHeaders body =
      .error (.badRequest "email is required") := by decide +kernel
  have refreshTold : RefreshRequest.kind.accept jsonHeaders body =
      .error (.badRequest "token is required") := by decide +kernel
  have honest := refusals_honest jsonHeaders body
  exact ⟨loginTold, (honest _).1 (unplanted login) loginTold, refreshTold,
    (honest _).2 (unplanted refresh) refreshTold⟩

/-- **A string can plant the name of a missing field.**  This one is no object, and neither kind of
record has a field of this name. -/
theorem refusals_planted :
    let body := Bytes.ofString "\"missing field `x`\""
    LoginRequest.kind.accept jsonHeaders body = .error (.badRequest "x is required") ∧
      RefreshRequest.kind.accept jsonHeaders body = .error (.badRequest "x is required") ∧
      ¬ LoginRequest.kind.Honest body "x is required" ∧
      ¬ RefreshRequest.kind.Honest body "x is required" := by
  intro body
  have told : "x is required" = "x" ++ " is required" := by decide +kernel
  have written : body = Json.renderString (BodyFault.planted "x") := by decide +kernel
  have single : OneWord "x" := by decide +kernel
  have shown : ∀ c ∈ "x".toList, Text.quotedChar c = [c] := by
    intro c among
    obtain rfl : c = 'x' := by simpa using among
    decide
  have json : jsonHeaders.saysJson = true := by decide +kernel
  have short : (Json.renderString (BodyFault.planted "x")).length ≤ bodyLimit := by decide +kernel
  rw [written, told]
  refine ⟨BodyKind.accept_planted json single shown short,
    BodyKind.accept_planted json single shown short, ?_, ?_⟩
  · rintro ⟨names, -⟩
    exact absurd (names "x" rfl).1 (by decide +kernel)
  · rintro ⟨names, -⟩
    exact absurd (names "x" rfl).1 (by decide +kernel)

end SessionAuthority

import Mathlib.Control.Monad.Basic
import Mathlib.Data.List.Pairwise
import SessionAuthority.Directory
import SessionAuthority.Proofs.Text

/-!
# Who is found in a directory

A directory lists its users under one key and looks identities up under another: the lower case of
the email as it stands, and the lower case of the trimmed identity.

* A list of users makes a directory just if no two of them would be listed under one key
  (`ofUsers_cases`), and then an identity names just those who are listed under the key that it is
  looked up under (`find?_eq_some_iff`).
* The two keys of a text are the same just if no white space stands at its ends: lower case loses
  no character, so what trimming removes is missed (`lower_trim_iff`).

So a user is found by the email that is listed for him unless white space stands at one of its ends,
and in that case he never is (`ofUsers_finds`, `ofUsers_blank_email`).
-/
set_option autoImplicit false

namespace SessionAuthority

namespace Text

/-! ## Lower case and trimming -/

def lowerWidth (c : Char) : Nat := if c = '\u0130' then 2 else 1

def lowerLength : List Char → Nat
  | [] => 0
  | c :: cs => lowerWidth c + lowerLength cs

theorem length_lowerFrom (before cs : List Char) :
    (lowerFrom before cs).length = lowerLength cs := by
  induction cs generalizing before with
  | nil => rfl
  | cons c cs ih =>
      have low : (if c = '\u0130' then ['i', '\u0307']
          else if c = '\u03a3' then
            if casedAhead before && !casedAhead cs then ['\u03c2'] else ['\u03c3']
          else [lowerChar c]).length = lowerWidth c := by
        unfold lowerWidth
        split
        · rfl
        · split
          · split <;> rfl
          · rfl
      rw [lowerFrom, List.length_append, low, ih, lowerLength]

theorem lowerLength_append (as bs : List Char) :
    lowerLength (as ++ bs) = lowerLength as + lowerLength bs := by
  induction as with
  | nil => exact (Nat.zero_add _).symm
  | cons c as ih => rw [List.cons_append, lowerLength, ih, lowerLength, Nat.add_assoc]

theorem length_le_lowerLength (cs : List Char) : cs.length ≤ lowerLength cs := by
  induction cs with
  | nil => exact Nat.le_refl 0
  | cons c cs ih =>
      have here : 1 ≤ lowerWidth c := by
        unfold lowerWidth
        split <;> decide
      rw [List.length_cons, lowerLength]
      omega

/-- **Lower case tells a text from its trimmed one.** -/
theorem lower_trim_iff (s : String) : lower (trim s) = lower s ↔ trim s = s := by
  constructor
  · intro same
    obtain ⟨front, back, parts, -⟩ := trimChars_parts s.toList
    have lengths := congrArg (fun t : String => t.toList.length) same
    simp only [lower, trim, String.toList_ofList, length_lowerFrom] at lengths
    have whole := congrArg lowerLength parts
    rw [lowerLength_append, lowerLength_append] at whole
    have first := length_le_lowerLength front
    have last := length_le_lowerLength back
    obtain rfl : front = [] := List.length_eq_zero_iff.1 (by omega)
    obtain rfl : back = [] := List.length_eq_zero_iff.1 (by omega)
    rw [List.nil_append, List.append_nil] at parts
    rw [trim, ← parts, String.ofList_toList]
  · intro same
    rw [same]

end Text

namespace Directory

/-! ## What a list of users comes to -/

/-- The users that a directory lists, each under his own key. -/
def Lists (d : Directory) (users : List User) : Prop :=
  d.users = users.map fun u => (listedUnder u.email, u)

/-- No two users would be listed under one key. -/
def Apart (users : List User) : Prop :=
  users.Pairwise fun u v => listedUnder u.email ≠ listedUnder v.email

section Lists

variable {d : Directory} {users : List User}

theorem lookup_of_lists (lists : d.Lists users) (apart : Apart users) {key : String} {u : User} :
    d.users.lookup key = some u ↔ u ∈ users ∧ listedUnder u.email = key := by
  unfold Lists at lists
  rw [lists]
  clear lists
  induction users with
  | nil => simp
  | cons v users ih =>
      obtain ⟨others, apart⟩ := List.pairwise_cons.1 apart
      rw [List.map_cons, List.lookup_cons]
      by_cases here : key = listedUnder v.email
      · subst here
        simp only [beq_self_eq_true, Option.some.injEq, List.mem_cons]
        constructor
        · rintro rfl
          exact ⟨.inl rfl, rfl⟩
        · rintro ⟨rfl | later, same⟩
          · rfl
          · exact absurd same.symm (others u later)
      · have differs : (key == listedUnder v.email) = false := by simpa using here
        rw [differs]
        simp only [ih apart, List.mem_cons]
        constructor
        · rintro ⟨later, same⟩
          exact ⟨.inr later, same⟩
        · rintro ⟨rfl | later, same⟩
          · exact absurd same.symm here
          · exact ⟨later, same⟩

/-- A user is listed if the key is free, and refused if it is not. -/
theorem insert_cases (lists : d.Lists users) (apart : Apart users) (u : User) :
    (∃ next, d.insert u = .ok next ∧ next.Lists (users ++ [u]) ∧ Apart (users ++ [u])) ∨
      (d.insert u = .error (.duplicate (listedUnder u.email)) ∧
        ∃ v ∈ users, listedUnder v.email = listedUnder u.email) := by
  cases found : d.users.lookup (listedUnder u.email) with
  | none =>
      have free : ∀ v ∈ users, listedUnder v.email ≠ listedUnder u.email := by
        intro v member same
        rw [(lookup_of_lists lists apart).2 ⟨member, same⟩] at found
        cases found
      refine .inl ⟨⟨d.users ++ [(listedUnder u.email, u)]⟩, ?_, ?_, ?_⟩
      · simp [insert, found]
      · unfold Lists at lists ⊢
        rw [lists, List.map_append]
        rfl
      · refine List.pairwise_append.2 ⟨apart, List.pairwise_singleton _ _, ?_⟩
        intro v member w last
        rw [List.mem_singleton.1 last]
        exact free v member
  | some v =>
      refine .inr ⟨by simp [insert, found], v, (lookup_of_lists lists apart).1 found⟩

/-- Users who are listed after others. -/
theorem foldlM_insert_cases (lists : d.Lists users) (apart : Apart users) (more : List User) :
    (∃ last, more.foldlM insert d = .ok last ∧ last.Lists (users ++ more) ∧
        Apart (users ++ more)) ∨
      ∃ key, more.foldlM insert d = .error (.duplicate key) ∧ ¬ Apart (users ++ more) := by
  induction more generalizing d users with
  | nil =>
      rw [List.append_nil]
      exact .inl ⟨d, rfl, lists, apart⟩
  | cons u more ih =>
      rcases insert_cases lists apart u with
        ⟨next, inserted, lists, apart⟩ | ⟨refused, v, member, same⟩
      · rw [List.foldlM_cons, inserted]
        have rest := ih lists apart
        rw [List.append_assoc, List.singleton_append] at rest
        exact rest
      · refine .inr ⟨listedUnder u.email, ?_, ?_⟩
        · rw [List.foldlM_cons, refused]
          rfl
        · intro apart
          obtain ⟨-, -, between⟩ := List.pairwise_append.1 apart
          exact between v member u List.mem_cons_self same

end Lists

/-- **A list of users makes a directory unless two of them share a key.** -/
theorem ofUsers_cases (users : List User) :
    (∃ d, ofUsers users = .ok d ∧ d.Lists users ∧ Apart users) ∨
      ∃ key, ofUsers users = .error (.duplicate key) ∧ ¬ Apart users := by
  have lists : empty.Lists [] := rfl
  exact foldlM_insert_cases lists .nil users

/-- **An identity names the one user who is listed under its key.** -/
theorem find?_eq_some_iff {users : List User} {d : Directory} (made : ofUsers users = .ok d)
    {identity : String} {u : User} :
    d.find? identity = some u ↔ u ∈ users ∧ listedUnder u.email = lookedUpUnder identity := by
  rcases ofUsers_cases users with ⟨d', made', lists, apart⟩ | ⟨key, refused, -⟩
  · obtain rfl : d = d' := Except.ok.inj (made.symm.trans made')
    exact lookup_of_lists lists apart
  · rw [made] at refused
    cases refused

theorem size_of_made {users : List User} {d : Directory} (made : ofUsers users = .ok d) :
    d.size = users.length := by
  rcases ofUsers_cases users with ⟨d', made', lists, -⟩ | ⟨key, refused, -⟩
  · obtain rfl : d = d' := Except.ok.inj (made.symm.trans made')
    unfold Lists at lists
    rw [size, lists, List.length_map]
  · rw [made] at refused
    cases refused

theorem refused_iff {users : List User} :
    (∃ key, ofUsers users = .error (.duplicate key)) ↔ ¬ Apart users := by
  rcases ofUsers_cases users with ⟨d, made, -, apart⟩ | ⟨key, refused, shared⟩
  · constructor
    · rintro ⟨key, refused⟩
      rw [made] at refused
      cases refused
    · intro shared
      exact absurd apart shared
  · exact ⟨fun _ => shared, fun _ => ⟨key, refused⟩⟩

/-! ## Identities -/

/-- No directory tells the two identities apart. -/
def SameIdentity (a b : String) : Prop := ∀ d : Directory, d.find? a = d.find? b

theorem sameIdentity_iff {a b : String} :
    SameIdentity a b ↔ lookedUpUnder a = lookedUpUnder b := by
  constructor
  · intro same
    -- a directory with somebody under the key of `a` and nobody else
    let alone : Directory := ⟨[(lookedUpUnder a, ⟨Uuid.nonce 0, a, "", ""⟩)]⟩
    have found := same alone
    unfold find? at found
    rw [List.lookup_cons_self, List.lookup_cons] at found
    by_cases key : lookedUpUnder b = lookedUpUnder a
    · exact key.symm
    · have differs : (lookedUpUnder b == lookedUpUnder a) = false := by simpa using key
      rw [differs] at found
      cases found
  · intro same d
    rw [find?, find?, same]

/-- The two keys of an email are the same just if it has no white space at its ends. -/
theorem listedUnder_eq_lookedUpUnder_iff (email : String) :
    listedUnder email = lookedUpUnder email ↔ Text.trim email = email :=
  eq_comm.trans (Text.lower_trim_iff email)

/-- **Every user of a directory is found by his email, and only he, unless white space stands at
an end of it.**  Where it does he is not found.  If no email has any, a list is refused just if two
of its users have emails that are the same identity. -/
theorem ofUsers_finds (users : List User) :
    (∀ d, ofUsers users = .ok d → d.size = users.length ∧
      ∀ u ∈ users, d.find? u.email = some u ↔ Text.trim u.email = u.email) ∧
    ((∀ u ∈ users, Text.trim u.email = u.email) →
      ((∃ key, ofUsers users = .error (.duplicate key)) ↔
        ∃ u v, [u, v].Sublist users ∧ SameIdentity u.email v.email)) := by
  refine ⟨fun d made => ⟨size_of_made made, fun u member => ?_⟩, fun trimmed => ?_⟩
  · rw [find?_eq_some_iff made, ← listedUnder_eq_lookedUpUnder_iff]
    exact and_iff_right member
  · have key {u : User} (member : u ∈ users) :
        listedUnder u.email = lookedUpUnder u.email :=
      (listedUnder_eq_lookedUpUnder_iff u.email).2 (trimmed u member)
    rw [refused_iff, Apart, List.pairwise_iff_forall_sublist]
    constructor
    · intro shared
      obtain ⟨u, v, within, same⟩ : ∃ u v, [u, v].Sublist users ∧
          listedUnder u.email = listedUnder v.email := by
        by_contra none
        exact shared fun {u v} within same => none ⟨u, v, within, same⟩
      refine ⟨u, v, within, sameIdentity_iff.2 ?_⟩
      rw [← key (within.subset (by simp)), ← key (within.subset (by simp)), same]
    · rintro ⟨u, v, within, same⟩ apart
      refine apart within ?_
      rw [key (within.subset (by simp)), key (within.subset (by simp))]
      exact sameIdentity_iff.1 same

def mailed (email : String) : User := ⟨Uuid.nonce 1, email, "Ada", "secret"⟩

/-- Two users are found by their emails, and a second one under the same email is refused. -/
theorem ofUsers_finds_letter_case :
    let ada := mailed "Ada@example.org"
    let bob := mailed "bob@example.org"
    let again := mailed "ADA@example.org"
    (∃ d, ofUsers [ada, bob] = .ok d ∧ d.size = 2 ∧ d.find? ada.email = some ada ∧
      d.find? bob.email = some bob) ∧
    (∀ u ∈ [ada, bob, again], Text.trim u.email = u.email) ∧
    ∃ key, ofUsers [ada, bob, again] = .error (.duplicate key) := by
  intro ada bob again
  have trimmed : ∀ u ∈ [ada, bob, again], Text.trim u.email = u.email := by decide +kernel
  refine ⟨?_, trimmed, ?_⟩
  · have made : ofUsers [ada, bob] =
        .ok ⟨[("ada@example.org", ada), ("bob@example.org", bob)]⟩ := by decide +kernel
    obtain ⟨size, finds⟩ := (ofUsers_finds [ada, bob]).1 _ made
    exact ⟨_, made, size, (finds ada (by simp)).2 (trimmed ada (by simp)),
      (finds bob (by simp)).2 (trimmed bob (by simp))⟩
  · refine ((ofUsers_finds [ada, bob, again]).2 trimmed).2 ⟨ada, again, by simp, ?_⟩
    exact sameIdentity_iff.2 (by decide +kernel)

/-- **A user whose email starts with a blank is never found.**  He is listed under a key that no
identity is looked up under; and as the key of the same email without the blank is another one, the
two are listed side by side, and both are taken for the one without it. -/
theorem ofUsers_blank_email :
    let blank := mailed " ada@example.com"
    let plain : User := ⟨Uuid.nonce 2, "ada@example.com", "Bob", "other"⟩
    (∃ d, ofUsers [blank] = .ok d ∧ d.find? blank.email = none) ∧
      SameIdentity plain.email blank.email ∧
      ∃ d, ofUsers [plain, blank] = .ok d ∧ d.find? blank.email = some plain := by
  intro blank plain
  refine ⟨⟨⟨[(" ada@example.com", blank)]⟩, by decide +kernel, by decide +kernel⟩,
    sameIdentity_iff.2 (by decide +kernel), ?_⟩
  exact ⟨⟨[("ada@example.com", plain), (" ada@example.com", blank)]⟩, by decide +kernel,
    by decide +kernel⟩

end Directory

end SessionAuthority

import Mathlib.Control.Monad.Basic
import SessionAuthority.Proofs.Application.Conduct

/-!
# How a start ends

With the records in memory every start ends in one of four ways (`Starts`): the codec cannot be had,
the directory cannot be had, one of the allowed origins is the one for all, or there is an
application.  Whatever the variables and the files hold, all but the third are answers.

The third is a crash.  It takes a list of origins in which `*` stands by itself, perhaps between
white space (`Environment.OpensToAll`), and nothing else in the way of an application.  So
`ofEnvironment_ends` says just when a start crashes, and `ofEnvironment_wildcard` that one does.
-/
set_option autoImplicit false

namespace SessionAuthority

/-- The origin for all is among the allowed ones. -/
def Environment.OpensToAll (env : Environment) : Prop :=
  ∃ raw, env.text? "CORS_ALLOWED_ORIGINS" = some raw ∧
    ∃ part ∈ Text.splitChars ',' raw.toList, Text.trimChars part = ['*']

/-! ## Origins -/

theorem ServerSettings.wildcard_mem_originsOf_iff (raw : String) :
    "*" ∈ originsOf raw ↔ ∃ part ∈ Text.splitChars ',' raw.toList, Text.trimChars part = ['*'] := by
  have star : "*" = String.ofList ['*'] := by decide
  simp only [originsOf, star, List.mem_map, List.mem_filter, String.ofList_inj]
  constructor
  · rintro ⟨_, ⟨⟨part, within, rfl⟩, -⟩, same⟩
    exact ⟨part, within, same⟩
  · rintro ⟨part, within, same⟩
    exact ⟨['*'], ⟨⟨part, within, same⟩, rfl⟩, rfl⟩

theorem ServerSettings.wildcard_allowed_iff (env : Environment) :
    "*" ∈ (ServerSettings.ofEnvironment env).allowedOrigins ↔ env.OpensToAll := by
  unfold Environment.OpensToAll
  simp only [ofEnvironment]
  cases found : env.text? "CORS_ALLOWED_ORIGINS" with
  | none =>
      constructor
      · intro within
        exact absurd within (by decide)
      · rintro ⟨raw, given, -⟩
        cases given
  | some raw =>
      rw [Option.map_some, Option.getD_some, wildcard_mem_originsOf_iff]
      simp

/-- An origin that is dropped because it can be no header value is not the one for all. -/
theorem Origin.usable_contains_wildcard (allowed : List String) :
    (usable allowed).contains wildcard = decide ("*" ∈ allowed) := by
  have octets : wildcard = Bytes.ofString "*" := by decide
  rw [Bool.eq_iff_iff, decide_eq_true_eq, List.contains_iff_mem, usable, List.mem_filter,
    List.mem_map]
  constructor
  · rintro ⟨⟨origin, within, same⟩, -⟩
    rw [octets] at same
    rw [← Bytes.ofString_injective same]
    exact within
  · intro within
    exact ⟨⟨"*", within, octets.symm⟩, by decide⟩

namespace Application

/-- An application is built unless it would be open to all. -/
theorem build_eq (authority : Authority) (directory : Directory) (timeout : Span)
    (origins : List String) (showsMetrics : Bool) :
    build authority directory timeout origins showsMetrics =
      if "*" ∈ origins then .crashed .wildcardOrigin
      else .ok ⟨authority, directory, timeout, Origin.usable origins, showsMetrics⟩ := by
  simp only [build, Origin.usable_contains_wildcard, decide_eq_true_eq]

/-! ## A start -/

section Start

variable (env : Environment) (files : Files) (showsMetrics : Bool)

abbrev codecIn : Except AuthError Codec := (TokenSettings.ofEnvironment env).codec files

abbrev directoryIn : Except DirectoryError Directory :=
  directoryOf (ServerSettings.ofEnvironment env) files

/-- The application that the variables describe, with its codec and its directory at hand. -/
def described (codec : Codec) (directory : Directory) : Application :=
  let tokens := TokenSettings.ofEnvironment env
  let sessions := SessionSettings.ofEnvironment env
  let server := ServerSettings.ofEnvironment env
  ⟨⟨codec, sessions.keyPrefix, lifetimesOf tokens sessions⟩, directory, server.requestTimeout,
    Origin.usable server.allowedOrigins, showsMetrics⟩

/-- How a start ends, the first obstacle deciding. -/
inductive Starts : Outcome StartupError Application → Prop where
  | noCodec {why : AuthError} (codec : codecIn env files = .error why) :
      Starts (.refused (.codec why))
  | noDirectory {c : Codec} {why : DirectoryError} (codec : codecIn env files = .ok c)
      (directory : directoryIn env files = .error why) : Starts (.refused (.directory why))
  | openToAll {c : Codec} {d : Directory} (codec : codecIn env files = .ok c)
      (directory : directoryIn env files = .ok d) (all : env.OpensToAll) :
      Starts (.crashed .wildcardOrigin)
  | ready {c : Codec} {d : Directory} (codec : codecIn env files = .ok c)
      (directory : directoryIn env files = .ok d) (some : ¬ env.OpensToAll) :
      Starts (.ok (described env showsMetrics c d))

variable {env}

theorem ofEnvironment_starts (memory : (SessionSettings.ofEnvironment env).backend = .memory) :
    Starts env files showsMetrics (ofEnvironment env files showsMetrics) := by
  unfold ofEnvironment
  dsimp only
  split
  · rename_i why codec
    exact .noCodec codec
  rename_i c codec
  rw [memory]
  dsimp only
  split
  · rename_i why directory
    exact .noDirectory codec directory
  rename_i d directory
  rw [build_eq]
  split
  · rename_i all
    exact .openToAll codec directory ((ServerSettings.wildcard_allowed_iff env).1 all)
  · rename_i some
    exact .ready codec directory (mt (ServerSettings.wildcard_allowed_iff env).2 some)

end Start

/-! ## What an application is good for -/

/-- An application says that it is well whenever it is asked, unless no time is allowed for it. -/
def Works (app : Application) : Prop :=
  ∀ (s : State) (headers : Headers) (body : Bytes),
    ∃ r, (app.step s (.request ⟨"GET", "/health", headers, body⟩)).1 = some r ∧
      r.status = if app.timeout.nanos = 0 then 408 else 200

theorem works (app : Application) : app.Works := by
  intro s headers body
  let req : Request := ⟨"GET", "/health", headers, body⟩
  obtain ⟨r, e, stepped, status⟩ := app.step_request s req
  refine ⟨r, by rw [stepped], status.trans ?_⟩
  have works : req.method ≠ "OPTIONS" := show "GET" ≠ "OPTIONS" by decide
  have path : req.path = "/health" := by
    show String.ofList ("/health".toList.takeWhile fun c => c != '?' && c != '#') = "/health"
    decide
  have route : Route.ofPath? req.path = some .health := by
    rw [path]
    decide
  simp only [worked, works, if_false, answerInTime, route]
  split
  · rfl
  · rfl

/-- **Every start ends with an application that works or with an error, unless the origin for all is
allowed.**  If it is, the start crashes as soon as there are a codec and a directory. -/
theorem ofEnvironment_ends {env : Environment}
    (memory : (SessionSettings.ofEnvironment env).backend = .memory) (files : Files)
    (showsMetrics : Bool) :
    (¬ env.OpensToAll →
      (∃ app, ofEnvironment env files showsMetrics = .ok app ∧ app.Works) ∨
        ∃ why, ofEnvironment env files showsMetrics = .refused why) ∧
    ((∃ crash, ofEnvironment env files showsMetrics = .crashed crash) ↔
      env.OpensToAll ∧ ∃ c d, codecIn env files = .ok c ∧ directoryIn env files = .ok d) := by
  have starts := ofEnvironment_starts files showsMetrics memory
  cases ended : ofEnvironment env files showsMetrics with
  | ok app =>
      rw [ended] at starts
      cases starts with
      | ready codec directory some =>
          refine ⟨fun _ => .inl ⟨_, rfl, works _⟩, ?_, ?_⟩
          · rintro ⟨crash, same⟩
            cases same
          · rintro ⟨all, -⟩
            exact absurd all some
  | refused why =>
      rw [ended] at starts
      refine ⟨fun _ => .inr ⟨why, rfl⟩, ?_, ?_⟩
      · rintro ⟨crash, same⟩
        cases same
      · rintro ⟨-, c, d, codec, directory⟩
        cases starts with
        | noCodec none =>
            rw [codec] at none
            cases none
        | noDirectory _ none =>
            rw [directory] at none
            cases none
  | crashed crash =>
      rw [ended] at starts
      cases starts with
      | openToAll codec directory all =>
          exact ⟨fun some => absurd all some, fun _ => ⟨all, _, _, codec, directory⟩,
            fun _ => ⟨_, rfl⟩⟩

/-- An environment with a secret, records in memory and these origins. -/
def withOrigins (origins : String) : Environment :=
  [("JWT_SECRET", Bytes.ofString "env-secret"), ("SESSION_STORE", Bytes.ofString "memory"),
    ("CORS_ALLOWED_ORIGINS", Bytes.ofString origins)]

def secretCodec : Codec :=
  ⟨.hs256, .secret .sha256, some (Bytes.ofString "env-secret"), some (Bytes.ofString "env-secret"),
    30⟩

/-- With origins of its own an application starts, whatever characters they have. -/
theorem ofEnvironment_ends_own_origins :
    let env := withOrigins "http://a.example, *.example"
    (SessionSettings.ofEnvironment env).backend = .memory ∧ ¬ env.OpensToAll ∧
      ∃ app, ofEnvironment env ⟨[]⟩ false = .ok app ∧ app.Works := by
  intro env
  have memory : (SessionSettings.ofEnvironment env).backend = .memory := by decide +kernel
  have own : ¬ env.OpensToAll := by
    rw [← ServerSettings.wildcard_allowed_iff]
    decide +kernel
  have codec : codecIn env ⟨[]⟩ = .ok secretCodec := by decide +kernel
  have directory : directoryIn env ⟨[]⟩ = .ok .empty := by decide +kernel
  refine ⟨memory, own, ?_⟩
  rcases (ofEnvironment_ends memory ⟨[]⟩ false).1 own with started | ⟨why, refused⟩
  · exact started
  · have starts := ofEnvironment_starts ⟨[]⟩ false memory
    rw [refused] at starts
    cases starts with
    | noCodec none =>
        rw [codec] at none
        cases none
    | noDirectory _ none =>
        rw [directory] at none
        cases none

/-- **A start crashes on the origin for all.**  Secret, store and directory are as they should be,
and there is neither an application nor an error. -/
theorem ofEnvironment_wildcard :
    let env := withOrigins "*"
    (SessionSettings.ofEnvironment env).backend = .memory ∧
      ofEnvironment env ⟨[]⟩ false = .crashed .wildcardOrigin := by
  intro env
  have memory : (SessionSettings.ofEnvironment env).backend = .memory := by decide +kernel
  have codec : codecIn env ⟨[]⟩ = .ok secretCodec := by decide +kernel
  have directory : directoryIn env ⟨[]⟩ = .ok .empty := by decide +kernel
  have all : "*" ∈ (ServerSettings.ofEnvironment env).allowedOrigins := by decide +kernel
  refine ⟨memory, ?_⟩
  unfold ofEnvironment
  dsimp only
  rw [show (TokenSettings.ofEnvironment env).codec ⟨[]⟩ = .ok secretCodec from codec, memory,
    show directoryOf (ServerSettings.ofEnvironment env) ⟨[]⟩ = .ok .empty from directory]
  dsimp only
  rw [build_eq, if_pos all]

end Application

end SessionAuthority

import SessionAuthority.Http.Credential
import SessionAuthority.Proofs.Text

/-!
# What a header value says

A value that can be read is one of visible ASCII, blanks and tabs, and it is read character by
character (`visible?_eq_some_iff`).  What it says is that text up to the padding around it
(`Credential.Says`), which is what trimming leaves of it (`Credential.says_iff`).
-/
set_option autoImplicit false

namespace SessionAuthority

/-! ## Visible values -/

/-- A character that is visible ASCII, a blank or a tab. -/
def Showable (c : Char) : Prop := c = '\t' ∨ (0x20 ≤ c.toNat ∧ c.toNat < 0x7F)

instance (c : Char) : Decidable (Showable c) := inferInstanceAs (Decidable (_ ∨ _))

def Shown (cs : List Char) : Prop := ∀ c ∈ cs, Showable c

instance (cs : List Char) : Decidable (Shown cs) := List.decidableBAll _ cs

theorem Graphic.showable {c : Char} (graphic : Graphic c) : Showable c :=
  .inr ⟨Nat.le_of_lt graphic.1, graphic.2⟩

theorem Showable.ascii {c : Char} (showable : Showable c) : c.toNat < 0x80 := by
  rcases showable with rfl | ⟨-, below⟩
  · decide
  · omega

/-- What holds of every ASCII character is checked character by character. -/
theorem ascii_forall {P : Char → Prop} (each : ∀ n < 0x80, P (Char.ofNat n)) {c : Char}
    (ascii : c.toNat < 0x80) : P c := by
  have here := each c.toNat ascii
  rwa [Char.ofNat_toNat] at here

/-- What holds of every octet is checked octet by octet. -/
theorem octet_forall {P : UInt8 → Prop} (each : ∀ n < 0x100, P (UInt8.ofNat n)) (b : UInt8) :
    P b := by
  have here := each b.toNat b.toNat_lt
  rwa [UInt8.ofNat_toNat] at here

theorem isVisible_of_showable {c : Char} (showable : Showable c) :
    isVisible c.toNat.toUInt8 = true ∧ Char.ofNat c.toNat.toUInt8.toNat = c :=
  ascii_forall (P := fun c => Showable c →
      isVisible c.toNat.toUInt8 = true ∧ Char.ofNat c.toNat.toUInt8.toNat = c)
    (by decide +kernel) showable.ascii showable

theorem showable_of_isVisible {b : UInt8} (visible : isVisible b = true) :
    Showable (Char.ofNat b.toNat) ∧ (Char.ofNat b.toNat).toNat.toUInt8 = b :=
  octet_forall (P := fun b => isVisible b = true →
      Showable (Char.ofNat b.toNat) ∧ (Char.ofNat b.toNat).toNat.toUInt8 = b)
    (by decide +kernel) b visible

/-- **The visible values are those of showable characters.** -/
theorem visible?_eq_some_iff {value : Bytes} {cs : List Char} :
    visible? value = some cs ↔ value = Bytes.ofAscii cs ∧ Shown cs := by
  constructor
  · intro read
    unfold visible? at read
    split at read
    · rename_i all
      have seen (b : UInt8) (member : b ∈ value) :=
        showable_of_isVisible (List.all_eq_true.1 all b member)
      cases read
      constructor
      · rw [Bytes.ofAscii, List.map_map]
        refine (List.map_id value).symm.trans (List.map_congr_left fun b member => ?_)
        exact (seen b member).2.symm
      · intro c member
        obtain ⟨b, within, rfl⟩ := List.mem_map.1 member
        exact (seen b within).1
    · cases read
  · rintro ⟨rfl, showable⟩
    have seen (c : Char) (member : c ∈ cs) := isVisible_of_showable (showable c member)
    have all : (Bytes.ofAscii cs).all isVisible = true := by
      refine List.all_eq_true.2 fun b member => ?_
      obtain ⟨c, within, rfl⟩ := List.mem_map.1 member
      exact (seen c within).1
    have back : (Bytes.ofAscii cs).map (fun b => Char.ofNat b.toNat) = cs := by
      rw [Bytes.ofAscii, List.map_map]
      refine (List.map_congr_left fun c member => ?_).trans (List.map_id cs)
      exact (seen c member).2
    rw [visible?, if_pos all, back]

theorem visible?_eq_none_iff {value : Bytes} :
    visible? value = none ↔ ∃ b ∈ value, isVisible b = false := by
  simp [visible?]

/-! ## Padding -/

namespace Credential

def Padding (cs : List Char) : Prop := ∀ c ∈ cs, c = ' ' ∨ c = '\t'

instance (cs : List Char) : Decidable (Padding cs) := List.decidableBAll _ cs

theorem Padding.blank {cs : List Char} (padding : Padding cs) :
    ∀ c ∈ cs, Text.isBlank c = true := by
  intro c member
  rcases padding c member with rfl | rfl
  · rfl
  · rfl

theorem Padding.shown {cs : List Char} (padding : Padding cs) : Shown cs := by
  intro c member
  rcases padding c member with rfl | rfl
  · decide
  · decide

theorem padding_of_blank {cs : List Char} (blank : ∀ c ∈ cs, Text.isBlank c = true)
    (shown : Shown cs) : Padding cs := by
  intro c member
  have white := blank c member
  rcases shown c member with rfl | ⟨above, below⟩
  · exact .inr rfl
  · by_cases space : c.toNat = 0x20
    · exact .inl (Char.toNat_inj.1 space)
    · rw [Text.isBlank_of_graphic ⟨by omega, below⟩] at white
      cases white

theorem padding_nil : Padding [] := by
  intro c member
  cases member

/-- A text that neither starts nor ends with white space. -/
def Trimmed (cs : List Char) : Prop :=
  (∀ c ∈ cs.head?, Text.isBlank c = false) ∧ ∀ c ∈ cs.getLast?, Text.isBlank c = false

theorem trimmed_of_graphic {cs : List Char} (graphic : ∀ c ∈ cs, Graphic c) : Trimmed cs := by
  constructor
  · intro c found
    exact Text.isBlank_of_graphic (graphic c (List.mem_of_head? found))
  · intro c found
    exact Text.isBlank_of_graphic (graphic c (List.mem_of_getLast? found))

theorem Trimmed.of_padded {lead cs trail : List Char} (trimmed : Trimmed cs)
    (before : Padding lead) (after : Padding trail) :
    Text.trimChars (lead ++ cs ++ trail) = cs :=
  Text.trimChars_padded before.blank after.blank trimmed.1 trimmed.2

/-- What a header value says, up to the padding around it. -/
def Says (value : Bytes) (text : List Char) : Prop :=
  ∃ lead trail, value = Bytes.ofAscii (lead ++ text ++ trail) ∧ Padding lead ∧ Padding trail ∧
    Shown text ∧ Trimmed text

theorem says_iff {value : Bytes} {text : List Char} :
    Says value text ↔ ∃ cs, visible? value = some cs ∧ Text.trimChars cs = text := by
  constructor
  · rintro ⟨lead, trail, rfl, before, after, showable, trimmed⟩
    refine ⟨lead ++ text ++ trail, visible?_eq_some_iff.2 ⟨rfl, ?_⟩,
      trimmed.of_padded before after⟩
    intro c member
    rcases List.mem_append.1 member with within | within
    · rcases List.mem_append.1 within with within | within
      · exact before.shown c within
      · exact showable c within
    · exact after.shown c within
  · rintro ⟨cs, read, rfl⟩
    obtain ⟨rfl, showable⟩ := visible?_eq_some_iff.1 read
    obtain ⟨lead, trail, parts, before, after, first, last⟩ := Text.trimChars_parts cs
    rw [parts] at showable
    refine ⟨lead, trail, by rw [← parts], ?_, ?_, ?_, first, last⟩
    · exact padding_of_blank before fun c member => showable c (by simp [member])
    · exact padding_of_blank after fun c member => showable c (by simp [member])
    · exact fun c member => showable c (by simp [member])

theorem Says.trimmed {value : Bytes} {text : List Char} (stated : Says value text) :
    Trimmed text := by
  obtain ⟨-, -, -, -, -, -, trimmed⟩ := stated
  exact trimmed

end Credential

end SessionAuthority

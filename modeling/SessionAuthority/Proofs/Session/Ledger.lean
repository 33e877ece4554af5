import SessionAuthority.Proofs.Session.Conduct
import SessionAuthority.Proofs.Session.Table
import SessionAuthority.Proofs.Uuid
import SessionAuthority.Proofs.Waiting

/-!
# Where nonces stand

Every nonce in a store was taken from the supply, and stands in the session of one key only
(`Ledger`).  A nonce that was taken and stands nowhere is spent (`Spent`), and it stays so: a
session is only ever written with nonces that are taken for it (`Moves`), and no two nonces are the
same (`Distinct`).  So whatever stood in a session is spent once that is replaced or removed
(`Moves.spends`).
-/
set_option autoImplicit false

namespace SessionAuthority.State

def Distinct (s : State) : Prop :=
  ∀ i < s.nonces, ∀ j < s.nonces, s.supply (i + 1) = s.supply (j + 1) → i = j

def TakenFrom (s : State) (first last : Nat) (u : Uuid) : Prop :=
  ∃ i, first ≤ i ∧ i < last ∧ u = s.supply (i + 1)

/-- The session stored under a key, live or not, has a nonce in one of its slots. -/
def Stands (s : State) (key nonce : String) : Prop :=
  ∃ e record slot, s.store.entry? key = some e ∧ SessionRecord.read? e.value = some record ∧
    record.nonce slot = nonce

/-- What is stored are records of nonces that were taken, and no nonce stands under two keys. -/
structure Ledger (s : State) : Prop where
  record : ∀ key e, s.store.entry? key = some e → ∃ access refresh,
    s.TakenFrom 0 s.nonces access ∧ s.TakenFrom 0 s.nonces refresh ∧
      e.value = (Authority.pairRecord access refresh).render
  apart : ∀ key key' nonce, s.Stands key nonce → s.Stands key' nonce → key = key'

structure Spent (s : State) (nonce : String) : Prop where
  taken : ∃ u, s.TakenFrom 0 s.nonces u ∧ nonce = u.toText
  gone : ∀ key, ¬ s.Stands key nonce

/-- From one state to another, one session at most was written, with nonces taken for it, or
removed; nothing else was put in. -/
structure Moves (written : Option String) (s t : State) : Prop where
  supply : t.supply = s.supply
  nonces : s.nonces ≤ t.nonces
  entry : ∀ key e, t.store.entry? key = some e →
    (written ≠ some key ∧ ∃ o, s.store.entry? key = some o ∧ o.value = e.value) ∨
      written = some key ∧ ∃ access refresh, s.TakenFrom s.nonces t.nonces access ∧
        s.TakenFrom s.nonces t.nonces refresh ∧
        e.value = (Authority.pairRecord access refresh).render

variable {s t : State} {written : Option String} {key nonce : String}

/-- Both nonces of a record stand, and nothing else does. -/
theorem stands_pairRecord {e : Entry} {access refresh : Uuid} (held : s.store.entry? key = some e)
    (value : e.value = (Authority.pairRecord access refresh).render) (stands : s.Stands key nonce) :
    nonce = access.toText ∨ nonce = refresh.toText := by
  obtain ⟨e', record, slot, held', read, rfl⟩ := stands
  obtain rfl := Option.some.inj (held.symm.trans held')
  rw [value, SessionRecord.read?_render] at read
  obtain rfl := Option.some.inj read
  cases slot with
  | access => exact .inl rfl
  | refresh => exact .inr rfl

theorem TakenFrom.mono {first last later : Nat} {u : Uuid} (taken : s.TakenFrom first last u)
    (supply : t.supply = s.supply) (order : last ≤ later) : t.TakenFrom first later u := by
  obtain ⟨i, sooner, below, same⟩ := taken
  exact ⟨i, sooner, Nat.lt_of_lt_of_le below order, by rw [supply, same]⟩

theorem Ledger.taken (ledger : s.Ledger) (stands : s.Stands key nonce) :
    ∃ u, s.TakenFrom 0 s.nonces u ∧ nonce = u.toText := by
  obtain ⟨e, record, slot, held, read, carried⟩ := stands
  obtain ⟨access, refresh, first, second, value⟩ := ledger.record key e held
  rcases stands_pairRecord held value ⟨e, record, slot, held, read, carried⟩ with same | same
  · exact ⟨access, first, same⟩
  · exact ⟨refresh, second, same⟩

/-- Nothing stored, nothing stands. -/
theorem ledger_empty (empty : s.store = .empty) : s.Ledger := by
  have none (key : String) : s.store.entry? key = none := by
    rw [empty]
    rfl
  refine ⟨fun key e held => ?_, fun key key' nonce stands => ?_⟩
  · rw [none key] at held
    cases held
  · obtain ⟨e, -, -, held, -⟩ := stands
    rw [none key] at held
    cases held

/-! ## Moves -/

/-- What stands afterwards stood before, under a key that was not written, or is new. -/
theorem Moves.stands (moves : s.Moves written t) (stands : t.Stands key nonce) :
    (written ≠ some key ∧ s.Stands key nonce) ∨
      written = some key ∧ ∃ u, s.TakenFrom s.nonces t.nonces u ∧ nonce = u.toText := by
  obtain ⟨e, record, slot, held, read, carried⟩ := stands
  rcases moves.entry key e held with
    ⟨other, o, held', same⟩ | ⟨here, access, refresh, first, second, value⟩
  · exact .inl ⟨other, o, record, slot, held', by rw [same, read], carried⟩
  · refine .inr ⟨here, ?_⟩
    rcases stands_pairRecord held value ⟨e, record, slot, held, read, carried⟩ with same | same
    · exact ⟨access, first, same⟩
    · exact ⟨refresh, second, same⟩

/-- A nonce that is taken now is none that was taken before. -/
theorem Moves.fresh (moves : s.Moves written t) (distinct : t.Distinct) {u v : Uuid}
    (old : s.TakenFrom 0 s.nonces u) (new : s.TakenFrom s.nonces t.nonces v) :
    u.toText ≠ v.toText := by
  obtain ⟨i, -, below, rfl⟩ := old
  obtain ⟨j, above, within, rfl⟩ := new
  intro same
  have reached := Nat.lt_of_lt_of_le below moves.nonces
  have repeated := distinct i reached j within (by rw [moves.supply, Uuid.toText_inj.1 same])
  omega

theorem Moves.distinct (moves : s.Moves written t) (distinct : t.Distinct) : s.Distinct := by
  intro i hi j hj same
  have order := moves.nonces
  refine distinct i (by omega) j (by omega) ?_
  rw [moves.supply]
  exact same

/-- A move keeps the ledger. -/
theorem Moves.ledger (moves : s.Moves written t) (distinct : t.Distinct) (ledger : s.Ledger) :
    t.Ledger where
  record key e held := by
    rcases moves.entry key e held with
      ⟨-, o, held', same⟩ | ⟨-, access, refresh, first, second, value⟩
    · obtain ⟨access, refresh, first, second, value⟩ := ledger.record key o held'
      exact ⟨access, refresh, first.mono moves.supply moves.nonces,
        second.mono moves.supply moves.nonces, by rw [← same, value]⟩
    · obtain ⟨i, -, within, rfl⟩ := first
      obtain ⟨j, -, within', rfl⟩ := second
      exact ⟨_, _, ⟨i, Nat.zero_le _, within, by rw [moves.supply]⟩,
        ⟨j, Nat.zero_le _, within', by rw [moves.supply]⟩, value⟩
  apart key key' nonce stands stands' := by
    rcases moves.stands stands with ⟨-, old⟩ | ⟨here, u, new, rfl⟩
    · rcases moves.stands stands' with ⟨-, old'⟩ | ⟨-, u, new, rfl⟩
      · exact ledger.apart key key' nonce old old'
      · obtain ⟨v, taken, same⟩ := ledger.taken old
        exact absurd same.symm (moves.fresh distinct taken new)
    · rcases moves.stands stands' with ⟨-, old⟩ | ⟨here', -⟩
      · obtain ⟨v, taken, same⟩ := ledger.taken old
        exact absurd same.symm (moves.fresh distinct taken new)
      · exact Option.some.inj (here.symm.trans here')

/-- **What is spent stays spent.** -/
theorem Moves.spent (moves : s.Moves written t) (distinct : t.Distinct) (spent : s.Spent nonce) :
    t.Spent nonce := by
  obtain ⟨u, taken, rfl⟩ := spent.taken
  refine ⟨⟨u, taken.mono moves.supply moves.nonces, rfl⟩, fun key stands => ?_⟩
  rcases moves.stands stands with ⟨-, old⟩ | ⟨-, v, new, same⟩
  · exact spent.gone key old
  · exact moves.fresh distinct taken new same

/-- **What stood under the key that is written or removed is spent.** -/
theorem Moves.spends (moves : s.Moves (some key) t) (distinct : t.Distinct) (ledger : s.Ledger)
    (stood : s.Stands key nonce) : t.Spent nonce := by
  obtain ⟨u, taken, rfl⟩ := ledger.taken stood
  refine ⟨⟨u, taken.mono moves.supply moves.nonces, rfl⟩, fun key' stands => ?_⟩
  rcases moves.stands stands with ⟨other, old⟩ | ⟨-, v, new, same⟩
  · exact other (congrArg some (ledger.apart key key' _ stood old))
  · exact moves.fresh distinct taken new same

/-- Waiting on either side of a move does not count. -/
theorem Moves.bides (moves : s.Moves written t) {allowed : Prolongation → Prop} {u : State}
    (bides : t.Bides allowed u) : s.Moves written u where
  supply := bides.supply.trans moves.supply
  nonces := by
    rw [bides.nonces]
    exact moves.nonces
  entry key e held := by
    obtain ⟨o, held', same⟩ := bides.store key e held
    rw [bides.nonces, ← same]
    exact moves.entry key o held'

/-- So what is pending after a move may have its turn. -/
theorem Moves.settle (moves : s.Moves written t) : s.Moves written t.settle :=
  moves.bides (Bides.refl (s := t) fun _ pending => pending).settle

end SessionAuthority.State

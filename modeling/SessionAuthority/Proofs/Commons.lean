import Mathlib.Logic.Function.Basic
import SessionAuthority.Proofs.Keys

/-!
# Programs over one store

Any number of programs may work over one store, each making its calls when its turn comes
(`Commons`).  A turn brings its own surroundings: the clock, the supply of nonces, the tally, the
faults that the collaborators show at the moment and the deadline.  Only the store is shared.

Some of the programs keep to some keys and the others keep off them (`Commons.Parted`).  Then the
former come to where they come if the latter have no turns at all, and these keys hold the same
(`Parted.level_run`).  A turn keeps every program to its keys (`confined_take`); one that both sides
take keeps them level (`Level.take`), and so does one that only the full house takes (`Level.skip`).
-/
set_option autoImplicit false

namespace SessionAuthority

variable {α : Type}

/-! ## Turns -/

/-- A program at work: what is left of it, unless it was abandoned, and the prolongations that it
detached and that have yet to call. -/
structure Worker (α : Type) where
  rest : Option (Program α)
  pending : List Prolongation

def Ending.resume {γ : Type} (next : γ → Program α) : Ending γ → Option (Program α)
  | .finished a => some (next a)
  | .crashed c => some (.crash c)
  | .abandoned => none

/-- Programs at work over one store. -/
structure Commons (ι : Type) (α : ι → Type) where
  store : Store
  workers : (i : ι) → Worker (α i)

namespace Commons

variable {ι : Type} {α : ι → Type}

/-- Whose turn it is: a program makes its next call, or one of its prolongations does. -/
inductive Turn (ι : Type) where
  | proceed (who : ι) (around : State) (deadline : Option Instant)
  | prolong (who : ι) (pending : Nat) (now : Instant)

def Turn.who : Turn ι → ι
  | proceed who _ _ => who
  | prolong who _ _ => who

/-- The surroundings of a turn: the store is the common one, and nothing runs beside the call. -/
def meeting (c : Commons ι α) (around : State) : State :=
  { around with store := c.store, ready := [], waiting := [] }

variable [DecidableEq ι]

/-- The store, and one of the workers, after a turn. -/
def place (c : Commons ι α) (who : ι) (store : Store) (w : Worker (α who)) : Commons ι α :=
  ⟨store, Function.update c.workers who w⟩

variable (directory : ι → Directory)

def take (c : Commons ι α) : Turn ι → Commons ι α
  | .proceed who around deadline =>
      match (c.workers who).rest with
      | some (.call call next) =>
          let told := (c.meeting around).answer (directory who) deadline call
          c.place who told.2.store ⟨told.1.resume next, (c.workers who).pending ++ told.2.ready⟩
      | _ => c
  | .prolong who n now =>
      match (c.workers who).pending[n]? with
      | some p =>
          let s := State.prolong { clock := now, store := c.store } p
          c.place who s.store ⟨(c.workers who).rest, (c.workers who).pending.eraseIdx n⟩
      | none => c

def run (c : Commons ι α) (turns : List (Turn ι)) : Commons ι α := turns.foldl (take directory) c

end Commons

structure Worker.Confined (directory : Directory) (own : String → Prop) (w : Worker α) : Prop where
  rest : ∀ p, w.rest = some p → p.Confined directory own
  pending : ∀ p ∈ w.pending, own p.key

namespace Commons

variable {ι : Type} {α : ι → Type}

theorem idle_meeting (c : Commons ι α) (around : State) :
    ∀ p, ¬ (c.meeting around).Pending p := by
  rintro p (ready | ⟨wake, waiting⟩)
  · exact absurd ready List.not_mem_nil
  · exact absurd waiting List.not_mem_nil

variable [DecidableEq ι] {c d : Commons ι α} {directory : ι → Directory} {turn : Turn ι}
  {own : String → Prop}

theorem place_self {who : ι} {store : Store} {w : Worker (α who)} :
    (c.place who store w).workers who = w := by
  simp only [place, Function.update_self]

theorem place_other {i who : ι} (other : i ≠ who) {store : Store} {w : Worker (α who)} :
    (c.place who store w).workers i = c.workers i := by
  simp only [place, Function.update_of_ne other]

/-! ### One turn -/

/-- Nobody else is moved by a turn. -/
theorem workers_take {i : ι} (other : i ≠ turn.who) :
    (c.take directory turn).workers i = c.workers i := by
  cases turn with
  | proceed who around deadline =>
      rw [take]
      split
      · exact place_other other
      · rfl
  | prolong who n now =>
      rw [take]
      split
      · exact place_other other
      · rfl

/-- Who keeps to some keys still does after the turn. -/
theorem confined_take
    (confined : (c.workers turn.who).Confined (directory turn.who) own) :
    ((c.take directory turn).workers turn.who).Confined (directory turn.who) own := by
  cases turn with
  | proceed who around deadline =>
      rw [take]
      split
      · rename_i call next left
        obtain ⟨within, goes⟩ := confined.rest _ left
        rw [Turn.who, place_self]
        refine ⟨fun p resumed => ?_, fun p member => ?_⟩
        · cases told : (c.meeting around).answer (directory who) deadline call with
          | mk ending s =>
              rw [told] at resumed
              cases ending with
              | finished a =>
                  cases resumed
                  exact goes a (State.answer_fits _ deadline told)
              | crashed why => cases resumed; trivial
              | abandoned => cases resumed
        · rcases List.mem_append.1 member with old | new
          · exact confined.pending p old
          · exact State.answer_detaches _ deadline (c.idle_meeting around) within p new
      · exact confined
  | prolong who n now =>
      rw [take]
      split
      · rw [Turn.who, place_self]
        exact ⟨confined.rest, fun p member => confined.pending p (List.mem_of_mem_eraseIdx member)⟩
      · exact confined

/-- Who keeps off some keys leaves them as they are. -/
theorem store_take
    (confined : (c.workers turn.who).Confined (directory turn.who) fun key => ¬ own key) :
    c.store.AgreeOn own (c.take directory turn).store := by
  cases turn with
  | proceed who around deadline =>
      rw [take]
      split
      · rename_i call next left
        exact State.answer_elsewhere _ deadline (c.idle_meeting around) (confined.rest _ left).1
      · exact fun _ _ => rfl
  | prolong who n now =>
      rw [take]
      split
      · rename_i p found
        obtain ⟨store, tally, same, -, others, -⟩ :=
          State.prolong_eq { clock := now, store := c.store } p
        have off := confined.pending p (List.mem_of_getElem? found)
        intro key owned
        rw [same]
        exact (others key fun here => off (here ▸ owned)).symm
      · exact fun _ _ => rfl

/-! ### Two commons side by side -/

/-- Some workers are at the same place, and the stores agree on some keys. -/
structure Level (mine : ι → Bool) (own : String → Prop) (c d : Commons ι α) : Prop where
  workers : ∀ i, mine i = true → c.workers i = d.workers i
  store : c.store.AgreeOn own d.store

section Level

variable {mine : ι → Bool} (level : c.Level mine own d)

include level

theorem Level.place {who : ι} {store store' : Store} (agree : store.AgreeOn own store')
    (w : Worker (α who)) : (c.place who store w).Level mine own (d.place who store' w) := by
  refine ⟨fun i chosen => ?_, agree⟩
  by_cases same : i = who
  · subst same
    rw [place_self, place_self]
  · rw [place_other same, place_other same]
    exact level.workers i chosen

/-- **A turn of theirs** in both keeps them level. -/
theorem Level.take (chosen : mine turn.who = true)
    (confined : (c.workers turn.who).Confined (directory turn.who) own) :
    (c.take directory turn).Level mine own (d.take directory turn) := by
  cases turn with
  | proceed who around deadline =>
      have same : c.workers who = d.workers who := level.workers who chosen
      rw [Commons.take, Commons.take, ← same]
      split
      · rename_i call next left
        have agree : (c.meeting around).Agree own (d.meeting around) := ⟨rfl, level.store⟩
        obtain ⟨ending, after⟩ := agree.answer (directory who) deadline (c.idle_meeting around)
          (confined.rest _ left).1
        have ready := congrArg State.ready after.same
        dsimp only at ready ⊢
        rw [← ending, ready]
        exact level.place after.store _
      · exact level
  | prolong who n now =>
      have same : c.workers who = d.workers who := level.workers who chosen
      rw [Commons.take, Commons.take, ← same]
      split
      · rename_i p found
        have agree : State.Agree own { clock := now, store := c.store }
            { clock := now, store := d.store } := ⟨rfl, level.store⟩
        exact level.place (agree.prolong (confined.pending p (List.mem_of_getElem? found))).store _
      · exact level

/-- **A turn of somebody else** in one of the two keeps them level. -/
theorem Level.skip (other : mine turn.who = false)
    (confined : (c.workers turn.who).Confined (directory turn.who) fun key => ¬ own key) :
    (c.take directory turn).Level mine own d := by
  refine ⟨fun i chosen => ?_, fun key owned => ?_⟩
  · have moved : i ≠ turn.who := fun same => by
      rw [same, other] at chosen
      cases chosen
    rw [workers_take moved]
    exact level.workers i chosen
  · rw [← store_take confined key owned]
    exact level.store key owned

end Level

/-! ### Any number of turns -/

/-- Some workers keep to some keys, and the others keep off them. -/
structure Parted (directory : ι → Directory) (mine : ι → Bool) (own : String → Prop)
    (c : Commons ι α) : Prop where
  inside : ∀ i, mine i = true → (c.workers i).Confined (directory i) own
  outside : ∀ i, mine i = false → (c.workers i).Confined (directory i) fun key => ¬ own key

section Parted

variable {mine : ι → Bool}

theorem Parted.take (parted : c.Parted directory mine own) (turn : Turn ι) :
    (c.take directory turn).Parted directory mine own := by
  have kept {own : String → Prop} (i : ι) (confined : (c.workers i).Confined (directory i) own) :
      ((c.take directory turn).workers i).Confined (directory i) own := by
    by_cases moved : i = turn.who
    · subst moved
      exact confined_take confined
    · rw [workers_take moved]
      exact confined
  exact ⟨fun i chosen => kept i (parted.inside i chosen),
    fun i other => kept i (parted.outside i other)⟩

/-- Whatever the turns, some workers come to where they come if nobody else has a turn. -/
theorem Parted.level_run (parted : c.Parted directory mine own) (level : c.Level mine own d)
    (turns : List (Turn ι)) :
    (c.run directory turns).Level mine own
      (d.run directory (turns.filter fun turn => mine turn.who)) := by
  induction turns generalizing c d with
  | nil => exact level
  | cons turn later ih =>
      cases chosen : mine turn.who with
      | true =>
          simp only [List.filter_cons, chosen, if_true]
          exact ih (parted.take turn) (level.take chosen (parted.inside _ chosen))
      | false =>
          simp only [List.filter_cons, chosen, Bool.false_eq_true, if_false]
          exact ih (parted.take turn) (level.skip chosen (parted.outside _ chosen))

end Parted

end Commons

end SessionAuthority

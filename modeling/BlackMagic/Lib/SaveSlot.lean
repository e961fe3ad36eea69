import Mathlib.Data.List.Basic

/-! A state that is changed for a while, with one slot in which the value from before is kept: each entry overwrites the slot, a
leaving puts its content back. -/

namespace BlackMagic.Lib.SaveSlot

variable {α : Type}

structure Saved (α : Type) where
  current : α
  slot : α
  entered : Bool

inductive Call where
  | enter
  | leave
  deriving DecidableEq, Repr

variable (change : α → α)

/-- A leaving without an entry does nothing. -/
def call (saved : Saved α) : Call → Saved α
  | .enter => ⟨change saved.current, saved.current, true⟩
  | .leave => if saved.entered then ⟨saved.slot, saved.slot, false⟩ else saved

def run (saved : Saved α) : List Call → Saved α
  | [] => saved
  | first :: rest => run (call change saved first) rest

/-- There is an entry although the one before it has not been left. -/
def Nested : Bool → List Call → Prop
  | _, [] => False
  | entered, .enter :: rest => entered = true ∨ Nested true rest
  | _, .leave :: rest => Nested false rest

/-- The slot holds the value from the start whenever it is needed. -/
def Clean (start : α) (saved : Saved α) : Prop :=
  if saved.entered then saved.current = change start ∧ saved.slot = start else saved.current = start

/-- The value from the start is lost. -/
def Dirty (start : α) (saved : Saved α) : Prop :=
  saved.current = change start ∧ (saved.entered = true → saved.slot = change start)

variable {change}

theorem run_append (saved : Saved α) (first second : List Call) :
    run change saved (first ++ second) = run change (run change saved first) second := by
  induction first generalizing saved with
  | nil => rfl
  | cons one rest ih => exact ih _

theorem Dirty.call {start : α} {saved : Saved α} (settled : change (change start) = change start)
    (dirty : Dirty change start saved) (one : Call) : Dirty change start (call change saved one) := by
  cases one with
  | enter => exact ⟨by rw [SaveSlot.call, dirty.1, settled], fun _ => dirty.1⟩
  | leave =>
    cases entered : saved.entered with
    | true => simp [SaveSlot.call, entered, Dirty, dirty.2 entered]
    | false =>
      simp only [SaveSlot.call, entered, Bool.false_eq_true, if_false]
      exact dirty

theorem Dirty.run {start : α} {saved : Saved α} (settled : change (change start) = change start)
    (dirty : Dirty change start saved) (calls : List Call) : Dirty change start (run change saved calls) := by
  induction calls generalizing saved with
  | nil => exact dirty
  | cons one rest ih => exact ih (dirty.call settled one)

theorem Clean.leave {start : α} {saved : Saved α} (clean : Clean change start saved) :
    (call change saved .leave).entered = false ∧ Clean change start (call change saved .leave) := by
  unfold Clean at clean
  cases entered : saved.entered with
  | true =>
    simp only [entered, if_true] at clean
    simp [call, entered, Clean, clean.2]
  | false =>
    simp only [entered, Bool.false_eq_true, if_false] at clean
    simp [call, entered, Clean, clean]

theorem Clean.enter {start : α} {saved : Saved α} (clean : Clean change start saved) (left : saved.entered = false) :
    Clean change start (call change saved .enter) := by
  simp only [Clean, left, Bool.false_eq_true, if_false] at clean
  simp [call, Clean, clean]

theorem Clean.again {start : α} {saved : Saved α} (settled : change (change start) = change start)
    (clean : Clean change start saved) (entered : saved.entered = true) : Dirty change start (call change saved .enter) := by
  simp only [Clean, entered, if_true] at clean
  exact ⟨by rw [call, clean.1, settled], fun _ => clean.1⟩

/-- A run keeps the value from the start exactly as long as no entry is nested. -/
theorem Clean.run {start : α} (settled : change (change start) = change start) (calls : List Call) : ∀ {saved : Saved α},
    Clean change start saved →
      (Nested saved.entered calls → Dirty change start (run change saved calls)) ∧
      (¬ Nested saved.entered calls → Clean change start (run change saved calls)) := by
  induction calls with
  | nil => exact fun clean => ⟨False.elim, fun _ => clean⟩
  | cons one rest ih =>
    intro saved clean
    cases one with
    | enter =>
      cases entered : saved.entered with
      | true => exact ⟨fun _ => (clean.again settled entered).run settled rest, fun plain => absurd (Or.inl rfl) plain⟩
      | false =>
        have later := ih (clean.enter entered)
        refine ⟨fun nested => later.1 ?_, fun plain => later.2 fun nested => plain (Or.inr nested)⟩
        exact nested.resolve_left (by simp)
    | leave =>
      obtain ⟨left, kept⟩ := clean.leave
      have later := ih kept
      rw [left] at later
      exact later

/-- After a leaving at the end the value is the one from the start, unless an entry was nested and the change matters. -/
theorem left_iff {start : α} (settled : change (change start) = change start) (slot : α) (calls : List Call) :
    (run change ⟨start, slot, false⟩ (calls ++ [.leave])).current = start ↔ ¬ Nested false calls ∨ change start = start := by
  have clean : Clean change start ⟨start, slot, false⟩ := by simp [Clean]
  have result := Clean.run settled calls clean
  rw [run_append]
  by_cases nested : Nested false calls
  · have dirty := (result.1 nested).call settled .leave
    simp only [nested, not_true_eq_false, false_or]
    exact Eq.congr_left dirty.1
  · have kept := (result.2 nested).leave
    refine iff_of_true ?_ (Or.inl nested)
    have last := kept.2
    simp only [Clean, kept.1, Bool.false_eq_true, if_false] at last
    exact last

end BlackMagic.Lib.SaveSlot

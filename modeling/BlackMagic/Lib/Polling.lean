import Mathlib.Data.Nat.Basic
import Mathlib.Data.Option.Basic

/-! Loops that poll until an answer ends them, up to a number of polls. -/

namespace BlackMagic.Lib.Polling

variable {α β : Type} {poll : Nat → Option α}

/-- The first answer of so many polls from the `n`-th on. -/
def await (poll : Nat → Option α) : Nat → Nat → Option α
  | 0, _ => none
  | patience + 1, n =>
    match poll n with
    | some answer => some answer
    | none => await poll patience (n + 1)

/-- What holds at so many numbers from `i` on. -/
theorem forall_from_succ {p : Nat → Prop} {i count : Nat} :
    (∀ j < count + 1, p (i + j)) ↔ p i ∧ ∀ j < count, p (i + 1 + j) := by
  simp only [Nat.forall_lt_succ_left, Nat.add_zero, Nat.add_right_comm i 1, Nat.add_assoc]

theorem await_iff {patience n : Nat} {answer : α} : await poll patience n = some answer ↔
    ∃ m < patience, (∀ k < m, poll (n + k) = none) ∧ poll (n + m) = some answer := by
  induction patience generalizing n with
  | zero =>
    constructor
    · intro never
      cases never
    · intro ⟨m, inside, _⟩
      cases inside
  | succ patience ih =>
    rw [await]
    cases here : poll n with
    | some first =>
      constructor
      · intro same
        cases same
        exact ⟨0, Nat.succ_pos _, fun k never => absurd never (Nat.not_lt_zero k), here⟩
      · intro ⟨m, inside, before, found⟩
        cases m with
        | zero => exact here.symm.trans found
        | succ m =>
          have silent := before 0 (Nat.succ_pos m)
          rw [Nat.add_zero, here] at silent
          cases silent
    | none =>
      rw [ih]
      constructor
      · intro ⟨m, inside, before, found⟩
        refine ⟨m + 1, Nat.succ_lt_succ inside, ?_, ?_⟩
        · exact (@forall_from_succ (poll · = none) n m).mpr ⟨here, before⟩
        · exact Nat.add_right_comm n 1 m ▸ found
      · intro ⟨m, inside, before, found⟩
        cases m with
        | zero => cases here.symm.trans found
        | succ m =>
          refine ⟨m, Nat.lt_of_succ_lt_succ inside, ?_, ?_⟩
          · exact ((@forall_from_succ (poll · = none) n m).mp before).2
          · exact Nat.add_right_comm n m 1 ▸ found

section Two
variable {first second : Nat → Prop} [DecidablePred first] [DecidablePred second] {one other : α} {patience : Nat}

/-- A poll that looks for two things, for the first one first. -/
def either (first second : Nat → Prop) [DecidablePred first] [DecidablePred second] (one other : α) (n : Nat) : Option α :=
  if first n then some one else if second n then some other else none

theorem either_none (n : Nat) : either first second one other n = none ↔ ¬ first n ∧ ¬ second n := by
  rw [either]
  by_cases here : first n
  · rw [if_pos here]
    exact ⟨(fun never => by cases never), fun neither => absurd here neither.1⟩
  · rw [if_neg here]
    by_cases there : second n
    · rw [if_pos there]
      exact ⟨(fun never => by cases never), fun neither => absurd there neither.2⟩
    · rw [if_neg there]
      exact ⟨fun _ => ⟨here, there⟩, fun _ => rfl⟩

theorem await_first (different : one ≠ other) : await (either first second one other) patience 0 = some one ↔
    ∃ n < patience, (∀ m < n, ¬ first m ∧ ¬ second m) ∧ first n := by
  rw [await_iff]
  simp only [Nat.zero_add, either_none]
  apply exists_congr
  intro n
  refine and_congr_right fun _ => and_congr_right fun _ => ?_
  rw [either]
  by_cases here : first n
  · rw [if_pos here]
    exact ⟨fun _ => here, fun _ => rfl⟩
  · rw [if_neg here]
    refine ⟨fun found => ?_, fun found => absurd found here⟩
    split at found
    · exact absurd (Option.some.inj found).symm different
    · cases found

theorem await_second (different : one ≠ other) : await (either first second one other) patience 0 = some other ↔
    ∃ n < patience, (∀ m < n, ¬ first m ∧ ¬ second m) ∧ ¬ first n ∧ second n := by
  rw [await_iff]
  simp only [Nat.zero_add, either_none]
  apply exists_congr
  intro n
  refine and_congr_right fun _ => and_congr_right fun _ => ?_
  rw [either]
  by_cases here : first n
  · rw [if_pos here]
    exact ⟨fun found => absurd (Option.some.inj found) different, fun found => absurd here found.1⟩
  · rw [if_neg here]
    by_cases there : second n
    · rw [if_pos there]
      exact ⟨fun _ => ⟨here, there⟩, fun _ => rfl⟩
    · rw [if_neg there]
      exact ⟨(fun never => by cases never), fun found => absurd found.2 there⟩

end Two

/-- Commands one after the other, each with a wait for its end that may fail or not return. -/
def issue (wait : Nat → Option Bool) : Nat → List α → Option Bool × List α
  | _, [] => (some true, [])
  | i, command :: rest =>
    match wait i with
    | some true =>
      let later := issue wait (i + 1) rest
      (later.1, command :: later.2)
    | other => (other, [command])

/-- Where no wait fails, all of the commands were given. -/
theorem issue_all {wait : Nat → Option Bool} {i : Nat} {commands : List α}
    (succeeded : (issue wait i commands).1 = some true) : (issue wait i commands).2 = commands := by
  induction commands generalizing i with
  | nil => rfl
  | cons command rest ih =>
    rw [issue] at succeeded ⊢
    match waited : wait i with
    | some true =>
      simp only [waited] at succeeded ⊢
      rw [ih succeeded]
    | some false =>
      simp only [waited, Option.some.injEq, Bool.false_eq_true] at succeeded
    | none =>
      simp only [waited, reduceCtorEq] at succeeded

end BlackMagic.Lib.Polling

import Mathlib.Data.Int.Order.Basic
import Mathlib.Data.Nat.Count
import Mathlib.Order.Monotone.Basic

/-! Requests that are repeated until a deadline, and that are themselves followed by further requests: one after each
rejection, and one after a timeout. When does the first request end, whatever the clock does? -/

namespace BlackMagic.Lib.Retry

inductive Answer where
  | done
  | wait
  | fault
  | invalid
  deriving DecidableEq, Repr

section Runs
variable (answer : Nat → Answer) (now : Nat → Nat) (patience : Nat)

/-- A request with this deadline, of which the next exchange is the `n`-th, ends before the exchange `final`. -/
inductive Ends : Nat → Nat → Nat → Bool → Prop where
  | done {deadline n : Nat} (answered : answer n = .done) : Ends deadline n (n + 1) false
  | invalid {deadline n : Nat} (answered : answer n = .invalid) : Ends deadline n (n + 1) true
  | waits {deadline n final : Nat} {raised : Bool} (answered : answer n = .wait) (early : now (n + 1) ≤ deadline)
      (rest : Ends deadline (n + 1) final raised) : Ends deadline n final raised
  | gaveUp {deadline n final : Nat} {raised : Bool} (answered : answer n = .wait) (late : deadline < now (n + 1))
      (cancelled : Ends (now (n + 1) + patience) (n + 1) final raised) : Ends deadline n final raised
  | lost {deadline n final : Nat} (answered : answer n = .fault)
      (cleared : Ends (now (n + 1) + patience) (n + 1) final true) : Ends deadline n final true
  | retried {deadline n middle final : Nat} {raised : Bool} (answered : answer n = .fault)
      (cleared : Ends (now (n + 1) + patience) (n + 1) middle false) (early : now middle ≤ deadline)
      (rest : Ends deadline middle final raised) : Ends deadline n final raised
  | faulted {deadline n middle : Nat} (answered : answer n = .fault)
      (cleared : Ends (now (n + 1) + patience) (n + 1) middle false) (late : deadline < now middle) :
      Ends deadline n middle false

/-- By how many the rejections exceed the completions among the first exchanges. -/
def balance : Nat → Int
  | 0 => 0
  | n + 1 =>
    match answer n with
    | .done => balance n - 1
    | .fault => balance n + 1
    | _ => balance n

/-- From some exchange on the balance comes back to a lowest level again and again, and there only rejections follow. -/
structure Grounded (level : Int) (start : Nat) : Prop where
  floor : ∀ n, start ≤ n → level ≤ balance answer n
  rejected : ∀ n, start ≤ n → balance answer n = level → answer n = .fault
  returns : ∀ n, ∃ later, n ≤ later ∧ balance answer later = level

/-- The clock never goes back, and it passes every deadline. -/
structure Runs : Prop where
  monotone : Monotone now
  passes : ∀ deadline, ∃ n, deadline < now n

end Runs

variable {answer : Nat → Answer} {now : Nat → Nat} {patience : Nat}

section Balance

theorem balance_done {n : Nat} (answered : answer n = .done) : balance answer (n + 1) = balance answer n - 1 := by
  rw [balance, answered]

theorem balance_fault {n : Nat} (answered : answer n = .fault) : balance answer (n + 1) = balance answer n + 1 := by
  rw [balance, answered]

theorem balance_wait {n : Nat} (answered : answer n = .wait) : balance answer (n + 1) = balance answer n := by
  rw [balance, answered]

theorem balance_step (n : Nat) : balance answer n - 1 ≤ balance answer (n + 1) := by
  rw [balance]
  cases answer n <;> simp only <;> omega

end Balance

section Sufficient

/-- Within a request the balance never falls below where it was. -/
theorem Ends.floor {deadline n final : Nat} {raised : Bool} (ends : Ends answer now patience deadline n final raised) :
    n < final ∧ (∀ k, n ≤ k → k < final → balance answer n ≤ balance answer k) ∧
      balance answer n - 1 ≤ balance answer final := by
  induction ends with
  | done answered =>
    refine ⟨by omega, fun k low high => ?_, balance_step _⟩
    rw [Nat.le_antisymm low (Nat.le_of_lt_succ high)]
  | invalid answered =>
    refine ⟨by omega, fun k low high => ?_, balance_step _⟩
    rw [Nat.le_antisymm low (Nat.le_of_lt_succ high)]
  | waits answered _ _ ih | gaveUp answered _ _ ih =>
    have same := balance_wait answered
    refine ⟨by omega, fun k low high => ?_, by omega⟩
    cases Nat.eq_or_lt_of_le low with
    | inl here => rw [here]
    | inr above => exact same ▸ ih.2.1 k above high
  | lost answered _ ih | faulted answered _ _ ih =>
    have more := balance_fault answered
    refine ⟨by omega, fun k low high => ?_, by omega⟩
    cases Nat.eq_or_lt_of_le low with
    | inl here => rw [here]
    | inr above =>
      have bound := ih.2.1 k above high
      omega
  | @retried _ _ middle _ _ answered _ _ _ ih later =>
    have more := balance_fault answered
    refine ⟨by omega, fun k low high => ?_, by omega⟩
    cases Nat.eq_or_lt_of_le low with
    | inl here => rw [here]
    | inr above =>
      by_cases inside : k < middle
      · have bound := ih.2.1 k above inside
        omega
      · have bound := later.2.1 k (Nat.le_of_not_lt inside) high
        omega

/-- A request ends without an error exactly if it has had no invalid answer. -/
theorem Ends.valid {deadline n final : Nat} {raised : Bool} (ends : Ends answer now patience deadline n final raised) :
    (raised = false → ∀ k, n ≤ k → k < final → answer k ≠ .invalid) ∧
      (raised = true → ∃ k, answer k = .invalid) := by
  have later : ∀ {first last : Nat} {kind : Answer}, answer first = kind → kind ≠ .invalid →
      (∀ k, first + 1 ≤ k → k < last → answer k ≠ .invalid) → ∀ k, first ≤ k → k < last → answer k ≠ .invalid := by
    intro first last kind answered valid rest k low high
    cases Nat.eq_or_lt_of_le low with
    | inl here => rw [← here, answered]; exact valid
    | inr above => exact rest k above high
  induction ends with
  | done answered => exact ⟨fun _ => later answered (by decide) fun k low high => by omega, by simp⟩
  | invalid answered => exact ⟨by simp, fun _ => ⟨_, answered⟩⟩
  | waits answered _ _ ih | gaveUp answered _ _ ih =>
    exact ⟨fun returned => later answered (by decide) (ih.1 returned), ih.2⟩
  | lost answered _ ih => exact ⟨by simp, ih.2⟩
  | faulted answered _ _ ih => exact ⟨fun _ => later answered (by decide) (ih.1 rfl), by simp⟩
  | @retried _ n middle final _ answered _ _ _ ih rest =>
    refine ⟨fun returned => later answered (by decide) fun k low high => ?_, rest.2⟩
    by_cases inside : k < middle
    · exact ih.1 rfl k low inside
    · exact rest.1 returned k (Nat.le_of_not_lt inside) high

/-- What follows a wait: the same request, or the one that cancels it. -/
theorem ends_wait {deadline n : Nat} {P : Nat → Prop} (answered : answer n = .wait)
    (follows : ∀ deadline, ∃ final raised, Ends answer now patience deadline (n + 1) final raised ∧ P final) :
    ∃ final raised, Ends answer now patience deadline n final raised ∧ P final := by
  by_cases early : now (n + 1) ≤ deadline
  · obtain ⟨final, raised, ends, good⟩ := follows deadline
    exact ⟨final, raised, .waits answered early ends, good⟩
  · obtain ⟨final, raised, ends, good⟩ := follows (now (n + 1) + patience)
    exact ⟨final, raised, .gaveUp answered (Nat.lt_of_not_le early) ends, good⟩

/-- What follows a rejection: the request that clears it, and if that returns, the same request again. -/
theorem ends_fault {deadline n : Nat} {P : Nat → Prop} (answered : answer n = .fault)
    (cleared : ∃ middle raised, Ends answer now patience (now (n + 1) + patience) (n + 1) middle raised ∧ P middle)
    (follows : ∀ middle, Ends answer now patience (now (n + 1) + patience) (n + 1) middle false →
      now middle ≤ deadline → P middle →
        ∃ final raised, Ends answer now patience deadline middle final raised ∧ P final) :
    ∃ final raised, Ends answer now patience deadline n final raised ∧ P final := by
  obtain ⟨middle, raised, ends, good⟩ := cleared
  cases raised with
  | true => exact ⟨middle, true, .lost answered ends, good⟩
  | false =>
    by_cases early : now middle ≤ deadline
    · obtain ⟨final, raised, rest, fine⟩ := follows middle ends early good
      exact ⟨final, raised, .retried answered ends early rest, fine⟩
    · exact ⟨middle, false, .faulted answered ends (Nat.lt_of_not_le early), good⟩

/-- A request ends by the exchange at which the completions since its start outnumber the rejections. -/
theorem ends_overtaken (last : Nat) : ∀ (room n : Nat), last = n + room → balance answer last < balance answer n →
    ∀ deadline, ∃ final raised, Ends answer now patience deadline n final raised ∧ final ≤ last := by
  intro room
  induction room using Nat.strongRecOn with
  | ind room ih =>
    intro n placed below deadline
    have positive : 0 < room := by
      cases room with
      | zero => simp only [placed, Nat.add_zero, Int.lt_irrefl] at below
      | succ room => exact room.succ_pos
    cases answered : answer n with
    | done => exact ⟨n + 1, false, .done answered, by omega⟩
    | invalid => exact ⟨n + 1, true, .invalid answered, by omega⟩
    | wait =>
      have same := balance_wait answered
      exact ends_wait answered (ih (room - 1) (by omega) (n + 1) (by omega) (by omega))
    | fault =>
      have more := balance_fault answered
      apply ends_fault answered (ih (room - 1) (by omega) (n + 1) (by omega) (by omega) _)
      intro middle cleared _ within
      have bound := cleared.floor
      have inside : middle ≠ last := fun same => by rw [same] at bound; omega
      exact ih (last - middle) (by omega) middle (by omega) (by omega) deadline

/-- A request ends by an invalid answer. -/
theorem ends_invalid {last : Nat} (invalid : answer last = .invalid) : ∀ (room n : Nat), last = n + room →
    ∀ deadline, ∃ final raised, Ends answer now patience deadline n final raised ∧ final ≤ last + 1 := by
  intro room
  induction room using Nat.strongRecOn with
  | ind room ih =>
    intro n placed deadline
    cases answered : answer n with
    | done => exact ⟨n + 1, false, .done answered, by omega⟩
    | invalid => exact ⟨n + 1, true, .invalid answered, by omega⟩
    | wait =>
      have inside : n ≠ last := fun same => by rw [same, invalid] at answered; cases answered
      exact ends_wait answered (ih (room - 1) (by omega) (n + 1) (by omega))
    | fault =>
      have inside : n ≠ last := fun same => by rw [same, invalid] at answered; cases answered
      apply ends_fault answered (ih (room - 1) (by omega) (n + 1) (by omega) _)
      intro middle cleared _ within
      have begun := cleared.floor.1
      have before : middle ≠ last + 1 := fun same =>
        (cleared.valid.1 rfl) last (by omega) (by omega) invalid
      exact ih (last - middle) (by omega) middle (by omega) deadline

/-- Above the lowest level a request ends when the balance comes back to it. -/
theorem ends_above {level : Int} {start n : Nat} (grounded : Grounded answer level start)
    (above : level < balance answer n) (deadline : Nat) :
    ∃ final raised, Ends answer now patience deadline n final raised ∧ True := by
  obtain ⟨last, later, low⟩ := grounded.returns n
  obtain ⟨final, raised, ends, _⟩ := ends_overtaken last (last - n) n (by omega) (low ▸ above) deadline
  exact ⟨final, raised, ends, trivial⟩

/-- At the lowest level a request is rejected until its deadline has passed. -/
theorem ends_at_floor {level : Int} {start : Nat} (grounded : Grounded answer level start) (runs : Runs now)
    {late deadline : Nat} (passed : deadline < now late) : ∀ (room n : Nat), late - n = room → start ≤ n →
      ∃ final raised, Ends answer now patience deadline n final raised ∧ True := by
  intro room
  induction room using Nat.strongRecOn with
  | ind room ih =>
    intro n placed begun
    cases Int.lt_or_eq_of_le (grounded.floor n begun) with
    | inl above => exact ends_above grounded above deadline
    | inr low =>
      have answered := grounded.rejected n begun low.symm
      have more := balance_fault answered
      apply ends_fault answered (ends_above grounded (by omega) _)
      intro middle cleared early _
      have forward := cleared.floor.1
      have before : middle < late := Nat.lt_of_not_le fun reached =>
        Nat.not_lt.mpr early (Nat.lt_of_lt_of_le passed (runs.monotone reached))
      exact ih (late - middle) (by omega) middle rfl (by omega)

/-- If the balance has a lowest level, where only rejections follow in the end, every request ends. -/
theorem ends_grounded {level : Int} {start : Nat} (grounded : Grounded answer level start) (runs : Runs now) :
    ∀ (room n : Nat), start - n = room → ∀ deadline, ∃ final raised, Ends answer now patience deadline n final raised ∧ True := by
  intro room
  induction room using Nat.strongRecOn with
  | ind room ih =>
    intro n placed deadline
    by_cases begun : start ≤ n
    · obtain ⟨late, passed⟩ := runs.passes deadline
      exact ends_at_floor grounded runs passed (late - n) n rfl begun
    cases answered : answer n with
    | done => exact ⟨n + 1, false, .done answered, trivial⟩
    | invalid => exact ⟨n + 1, true, .invalid answered, trivial⟩
    | wait => exact ends_wait answered (ih (start - (n + 1)) (by omega) (n + 1) rfl)
    | fault =>
      apply ends_fault answered (ih (start - (n + 1)) (by omega) (n + 1) rfl _)
      intro middle cleared _ _
      have forward := cleared.floor.1
      exact ih (start - middle) (by omega) middle rfl deadline

end Sufficient

section Necessary

variable (answer) in
/-- An exchange at which the clock may go on without any request noticing: the balance never falls below it again. -/
def Unnoticed (n : Nat) : Prop := answer n ≠ .done ∧ ∀ later, n < later → balance answer (n + 1) ≤ balance answer later

variable (answer) in
open Classical in
/-- The clock that goes on at these exchanges only. -/
noncomputable def adverse (n : Nat) : Nat := Nat.count (Unnoticed answer) n

theorem adverse_monotone : Monotone (adverse answer) := by
  classical
  exact fun _ _ order => Nat.count_monotone _ order

theorem adverse_still {n : Nat} (noticed : ¬ Unnoticed answer n) : adverse answer (n + 1) = adverse answer n := by
  classical
  simp [adverse, Nat.count_succ, noticed]

variable (answer) in
/-- From here the balance first falls below its level at this exchange. -/
structure FallsAt (n last : Nat) : Prop where
  order : n < last
  falls : balance answer last < balance answer n
  before : ∀ k, n ≤ k → k < last → balance answer n ≤ balance answer k

theorem first_fall {n later : Nat} (order : n ≤ later) (falls : balance answer later < balance answer n) :
    ∃ last, FallsAt answer n last ∧ last ≤ later := by
  classical
  have found : ∃ k, n ≤ k ∧ balance answer k < balance answer n := ⟨later, order, falls⟩
  have spec := Nat.find_spec found
  refine ⟨Nat.find found, ⟨?_, spec.2, fun k low high => ?_⟩, Nat.find_min' found ⟨order, falls⟩⟩
  · cases Nat.eq_or_lt_of_le spec.1 with
    | inl here =>
      have fallen := spec.2
      rw [← here] at fallen
      exact absurd fallen (Int.lt_irrefl _)
    | inr above => exact above
  · exact Int.not_lt.mp fun fallen => Nat.find_min found high ⟨low, fallen⟩

theorem FallsAt.one_below {n last : Nat} (fallsAt : FallsAt answer n last) :
    balance answer last = balance answer n - 1 ∧ answer (last - 1) = .done := by
  have order := fallsAt.order
  have before := fallsAt.before (last - 1) (by omega) (by omega)
  have falls := fallsAt.falls
  obtain ⟨previous, rfl⟩ := Nat.exists_eq_succ_of_ne_zero (Nat.ne_of_gt (Nat.lt_of_le_of_lt (Nat.zero_le n) order))
  simp only [Nat.succ_eq_add_one, Nat.add_sub_cancel] at before falls ⊢
  rw [balance] at falls ⊢
  cases answered : answer previous with
  | done => simp only [answered] at falls ⊢; exact ⟨by omega, trivial⟩
  | wait | fault | invalid => simp only [answered] at falls; omega

/-- Until the balance falls the clock stands still. -/
theorem FallsAt.still {n last : Nat} (fallsAt : FallsAt answer n last) {k : Nat} (low : n ≤ k) :
    k ≤ last → adverse answer k = adverse answer n := by
  induction k, low using Nat.le_induction with
  | base => exact fun _ => rfl
  | succ k low ih =>
    intro inside
    rw [adverse_still, ih (by omega)]
    intro ⟨unfinished, lowest⟩
    cases Nat.eq_or_lt_of_le inside with
    | inl here =>
      have finished := fallsAt.one_below.2
      rw [← here, Nat.add_sub_cancel] at finished
      exact unfinished finished
    | inr above =>
      have bound := lowest last (by omega)
      have level := fallsAt.before (k + 1) (by omega) above
      have falls := fallsAt.falls
      omega

theorem FallsAt.wait {n last : Nat} (fallsAt : FallsAt answer n last) (answered : answer n = .wait) :
    FallsAt answer (n + 1) last := by
  have same := balance_wait answered
  have falls := fallsAt.falls
  have later : n + 1 ≠ last := fun here => by rw [here] at same; omega
  have order := fallsAt.order
  exact ⟨by omega, by omega, fun k low high => same ▸ fallsAt.before k (by omega) high⟩

/-- After a rejection the balance first falls back to its level, and from there below it. -/
theorem FallsAt.fault {n last : Nat} (fallsAt : FallsAt answer n last) (answered : answer n = .fault) :
    ∃ middle, FallsAt answer (n + 1) middle ∧ FallsAt answer middle last := by
  have more := balance_fault answered
  have falls := fallsAt.falls
  have order := fallsAt.order
  obtain ⟨middle, inner, inside⟩ := @first_fall answer (n + 1) last (by omega) (by omega)
  have level := inner.one_below.1
  have begun := inner.order
  have before : middle ≠ last := fun here => by
    have below := fallsAt.one_below.1
    rw [← here] at below
    omega
  exact ⟨middle, inner, ⟨by omega, by omega, fun k low high => by
    have bound := fallsAt.before k (by omega) high
    omega⟩⟩

/-- With the adverse clock a request ends no earlier than it must. -/
theorem ends_exactly (valid : ∀ k, answer k ≠ .invalid) {deadline n final : Nat} {raised : Bool}
    (ends : Ends answer (adverse answer) patience deadline n final raised) : ∀ {last : Nat}, FallsAt answer n last →
      adverse answer n ≤ deadline → final = last := by
  induction ends with
  | @done _ n answered =>
    intro last fallsAt _
    have less := balance_done answered
    have order := fallsAt.order
    apply Classical.byContradiction
    intro different
    have bound := fallsAt.before (n + 1) (by omega) (by omega)
    omega
  | invalid answered => exact absurd answered (valid _)
  | waits answered early _ ih => exact fun fallsAt _ => ih (fallsAt.wait answered) early
  | @gaveUp _ n _ _ answered late _ _ =>
    intro last fallsAt fresh
    have still := fallsAt.still (k := n + 1) (by omega) fallsAt.order
    omega
  | lost _ cleared _ => exact absurd ((cleared.valid.2 rfl).choose_spec) (valid _)
  | @retried _ n middle _ _ answered _ early _ ih rest =>
    intro last fallsAt _
    obtain ⟨back, inner, outer⟩ := fallsAt.fault answered
    have same := ih inner (Nat.le_add_right _ _)
    exact rest (same ▸ outer) early
  | @faulted _ n middle answered _ late ih =>
    intro last fallsAt fresh
    obtain ⟨back, inner, outer⟩ := fallsAt.fault answered
    have same := ih inner (Nat.le_add_right _ _)
    have begun := inner.order
    have order := outer.order
    have still := fallsAt.still (k := middle) (by omega) (by omega)
    omega

/-- If a request that clears a rejection ends, it ends where the balance is back, and the clock has not gone on. -/
theorem cleared_back (valid : ∀ k, answer k ≠ .invalid) {n middle : Nat} (answered : answer n = .fault)
    (cleared : Ends answer (adverse answer) patience (adverse answer (n + 1) + patience) (n + 1) middle false)
    (falls : ∃ k, n + 1 ≤ k ∧ balance answer k < balance answer (n + 1)) :
    balance answer middle = balance answer n ∧ adverse answer middle = adverse answer n := by
  have more := balance_fault answered
  obtain ⟨k, low, below⟩ := falls
  obtain ⟨back, first, _⟩ := first_fall low below
  have same := ends_exactly valid cleared first (Nat.le_add_right _ _)
  have level := first.one_below.1
  have order := first.order
  have noticed : ¬ Unnoticed answer n := fun unnoticed => by
    have bound := unnoticed.2 back (by omega)
    omega
  rw [same, first.still (by omega) (by omega), adverse_still noticed]
  exact ⟨by omega, rfl⟩

/-- With the adverse clock a request never ends if the balance never falls below where it starts. -/
theorem never_ends (valid : ∀ k, answer k ≠ .invalid) {deadline n final : Nat} {raised : Bool}
    (ends : Ends answer (adverse answer) patience deadline n final raised) :
    (∀ k, n ≤ k → balance answer n ≤ balance answer k) → deadline < adverse answer n := by
  induction ends with
  | @done _ n answered =>
    intro lowest
    have less := balance_done answered
    have bound := lowest (n + 1) (by omega)
    omega
  | invalid answered => exact absurd answered (valid _)
  | @waits _ n _ _ answered early _ ih =>
    intro lowest
    have same := balance_wait answered
    have late := ih fun k low => same ▸ lowest k (by omega)
    omega
  | @gaveUp _ n _ _ answered late _ ih =>
    intro lowest
    have same := balance_wait answered
    have impossible := ih fun k low => same ▸ lowest k (by omega)
    omega
  | lost _ cleared _ => exact absurd ((cleared.valid.2 rfl).choose_spec) (valid _)
  | @retried _ n middle _ _ answered cleared early _ ih rest =>
    intro lowest
    by_cases falls : ∃ k, n + 1 ≤ k ∧ balance answer k < balance answer (n + 1)
    · have back := cleared_back valid answered cleared falls
      have begun := cleared.floor.1
      have late := rest fun k low => back.1 ▸ lowest k (by omega)
      omega
    · have impossible := ih fun k low => Int.not_lt.mp fun below => falls ⟨k, low, below⟩
      omega
  | @faulted _ n middle answered cleared late ih =>
    intro lowest
    by_cases falls : ∃ k, n + 1 ≤ k ∧ balance answer k < balance answer (n + 1)
    · exact (cleared_back valid answered cleared falls).2 ▸ late
    · have impossible := ih fun k low => Int.not_lt.mp fun below => falls ⟨k, low, below⟩
      omega

/-- From any exchange on the balance has a lowest level that it takes. -/
theorem lowest_level (nonnegative : ∀ n, 0 ≤ balance answer n) (start : Nat) :
    ∃ n, start ≤ n ∧ ∀ k, start ≤ k → balance answer n ≤ balance answer k := by
  classical
  have found : ∃ level : Nat, ∃ n, start ≤ n ∧ balance answer n = level :=
    ⟨(balance answer start).toNat, start, Nat.le_refl _, (Int.toNat_of_nonneg (nonnegative start)).symm⟩
  obtain ⟨n, low, level⟩ := Nat.find_spec found
  refine ⟨n, low, fun k later => ?_⟩
  have least := Nat.find_min' found ⟨k, later, (Int.toNat_of_nonneg (nonnegative k)).symm⟩
  have known := nonnegative k
  omega

/-- Without a lowest level where only rejections follow, the clock goes on again and again. -/
theorem unnoticed_again (valid : ∀ k, answer k ≠ .invalid) (nonnegative : ∀ n, 0 ≤ balance answer n)
    (groundless : ∀ level start, ¬ Grounded answer level start) (start : Nat) : ∃ n, start ≤ n ∧ Unnoticed answer n := by
  obtain ⟨bottom, low, least⟩ := lowest_level nonnegative start
  by_cases again : ∀ k, start ≤ k → balance answer k = balance answer bottom →
      ∃ later, k < later ∧ balance answer later = balance answer bottom
  · have returns : ∀ n, ∃ later, n ≤ later ∧ start ≤ later ∧ balance answer later = balance answer bottom := by
      intro n
      induction n with
      | zero => exact ⟨bottom, Nat.zero_le _, low, rfl⟩
      | succ n ih =>
        obtain ⟨later, reached, inside, level⟩ := ih
        obtain ⟨next, beyond, same⟩ := again later inside level
        exact ⟨next, by omega, by omega, same⟩
    apply Classical.byContradiction
    intro noticed
    refine groundless (balance answer bottom) start ⟨least, fun n begun level => ?_, fun n => ?_⟩
    · cases answered : answer n with
      | done =>
        have less := balance_done answered
        have bound := least (n + 1) (by omega)
        omega
      | invalid => exact absurd answered (valid n)
      | wait =>
        have same := balance_wait answered
        refine absurd ⟨n, begun, by simp [answered], fun later order => ?_⟩ noticed
        have bound := least later (by omega)
        omega
      | fault => rfl
    · obtain ⟨later, reached, _, level⟩ := returns n
      exact ⟨later, reached, level⟩
  · simp only [not_forall, not_exists, not_and] at again
    obtain ⟨last, begun, level, alone⟩ := again
    have above : ∀ later, last < later → balance answer bottom < balance answer later := fun later order =>
      lt_of_le_of_ne (least later (by omega)) fun same => alone later order same.symm
    have next := above (last + 1) (by omega)
    refine ⟨last, begun, ?_⟩
    cases answered : answer last with
    | done =>
      have less := balance_done answered
      omega
    | invalid => exact absurd answered (valid last)
    | wait =>
      have same := balance_wait answered
      omega
    | fault =>
      have more := balance_fault answered
      refine ⟨by simp [answered], fun later order => ?_⟩
      have bound := above later order
      omega

theorem adverse_runs (valid : ∀ k, answer k ≠ .invalid) (nonnegative : ∀ n, 0 ≤ balance answer n)
    (groundless : ∀ level start, ¬ Grounded answer level start) : Runs (adverse answer) := by
  classical
  refine ⟨adverse_monotone, fun deadline => ?_⟩
  have next : ∀ start, ∃ n, adverse answer start < adverse answer n := by
    intro start
    obtain ⟨n, low, unnoticed⟩ := unnoticed_again valid nonnegative groundless start
    refine ⟨n + 1, Nat.lt_of_le_of_lt (adverse_monotone low) ?_⟩
    simp [adverse, Nat.count_succ, unnoticed]
  induction deadline with
  | zero =>
    obtain ⟨n, more⟩ := next 0
    exact ⟨n, by omega⟩
  | succ deadline ih =>
    obtain ⟨start, passed⟩ := ih
    obtain ⟨n, more⟩ := next start
    exact ⟨n, by omega⟩

end Necessary

/-- Whatever the clock does, the first request ends exactly if some answer is invalid, or at some time the completions
outnumber the rejections, or the balance of the two has a lowest level where only rejections follow in the end. -/
theorem always_ends_iff (answer : Nat → Answer) (patience : Nat) :
    (∀ now, Runs now → ∃ final raised, Ends answer now patience (now 0 + patience) 0 final raised) ↔
      (∃ n, answer n = .invalid) ∨ (∃ n, balance answer n < 0) ∨ ∃ level start, Grounded answer level start := by
  constructor
  · intro ends
    apply Classical.byContradiction
    intro neither
    simp only [not_or, not_exists, Int.not_lt] at neither
    obtain ⟨valid, nonnegative, groundless⟩ := neither
    obtain ⟨final, raised, ended⟩ := ends _ (adverse_runs valid nonnegative groundless)
    have impossible := never_ends valid ended fun k _ => nonnegative k
    omega
  · intro good now runs
    cases good with
    | inl invalid =>
      obtain ⟨n, answered⟩ := invalid
      obtain ⟨final, raised, ends, _⟩ := ends_invalid answered n 0 (Nat.zero_add n).symm (now 0 + patience)
      exact ⟨final, raised, ends⟩
    | inr good =>
      cases good with
      | inl overtaken =>
        obtain ⟨n, below⟩ := overtaken
        obtain ⟨final, raised, ends, _⟩ := ends_overtaken n n 0 (Nat.zero_add n).symm below (now 0 + patience)
        exact ⟨final, raised, ends⟩
      | inr grounded =>
        obtain ⟨level, start, grounded⟩ := grounded
        obtain ⟨final, raised, ends, _⟩ := ends_grounded grounded runs start 0 (Nat.sub_zero start) (now 0 + patience)
        exact ⟨final, raised, ends⟩

end BlackMagic.Lib.Retry

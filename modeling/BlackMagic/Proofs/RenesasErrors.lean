import BlackMagic.RenesasRv40
import Mathlib.Tactic.IntervalCases

/-! Which errors of the RV40 controller an erase or a write reports. -/

namespace BlackMagic.Proofs.RenesasErrors
open BlackMagic.RenesasRv40 Lib.Polling Lib.Words

/-- How many pieces a range has, where the length gets to zero. -/
def pieces (size : Nat → Nat) : Nat → Nat → Nat → Option Nat
  | 0, _, _ => none
  | passes + 1, addr, len =>
    if len = 0 then some 0 else (pieces size passes (add32 addr (size addr)) (sub32 len (size addr))).map (· + 1)

/-- A loop succeeds exactly when the range comes to an end and every step does. -/
theorem rangeLoop_true {size : Nat → Nat} {step : Nat → Bool} {passes i addr len : Nat} :
    rangeLoop size step passes i addr len = some true ↔
      ∃ count, pieces size passes addr len = some count ∧ ∀ j < count, step (i + j) = true := by
  induction passes generalizing i addr len with
  | zero =>
    constructor
    · intro never
      cases never
    · intro ⟨count, never, _⟩
      cases never
  | succ passes ih =>
    rw [rangeLoop, pieces]
    by_cases done : len = 0
    · rw [if_pos done, if_pos done]
      exact ⟨fun _ => ⟨0, rfl, fun j never => absurd never (Nat.not_lt_zero j)⟩, fun _ => rfl⟩
    · rw [if_neg done, if_neg done]
      cases first : step i with
      | false =>
        constructor
        · intro never
          cases never
        · intro ⟨count, counted, steps⟩
          obtain ⟨rest, _, rfl⟩ := Option.map_eq_some_iff.mp counted
          cases first.symm.trans (steps 0 (Nat.succ_pos rest))
      | true =>
        have from_succ {count : Nat} := @forall_from_succ (step · = true) i count
        rw [Bool.not_true, if_neg Bool.false_ne_true, ih]
        constructor
        · intro ⟨count, counted, steps⟩
          exact ⟨count + 1, Option.map_eq_some_iff.mpr ⟨count, counted, rfl⟩, from_succ.mpr ⟨first, steps⟩⟩
        · intro ⟨count, counted, steps⟩
          obtain ⟨rest, found, rfl⟩ := Option.map_eq_some_iff.mp counted
          exact ⟨rest, found, (from_succ.mp steps).2⟩

/-- The ready bit is read before an error and before the timeout. -/
def BecomesReady (wait : Wait) : Prop :=
  ∃ n ≤ wait.patience, wait.fstatr n &&& rv40FstatrRdy ≠ 0 ∧
    ∀ m < n, wait.fstatr m &&& rv40FstatrRdy = 0 ∧ wait.checkError m = false

theorem ready_iff (wait : Wait) : wait.ready = true ↔ BecomesReady wait := by
  have shape : wait.ready = true ↔ await (fun n =>
      if wait.fstatr n &&& rv40FstatrRdy ≠ 0 then some true
      else if wait.checkError n then some false
      else none) (wait.patience + 1) 0 = some true := by
    rw [Wait.ready]
    cases await _ (wait.patience + 1) 0 with
    | none => exact ⟨(fun never => by cases never), (fun never => by cases never)⟩
    | some answer => exact ⟨congrArg some, Option.some.inj⟩
  rw [shape, await_iff]
  simp only [Nat.zero_add]
  constructor
  · intro ⟨n, inside, before, found⟩
    refine ⟨n, Nat.lt_succ_iff.mp inside, ?_, ?_⟩
    · intro busy
      rw [if_neg (not_not.mpr busy)] at found
      split at found
      · cases found
      · cases found
    · intro m earlier
      have silent := before m earlier
      split at silent
      · cases silent
      next busy =>
        split at silent
        · cases silent
        next usable => exact ⟨not_not.mp busy, Bool.not_eq_true _ ▸ usable⟩
  · intro ⟨n, inside, ready, before⟩
    refine ⟨n, Nat.lt_succ_iff.mpr inside, ?_, if_pos ready⟩
    intro m earlier
    obtain ⟨busy, usable⟩ := before m earlier
    rw [if_neg (not_not.mpr busy), usable]
    rfl

/-- The controller is command-locked. -/
def Locked (check : Check) : Prop := check.fastat &&& rv40FastatCmdlk ≠ 0

/-- The error bits that an operation checks. -/
def errorBits : Operation → BitVec 32
  | .erase => rv40FstatrErserr ||| rv40FstatrIlglerr
  | .write => rv40FstatrPrgerr ||| rv40FstatrIlglerr

/-- The size of a piece of an operation. -/
def size (addr : Nat) : Operation → Nat → Nat
  | .erase => blockSize (codeFlash addr)
  | .write => fun _ => writeSize (codeFlash addr)

/-- How many error checks there are for so many pieces: one for each block that is erased, one for a write. -/
def checks (count : Nat) : Operation → Nat
  | .erase => count
  | .write => 1

/-- No error bit of an operation lies in the byte that the status goes through. -/
theorem narrowed (operation : Operation) (fstatr : BitVec 32) :
    (fstatr.setWidth 8 : Byte).setWidth 32 &&& errorBits operation = 0 := by
  apply BitVec.eq_of_getLsbD_eq
  intro i bit
  rw [BitVec.getLsbD_and, BitVec.getLsbD_setWidth]
  by_cases low : i < 8
  · have clear : (errorBits operation).getLsbD i = false := by
      cases operation <;> interval_cases i <;> rfl
    rw [clear, Bool.and_false]
    exact (BitVec.getLsbD_zero).symm
  · rw [BitVec.getLsbD_of_ge _ i (by omega), Bool.and_false, Bool.false_and]
    exact (BitVec.getLsbD_zero).symm

theorem errorCheck_iff (operation : Operation) (check : Check) :
    renesasRv40ErrorCheck check (errorBits operation) = true ↔ Locked check := by
  rw [renesasRv40ErrorCheck, narrowed, Locked]
  simp

/-- When an operation returns true: only the command lock counts. -/
theorem run_true (operation : Operation) (controller : Controller) (passes addr len : Nat) :
    operation.run controller passes addr len = some true ↔
      ∃ count, pieces (size addr operation) passes addr len = some count ∧
        (∀ i < count, BecomesReady (controller.wait i)) ∧ ∀ i < checks count operation, ¬ Locked (controller.check i) := by
  cases operation with
  | erase =>
    have step : ∀ i, ((controller.wait i).ready &&
        !renesasRv40ErrorCheck (controller.check i) (rv40FstatrErserr ||| rv40FstatrIlglerr)) = true ↔
          BecomesReady (controller.wait i) ∧ ¬ Locked (controller.check i) := by
      intro i
      rw [Bool.and_eq_true, ready_iff, Bool.not_eq_true', ← Bool.not_eq_true]
      exact and_congr_right fun _ => not_congr (errorCheck_iff .erase (controller.check i))
    simp only [Operation.run, renesasRv40FlashErase, rangeLoop_true, Nat.zero_add, step, forall_and]
    rfl
  | write =>
    simp only [Operation.run, renesasRv40FlashWrite, Option.map_eq_some_iff, Bool.and_eq_true]
    constructor
    · intro ⟨done, looped, finished, checked⟩
      rw [finished] at looped
      obtain ⟨count, counted, steps⟩ := rangeLoop_true.mp looped
      refine ⟨count, counted, fun i inside => (ready_iff _).mp (Nat.zero_add i ▸ steps i inside), ?_⟩
      intro i one locked
      rw [Nat.lt_one_iff.mp one] at locked
      rw [Bool.not_eq_true', ← Bool.not_eq_true] at checked
      exact checked ((errorCheck_iff .write (controller.check 0)).mpr locked)
    · intro ⟨count, counted, waits, unlocked⟩
      refine ⟨true, rangeLoop_true.mpr ⟨count, counted, ?_⟩, rfl, ?_⟩
      · intro j inside
        rw [Nat.zero_add]
        exact (ready_iff _).mpr (waits j inside)
      · rw [Bool.not_eq_true', ← Bool.not_eq_true]
        exact fun failed => unlocked 0 Nat.one_pos ((errorCheck_iff .write (controller.check 0)).mp failed)

/-- An error check of an operation finds nothing. -/
structure Clean (operation : Operation) (check : Check) : Prop where
  status : check.fstatr &&& errorBits operation = 0
  unlocked : ¬ Locked check

/-- Errors are reported exactly where no error bit comes without the command lock. -/
theorem errors_reported_iff (operation : Operation) (controller : Controller) (passes addr len : Nat) :
    (operation.run controller passes addr len = some true → ∀ count,
      pieces (size addr operation) passes addr len = some count →
        ∀ i < checks count operation, Clean operation (controller.check i)) ↔
    ∀ count, pieces (size addr operation) passes addr len = some count →
      (∃ i < count, ¬ BecomesReady (controller.wait i)) ∨ (∃ i < checks count operation, Locked (controller.check i)) ∨
        ∀ i < checks count operation, (controller.check i).fstatr &&& errorBits operation = 0 := by
  constructor
  · intro reported count counted
    by_cases waits : ∀ i < count, BecomesReady (controller.wait i)
    · by_cases unlocked : ∀ i < checks count operation, ¬ Locked (controller.check i)
      · have clean := reported ((run_true ..).mpr ⟨count, counted, waits, unlocked⟩) count counted
        exact .inr (.inr fun i inside => (clean i inside).status)
      · push Not at unlocked
        exact .inr (.inl unlocked)
    · push Not at waits
      exact .inl waits
  · intro condition succeeded count counted i inside
    obtain ⟨same, found, waits, unlocked⟩ := (run_true ..).mp succeeded
    cases found.symm.trans counted
    rcases condition count counted with ⟨j, early, never⟩ | ⟨j, early, locked⟩ | status
    · exact absurd (waits j early) never
    · exact absurd locked (unlocked j early)
    · exact ⟨status i inside, unlocked i inside⟩

/-- A controller that is always ready, and whose status has the erase error bit. -/
def eraseFails : Controller where
  wait _ := ⟨fun _ => rv40FstatrRdy, fun _ => false, 0⟩
  check _ := ⟨rv40FstatrRdy ||| rv40FstatrErserr, 0⟩

theorem erase_error_ignored : renesasRv40FlashErase eraseFails 2 0x10000 0x8000 = some true ∧
    pieces (size 0x10000 .erase) 2 0x10000 0x8000 = some 1 ∧ ¬ Clean .erase (eraseFails.check 0) :=
  ⟨by decide, by decide, fun clean => absurd clean.status (by decide)⟩

end BlackMagic.Proofs.RenesasErrors

import BlackMagic.FlashStub
import Mathlib.Tactic.IntervalCases

/-! What a Flash write by a stub says about the stub. -/

namespace BlackMagic.Proofs.StubResults
open BlackMagic.Targets FlashStub Lib.Polling

/-- The first poll that finds the core halted has a reason, and comes before the timeout expires. -/
def Halts (run : Run) (reason : TargetHaltReason) : Prop :=
  ∃ n < run.patience, (∀ m < n, run.haltPoll m = .running) ∧ run.haltPoll n = reason ∧ reason ≠ .running

/-- The stub stopped on a BKPT instruction with an exit code. -/
structure StoppedOnBkpt (run : Run) (code : BitVec 8) : Prop where
  registers : run.checkError = false
  halts : Halts run .breakpoint
  instruction : run.bkptInstr >>> 8 = 0xbe
  exit : run.bkptInstr.setWidth 8 = code

/-- The target was lost while the stub ran. -/
structure Lost (run : Run) : Prop where
  registers : run.checkError = false
  halts : Halts run .error

theorem halts_iff (run : Run) (reason : TargetHaltReason) :
    Halts run reason ↔ awaitHalt run.haltPoll run.patience = some reason := by
  rw [awaitHalt, await_iff]
  simp only [Nat.zero_add]
  constructor
  · intro ⟨n, inside, before, here, halted⟩
    exact ⟨n, inside, fun k earlier => if_pos (before k earlier), by rw [here, if_neg halted]⟩
  · intro ⟨n, inside, before, found⟩
    have running : ∀ k < n, run.haltPoll k = .running := by
      intro k earlier
      by_contra halted
      cases (if_neg halted).symm.trans (before k earlier)
    by_cases still : run.haltPoll n = .running
    · cases (if_pos still).symm.trans found
    · rw [if_neg still] at found
      cases found
      exact ⟨n, inside, running, rfl, still⟩

/-- The stub stopped on a BKPT, or there was nothing to report about it. -/
def Accounted (run : Run) : Prop := Lost run ∨ ∃ code, StoppedOnBkpt run code

theorem Halts.unique {run : Run} {first second : TargetHaltReason} (one : Halts run first) (two : Halts run second) :
    first = second := by
  rw [halts_iff] at one two
  exact Option.some.inj (one.symm.trans two)

end BlackMagic.Proofs.StubResults

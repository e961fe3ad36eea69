import BlackMagic.Ch32f1

/-! Which communication errors an erase or a write of the CH32F1 reports. -/

namespace BlackMagic.Proofs.Ch32f1Errors
open BlackMagic.Ch32f1 Lib.Polling

section Loops
variable {pass : Nat → Pass} {finish : Bool}

/-- The passes before the `k`-th all go on. -/
def Reaches (pass : Nat → Pass) (i k : Nat) : Prop := ∀ j < k, (pass (i + j)).ending = .next

end Loops

section Waits
variable {done : BitVec 32 → Bool} {patience : Nat} {polls : Polls}

/-- A wait gets an error before the status that it waits for. -/
def Lost (done : BitVec 32 → Bool) (patience : Nat) (polls : Polls) : Prop :=
  ∃ n < patience, (∀ m < n, polls.checkError m = false ∧ done (polls.sr m) = false) ∧ polls.checkError n = true

/-- A wait gets the status that it waits for before an error. -/
def Over (done : BitVec 32 → Bool) (patience : Nat) (polls : Polls) : Prop :=
  ∃ n < patience, (∀ m < n, polls.checkError m = false ∧ done (polls.sr m) = false) ∧ polls.checkError n = false ∧
    done (polls.sr n) = true

end Waits

section Passes
variable {patience : Nat}

/-- What a page needs before its data is programmed. An error while the buffer is cleared is not looked at. -/
structure Prepared (patience : Nat) (answers : PageAnswers) : Prop where
  unlocked : unlocked answers.cr = true
  busy : Over Polls.busyOver patience answers.busy
  cleared : Lost Polls.busyOver patience answers.clear ∨ Over Polls.busyOver patience answers.clear
  ready : ch32f1WaitFlashReady answers.flash = true
  uploads : ∀ i < 8, Over Polls.eopSet patience (answers.upload i)

/-- A page is written. -/
structure Written (patience : Nat) (answers : PageAnswers) : Prop where
  prepared : Prepared patience answers
  eop : Over Polls.eopSet patience answers.eop
  status : statusClear answers.sr = true

end Passes

section Results

end Results

end BlackMagic.Proofs.Ch32f1Errors

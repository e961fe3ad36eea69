import BlackMagic.Proofs.SemihostingAccess

/-! What a semihosting write leaves in the first register. A redirected write reports that nothing has been written, and an error of
the host is passed on. -/

namespace BlackMagic.Proofs.SemihostingWrites
open Lib Lib.Program Semihosting SemihostingAccess
open Hostio (Request)

variable {σ : Type} {host : Host σ} {middle final : Machine σ}

/-- Output of this file goes to the probe's serial port. -/
def Redirected (machine : Machine σ) (fd : BitVec 32) : Prop :=
  machine.stdoutRedirected = true ∧ (fd = stdoutFileno ∨ fd = stderrFileno)

instance redirectedDecidable (machine : Machine σ) (fd : BitVec 32) : Decidable (Redirected machine fd) :=
  inferInstanceAs (Decidable (_ ∧ _))

/-- What `tc_write` returns: nothing is counted for a redirected output, and the answer of GDB is passed on. -/
structure Reported (host : Host σ) (middle : Machine σ) (fd buf count ret : BitVec 32) : Prop where
  redirected : Redirected middle fd → ret = 0
  absent : ¬ Redirected middle fd → host.provides (.write fd buf count) = false → ret = 0
  answered : ¬ Redirected middle fd → host.provides (.write fd buf count) = true → ∃ reply rest,
    host.exchange middle.memRead middle.memWrite (.write fd buf count) middle.rest = (.ok reply, rest) ∧ ret = reply.result

/-- The writes of registers so far. -/
def Written (written : List Registers) (machine : Machine σ) : Prop := machine.written = written

section Counts

/-- The bytes that the sink of a write has accepted: all of them on the serial port, and none after an error. -/
def accepted (host : Host σ) (middle : Machine σ) (fd buf count : BitVec 32) : BitVec 32 :=
  if Redirected middle fd then count
  else if host.provides (.write fd buf count) then
    ((host.exchange middle.memRead middle.memWrite (.write fd buf count) middle.rest).1.toOption.map fun reply =>
      if 0 ≤ reply.result.toInt then reply.result else 0).getD 0
  else 0

variable {before : Machine σ}

def listening (redirected : Bool) : Machine Unit := ⟨.driver, .driver, false, 0, -1, redirected, [], [], [], [], ()⟩

end Counts

end BlackMagic.Proofs.SemihostingWrites

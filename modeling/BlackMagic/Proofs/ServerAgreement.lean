import BlackMagic.Proofs.ServerTargets

/-! The target that is attached is the current one, in every run that neither loses the
connection nor attaches elsewhere while a target is current. -/

namespace BlackMagic.Proofs.ServerAgreement
open BlackMagic.Targets BlackMagic.Commands BlackMagic.Server Lib Lib.Program ServerFrame TargetList ServerInvariants
open ServerTargets

structure Agreed (v : View) : Prop where
  sound : Sound v
  attached : ∀ id ∈ v.targetList, (v.heap id).attached = true ↔ v.curTarget = some id

section Views

end Views

section Steps

variable {answers : Answers}

/-- The target that an attach by number is about. -/
def named (v : View) : Nat → Option Nat
  | 0 => none
  | n + 1 => v.targetList[n]?

/-- No target is current, or the packet names a target whose attach frees the list or
raises, or it names the current target and succeeds. -/
def AttachTidy (answers : Answers) (v : View) (n : Nat) : Prop :=
  v.curTarget = none ∨ ∃ id, named v n = some id ∧
    (answers.attach.frees = true ∨ (∃ exception, answers.attach.result = .error exception) ∨
      v.curTarget = some id ∧ answers.attach.result = .ok true)

/-- The connection is not lost while a target is current, unless its detach raises. -/
def DropTidy (answers : Answers) (v : View) : Prop := ∀ id, v.curTarget = some id → answers.detach .request id ≠ none

structure Tidy (server : Server) (event : Event) (answers : Answers) : Prop where
  honest : AttachHonest answers
  attach : ∀ n, attachNumber answers event = some n → AttachTidy answers (view server) n
  drop : event = .drop → DropTidy answers (view server)

end Steps

section Runs

end Runs

section Sessions

end Sessions

end BlackMagic.Proofs.ServerAgreement

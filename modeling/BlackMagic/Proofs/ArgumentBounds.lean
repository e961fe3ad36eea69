import BlackMagic.CommandArguments

/-! Which monitor commands are handled without a read behind the arguments that have been given. -/

namespace BlackMagic.Proofs.ArgumentBounds
open CommandArguments Lib.Tokens
open Targets (Text)

section Specification

/-- No more tokens are stored than there is room for, only places of tokens are read, and none without a token. -/
structure Safe (processed : Processed) : Prop where
  stored : processed.call.argc ≤ processed.allocated
  given : ∀ i ∈ processed.reads, i < processed.call.argc
  blank : processed.call.argc = 0 → processed.reads = []

end Specification

section Handlers

variable {call : Call}

end Handlers

section CommandProcess

variable (options : Options) (target : Option Target) (unset : Nat → Text) (cmdBuffer : Text)

/-- The tokens are those that the server splits a command into. -/
theorem argv_tokens :
    (commandProcess options target unset cmdBuffer).call.argv = Commands.tokens (Commands.cString cmdBuffer) := by
  refine (tokens_eq (Nat.le_refl _)).trans ?_
  unfold Commands.tokens isDelimiter
  apply List.filter_congr
  intro part _
  cases part <;> rfl

variable {options target unset cmdBuffer}

end CommandProcess

end BlackMagic.Proofs.ArgumentBounds

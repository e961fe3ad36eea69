import BlackMagic.Targets

/-! Attaching to a Cortex-A target (`cortexa.c`), over a link whose accesses succeed or
raise one after the other. -/

namespace BlackMagic.CortexA
open Lib Lib.Program Targets

/-- What the next accesses give, the text that was printed, and whether a poll has freed
the targets. -/
structure Link where
  accesses : List (Except Exception (BitVec 32))
  console : List Text
  freed : Bool

abbrev Driver := Program Link Exception

/-- One access to the debug registers; after the listed ones they read as zero. -/
def access : Driver (BitVec 32) := do
  match (← read).accesses with
  | [] => pure 0
  | .ok value :: rest =>
    change fun link => { link with accesses := rest }
    pure value
  | .error exception :: rest =>
    change fun link => { link with accesses := rest }
    stop exception

/-- `TRY_CATCH` for every exception. -/
def tryCatch {α : Type} (body : Driver α) : Driver (Except Exception α) :=
  rescue
    (do
      let value ← body
      pure (.ok value))
    fun exception => pure (.error exception)

def dscrHalted : BitVec 32 := 1#32
def dscrMoeMask : BitVec 32 := 0x3c#32
def dscrMoeHaltRequest : BitVec 32 := 0#32
def dscrMoeAsyncWatch : BitVec 32 := 8#32
def dscrMoeSyncWatch : BitVec 32 := 0x28#32

/-- Why the core has halted; which watchpoint it was is known if there is just one. -/
def haltReason (dbgdscr : BitVec 32) (watchpoints : List Nat) : TargetHaltReason :=
  let moe := dbgdscr &&& dscrMoeMask
  if moe = dscrMoeHaltRequest then .request
  else if moe = dscrMoeAsyncWatch ∨ moe = dscrMoeSyncWatch then
    match watchpoints with
    | [_] => .watchpoint
    | _ => .breakpoint
  else .breakpoint

variable (watchpoints : List Nat) (regsReadInternal : Driver Unit)

end BlackMagic.CortexA

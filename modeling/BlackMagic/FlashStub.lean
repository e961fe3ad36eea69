import BlackMagic.Targets
import BlackMagic.Lib.Polling

/-! Flash writes by a stub in the RAM of a Cortex-M target: `cortexm_run_stub` (`cortexm.c`) and its callers in `lmi.c` and
`efm32.c`. What the target does with the stub is given by its answers. -/

namespace BlackMagic.FlashStub
open Targets Lib.Polling

/-- What the target answers while a stub is run: whether writing the registers was an error, the reasons of the halt polls,
how many of them there are before the timeout expires, and the instruction at the program counter after that. -/
structure Run where
  checkError : Bool
  haltPoll : Nat → TargetHaltReason
  patience : Nat
  bkptInstr : BitVec 16

/-- How a function ends: with a result, or with `EXCEPTION_ERROR`. -/
inductive Ending where
  | returned (result : Bool)
  | raised
  deriving DecidableEq, Repr

/-- The loop of halt polls, which ends without a reason once the timeout has expired. -/
def awaitHalt (haltPoll : Nat → TargetHaltReason) (patience : Nat) : Option TargetHaltReason :=
  await (fun n => if haltPoll n = .running then none else some (haltPoll n)) patience 0

def cortexmRunStub (run : Run) : Ending :=
  if run.checkError then .returned false
  else
    match awaitHalt run.haltPoll run.patience with
    | none => .returned false
    | some .error => .raised
    | some .breakpoint =>
      if run.bkptInstr >>> 8 ≠ 0xbe then .returned false else .returned (run.bkptInstr &&& 0xff != 0)
    | some _ => .returned false

/-- `cortexm_run_stub(..) == 0`. -/
def stubReturnsZero (run : Run) : Ending :=
  match cortexmRunStub run with
  | .returned result => .returned (result == false)
  | .raised => .raised

/-- `loaded` is whether the stub and the data were written without an error. -/
def lmiFlashWrite (loaded : Bool) (run : Run) : Ending :=
  if !loaded then .returned false else stubReturnsZero run

/-- `device` is whether the part was identified. -/
def efm32FlashWrite (device : Bool) (run : Run) : Ending :=
  if !device then .returned false else stubReturnsZero run

/-- The drivers that write Flash with a stub. -/
inductive Driver where
  | lmi
  | efm32
  deriving DecidableEq, Repr

def Driver.flashWrite (ready : Bool) (run : Run) : Driver → Ending
  | .lmi => lmiFlashWrite ready run
  | .efm32 => efm32FlashWrite ready run

end BlackMagic.FlashStub

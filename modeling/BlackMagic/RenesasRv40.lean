import BlackMagic.Bytes
import BlackMagic.Lib.Polling
import BlackMagic.Lib.Words

/-! Erasing and writing the RV40 Flash of Renesas parts (`renesas.c`), over what the controller answers. The writes to the
controller, and its recovery from the command-locked state, have no influence on the results. -/

namespace BlackMagic.RenesasRv40
open Lib.Polling Lib.Words

def renesasCfEnd : Nat := 0x00300000
def rv40CfRegion0Size : Nat := 0x10000
def rv40CfRegion0BlockSize : Nat := 0x2000
def rv40CfRegion1BlockSize : Nat := 0x8000
def rv40DfBlockSize : Nat := 0x40
def rv40CfWriteSize : Nat := 0x80
def rv40DfWriteSize : Nat := 0x4

def rv40FastatCmdlk : Byte := 1 <<< 4
def rv40FstatrPrgerr : BitVec 32 := 1 <<< 12
def rv40FstatrErserr : BitVec 32 := 1 <<< 13
def rv40FstatrIlglerr : BitVec 32 := 1 <<< 14
def rv40FstatrRdy : BitVec 32 := 1 <<< 15

/-- What a wait for the controller reads, whether a read was an error, and how many passes the timeout allows. -/
structure Wait where
  fstatr : Nat → BitVec 32
  checkError : Nat → Bool
  patience : Nat

/-- What an error check reads. -/
structure Check where
  fstatr : BitVec 32
  fastat : Byte

/-- The answers of the controller, by the number of the wait and of the error check. -/
structure Controller where
  wait : Nat → Wait
  check : Nat → Check

/-- The loop until the ready bit is set. -/
def Wait.ready (wait : Wait) : Bool :=
  (await (fun n =>
    if wait.fstatr n &&& rv40FstatrRdy ≠ 0 then some true
    else if wait.checkError n then some false
    else none) (wait.patience + 1) 0).getD false

/-- The status goes through a `uint8_t`. -/
def renesasRv40ErrorCheck (check : Check) (errorBits : BitVec 32) : Bool :=
  let fstatr : Byte := check.fstatr.setWidth 8
  check.fastat &&& rv40FastatCmdlk != 0 || fstatr.setWidth 32 &&& errorBits != 0

/-- A loop over a range in pieces, up to the first step that fails. The length may run below zero. -/
def rangeLoop (size : Nat → Nat) (step : Nat → Bool) : Nat → Nat → Nat → Nat → Option Bool
  | 0, _, _, _ => none
  | passes + 1, i, addr, len =>
    if len = 0 then some true
    else if !step i then some false
    else rangeLoop size step passes (i + 1) (add32 addr (size addr)) (sub32 len (size addr))

def codeFlash (addr : Nat) : Bool := addr < renesasCfEnd

def blockSize (codeFlash : Bool) (addr : Nat) : Nat :=
  if codeFlash then if addr < rv40CfRegion0Size then rv40CfRegion0BlockSize else rv40CfRegion1BlockSize
  else rv40DfBlockSize

def writeSize (codeFlash : Bool) : Nat := if codeFlash then rv40CfWriteSize else rv40DfWriteSize

def renesasRv40FlashErase (controller : Controller) (passes addr len : Nat) : Option Bool :=
  rangeLoop (blockSize (codeFlash addr))
    (fun i => (controller.wait i).ready &&
      !renesasRv40ErrorCheck (controller.check i) (rv40FstatrErserr ||| rv40FstatrIlglerr))
    passes 0 addr len

def renesasRv40FlashWrite (controller : Controller) (passes dest len : Nat) : Option Bool :=
  (rangeLoop (fun _ => writeSize (codeFlash dest)) (fun i => (controller.wait i).ready) passes 0 dest len).map fun done =>
    done && !renesasRv40ErrorCheck (controller.check 0) (rv40FstatrPrgerr ||| rv40FstatrIlglerr)

inductive Operation where
  | erase
  | write
  deriving DecidableEq, Repr

def Operation.run (controller : Controller) (passes addr len : Nat) : Operation → Option Bool
  | .erase => renesasRv40FlashErase controller passes addr len
  | .write => renesasRv40FlashWrite controller passes addr len

end BlackMagic.RenesasRv40

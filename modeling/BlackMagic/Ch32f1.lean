import BlackMagic.Bytes
import BlackMagic.Lib.Polling

/-! Erasing and writing the Flash of the CH32F1 (`ch32f1.c`), over what the controller answers. The macros that wait for the
controller leave the function they stand in with `return -1`. -/

namespace BlackMagic.Ch32f1
open Lib.Polling

def flashSrBsy : BitVec 32 := 1 <<< 0
def flashSrEop : BitVec 32 := 1 <<< 5
def srErrorMask : BitVec 32 := 0x14
def flashCrFlockCh32 : BitVec 32 := 1 <<< 15

/-- What one wait reads from the status register, and what `target_check_error` says after each read. -/
structure Polls where
  sr : Nat → BitVec 32
  checkError : Nat → Bool

/-- How a wait ends. -/
inductive Waited where
  | ended
  | commError
  deriving DecidableEq, Repr

namespace Polls

/-- A wait for some status, as far as so many polls; nothing if it is still waiting then. -/
def wait (done : BitVec 32 → Bool) (patience : Nat) (polls : Polls) : Option Waited :=
  await (fun n => if polls.checkError n then some .commError else if done (polls.sr n) then some .ended else none) patience 0

def busyOver (sr : BitVec 32) : Bool := sr &&& flashSrBsy == 0
def eopSet (sr : BitVec 32) : Bool := sr &&& flashSrEop != 0

def waitBusy (patience : Nat) (polls : Polls) : Option Waited := polls.wait busyOver patience
def waitEop (patience : Nat) (polls : Polls) : Option Waited := polls.wait eopSet patience

end Polls

/-- A result of C as a `bool`. -/
def asBool (result : Int) : Bool := result != 0

/-- How a pass of a loop over pages ends. -/
inductive Ending where
  | next
  | returned (result : Bool)
  | waiting
  deriving DecidableEq, Repr

/-- A pass of a loop, and whether an error was reported at one of its polls. -/
structure Pass where
  ending : Ending
  reported : Bool
  deriving DecidableEq, Repr

/-- A loop over pages, which goes on to some result, if any; nothing while it is waiting. -/
def pageLoop (pass : Nat → Pass) (finish : Bool) : Nat → Nat → Bool → Option Bool × Bool
  | 0, _, reported => (some finish, reported)
  | left + 1, i, reported =>
    let reported := reported || (pass i).reported
    match (pass i).ending with
    | .next => pageLoop pass finish left (i + 1) reported
    | .returned result => (some result, reported)
    | .waiting => (none, reported)

/-- The passes of a loop that takes 128 bytes at a time. -/
def pages (len : Nat) : Nat := (len + 127) / 128

def unlocked (cr : BitVec 32) : Bool := cr &&& flashCrFlockCh32 == 0
def statusClear (sr : BitVec 32) : Bool := sr &&& srErrorMask == 0

section Erase

/-- What the controller answers to an erase. -/
structure EraseAnswers where
  cr : BitVec 32
  eop : Nat → Polls
  sr : BitVec 32

def erasePass (patience : Nat) (answers : EraseAnswers) (i : Nat) : Pass :=
  match (answers.eop i).waitEop patience with
  | none => ⟨.waiting, false⟩
  | some .commError => ⟨.returned (asBool (-1)), true⟩
  | some .ended => ⟨.next, false⟩

/-- The result, and whether an error was reported at a poll. -/
def ch32f1FlashErase (patience : Nat) (answers : EraseAnswers) (len : Nat) : Option Bool × Bool :=
  if !unlocked answers.cr then (some false, false)
  else pageLoop (erasePass patience answers) (statusClear answers.sr) (pages len) 0 false

end Erase

section Write

/-- What the controller answers while one page is written. -/
structure PageAnswers where
  cr : BitVec 32
  busy : Polls
  clear : Polls
  flash : Nat → BitVec 32
  upload : Nat → Polls
  eop : Polls
  sr : BitVec 32

/-- One of up to 32 reads finds the page erased. -/
def ch32f1WaitFlashReady (flash : Nat → BitVec 32) : Bool := (List.range 32).any fun count => flash count == 0xffffffff

def ch32f1BufferClear (patience : Nat) (clear : Polls) : Option Int :=
  match clear.waitBusy patience with
  | none => none
  | some .commError => some (-1)
  | some .ended => some 0

def ch32f1Upload (patience : Nat) (upload : Polls) : Option Int :=
  match upload.waitEop patience with
  | none => none
  | some .commError => some (-1)
  | some .ended => some 0

/-- The loop of uploads, up to the first that does not return 0. -/
def uploads (patience : Nat) (upload : Nat → Polls) : List Nat → Option Int
  | [] => some 0
  | i :: rest =>
    match ch32f1Upload patience (upload i) with
    | some 0 => uploads patience upload rest
    | other => other

def writePass (patience : Nat) (answers : PageAnswers) : Pass :=
  if !unlocked answers.cr then ⟨.returned false, false⟩
  else
    match answers.busy.waitBusy patience with
    | none => ⟨.waiting, false⟩
    | some .commError => ⟨.returned (asBool (-1)), true⟩
    | some .ended =>
      match ch32f1BufferClear patience answers.clear with
      | none => ⟨.waiting, false⟩
      | some cleared =>
        let reported := cleared != 0
        if !ch32f1WaitFlashReady answers.flash then ⟨.returned false, reported⟩
        else
          match uploads patience answers.upload (List.range 8) with
          | none => ⟨.waiting, reported⟩
          | some uploaded =>
            if uploaded ≠ 0 then ⟨.returned false, true⟩
            else
              match answers.eop.waitEop patience with
              | none => ⟨.waiting, reported⟩
              | some .commError => ⟨.returned (asBool (-1)), true⟩
              | some .ended => if !statusClear answers.sr then ⟨.returned false, reported⟩ else ⟨.next, reported⟩

def ch32f1FlashWrite (patience : Nat) (answers : Nat → PageAnswers) (len : Nat) : Option Bool × Bool :=
  pageLoop (fun i => writePass patience (answers i)) true (pages len) 0 false

end Write

/-- An operation on so many bytes, with what the controller answers. -/
inductive Operation where
  | erase (answers : EraseAnswers) (len : Nat)
  | write (answers : Nat → PageAnswers) (len : Nat)

def Operation.run (patience : Nat) : Operation → Option Bool × Bool
  | .erase answers len => ch32f1FlashErase patience answers len
  | .write answers len => ch32f1FlashWrite patience answers len

end BlackMagic.Ch32f1

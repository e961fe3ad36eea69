import BlackMagic.Bytes
import BlackMagic.Lib.Polling
import BlackMagic.Lib.Words

/-! The Flash driver of the STM32F1 and its relatives (`stm32f1.c`): the regions that the probes register, and the erases and
writes, with what they have the two banks of the controller do. -/

namespace BlackMagic.Stm32f1
open Lib.Polling Lib.Words

def flashBankSplit : Nat := 0x08080000
def flashCrLock : BitVec 32 := 1 <<< 7
def flashSrBsy : BitVec 32 := 1 <<< 0
def srErrorMask : BitVec 32 := 0x14
def srEop : BitVec 32 := 0x20

/-- The register block of a bank, by its offset. -/
inductive Bank where
  | bank1
  | bank2
  deriving DecidableEq, Repr

section Probes

structure Flash where
  start : Nat
  length : Nat
  blocksize : Nat
  writesize : Nat
  deriving DecidableEq, Repr

def stm32f1AddFlash (addr length erasesize : Nat) (list : List Flash) : List Flash :=
  ⟨addr, length, erasesize, 1024⟩ :: list

/-- A part as it was probed, with the address from which on its second bank holds the Flash. -/
structure Part where
  partId : Nat
  list : List Flash
  secondBank : Nat
  deriving DecidableEq, Repr

/-- A part whose banks are split where the driver has it. -/
def splitPart (partId : Nat) (list : List Flash) : Part := ⟨partId, list, flashBankSplit⟩

def gd32f1Probe (deviceId : Nat) (flashSize : BitVec 16) : Option Part :=
  if deviceId ∈ [0x414, 0x430, 0x418, 0x410, 0x444] then
    let blockSize := if deviceId = 0x444 then 0x2000 else 0x400
    some (splitPart deviceId (stm32f1AddFlash 0x8000000 (flashSize.toNat * 1024) blockSize []))
  else none

/-- The `part_id` of the target is left as it was. -/
def at32f40Detect (partId part : Nat) : Option Part :=
  if part ∈ [0x0240, 0x0241, 0x0242, 0x0243, 0x0249, 0x024a, 0x0254, 0x02cd, 0x02ce, 0x02cf, 0x02d0, 0x02d1, 0x02d2, 0x0344,
      0x0345, 0x0346, 0x0347, 0x034b, 0x034c, 0x0353] then
    some (splitPart partId (stm32f1AddFlash 0x08000000 (256 * 1024) (2 * 1024) []))
  else none

def at32f41Detect (partId part : Nat) : Option Part :=
  let flash := fun kb => some (splitPart partId (stm32f1AddFlash 0x08000000 (kb * 1024) (2 * 1024) []))
  if part ∈ [0x0240, 0x0241, 0x0242, 0x0243, 0x024c] then flash 256
  else if part ∈ [0x01c4, 0x01c5, 0x01c6, 0x01c7, 0x01cd] then flash 128
  else if part ∈ [0x0108, 0x0109, 0x010a] then flash 64
  else none

/-- The parts with 4032 KiB have 2048 of them in the first bank. -/
def at32f43Detect (partId part : Nat) : Option Part :=
  if part ∈ [0x0540, 0x0543, 0x0546, 0x0549, 0x054c, 0x054f, 0x0552, 0x0555] then
    some ⟨partId, stm32f1AddFlash 0x08000000 (4032 * 1024) 4096 [], 0x08000000 + 2048 * 1024⟩
  else if part ∈ [0x0598, 0x0599, 0x059a, 0x059b, 0x059c, 0x059d, 0x059e, 0x059f] then
    some (splitPart partId (stm32f1AddFlash 0x08000000 (448 * 1024) 4096 []))
  else if part ∈ [0x0341, 0x0344, 0x0347, 0x034a, 0x034d, 0x0350, 0x0353, 0x0356] then
    some (splitPart partId (stm32f1AddFlash 0x08000000 (1024 * 1024) 2048 []))
  else if part ∈ [0x0242, 0x0245, 0x0248, 0x024b, 0x024e, 0x0251, 0x0254, 0x0257] then
    some (splitPart partId (stm32f1AddFlash 0x08000000 (256 * 1024) 2048 []))
  else none

def at32fxxProbe (partId : Nat) (idcode : BitVec 32) : Option Part :=
  let series := idcode &&& 0xfffff000
  let part := (idcode &&& 0x00000fff).toNat
  if series = 0x70050000 then at32f40Detect partId part
  else if series = 0x70030000 then at32f41Detect partId part
  else if series = 0x70084000 ∨ series = 0x70083000 then at32f43Detect partId part
  else none

def mm32l0xxProbe (mm32Id : BitVec 32) : Option Part :=
  let flash := fun kb => some (splitPart (mm32Id &&& 0xfff).toNat (stm32f1AddFlash 0x08000000 (kb * 1024) 0x400 []))
  if mm32Id = 0xcc568091 then flash 128
  else if mm32Id = 0xcc4460b1 then flash 32
  else if mm32Id = 0xcc56a097 then flash 128
  else none

def mm32f3xxProbe (mm32Id : BitVec 32) : Option Part :=
  let flash := fun kb => some (splitPart (mm32Id &&& 0xfff).toNat (stm32f1AddFlash 0x08000000 (kb * 1024) 0x400 []))
  if mm32Id = 0xcc9aa0e7 then flash 512
  else if mm32Id = 0x4d4d0800 then flash 256
  else none

def stm32f1Probe (deviceId : Nat) : Option Part :=
  let part := fun list => some (splitPart deviceId list)
  if deviceId ∈ [0x29b, 0x410, 0x412, 0x420] then part (stm32f1AddFlash 0x8000000 0x20000 0x400 [])
  else if deviceId ∈ [0x414, 0x418, 0x428] then part (stm32f1AddFlash 0x8000000 0x80000 0x800 [])
  else if deviceId = 0x430 then
    part (stm32f1AddFlash 0x8080000 0x80000 0x800 (stm32f1AddFlash 0x8000000 0x80000 0x800 []))
  else if deviceId ∈ [0x438, 0x422, 0x446, 0x432, 0x439] then part (stm32f1AddFlash 0x8000000 0x80000 0x800 [])
  else if deviceId = 0x444 ∨ deviceId = 0x445 then part (stm32f1AddFlash 0x8000000 0x8000 0x400 [])
  else if deviceId = 0x440 then part (stm32f1AddFlash 0x8000000 0x10000 0x400 [])
  else if deviceId = 0x448 then part (stm32f1AddFlash 0x8000000 0x20000 0x800 [])
  else if deviceId = 0x442 then part (stm32f1AddFlash 0x8000000 0x40000 0x800 [])
  else none

/-- The parts that one of the probes finds. -/
inductive Registered : Part → Prop where
  | gd32 {deviceId flashSize part} (found : gd32f1Probe deviceId flashSize = some part) : Registered part
  | at32 {partId idcode part} (found : at32fxxProbe partId idcode = some part) : Registered part
  | mm32l0 {mm32Id part} (found : mm32l0xxProbe mm32Id = some part) : Registered part
  | mm32f3 {mm32Id part} (found : mm32f3xxProbe mm32Id = some part) : Registered part
  | stm32 {deviceId part} (found : stm32f1Probe deviceId = some part) : Registered part

end Probes

section Operations

/-- What the driver does with the controller: the keys for a bank, a look at the lock bit of a bank, the erase of the page at
an address, and data that is sent to be programmed while a bank is set up for it. -/
inductive Event where
  | keys (bank : Bank)
  | readCr (bank : Bank) (locked : Bool)
  | erasePage (bank : Bank) (addr : Nat)
  | program (bank : Bank) (dest : Nat) (data : List Byte)
  | massErase (bank : Bank)
  deriving DecidableEq, Repr

/-- What a wait reads from the status register, and what `target_check_error` says after each read. -/
structure Polls where
  sr : Nat → BitVec 32
  checkError : Nat → Bool

/-- The answers to one call: to the reads of the control register, and to the wait for each bank. -/
structure Answers where
  cr : Nat → BitVec 32
  wait : Bank → Polls

/-- So many polls; nothing if the controller is still busy then. -/
def stm32f1FlashBusyWait (patience : Nat) (polls : Polls) : Option Bool :=
  await (fun n =>
    if polls.checkError n then some false
    else if polls.sr n &&& srEop ≠ 0 ∨ polls.sr n &&& flashSrBsy = 0 then some (polls.sr n &&& srErrorMask == 0)
    else none) patience 0

/-- The keys go to the bank, but the lock bit is that of the first bank. -/
def stm32f1FlashUnlock (cr : BitVec 32) (bank : Bank) : Bool × List Event :=
  let locked := cr &&& flashCrLock != 0
  (!locked, [.keys bank, .readCr .bank1 locked])

def stm32f1BankOffsetFor (addr : Nat) : Bank := if flashBankSplit ≤ addr then .bank2 else .bank1

/-- An unlock that is only called for where a condition holds. -/
def unlockIf (condition : Bool) (cr : BitVec 32) (bank : Bank) : Bool × List Event :=
  if condition then stm32f1FlashUnlock cr bank else (true, [])

def stm32f1FlashErase (patience : Nat) (answers : Answers) (partId addr length : Nat) : Option Bool × List Event :=
  let last := sub32 (add32 addr length) 1
  let second := unlockIf (partId == 0x430 && decide (flashBankSplit ≤ last)) (answers.cr 0) .bank2
  let first := unlockIf (decide (addr < flashBankSplit)) (answers.cr 1) .bank1
  if !second.1 then (some false, second.2)
  else if !first.1 then (some false, second.2 ++ first.2)
  else
    let bank := stm32f1BankOffsetFor addr
    (stm32f1FlashBusyWait patience (answers.wait bank), second.2 ++ first.2 ++ [.erasePage bank addr])

def stm32f1Bank1Length (addr len : Nat) : Nat :=
  if flashBankSplit ≤ addr then 0 else if flashBankSplit < add32 addr len then flashBankSplit - addr else len

/-- What follows a wait that may have failed. -/
def afterWait (waited : Option Bool) (events : List Event) (next : Option Bool × List Event) : Option Bool × List Event :=
  match waited with
  | some true => (next.1, events ++ next.2)
  | other => (other, events)

def stm32f1FlashWrite (patience : Nat) (answers : Answers) (partId dest : Nat) (src : List Byte) :
    Option Bool × List Event :=
  let offset := stm32f1Bank1Length dest src.length
  let remainder := src.length - offset
  let second :=
    if partId = 0x430 ∧ remainder ≠ 0 then
      afterWait (stm32f1FlashBusyWait patience (answers.wait .bank2))
        [.program .bank2 (dest + offset) ((src.drop offset).take remainder)] (some true, [])
    else (some true, [])
  if offset ≠ 0 then
    afterWait (stm32f1FlashBusyWait patience (answers.wait .bank1)) [.program .bank1 dest (src.take offset)] second
  else second

def stm32f1MassEraseBank (patience : Nat) (cr : BitVec 32) (polls : Polls) (bank : Bank) : Option Bool × List Event :=
  let unlocked := stm32f1FlashUnlock cr bank
  if !unlocked.1 then (some false, unlocked.2)
  else (stm32f1FlashBusyWait patience polls, unlocked.2 ++ [.massErase bank])

def stm32f1MassErase (patience : Nat) (answers : Answers) (partId : Nat) : Option Bool × List Event :=
  let unlocked := stm32f1FlashUnlock (answers.cr 0) .bank1
  if !unlocked.1 then (some false, unlocked.2)
  else
    let first := stm32f1MassEraseBank patience (answers.cr 1) (answers.wait .bank1) .bank1
    let second :=
      if partId = 0x430 then stm32f1MassEraseBank patience (answers.cr 2) (answers.wait .bank2) .bank2 else (some true, [])
    afterWait first.1 (unlocked.2 ++ first.2) second

/-- The calls of the driver that touch the controller. Of the option command it is the unlock. -/
inductive Request where
  | erase (addr length : Nat)
  | write (dest : Nat) (src : List Byte)
  | massErase
  | option
  deriving DecidableEq, Repr

def Request.run (patience : Nat) (answers : Answers) (partId : Nat) : Request → Option Bool × List Event
  | .erase addr length => stm32f1FlashErase patience answers partId addr length
  | .write dest src => stm32f1FlashWrite patience answers partId dest src
  | .massErase => stm32f1MassErase patience answers partId
  | .option =>
    let unlocked := stm32f1FlashUnlock (answers.cr 0) .bank1
    (some unlocked.1, unlocked.2)

/-- A call with the answers to it. -/
structure Step where
  request : Request
  answers : Answers

/-- What the driver has done in a run. -/
def events (patience partId : Nat) (run : List Step) : List Event :=
  run.flatMap fun step => (step.request.run patience step.answers partId).2

end Operations

end BlackMagic.Stm32f1

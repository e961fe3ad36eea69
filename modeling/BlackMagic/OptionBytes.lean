import BlackMagic.Stm32f1

/-! The option bytes of the STM32F1 and its relatives (`stm32f1.c`): eight half-words of Flash that can only be programmed
where they are erased, and only be erased together. -/

namespace BlackMagic.OptionBytes
open BlackMagic.Stm32f1 Lib.Words

def flashObpRdp : Nat := 0x1ffff800
def srProgError : BitVec 32 := 0x04
def cortexCpuidPartnoMask : BitVec 32 := 0xfff0
def cortexM23 : BitVec 32 := 0xd200

/-- The flags of the status register, which are cleared by writing ones to them. -/
structure Flags where
  programError : Bool
  writeProtectionError : Bool
  endOfOperation : Bool
  deriving DecidableEq, Repr

def Flags.sr (flags : Flags) : BitVec 32 :=
  (if flags.programError then srProgError else 0) ||| (if flags.writeProtectionError then 0x10 else 0) |||
    if flags.endOfOperation then srEop else 0

def Flags.write (flags : Flags) (value : BitVec 32) : Flags where
  programError := flags.programError && value &&& srProgError == 0
  writeProtectionError := flags.writeProtectionError && value &&& 0x10 == 0
  endOfOperation := flags.endOfOperation && value &&& srEop == 0

structure Controller where
  halfWords : Nat → BitVec 16
  flags : Flags

/-- For how many reads of the status an operation goes on, and what a 32-bit write to the option area does. -/
structure Device where
  busy : Controller → Nat
  program32 : Controller → Nat → BitVec 32 → Controller

def put (halfWords : Nat → BitVec 16) (offset : Nat) (value : BitVec 16) : Nat → BitVec 16 :=
  fun i => if i = offset then value else halfWords i

/-- A 16-bit write to the option area. -/
def Controller.program (controller : Controller) (offset : Nat) (value : BitVec 16) : Controller :=
  if controller.halfWords offset = 0xffff then
    ⟨put controller.halfWords offset value, { controller.flags with endOfOperation := true }⟩
  else { controller with flags := { controller.flags with programError := true } }

def Controller.erase (controller : Controller) : Controller :=
  ⟨fun i => if i < 8 then 0xffff else controller.halfWords i, { controller.flags with endOfOperation := true }⟩

def stm32f1FlashClearEop (controller : Controller) : Controller :=
  { controller with flags := controller.flags.write (controller.flags.sr ||| srEop) }

/-- The wait for the end of an operation, where the communication works. -/
def busyWait (device : Device) (controller : Controller) : Option Bool :=
  let busy := device.busy controller
  stm32f1FlashBusyWait (busy + 1) ⟨fun n => if n < busy then flashSrBsy else controller.flags.sr, fun _ => false⟩

def stm32f1OptionErase (device : Device) (controller : Controller) : Option Bool × Controller :=
  let erased := (stm32f1FlashClearEop controller).erase
  (busyWait device erased, erased)

def stm32f1OptionWriteErased (device : Device) (offset : Nat) (value : BitVec 16) (write16Broken : Bool)
    (controller : Controller) : Option Bool × Controller :=
  if value = 0xffff then (some true, controller)
  else
    let cleared := stm32f1FlashClearEop controller
    let written :=
      if write16Broken then device.program32 cleared offset (0xffff0000 ||| value.setWidth 32)
      else cleared.program offset value
    match busyWait device written with
    | some result =>
      if result = true ∨ offset ≠ 0 then (some result, written)
      else (some (written.flags.sr &&& srErrorMask == srProgError), written)
    | none => (none, written)

/-- The loop over the values to be programmed. -/
def writeOptions (device : Device) (optVal : Nat → BitVec 16) (write16Broken : Bool) :
    List Nat → Controller → Option Bool × Controller
  | [], controller => (some true, controller)
  | i :: rest, controller =>
    let written := stm32f1OptionWriteErased device i (optVal i) write16Broken controller
    match written.1 with
    | some true => writeOptions device optVal write16Broken rest written.2
    | other => (other, written.2)

/-- The word at an offset of the option area. -/
def read32 (halfWords : Nat → BitVec 16) (offset : Nat) : BitVec 32 :=
  (halfWords (offset >>> 1)).setWidth 32 ||| (halfWords ((offset >>> 1) + 1)).setWidth 32 <<< 16

/-- The loop that reads the old values. -/
def readOptions (halfWords : Nat → BitVec 16) : Nat → BitVec 16 :=
  [0, 4, 8, 12].foldl (fun optVal i =>
    let offset := i >>> 1
    let val := read32 halfWords i
    put (put optVal offset (val.setWidth 16)) (offset + 1) ((val >>> 16).setWidth 16)) fun _ => 0

def write16Broken (partId : Nat) (cpuid : BitVec 32) : Bool :=
  partId == 0x410 && cpuid &&& cortexCpuidPartnoMask == cortexM23

def stm32f1OptionWrite (device : Device) (partId : Nat) (cpuid : BitVec 32) (addr : Nat) (value : BitVec 16)
    (controller : Controller) : Option Bool × Controller :=
  let index := sub32 addr flashObpRdp / 2
  if 7 < index then (some false, controller)
  else
    let optVal := readOptions controller.halfWords
    if optVal index = value then (some true, controller)
    else
      let erased := if optVal index ≠ 0xffff then stm32f1OptionErase device controller else (some true, controller)
      match erased.1 with
      | some true =>
        writeOptions device (put optVal index value) (write16Broken partId cpuid) (List.range 8) erased.2
      | other => (other, erased.2)

end BlackMagic.OptionBytes

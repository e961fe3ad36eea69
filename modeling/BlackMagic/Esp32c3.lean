import Mathlib.Data.BitVec
import Mathlib.Data.Fin.Basic

/-! The watchdogs of the ESP32-C3 (`esp32c3.c`), which are disabled while the core is halted. The registers are words of
memory; the accesses of the generic RISC-V code do not touch them. -/

namespace BlackMagic.Esp32c3

/-- `target_halt_reason_e`. -/
inductive HaltReason where
  | running
  | error
  | request
  | stepping
  | breakpoint
  | watchpoint
  | fault
  deriving DecidableEq, Repr

/-- The memory of the target and `wdt_config` of the driver's data. -/
structure Target where
  memory : BitVec 32 → BitVec 32
  wdtConfig : Fin 4 → BitVec 32

def rtcBase : BitVec 32 := 0x60008000
def rtcWdtConfig0 : BitVec 32 := rtcBase + 0x090
def rtcWdtWriteProt : BitVec 32 := rtcBase + 0x0a8
def rtcSwdConfig : BitVec 32 := rtcBase + 0x0ac
def rtcSwdWriteProt : BitVec 32 := rtcBase + 0x0b0
def timg0Base : BitVec 32 := 0x6001f000
def timg0WdtConfig0 : BitVec 32 := timg0Base + 0x048
def timg0WdtWriteProt : BitVec 32 := timg0Base + 0x064
def timg1Base : BitVec 32 := 0x60020000
def timg1WdtConfig0 : BitVec 32 := timg1Base + 0x048
def timg1WdtWriteProt : BitVec 32 := timg1Base + 0x064
def wdtWriteProtKey : BitVec 32 := 0x50d83aa1
def rtcSwdWriteProtKey : BitVec 32 := 0x8f1d312a
def rtcSwdConfigDisable : BitVec 32 := 0x40000002

def targetMemWrite32 (address value : BitVec 32) (target : Target) : Target :=
  { target with memory := fun a => if a = address then value else target.memory a }

/-- The save of a configuration. -/
def saveConfig (slot : Fin 4) (address : BitVec 32) (target : Target) : Target :=
  { target with wdtConfig := fun s => if s = slot then target.memory address else target.wdtConfig s }

/-- Unlock a watchdog, save its configuration and disable it. -/
def disableWdt (slot : Fin 4) (writeProt key config disabled : BitVec 32) (target : Target) : Target :=
  targetMemWrite32 config disabled (saveConfig slot config (targetMemWrite32 writeProt key target))

/-- Write a saved configuration back and lock the watchdog. -/
def restoreWdt (slot : Fin 4) (writeProt config : BitVec 32) (target : Target) : Target :=
  targetMemWrite32 writeProt 0 (targetMemWrite32 config (target.wdtConfig slot) target)

def disableWdts (target : Target) : Target :=
  let timg0 := disableWdt 0 timg0WdtWriteProt wdtWriteProtKey timg0WdtConfig0 0 target
  let timg1 := disableWdt 1 timg1WdtWriteProt wdtWriteProtKey timg1WdtConfig0 0 timg0
  let rtc := disableWdt 2 rtcWdtWriteProt wdtWriteProtKey rtcWdtConfig0 0 timg1
  disableWdt 3 rtcSwdWriteProt rtcSwdWriteProtKey rtcSwdConfig rtcSwdConfigDisable rtc

/-- The super watchdog gets the configuration that was saved for the one before it. -/
def restoreWdts (target : Target) : Target :=
  let timg0 := restoreWdt 0 timg0WdtWriteProt timg0WdtConfig0 target
  let timg1 := restoreWdt 1 timg1WdtWriteProt timg1WdtConfig0 timg0
  let rtc := restoreWdt 2 rtcWdtWriteProt rtcWdtConfig0 timg1
  restoreWdt 2 rtcSwdWriteProt rtcSwdConfig rtc

def haltRequest (target : Target) : Target := disableWdts target

def haltResume (step : Bool) (target : Target) : Target := if step then target else restoreWdts target

def haltPoll (reason : HaltReason) (target : Target) : Target :=
  if reason = .breakpoint then disableWdts target else target

def enterFlashMode (target : Target) : Target := disableWdts target

end BlackMagic.Esp32c3

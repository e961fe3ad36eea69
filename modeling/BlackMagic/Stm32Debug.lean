import Mathlib.Data.BitVec
import Mathlib.Data.List.Basic

/-! The debug configuration of the STM32 parts: what the drivers for F2/F4/F7 (`stm32f4.c`), L4/L5/G4/U5/WB/WL (`stm32l4.c`)
and G0/C0 (`stm32g0.c`) change when they attach to a part and put back when they detach from it. -/

namespace BlackMagic.Stm32Debug

/-- The private data of the drivers, of which each uses its own fields. -/
structure Storage where
  dbgmcuCr : BitVec 32
  rccApbenr1 : BitVec 32
  dbgCr : BitVec 32
  dbgApbFz1 : BitVec 32

structure Target where
  memory : BitVec 32 → BitVec 32
  storage : Storage
  attached : Bool

/-- How the steps of an attach go that can fail: `cortexm_attach`, and the allocation of private data. -/
structure Attempt where
  cortexmAttach : Bool
  allocates : Bool

def targetMemWrite32 (address value : BitVec 32) (target : Target) : Target :=
  { target with memory := fun a => if a = address then value else target.memory a }

section F4

def idStm32f20x : BitVec 16 := 0x411
def idStm32f40x : BitVec 16 := 0x413
def idStm32f42x : BitVec 16 := 0x419
def idStm32f446 : BitVec 16 := 0x421
def idStm32f401c : BitVec 16 := 0x423
def idStm32f411 : BitVec 16 := 0x431
def idStm32f401e : BitVec 16 := 0x433
def idStm32f46x : BitVec 16 := 0x434
def idStm32f412 : BitVec 16 := 0x441
def idStm32f74x : BitVec 16 := 0x449
def idStm32f76x : BitVec 16 := 0x451
def idStm32f72x : BitVec 16 := 0x452
def idStm32f413 : BitVec 16 := 0x463

/-- The parts whose flash size is known. -/
def stm32f4Parts : List (BitVec 16) :=
  [idStm32f401e, idStm32f411, idStm32f446, idStm32f46x, idStm32f72x, idStm32f401c, idStm32f40x, idStm32f20x, idStm32f412,
    idStm32f74x, idStm32f413, idStm32f42x, idStm32f76x]

def f4DbgmcuCr : BitVec 32 := 0xe0042004
def dbgmcuCrDbgSleep : BitVec 32 := 0x1 <<< 0
def dbgmcuCrDbgStop : BitVec 32 := 0x1 <<< 1
def dbgmcuCrDbgStandby : BitVec 32 := 0x1 <<< 2

/-- The new private data replaces what earlier attaches have saved. -/
def stm32f4Attach (partId : BitVec 16) (attempt : Attempt) (target : Target) : Bool × Target :=
  if partId ∉ stm32f4Parts then (false, target)
  else if !attempt.cortexmAttach then (false, target)
  else if !attempt.allocates then (false, target)
  else
    let cr := target.memory f4DbgmcuCr
    (true, targetMemWrite32 f4DbgmcuCr (cr ||| dbgmcuCrDbgSleep ||| dbgmcuCrDbgStandby ||| dbgmcuCrDbgStop)
      { target with storage := ⟨cr, 0, 0, 0⟩ })

def stm32f4Detach (target : Target) : Target := targetMemWrite32 f4DbgmcuCr target.storage.dbgmcuCr target

end F4

section L4

/-- `stm32l4_family_e`. -/
inductive Family where
  | l4xx
  | l4Rx
  | wbxx
  | g4xx
  | l55x
  | u5xx
  | wlxx
  deriving DecidableEq, Repr

def stm32l4DbgmcuIdcodePhys : BitVec 32 := 0xe0042000
def stm32l5DbgmcuIdcodePhys : BitVec 32 := 0xe0044000
def stm32l5RccApb1enr1 : BitVec 32 := 0x50021058
def stm32l5RccApb1enr1Pwren : BitVec 32 := 1 <<< 28
def stm32l5PwrCr1 : BitVec 32 := 0x50007000
def stm32l5PwrCr1Vos : BitVec 32 := 3 <<< 9

def dbgmcuCr (regBase : BitVec 32) : BitVec 32 := regBase + 0x04

def stm32l5FlashEnable (target : Target) : Target :=
  let powered := targetMemWrite32 stm32l5RccApb1enr1 stm32l5RccApb1enr1Pwren target
  targetMemWrite32 stm32l5PwrCr1 (powered.memory stm32l5PwrCr1 &&& ~~~stm32l5PwrCr1Vos) powered

def stm32l4IdcodeRegAddress (family : Family) (target : Target) : BitVec 32 × Target :=
  if family = .l55x then (stm32l5DbgmcuIdcodePhys, stm32l5FlashEnable target) else (stm32l4DbgmcuIdcodePhys, target)

def stm32l4Attach (family : Family) (attempt : Attempt) (target : Target) : Bool × Target :=
  if !attempt.cortexmAttach then (false, target)
  else
    let (idcodeAddr, enabled) := stm32l4IdcodeRegAddress family target
    let cr := enabled.memory (dbgmcuCr idcodeAddr)
    (true, targetMemWrite32 (dbgmcuCr idcodeAddr) (dbgmcuCrDbgSleep ||| dbgmcuCrDbgStandby ||| dbgmcuCrDbgStop)
      { enabled with storage := { enabled.storage with dbgmcuCr := cr } })

/-- The address is that of the other families. -/
def stm32l4Detach (target : Target) : Target :=
  targetMemWrite32 (dbgmcuCr stm32l4DbgmcuIdcodePhys) target.storage.dbgmcuCr target

end L4

section G0

def rccApbenr1 : BitVec 32 := 0x40021000 + 0x3c
def rccApbenr1Dbgen : BitVec 32 := 1 <<< 27
def dbgCr : BitVec 32 := 0x40015800 + 0x04
def dbgCrDbgStandby : BitVec 32 := 1 <<< 2
def dbgCrDbgStop : BitVec 32 := 1 <<< 1
def dbgApbFz1 : BitVec 32 := 0x40015800 + 0x08
def dbgApbFz1DbgIwdgStop : BitVec 32 := 1 <<< 12
def dbgApbFz1DbgWwdgStop : BitVec 32 := 1 <<< 11

def stm32g0Attach (attempt : Attempt) (target : Target) : Bool × Target :=
  if !attempt.cortexmAttach then (false, target)
  else
    let apbenr1 := target.memory rccApbenr1
    let clocked := targetMemWrite32 rccApbenr1 (apbenr1 ||| rccApbenr1Dbgen) target
    let cr := clocked.memory dbgCr
    let running := targetMemWrite32 dbgCr (cr ||| (dbgCrDbgStandby ||| dbgCrDbgStop)) clocked
    let fz1 := running.memory dbgApbFz1
    let frozen := targetMemWrite32 dbgApbFz1 (fz1 ||| (dbgApbFz1DbgIwdgStop ||| dbgApbFz1DbgWwdgStop)) running
    (true, { frozen with storage := { frozen.storage with rccApbenr1 := apbenr1, dbgCr := cr, dbgApbFz1 := fz1 } })

def stm32g0Detach (target : Target) : Target :=
  let clocked := targetMemWrite32 rccApbenr1 (target.storage.rccApbenr1 ||| rccApbenr1Dbgen) target
  let frozen := targetMemWrite32 dbgApbFz1 target.storage.dbgApbFz1 clocked
  let running := targetMemWrite32 dbgCr target.storage.dbgCr frozen
  targetMemWrite32 rccApbenr1 target.storage.rccApbenr1 running

end G0

section Targets

inductive Driver where
  | stm32f4 (partId : BitVec 16)
  | stm32l4 (family : Family)
  | stm32g0
  deriving DecidableEq, Repr

def Driver.attach : Driver → Attempt → Target → Bool × Target
  | .stm32f4 partId => stm32f4Attach partId
  | .stm32l4 family => stm32l4Attach family
  | .stm32g0 => stm32g0Attach

def Driver.detach : Driver → Target → Target
  | .stm32f4 _ => stm32f4Detach
  | .stm32l4 _ => stm32l4Detach
  | .stm32g0 => stm32g0Detach

def targetAttach (driver : Driver) (attempt : Attempt) (target : Target) : Target :=
  let (attached, after) := driver.attach attempt target
  if attached then { after with attached := true } else after

def targetDetach (driver : Driver) (target : Target) : Target := { driver.detach target with attached := false }

/-- What a controller does with a target; it detaches from an attached one only. -/
inductive Event where
  | attach (attempt : Attempt)
  | detach

def handle (driver : Driver) (target : Target) : Event → Target
  | .attach attempt => targetAttach driver attempt target
  | .detach => if target.attached then targetDetach driver target else target

def run (driver : Driver) (target : Target) : List Event → Target
  | [] => target
  | event :: rest => run driver (handle driver target event) rest

end Targets

end BlackMagic.Stm32Debug

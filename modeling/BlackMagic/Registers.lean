import BlackMagic.Targets
import BlackMagic.Lib.Words

/-! The register access of the drivers, all registers at once and one by one, with accesses
that succeed: Cortex-M (`cortexm.c`), Cortex-A (`cortexa.c`) and RV32 (`riscv32.c`). -/

namespace BlackMagic.Registers
open Lib.Words Targets

def wordBytes (word : BitVec 32) : Text := (List.range 4).map (byteOf word)

def doubleBytes (double : BitVec 64) : Text := (List.range 8).map fun lane => (double >>> (8 * lane)).setWidth 8

section CortexM

/-- The core behind the debug registers: a selector written to `DCRSR` moves the register
to `DCRDR`. -/
structure DebugCore where
  registers : Nat → BitVec 32
  dcrdr : BitVec 32

def DebugCore.writeDcrsr (core : DebugCore) (regsel : Nat) : DebugCore := { core with dcrdr := core.registers regsel }

def cortexmGeneralRegCount : Nat := 20
def cortexFloatRegCount : Nat := 33

def regnumCortexM : List Nat := [0, 1, 2, 3, 4, 5, 6, 7, 8, 9, 10, 11, 12, 13, 14, 15, 0x10, 0x11, 0x12, 0x14]

def regnumCortexMf : List Nat :=
  [0x21, 0x40, 0x41, 0x42, 0x43, 0x44, 0x45, 0x46, 0x47, 0x48, 0x49, 0x4a, 0x4b, 0x4c, 0x4d, 0x4e, 0x4f,
    0x50, 0x51, 0x52, 0x53, 0x54, 0x55, 0x56, 0x57, 0x58, 0x59, 0x5a, 0x5b, 0x5c, 0x5d, 0x5e, 0x5f]

/-- The loop over a table of register numbers. -/
def walkRegnums : List Nat → DebugCore → List (BitVec 32) × DebugCore
  | [], core => ([], core)
  | regnum :: rest, core =>
    let core := core.writeDcrsr regnum
    let later := walkRegnums rest core
    (core.dcrdr :: later.1, later.2)

def cortexmRegsSize (fpu : Bool) : Nat := 4 * cortexmGeneralRegCount + if fpu then 4 * cortexFloatRegCount else 0

def cortexmRegsRead (fpu : Bool) (core : DebugCore) : Text :=
  let general := walkRegnums regnumCortexM core
  let floats := if fpu then (walkRegnums regnumCortexMf general.2).1 else []
  (general.1 ++ floats).flatMap wordBytes

def dcrsrRegnum (fpu : Bool) (reg : Nat) : Int :=
  if reg < cortexmGeneralRegCount then regnumCortexM.getD reg 0
  else if fpu ∧ reg < cortexmGeneralRegCount + cortexFloatRegCount then
    regnumCortexMf.getD (reg - cortexmGeneralRegCount) 0
  else -1

def cortexmRegRead (fpu : Bool) (core : DebugCore) (reg max : Nat) : Int × Text :=
  if max < 4 then (-1, [])
  else (4, wordBytes (core.writeDcrsr (dcrsrRegnum fpu reg % 2 ^ 32).toNat).dcrdr)

end CortexM

section CortexA

/-- The registers that were read when the core halted. -/
structure RegCache where
  r : Fin 16 → BitVec 32
  cpsr : BitVec 32
  fpscr : BitVec 32
  d : Fin 16 → BitVec 64

/-- The structure in memory. -/
def RegCache.bytes (cache : RegCache) : Text :=
  (List.ofFn cache.r ++ [cache.cpsr, cache.fpscr]).flatMap wordBytes ++ (List.ofFn cache.d).flatMap doubleBytes

def cortexarGeneralRegCount : Nat := 17

def cortexaRegsSize : Nat := 4 * (cortexarGeneralRegCount + cortexFloatRegCount)

def cortexaRegsRead (cache : RegCache) : Text := cache.bytes.take cortexaRegsSize

/-- The bytes `ptr_for_reg` points at, and how many it says there are. -/
def ptrForReg (cache : RegCache) (reg : Nat) : Int × Text :=
  if h : reg ≤ 15 then (4, wordBytes (cache.r ⟨reg, by omega⟩))
  else if reg = 16 then (4, wordBytes cache.cpsr)
  else if reg = 17 then (4, wordBytes cache.fpscr)
  else if h : 18 ≤ reg ∧ reg ≤ 33 then (8, doubleBytes (cache.d ⟨reg - 18, by omega⟩))
  else (-1, [])

/-- The size is compared as an unsigned number, so a negative one is always too large. -/
def cortexaRegRead (cache : RegCache) (reg max : Nat) : Int × Text :=
  let found := ptrForReg cache reg
  if found.1 < 0 ∨ (max : Int) < found.1 then (-1, []) else found

end CortexA

section Riscv32

/-- A hart whose reads of a register or a CSR succeed or fail. -/
structure Hart where
  embedded : Bool
  csrRead : Nat → Option (BitVec 32)

def rvGprBase : Nat := 0x1000
def rvDpc : Nat := 0x7b1
def rvCsrGdbOffset : Nat := 128

def riscv32RegsSize : Nat := 4 * 33

/-- A failed read leaves what was in the structure. -/
def readInto (hart : Hart) (csr : Nat) (old : BitVec 32) : BitVec 32 := (hart.csrRead csr).getD old

def riscv32RegsRead (hart : Hart) (stack : Fin 33 → BitVec 32) : Text :=
  let gprsCount := if hart.embedded then 16 else 32
  (List.ofFn fun slot : Fin 33 =>
    if slot.val = 32 then readInto hart rvDpc (stack slot)
    else if slot.val < gprsCount then readInto hart (rvGprBase + slot.val) (stack slot)
    else stack slot).flatMap wordBytes

def riscv32BoolTo4 (ret : Bool) : Int := if ret then 4 else -1

/-- Read a CSR into the caller's bytes. -/
def csrReadTo (hart : Hart) (csr : Nat) : Int × Text :=
  let value := hart.csrRead csr
  (riscv32BoolTo4 value.isSome, (value.map wordBytes).getD [])

def riscv32RegRead (hart : Hart) (reg max : Nat) : Int × Text :=
  if max ≠ 4 then (-1, [])
  else if reg < 32 then csrReadTo hart (rvGprBase + reg)
  else if reg = 32 then csrReadTo hart rvDpc
  else if reg ≥ rvCsrGdbOffset then csrReadTo hart (reg - rvCsrGdbOffset)
  else (-1, [])

end Riscv32

/-- A target with a layout for all registers; the stack holds what the buffer of an RV32
target held before. -/
inductive Core where
  | cortexM (fpu : Bool) (core : DebugCore)
  | cortexA (cache : RegCache)
  | riscv32 (hart : Hart) (stack : Fin 33 → BitVec 32)

def regsSize : Core → Nat
  | .cortexM fpu _ => cortexmRegsSize fpu
  | .cortexA _ => cortexaRegsSize
  | .riscv32 _ _ => riscv32RegsSize

def regsRead : Core → Text
  | .cortexM fpu core => cortexmRegsRead fpu core
  | .cortexA cache => cortexaRegsRead cache
  | .riscv32 hart stack => riscv32RegsRead hart stack

def regRead (reg max : Nat) : Core → Int × Text
  | .cortexM fpu core => cortexmRegRead fpu core reg max
  | .cortexA cache => cortexaRegRead cache reg max
  | .riscv32 hart _ => riscv32RegRead hart reg max

end BlackMagic.Registers

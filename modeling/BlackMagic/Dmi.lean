import Mathlib.Data.BitVec

/-! The debug module interface of a RISC-V target over JTAG (`riscv_jtag_dtm.c`), and the retries around its accesses
(`riscv_debug.c`). The transport module in the target answers every scan with the status of the operation before it. -/

namespace BlackMagic.Dmi

def rvDmiNoop : BitVec 2 := 0
def rvDmiRead : BitVec 2 := 1
def rvDmiWrite : BitVec 2 := 2
def rvDmiSuccess : BitVec 2 := 0
def rvDmiFailure : BitVec 2 := 2
def rvDmiTooSoon : BitVec 2 := 3

/-- The transport module: its answer to a scan after so many idle cycles, and its reset through DTMCS. -/
structure Dtm (σ : Type) where
  scan : BitVec 2 → BitVec 32 → BitVec 32 → Nat → σ → BitVec 2 × BitVec 32 × σ
  reset : σ → σ

/-- `riscv_dmi_s`, with the state of the module that it is for. -/
structure Dmi (σ : Type) where
  idleCycles : Nat
  fault : BitVec 2
  target : σ

variable {σ : Type} (dtm : Dtm σ)

section Jtag

def rvDtmcsIdleCyclesMask : BitVec 32 := 0x7000

/-- The interface as `riscv_jtag_dtm_init` sets it up from what it reads from DTMCS. -/
def riscvJtagDtmInit (dtmcs : BitVec 32) (target : σ) : Dmi σ :=
  ⟨((dtmcs &&& rvDtmcsIdleCyclesMask) >>> 12).toNat, 0, target⟩

def riscvShiftDmi (operation : BitVec 2) (address dataIn : BitVec 32) (dmi : Dmi σ) : BitVec 2 × BitVec 32 × Dmi σ :=
  let (status, dataOut, target) := dtm.scan operation address dataIn dmi.idleCycles dmi.target
  (if status = 1 then rvDmiFailure else status, dataOut, { dmi with target := target })

/-- The success of a transfer, and the data that came back with it. -/
def riscvDmiTransfer (operation : BitVec 2) (address dataIn : BitVec 32) (dmi : Dmi σ) : Bool × BitVec 32 × Dmi σ :=
  let (status, dataOut, dmi) := riscvShiftDmi dtm operation address dataIn dmi
  let (status, dmi) :=
    if status = rvDmiTooSoon then
      if dmi.idleCycles < 8 then (status, { dmi with idleCycles := dmi.idleCycles + 1 }) else (rvDmiFailure, dmi)
    else (status, dmi)
  let dmi := { dmi with fault := status }
  let dmi := if status = rvDmiFailure ∨ status = rvDmiTooSoon then { dmi with target := dtm.reset dmi.target } else dmi
  (status = rvDmiSuccess, dataOut, dmi)

def riscvJtagDmiRead (address : BitVec 32) (dmi : Dmi σ) : (Bool × BitVec 32) × Dmi σ :=
  let (result, _, dmi) := riscvDmiTransfer dtm rvDmiRead address 0 dmi
  if result then
    let (result, value, dmi) := riscvDmiTransfer dtm rvDmiNoop 0 0 dmi
    ((result, value), dmi)
  else ((result, 0), dmi)

def riscvJtagDmiWrite (address value : BitVec 32) (dmi : Dmi σ) : Bool × Dmi σ :=
  let (result, _, dmi) := riscvDmiTransfer dtm rvDmiWrite address value dmi
  if result then
    let (result, _, dmi) := riscvDmiTransfer dtm rvDmiNoop 0 0 dmi
    (result, dmi)
  else (result, dmi)

end Jtag

section Retries

/-- The loop around an access, which ends once the access has not come too soon. -/
def retry {α : Type} (access : Dmi σ → α × Dmi σ) : Nat → Dmi σ → Option (α × Dmi σ)
  | 0, _ => none
  | fuel + 1, dmi =>
    let (result, dmi) := access dmi
    if dmi.fault = rvDmiTooSoon then retry access fuel dmi else some (result, dmi)

def riscvDmiRead (fuel : Nat) (address : BitVec 32) (dmi : Dmi σ) : Option ((Bool × BitVec 32) × Dmi σ) :=
  retry (riscvJtagDmiRead dtm address) fuel dmi

def riscvDmiWrite (fuel : Nat) (address value : BitVec 32) (dmi : Dmi σ) : Option (Bool × Dmi σ) :=
  retry (riscvJtagDmiWrite dtm address value) fuel dmi

end Retries

section Module

/-- A debug module behind its transport module: its registers, all writes that it has received, what the last read has
found, whether an operation has been started whose end was not seen yet, and whether a scan came too soon since the last
reset. -/
structure Module where
  registers : BitVec 32 → BitVec 32
  writes : List (BitVec 32 × BitVec 32)
  result : BitVec 32
  started : Bool
  sticky : Bool
  scans : Nat
  /-- How many scans for no operation came too soon. -/
  busyNoops : Nat

def Module.scan (busy : Nat → Bool) (operation : BitVec 2) (address data : BitVec 32) (debug : Module) :
    BitVec 2 × BitVec 32 × Module :=
  if debug.sticky || debug.started && busy debug.scans then
    (rvDmiTooSoon, debug.result,
      { debug with
        sticky := true
        scans := debug.scans + 1
        busyNoops := debug.busyNoops + if operation = rvDmiNoop then 1 else 0 })
  else if operation = rvDmiRead then
    (rvDmiSuccess, debug.result,
      { debug with result := debug.registers address, started := true, scans := debug.scans + 1 })
  else if operation = rvDmiWrite then
    (rvDmiSuccess, debug.result,
      { debug with
        registers := fun a => if a = address then data else debug.registers a
        writes := debug.writes ++ [(address, data)]
        started := true
        scans := debug.scans + 1 })
  else (rvDmiSuccess, debug.result, { debug with started := false, scans := debug.scans + 1 })

/-- An operation that has been started may still go on at the next scans, as `busy` says for each; it ends nevertheless. -/
def slowDtm (busy : Nat → Bool) : Dtm Module where
  scan operation address data _ debug := debug.scan busy operation address data
  reset debug := { debug with sticky := false }

end Module

end BlackMagic.Dmi

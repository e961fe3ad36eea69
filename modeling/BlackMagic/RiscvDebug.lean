import Mathlib.Data.BitVec

/-! The discovery of RISC-V debug modules (`riscv_debug.c`). What the bus answers and which allocations succeed is
given, by the pass of the loop. -/

namespace BlackMagic.RiscvDebug

/-- `riscv_debug_version_e`. -/
inductive DebugVersion where
  | unknown
  | unimpl
  | v0_11
  | v0_13
  | v1_0
  deriving DecidableEq, Repr

def rvDmStatus : BitVec 32 := 0x11
def rvDmNextDm : BitVec 32 := 0x1d
def rvStatusVersionMask : BitVec 32 := 0x0000000f

def riscvDmVersion (status : BitVec 32) : DebugVersion :=
  match (status &&& rvStatusVersionMask).toNat with
  | 0 => .unimpl
  | 1 => .v0_11
  | 2 => .v0_13
  | 3 => .v1_0
  | _ => .unknown

/-- The bus: the answers of `riscv_dmi_read` by the pass and the address, with nothing for a failed read. -/
structure Dmi where
  version : DebugVersion
  dmiRead : Nat → BitVec 32 → Option (BitVec 32)
  allocates : Nat → Bool

/-- A module that `riscv_dm_init` is called for. -/
structure DebugModule where
  base : BitVec 32
  version : DebugVersion
  deriving DecidableEq, Repr

variable (dmi : Dmi)

/-- The end of a pass: the base of the next module is read, and 0 ends the loop. -/
def nextModule (pass : Nat) (base : BitVec 32) : Option (BitVec 32) :=
  match dmi.dmiRead pass (base + rvDmNextDm) with
  | none => none
  | some next => if next ≠ 0 then some next else none

/-- The loop, for at most so many passes. -/
def probeModules : Nat → Nat → BitVec 32 → Option (List DebugModule)
  | 0, _, _ => none
  | passes + 1, pass, base =>
    match dmi.dmiRead pass (base + rvDmStatus) with
    | none => some []
    | some status =>
      let version := riscvDmVersion status
      if version ≠ .unimpl ∧ !dmi.allocates pass then some []
      else
        let probed := if version ≠ .unimpl then [⟨base, version⟩] else []
        match nextModule dmi pass base with
        | none => some probed
        | some next => (probeModules passes (pass + 1) next).map (probed ++ ·)

/-- The modules that are initialised; there are none if the loop does not end within so many passes. -/
def riscvDmiInit (passes : Nat) : Option (List DebugModule) :=
  if dmi.version = .unknown then some []
  else if dmi.version = .v0_11 then some []
  else probeModules dmi passes 0 0

end BlackMagic.RiscvDebug

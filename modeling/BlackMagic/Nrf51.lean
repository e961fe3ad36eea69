import BlackMagic.Flash

/-! The flash controller of the nRF51 and nRF52 (`nrf51.c`). Both of its regions share one
register for the mode, which the driver's `prepare` and `done` write. -/

namespace BlackMagic.Nrf51
open BlackMagic.Flash

def nrf51Uicr : Nat := 0x10001000

/-- The mode in `NVMC_CONFIG`: read only, write enable and erase enable. -/
inductive Config where
  | ren
  | wen
  | een
  deriving DecidableEq, Repr

/-- The bytes of the code region, as the product of two 32-bit words. -/
def codeLength (pageSize codeSize : Nat) : Nat := pageSize * codeSize % 0x100000000

def nrf51AddFlash (addr length erasesize : Nat) (list : List TargetFlash) : List TargetFlash :=
  targetAddFlash ⟨addr, length, erasesize, min erasesize 1024, 0, 0xff#8, true, true⟩ list

/-- The regions that the probe registers for what it reads. -/
def nrf51Probe (pageSize codeSize uid0 uid1 : Nat) : Option Regions :=
  if pageSize = uint32Max ∨ codeSize = uint32Max ∨ pageSize = 0 ∨ codeSize = 0 ∨ 0x10000 < pageSize ∨ 0x10000 < codeSize then
    none
  else if uid0 = uint32Max ∨ uid1 = uint32Max ∨ uid0 = 0 ∨ uid1 = 0 then none
  else some ⟨nrf51AddFlash nrf51Uicr pageSize pageSize (nrf51AddFlash 0 (codeLength pageSize codeSize) pageSize [])⟩

/-- The mode depends on the buffer only, and not on the operation. -/
def nrf51FlashPrepare (buffered : Bool) : Config := if buffered then .wen else .een

def nrf51FlashDone : Config := .ren

/-- What a call leaves in the register. A reset puts it back to its reset value. -/
def Config.after (config : Config) : Call → Config
  | .reset => .ren
  | .prepare _ _ buffered => nrf51FlashPrepare buffered
  | .done _ => nrf51FlashDone
  | _ => config

def config (calls : List Call) : Config := calls.foldl Config.after .ren

/-- A target without flash mode routines of its own, whose memory accesses all succeed. The heap may be exhausted. -/
structure Obedient (env : Environment) : Prop where
  enter : env.enterFlashMode = false
  exit : env.exitFlashMode = false
  reset : env.reset = true
  answer : ∀ calls call, (∀ size, call ≠ .malloc size) → env.answer (calls ++ [call]) = true

inductive Request where
  | erase (addr len : Nat)
  | write (dest : Nat) (src : List Byte)
  | complete

def perform (regions : Regions) (env : Environment) (target : Target) : Request → Bool × Target
  | .erase addr len => targetFlashErase regions env addr len target
  | .write dest src => targetFlashWrite regions env dest src target
  | .complete => targetFlashComplete regions env target

end BlackMagic.Nrf51

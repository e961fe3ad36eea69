import BlackMagic.Registers
import BlackMagic.Proofs.ServerTargets
import BlackMagic.Lib.Chunks

/-! The registers one by one and all at once. Both packets are answered from the same core:
the reply for one register is its part of the reply for all, unless the driver refuses the
size of the server's buffer. -/

namespace BlackMagic.Proofs.RegisterViews
open Lib.Program Lib.Chunks Lib.Words Lib.Scan Hex Targets Server Registers ServerTargets

/-- Offset and width of a register in the block of all registers, under the number that
the driver knows it by. -/
def slot : Core → Nat → Option (Nat × Nat)
  | .cortexM fpu _, reg => if 4 * reg < cortexmRegsSize fpu then some (4 * reg, 4) else none
  | .cortexA _, reg =>
    if reg < 18 then some (4 * reg, 4) else if reg < 34 then some (72 + 8 * (reg - 18), 8) else none
  | .riscv32 _ _, reg => if reg < 33 then some (4 * reg, 4) else none

section Drivers

end Drivers

section Packets

variable {core : Core} {reg : Nat} {others : Answers} {server : Server} {target : Nat} {pbuf : Buffer} {size : Nat}

end Packets

end BlackMagic.Proofs.RegisterViews

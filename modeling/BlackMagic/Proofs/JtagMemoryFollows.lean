import BlackMagic.JtagMemory
import BlackMagic.Proofs.JtagDpRegisters

/-! Transfers of memory go over a chain as they go at the ports, and at the ports as they go by single accesses. -/

namespace BlackMagic.Proofs.JtagMemoryFollows
open Lib Lib.Program Lib.Tap
open JtagMemory JtagDp JtagDpWire JtagDpSessions JtagDpRegisters
open Jtag (Probe)
open MemAp (Align AccessPort)
open SwdAccess (Halt)

section Transfers
variable {σ τ : Type} {relation : σ → τ → Prop} {dp : Dp σ} {model : Dp τ} {ap : AccessPort}

end Transfers

section Faults
variable {τ : Type} {platformTimeMs : Nat → Nat} {wire : Wire τ}

/-- No port has been without an answer, as none is on a chain. -/
def Answered (link : Link τ) : Prop := ∀ devIndex, link.fault devIndex ≠ swdpAckNoResponse

end Faults

section Chains
variable {δ : Type} {behaviour : Nat → Behaviour δ} {served : Nat → Prop} {parts : List (ChainPart (DebugPort δ))}
  {stack : Buffer} {platformTimeMs : Nat → Nat} {rounds limit devIndex : Nat}

/-- The accesses of a port by themselves. -/
def plainDp (behaviour : Nat → Behaviour δ) (devIndex : Nat) : Dp (Nat → Core δ) where
  lowAccess rnw addr value := plainly behaviour (devIndex, .lowAccess rnw addr value)
  dpRead addr := plainly behaviour (devIndex, .dpRead addr)
  recoverableAccess rnw addr value := plainly behaviour (devIndex, .lowAccess rnw addr value)

end Chains

end BlackMagic.Proofs.JtagMemoryFollows

import BlackMagic.Lib.Program
import Mathlib.Data.BitVec

/-! One access of a debug port through the software SWD port (`firmware_swdp_low_access`). What the target answers is
given by the number of requests before; so is the clock in milliseconds, which is taken before its 32 bits run over. -/

namespace BlackMagic.SwdAccess
open Lib Lib.Program

/-- The answers of the target and the clock. -/
structure Environment where
  ack : Nat → BitVec 3
  response : Nat → BitVec 32
  parityError : Nat → Bool
  platformTimeMs : Nat → Nat

/-- What is driven onto the wire. -/
inductive Sent where
  | request (bits : BitVec 8)
  | data (value : BitVec 32)
  | idle
  deriving DecidableEq, Repr

structure DebugPort where
  fault : BitVec 8
  transactions : Nat
  sent : List Sent

/-- How an access stops: with an exception, or because it is not done within the rounds that are looked at. -/
inductive Halt where
  | raised (message : String)
  | unfinished
  deriving DecidableEq, Repr

abbrev Action := Program DebugPort Halt

def adiv5ApnDp : BitVec 16 := 0x100
def adiv5DpAbort : BitVec 16 := 0x0
def abortOrunerrclr : BitVec 32 := 1 <<< 4
def abortWderrclr : BitVec 32 := 1 <<< 3
def abortStkerrclr : BitVec 32 := 1 <<< 2
def abortStkcmpclr : BitVec 32 := 1 <<< 1
def abortDapabort : BitVec 32 := 1 <<< 0
def swdpAckOk : BitVec 3 := 1
def swdpAckWait : BitVec 3 := 2
def swdpAckFault : BitVec 3 := 4
def swdpAckNoResponse : BitVec 3 := 7
def systickMs : Nat := 1

def makePacketRequest (rnw : Bool) (addr : BitVec 16) : BitVec 8 :=
  let apndp := addr &&& adiv5ApnDp ≠ 0
  let reg := (addr.setWidth 8) &&& 0x0c#8
  let start : BitVec 8 := 0x81
  let selected := if apndp then start ^^^ 0x22 else start
  let directed := if rnw then selected ^^^ 0x24 else selected
  let addressed := directed ||| ((reg <<< 1) &&& 0x18#8)
  if reg = 4 ∨ reg = 8 then addressed ^^^ 0x20 else addressed

section Platform
variable (env : Environment)

/-- The time at which a timeout expires. -/
def platformTimeoutSet (ms : Nat) : Action Nat := do
  let dp ← read
  pure (env.platformTimeMs dp.transactions + if ms < systickMs then systickMs else ms)

def platformTimeoutIsExpired (timeout : Nat) : Action Bool := do
  let dp ← read
  pure (decide (timeout < env.platformTimeMs dp.transactions))

/-- The request of a transaction and its acknowledgement. -/
def exchange (request : BitVec 8) : Action (BitVec 3) := do
  let dp ← read
  change fun dp => { dp with transactions := dp.transactions + 1, sent := dp.sent ++ [.request request] }
  pure (env.ack dp.transactions)

/-- The data phase of a read that was acknowledged, with whether its parity is wrong. -/
def seqInParity : Action (BitVec 32 × Bool) := do
  let dp ← read
  pure (env.response (dp.transactions - 1), env.parityError (dp.transactions - 1))

def seqOut (sent : Sent) : Action Unit := change fun dp => { dp with sent := dp.sent ++ [sent] }

def setFault (fault : BitVec 8) : Action Unit := change fun dp => { dp with fault := fault }

end Platform

section Access
variable (env : Environment)

/-- An access as the debug port holds it in `low_access`. -/
abbrev LowAccess := Bool → BitVec 16 → BitVec 32 → Action (BitVec 32)

def adiv5DpWrite (lowAccess : LowAccess) (addr : BitVec 16) (value : BitVec 32) : Action Unit := do
  let _ ← lowAccess false addr value

def firmwareSwdpAbort (lowAccess : LowAccess) (abort : BitVec 32) : Action Unit :=
  adiv5DpWrite lowAccess adiv5DpAbort abort

/-- What follows the loop. -/
def conclude (lowAccess : LowAccess) (rnw : Bool) (value : BitVec 32) (ack : BitVec 3) : Action (BitVec 32) :=
  if ack = swdpAckWait then do
    firmwareSwdpAbort lowAccess abortDapabort
    setFault (ack.setWidth 8)
    pure 0
  else if ack = swdpAckFault then do
    setFault (ack.setWidth 8)
    pure 0
  else if ack = swdpAckNoResponse then do
    setFault (ack.setWidth 8)
    pure 0
  else if ack ≠ swdpAckOk then stop (.raised "SWD invalid ACK")
  else if rnw then do
    let (response, parityError) ← seqInParity env
    if parityError then
      setFault 1
      stop (.raised "SWD parity error")
    else pure response
  else do
    seqOut (.data value)
    seqOut .idle
    pure 0

mutual

/-- The access, which calls itself through the debug port; what it does is followed for at most so many rounds. -/
def firmwareSwdpLowAccess : Nat → Bool → BitVec 16 → BitVec 32 → Action (BitVec 32)
  | 0, _, _, _ => stop .unfinished
  | rounds + 1, rnw, addr, value => do
    if addr &&& adiv5ApnDp ≠ 0 ∧ (← read).fault ≠ 0 then pure 0
    else
      let timeout ← platformTimeoutSet env 250
      transact rounds rnw addr value timeout

/-- The loop of the access. -/
def transact : Nat → Bool → BitVec 16 → BitVec 32 → Nat → Action (BitVec 32)
  | 0, _, _, _, _ => stop .unfinished
  | rounds + 1, rnw, addr, value, timeout => do
    let ack ← exchange env (makePacketRequest rnw addr)
    onlyIf (ack = swdpAckFault) do
      adiv5DpWrite (firmwareSwdpLowAccess rounds) adiv5DpAbort
        (abortOrunerrclr ||| abortWderrclr ||| abortStkerrclr ||| abortStkcmpclr)
    if (ack = swdpAckWait ∨ ack = swdpAckFault) ∧ !(← platformTimeoutIsExpired env timeout) then
      transact rounds rnw addr value timeout
    else conclude env (firmwareSwdpLowAccess rounds) rnw value ack

end

end Access

end BlackMagic.SwdAccess

import BlackMagic.Lib.Bits
import BlackMagic.SwdAccess

/-! The SWD port pin by pin (`swdptap.c`) with what the debug port sends through it (`adiv5_swd.c`), and the target at the
other end of the wire, which takes part at the rising edges of the clock as the protocol has it. The sequences with a
delay in the clock have the same levels as those without. -/

namespace BlackMagic.SwdWire
open Lib Lib.Program Lib.Bits
open SwdAccess (Environment Sent Halt makePacketRequest adiv5ApnDp adiv5DpAbort swdpAckOk swdpAckWait swdpAckFault
  swdpAckNoResponse)

section Target

/-- Where the target is in a transaction. -/
inductive Phase where
  | idle
  /-- The bits of a request so far. -/
  | request (bits : List Bool)
  /-- The turnaround before the acknowledgement. -/
  | answering (request : BitVec 8)
  | ack (request : BitVec 8) (left : List Bool)
  /-- The turnaround before the data of a write. -/
  | receiving
  | dataIn (bits : List Bool)
  | dataOut (left : List Bool)
  /-- The turnaround after the last bit of the target. -/
  | leaving
  | lost
  | reset

structure Target where
  phase : Phase
  /-- The bits that are one, up to the last one. -/
  ones : Nat
  requests : Nat
  /-- What has been received. -/
  seen : List Sent

/-- Start, stop, park and parity are as they should be. -/
def requestIntact (bits : List Bool) : Bool :=
  match bits with
  | [start, apndp, rnw, a2, a3, parity, stop, park] => start && !stop && park && (parity == (apndp ^^ rnw ^^ a2 ^^ a3))
  | _ => false

def isRead (request : BitVec 8) : Bool := request.getLsbD 2

/-- The level that the target drives, if it does. -/
def drives : Phase → Option Bool
  | .ack _ (bit :: _) => some bit
  | .dataOut (bit :: _) => some bit
  | _ => none

variable (env : Environment)

def oddOnes (bits : List Bool) : Bool := decide (bits.count true % 2 = 1)

/-- The data of a read and their parity. -/
def answerBits (n : Nat) : List Bool :=
  let bits := bitsOf 32 (env.response n)
  bits ++ [oddOnes bits ^^ env.parityError n]

def requestBit (bits : List Bool) (target : Target) : Target :=
  if bits.length < 8 then { target with phase := .request bits }
  else if requestIntact bits then
    { target with
      phase := .answering (wordOf 8 bits)
      requests := target.requests + 1
      seen := target.seen ++ [.request (wordOf 8 bits)] }
  else { target with phase := .lost }

/-- After 32 bits and their parity the data are taken, if the parity is right. -/
def dataBit (bits : List Bool) (target : Target) : Target :=
  if bits.length < 33 then { target with phase := .dataIn bits }
  else if oddOnes bits then { target with phase := .idle }
  else { target with phase := .idle, seen := target.seen ++ [.data (wordOf 32 (bits.take 32))] }

/-- What follows the acknowledgement. -/
def acknowledged (request : BitVec 8) (target : Target) : Phase :=
  if env.ack (target.requests - 1) ≠ swdpAckOk then .leaving
  else if isRead request then .dataOut (answerBits env (target.requests - 1))
  else .receiving

/-- A line reset is at least so many ones. -/
def resetOnes : Nat := 50

def listen (level : Bool) (target : Target) : Target :=
  match target.phase with
  | .idle => if level then requestBit [true] target else target
  | .request bits => requestBit (bits ++ [level]) target
  | .answering request => { target with phase := .ack request (bitsOf 3 (env.ack (target.requests - 1))) }
  | .receiving => { target with phase := .dataIn [] }
  | .dataIn bits => dataBit (bits ++ [level]) target
  | .reset => if level then target else { target with phase := .idle }
  | .lost => target
  | .leaving | .ack _ _ | .dataOut _ => { target with phase := .idle }

/-- The target at a rising edge, with the level of the wire. -/
def edge (level : Bool) (target : Target) : Target :=
  match target.phase with
  | .ack request (_ :: bit :: left) => { target with phase := .ack request (bit :: left), ones := 0 }
  | .ack request [_] => { target with phase := acknowledged env request target, ones := 0 }
  | .dataOut (_ :: bit :: left) => { target with phase := .dataOut (bit :: left), ones := 0 }
  | .dataOut [_] => { target with phase := .leaving, ones := 0 }
  | _ =>
    let ones := if level then target.ones + 1 else 0
    if resetOnes ≤ ones then { target with phase := .reset, ones := ones }
    else listen env level { target with ones := ones }

end Target

section Pins

structure Port where
  swclk : Bool
  swdio : Bool
  /-- The probe drives the data pin. -/
  driving : Bool
  /-- The direction that `swdptap_turnaround` keeps. -/
  olddir : Bool
  fault : BitVec 8
  target : Target
  /-- Both ends have driven the wire at the same time. -/
  clash : Bool

namespace Port

/-- The level of the wire, which is pulled up. -/
def level (port : Port) : Bool := if port.driving then port.swdio else (drives port.target.phase).getD true

def watched (port : Port) : Port :=
  { port with clash := port.clash || (port.driving && (drives port.target.phase).isSome) }

def clearClk (port : Port) : Port := { port with swclk := false }

def setClk (env : Environment) (port : Port) : Port :=
  if port.swclk then port else { port with swclk := true, target := edge env port.level port.target }.watched

def setIo (bit : Bool) (port : Port) : Port := { port with swdio := bit }

def modeFloat (port : Port) : Port := { port with driving := false }

def modeDrive (port : Port) : Port := { port with driving := true }.watched

end Port

variable (env : Environment)

/-- `swdptap_turnaround`, with the direction to drive or not. -/
def turnaround (drive : Bool) (port : Port) : Port :=
  if drive = port.olddir then port
  else
    let port := { port with olddir := drive }
    if drive then (port.clearClk.setClk env).modeDrive else port.modeFloat.setClk env

/-- The cycles of an input from one on, with the value so far. -/
def seqInCycles : Nat → Nat → BitVec 32 → Port → BitVec 32 × Port
  | 0, _, value, port => (value, port)
  | left + 1, cycle, value, port =>
    let port := port.clearClk
    seqInCycles left (cycle + 1) (value ||| if port.level then 1#32 <<< cycle else 0#32) (port.setClk env)

def swdptapSeqIn (clockCycles : Nat) (port : Port) : BitVec 32 × Port :=
  let (value, port) := seqInCycles env clockCycles 0 0#32 (turnaround env false port)
  (value, port.clearClk)

def popcount (value : BitVec 32) : Nat := (List.range 32).countP value.getLsbD

def swdptapSeqInParity (clockCycles : Nat) (port : Port) : (BitVec 32 × Bool) × Port :=
  let (result, port) := swdptapSeqIn env clockCycles port
  let parity := popcount result + if port.level then 1 else 0
  ((result, decide (parity % 2 = 1)), turnaround env true (port.setClk env))

def seqOutCycles (tmsStates : BitVec 32) : Nat → Nat → Port → Port
  | 0, _, port => port
  | left + 1, cycle, port =>
    seqOutCycles tmsStates left (cycle + 1) ((port.clearClk.setIo (tmsStates.getLsbD cycle)).setClk env)

def swdptapSeqOut (tmsStates : BitVec 32) (clockCycles : Nat) (port : Port) : Port :=
  (seqOutCycles env tmsStates clockCycles 0 (turnaround env true port)).clearClk

def swdptapSeqOutParity (tmsStates : BitVec 32) (clockCycles : Nat) (port : Port) : Port :=
  let port := swdptapSeqOut env tmsStates clockCycles port
  ((port.setIo (decide (popcount tmsStates % 2 = 1))).setClk env).clearClk

/-- Ones, and idle cycles if they are asked for. -/
def swdLineResetSequence (idleCycles : Bool) (port : Port) : Port :=
  swdptapSeqOut env 0x0fffffff#32 (if idleCycles then 32 else 28) (swdptapSeqOut env 0xffffffff#32 32 port)

end Pins

section Access
variable (env : Environment)

abbrev Action := Program Port Halt

/-- A sequence of levels, with what it reads. -/
def sequence {α : Type} (levels : Port → α × Port) : Action α := do
  let port ← read
  change fun _ => (levels port).2
  pure (levels port).1

def platformTimeoutSet (ms : Nat) : Action Nat := do
  let port ← read
  pure (env.platformTimeMs port.target.requests + if ms < SwdAccess.systickMs then SwdAccess.systickMs else ms)

def platformTimeoutIsExpired (timeout : Nat) : Action Bool := do
  let port ← read
  pure (decide (timeout < env.platformTimeMs port.target.requests))

def setFault (fault : BitVec 8) : Action Unit := change fun port => { port with fault := fault }

def seqOut (tmsStates : BitVec 32) (clockCycles : Nat) : Action Unit := change (swdptapSeqOut env tmsStates clockCycles)

def exchange (request : BitVec 8) : Action (BitVec 3) := do
  seqOut env (request.setWidth 32) 8
  let ack ← sequence (swdptapSeqIn env 3)
  pure (ack.setWidth 3)

abbrev LowAccess := Bool → BitVec 16 → BitVec 32 → Action (BitVec 32)

def adiv5DpWrite (lowAccess : LowAccess) (addr : BitVec 16) (value : BitVec 32) : Action Unit := do
  let _ ← lowAccess false addr value

/-- What follows the loop of `firmware_swdp_low_access`. -/
def conclude (lowAccess : LowAccess) (rnw : Bool) (value : BitVec 32) (ack : BitVec 3) : Action (BitVec 32) :=
  if ack = swdpAckWait then do
    adiv5DpWrite lowAccess adiv5DpAbort SwdAccess.abortDapabort
    setFault (ack.setWidth 8)
    pure 0
  else if ack = swdpAckFault then do
    setFault (ack.setWidth 8)
    pure 0
  else if ack = swdpAckNoResponse then do
    setFault (ack.setWidth 8)
    pure 0
  else if ack ≠ swdpAckOk then stop (.raised "SWD invalid ACK")
  else if rnw then do
    let (response, parityError) ← sequence (swdptapSeqInParity env 32)
    if parityError then
      setFault 1
      stop (.raised "SWD parity error")
    else pure response
  else do
    change (swdptapSeqOutParity env value 32)
    seqOut env 0 8
    pure 0

mutual

def firmwareSwdpLowAccess : Nat → Bool → BitVec 16 → BitVec 32 → Action (BitVec 32)
  | 0, _, _, _ => stop .unfinished
  | rounds + 1, rnw, addr, value => do
    if addr &&& adiv5ApnDp ≠ 0 ∧ (← read).fault ≠ 0 then pure 0
    else
      let timeout ← platformTimeoutSet env 250
      transact rounds rnw addr value timeout

def transact : Nat → Bool → BitVec 16 → BitVec 32 → Nat → Action (BitVec 32)
  | 0, _, _, _, _ => stop .unfinished
  | rounds + 1, rnw, addr, value, timeout => do
    let ack ← exchange env (makePacketRequest rnw addr)
    onlyIf (ack = swdpAckFault) do
      adiv5DpWrite (firmwareSwdpLowAccess rounds) adiv5DpAbort
        (SwdAccess.abortOrunerrclr ||| SwdAccess.abortWderrclr ||| SwdAccess.abortStkerrclr ||| SwdAccess.abortStkcmpclr)
    if (ack = swdpAckWait ∨ ack = swdpAckFault) ∧ !(← platformTimeoutIsExpired env timeout) then
      transact rounds rnw addr value timeout
    else conclude env (firmwareSwdpLowAccess rounds) rnw value ack

end

end Access

end BlackMagic.SwdWire

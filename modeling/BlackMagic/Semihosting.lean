import BlackMagic.Hostio

/-! Semihosting requests of a Cortex-M target (`cortexm_hostio_request`, `tc_write`): what the debug link and GDB do is a record
of functions over a state of their own. An exchange with GDB sees the functions through which the target's memory is reached, and
does not assign them. -/

namespace BlackMagic.Semihosting
open Lib Lib.Program Lib.Words
open Targets (Exception)
open Hostio (Request)

/-- What `mem_read` and `mem_write` may be: the functions of the driver, or those that copy memory of the probe. -/
inductive Callback where
  | driver
  | probe
  deriving DecidableEq, Repr

/-- The answer to a call, with what is in the buffer of the probe that was given for it. -/
structure Reply where
  result : BitVec 32
  errno : Nat
  interrupted : Bool
  buffer : Nat → Byte

abbrev Registers := Nat → BitVec 32

/-- What is around the probe. Each function may raise an exception. -/
structure Host (σ : Type) where
  memRead : Callback → BitVec 32 → Nat → σ → Except Exception (List Byte) × σ
  memWrite : Callback → BitVec 32 → List Byte → σ → Except Exception Unit × σ
  checkError : σ → Except Exception Bool × σ
  regsRead : σ → Except Exception Registers × σ
  regsWrite : Registers → σ → Except Exception Unit × σ
  haltResume : σ → Except Exception Unit × σ
  /-- Whether the controller has a function for a call. -/
  provides : Request → Bool
  exchange : Callback → Callback → Request → σ → Except Exception Reply × σ
  /-- What is behind the table of open flags. -/
  beyond : Nat → BitVec 32
  /-- The addresses of buffers on the probe's stack, and what is in them at first. -/
  statBuffer : BitVec 32
  timevalBuffer : BitVec 32
  charBuffer : BitVec 32
  garbage : Nat → Byte

/-- The target and its controller, with the lengths and indices of all table accesses and all writes of registers. -/
structure Machine (σ : Type) where
  memRead : Callback
  memWrite : Callback
  interrupted : Bool
  errno : Nat
  time0Sec : BitVec 32
  stdoutRedirected : Bool
  cmdline : List Byte
  heapinfo : List Byte
  lookups : List (Nat × Nat)
  written : List Registers
  rest : σ

/-- How a request ends other than by a return: with an exception, or in a search that is not followed further. -/
inductive Halt where
  | raised (exception : Exception)
  | endless

variable {σ α : Type}

abbrev Action (σ α : Type) := Program (Machine σ) Halt α

section Surroundings
variable (host : Host σ)

def onHost (f : σ → Except Exception α × σ) : Action σ α := fun machine =>
  match f machine.rest with
  | (.ok value, rest) => (.ok value, { machine with rest := rest })
  | (.error exception, rest) => (.error (.raised exception), { machine with rest := rest })

/-- The bytes read, and whether there was an error. -/
def targetMemRead (address : BitVec 32) (len : Nat) : Action σ (List Byte × Bool) := do
  let machine ← read
  let bytes ← onHost (host.memRead machine.memRead address len)
  let error ← onHost host.checkError
  pure (bytes, error)

def targetMemWrite (address : BitVec 32) (bytes : List Byte) : Action σ Bool := do
  let machine ← read
  onHost (host.memWrite machine.memWrite address bytes)
  onHost host.checkError

def targetMemRead8 (address : BitVec 32) : Action σ Byte := do
  let machine ← read
  let bytes ← onHost (host.memRead machine.memRead address 1)
  pure (bytes.headD 0)

def targetRegsWrite (regs : Registers) : Action σ Unit := do
  onHost (host.regsWrite regs)
  change fun machine => { machine with written := machine.written ++ [regs] }

end Surroundings

section Controller
variable (host : Host σ)

def targetEnoent : Nat := 2
def targetEbadf : Nat := 9
def targetEnfile : Nat := 23

/-- What a call returns without a function for it in the controller, and the error that it sets. -/
def absent : Request → BitVec 32 × Option Nat
  | .openFile _ _ _ _ => (-1, some targetEnfile)
  | .close _ => (-1, some targetEbadf)
  | .read _ _ _ => (0, none)
  | .write _ _ _ => (0, none)
  | .lseek _ _ _ => (0, none)
  | .rename _ _ _ _ => (-1, some targetEnoent)
  | .unlink _ _ => (-1, some targetEnoent)
  | .stat _ _ _ => (-1, some targetEnoent)
  | .fstat _ _ => (0, none)
  | .gettimeofday _ _ => (-1, none)
  | .isatty _ => (1, none)
  | .system _ _ => (-1, none)

/-- `tc_open` and the like, redirection apart. -/
def tcCall (request : Request) : Action σ Reply := do
  let machine ← read
  if host.provides request then
    let reply ← onHost (host.exchange machine.memRead machine.memWrite request)
    change fun machine => { machine with errno := reply.errno, interrupted := reply.interrupted }
    pure reply
  else
    change fun machine => { machine with errno := (absent request).2.getD machine.errno }
    pure ⟨(absent request).1, (absent request).2.getD machine.errno, machine.interrupted, host.garbage⟩

def stdinFileno : BitVec 32 := 0
def stdoutFileno : BitVec 32 := 1
def stderrFileno : BitVec 32 := 2

/-- The reads of a redirected output; the bytes are sent nowhere. -/
def redirectChunks (buf : BitVec 32) (count : Nat) : Nat → Nat → Action σ Unit
  | 0, _ => pure ()
  | more + 1, k => do
    let _ ← targetMemRead host (buf + BitVec.ofNat 32 (k * 64)) (min (count - k * 64) 64)
    redirectChunks buf count more (k + 1)

def tcWrite (fd buf count : BitVec 32) : Action σ (BitVec 32) := do
  let machine ← read
  if machine.stdoutRedirected ∧ (fd = stdoutFileno ∨ fd = stderrFileno) then
    redirectChunks host buf count.toNat ((count.toNat + 63) / 64) 0
    pure 0
  else
    let reply ← tcCall host (.write fd buf count)
    pure reply.result

end Controller

section Calls
variable (host : Host σ) (regs params : Registers)

def targetORdonly : BitVec 32 := 0x0
def targetOWronly : BitVec 32 := 0x1
def targetORdwr : BitVec 32 := 0x2
def targetOAppend : BitVec 32 := 0x8
def targetOCreat : BitVec 32 := 0x200
def targetOTrunc : BitVec 32 := 0x400

/-- The open flags for the modes, of which each stands for two. -/
def openFlags : List (BitVec 32) :=
  [targetORdonly, targetORdwr, targetOWronly ||| targetOCreat ||| targetOTrunc, targetORdwr ||| targetOCreat ||| targetOTrunc,
    targetOWronly ||| targetOCreat ||| targetOAppend, targetORdwr ||| targetOCreat ||| targetOAppend]

def lookupFlags (index : Nat) : Action σ (BitVec 32) := do
  change fun machine => { machine with lookups := machine.lookups ++ [(openFlags.length, index)] }
  pure (openFlags.getD index (host.beyond index))

/-- An open once its flags are known. -/
def openNamed (pflag : BitVec 32) : Action σ (BitVec 32) := do
  let filename ← targetMemRead host (params 0) 4
  if filename.1.take 4 = [chr ':', chr 't', chr 't', 0] then
    pure ((if pflag = targetORdonly then stdinFileno else if pflag &&& targetOTrunc ≠ 0 then stdoutFileno else stderrFileno) + 1)
  else
    let reply ← tcCall host (.openFile (params 0) (params 2 + 1) pflag 0x1a4)
    pure (if reply.result ≠ -1 then reply.result + 1 else reply.result)

def sysOpen : Action σ (BitVec 32) := do
  let pflag ← lookupFlags host (params 1 >>> 1).toNat
  openNamed host params pflag

/-- A call whose result is passed on. -/
def passOn (request : Request) : Action σ (BitVec 32) := do
  let reply ← tcCall host request
  pure reply.result

/-- What is left of a length after so many bytes, unless this is an error. -/
def remaining (length ret : BitVec 32) : BitVec 32 := if 0 ≤ ret.toInt then length - ret else ret

def sysRead : Action σ (BitVec 32) := do
  let ret ← passOn host (.read (params 0 - 1) (params 1) (params 2))
  pure (remaining (params 2) ret)

def sysWrite : Action σ (BitVec 32) := do
  let ret ← tcWrite host (params 0 - 1) (params 1) (params 2)
  pure (remaining (params 2) ret)

def sysWritec : Action σ (BitVec 32) := tcWrite host stderrFileno (regs 1) 1

/-- The end of the string, which is looked for as long as there is no error. -/
def stringEnd : Nat → BitVec 32 → Action σ (BitVec 32)
  | 0, _ => stop .endless
  | fuel + 1, strEnd => do
    let byte ← targetMemRead8 host strEnd
    if byte ≠ 0 then
      let error ← onHost host.checkError
      if error then pure strEnd else stringEnd fuel (strEnd + 1)
    else pure strEnd

def sysWrite0 (fuel : Nat) : Action σ (BitVec 32) := do
  let strEnd ← stringEnd host fuel (regs 1)
  let len := strEnd - regs 1
  if len ≠ 0 then
    let rc ← tcWrite host stderrFileno (regs 1) len
    pure (if rc ≠ len then -1 else 0)
  else pure 0

def sysSeek : Action σ (BitVec 32) := do
  let reply ← tcCall host (.lseek (params 0 - 1) (params 1) 0)
  pure (if reply.result = params 1 then 0 else -1)

/-- A call that reaches memory of the probe: the functions of the target are replaced around it. -/
def withProbeMemory (request : Request) : Action σ Reply := do
  let saved ← read
  change fun machine => { machine with memRead := .probe, memWrite := .probe }
  let reply ← tcCall host request
  change fun machine => { machine with memRead := saved.memRead, memWrite := saved.memWrite }
  pure reply

/-- A word of a buffer in GDB's byte order. -/
def bigEndian (buffer : Nat → Byte) (offset : Nat) : BitVec 32 := ofLanes fun lane => buffer (offset + 3 - lane)

def flenRequest : Request := .fstat (params 0 - 1) host.statBuffer

def sysFlen : Action σ (BitVec 32) := do
  let reply ← withProbeMemory host (flenRequest host params)
  pure (if reply.result ≠ 0 then -1
    else if bigEndian reply.buffer 28 ≠ 0 then -1
    else if (bigEndian reply.buffer 32).toInt < 0 then -1
    else bigEndian reply.buffer 32)

def timeRequest : Request := .gettimeofday host.timevalBuffer 0

def sysTime (clock : Bool) : Action σ (BitVec 32) := do
  let reply ← withProbeMemory host (timeRequest host)
  let sec := bigEndian reply.buffer 0
  let usec := bigEndian reply.buffer 8
  if reply.result ≠ 0 then pure (-1)
  else if clock then
    change fun machine => { machine with time0Sec := if sec < machine.time0Sec then sec else machine.time0Sec }
    let machine ← read
    pure ((usec / 10000 + (sec - machine.time0Sec) * 100) &&& 0x7fffffff)
  else pure sec

def readcRequest : Request := .read stdinFileno host.charBuffer 1

def sysReadc : Action σ (BitVec 32) := do
  let reply ← withProbeMemory host (readcRequest host)
  pure (if reply.result = 1 then (reply.buffer 0).setWidth 32 else -1)

def sysErrno : Action σ (BitVec 32) := do
  let machine ← read
  pure (BitVec.ofNat 32 machine.errno)

/-- The text of the exit code apart. -/
def sysExit : Action σ (BitVec 32) := do
  onHost host.haltResume
  pure 0

def sysGetCmdline : Action σ (BitVec 32) := do
  let machine ← read
  let length := machine.cmdline.length + 1
  if (params 1).toNat < length then pure (-1)
  else
    let failed ← targetMemWrite host (params 0) (machine.cmdline ++ [0])
    if failed then pure (-1)
    else
      let retval := (List.range 4).map (byteOf (params 0)) ++ (List.range 4).map (byteOf (BitVec.ofNat 32 length))
      let failed ← targetMemWrite host (regs 1) retval
      pure (if failed then -1 else 0)

def targetErrors : List (BitVec 32) := [1, 2, 4, 5, 9, 13, 14, 16, 17, 19, 20, 21, 22, 23, 24, 27, 28, 29, 30, 88, 91, 9999]

def sysIserror : Action σ (BitVec 32) := pure (if params 0 ∈ targetErrors then 1 else 0)

def sysHeapinfo : Action σ (BitVec 32) := do
  let machine ← read
  let _ ← targetMemWrite host (regs 1) machine.heapinfo
  pure 0

def tempName (id : BitVec 32) : List Byte :=
  ascii "temp" ++ [0x41 + ((id >>> 4) &&& 0xf).setWidth 8, 0x41 + (id &&& 0xf).setWidth 8] ++ ascii ".tmp"

def sysTmpnam : Action σ (BitVec 32) :=
  if params 0 = 0 ∨ (params 2).toInt ≤ 0 then pure (-1)
  else if (params 1).toInt < 0 ∨ 255 < (params 1).toInt then pure (-1)
  else if (params 2).toNat < (tempName (params 1)).length + 1 then pure (-1)
  else do
    let failed ← targetMemWrite host (params 0) (tempName (params 1) ++ [0])
    pure (if failed then -1 else 0)

end Calls

section Requests
variable (host : Host σ)

def semihostingSysExit : Nat := 0x18

/-- The registers and the parameter block that a request begins with. -/
structure Entry where
  regs : Registers
  params : Registers

def beginRequest : Action σ Entry := do
  change fun machine => { machine with interrupted := false }
  let regs ← onHost host.regsRead
  if (regs 0).toNat ≠ semihostingSysExit then
    let block ← targetMemRead host (regs 1) 16
    pure ⟨regs, fun i => ofLanes fun lane => block.1.getD (4 * i + lane) 0⟩
  else pure ⟨regs, fun _ => 0⟩

/-- The switch over the call numbers. -/
def handle (fuel : Nat) (entry : Entry) : Action σ (BitVec 32) :=
  let regs := entry.regs
  let params := entry.params
  match (regs 0).toNat with
  | 0x01 => sysOpen host params
  | 0x02 => passOn host (.close (params 0 - 1))
  | 0x03 => sysWritec host regs
  | 0x04 => sysWrite0 host regs fuel
  | 0x05 => sysWrite host params
  | 0x06 => sysRead host params
  | 0x07 => sysReadc host
  | 0x08 => sysIserror params
  | 0x09 => passOn host (.isatty (params 0 - 1))
  | 0x0a => sysSeek host params
  | 0x0c => sysFlen host params
  | 0x0d => sysTmpnam host params
  | 0x0e => passOn host (.unlink (params 0) (params 1 + 1))
  | 0x0f => passOn host (.rename (params 0) (params 1 + 1) (params 2) (params 3 + 1))
  | 0x10 => sysTime host true
  | 0x11 => sysTime host false
  | 0x12 => passOn host (.system (params 0) (params 1 + 1))
  | 0x13 => sysErrno
  | 0x15 => sysGetCmdline host regs params
  | 0x16 => sysHeapinfo host regs
  | 0x18 => sysExit host
  | 0x20 => sysExit host
  | 0x30 => pure (-1)
  | 0x31 => pure (-1)
  | _ => pure 0

def finishRequest (entry : Entry) (ret : BitVec 32) : Action σ Bool := do
  targetRegsWrite host fun i => if i = 0 then ret else entry.regs i
  let machine ← read
  pure machine.interrupted

/-- Whether GDB has been interrupted meanwhile. -/
def cortexmHostioRequest (fuel : Nat) : Action σ Bool := do
  let entry ← beginRequest host
  let ret ← handle host fuel entry
  finishRequest host entry ret

end Requests

end BlackMagic.Semihosting

import BlackMagic.JtagDp
import BlackMagic.Lib.Stores
import BlackMagic.MemAp

/-! Transfers of memory by way of a debug port on a JTAG chain (`adiv5.c` over `adiv5_jtag.c`): the transfers as the probe makes
them, access by access, over anything that makes accesses, and the debug port with a MEM-AP as a part of a chain. -/

namespace BlackMagic.JtagMemory
open Lib Lib.Program JtagDp
open MemAp (Align AccessPort adiv5UnpackData adiv5PackData minAlign cswSize)
open SwdAccess (Halt)

section Driver
variable {σ : Type}

/-- What the debug port gives to the rest of the probe. -/
structure Dp (σ : Type) where
  lowAccess (rnw : Bool) (addr : BitVec 16) (value : BitVec 32) : Program σ Halt (BitVec 32)
  dpRead (addr : BitVec 16) : Program σ Halt (BitVec 32)
  recoverableAccess (rnw : Bool) (addr : BitVec 16) (value : BitVec 32) : Program σ Halt (BitVec 32)

def adiv5DpSelect : BitVec 16 := 0x8
def adiv5ApCsw : BitVec 16 := 0x100
def adiv5ApTar : BitVec 16 := 0x104
def adiv5ApDrw : BitVec 16 := 0x10c

variable (dp : Dp σ) (ap : AccessPort)

def firmwareApWrite (addr : BitVec 16) (value : BitVec 32) : Program σ Halt Unit := do
  let _ ← dp.recoverableAccess false adiv5DpSelect ((ap.apsel.setWidth 32 <<< 24) ||| (addr &&& 0xf0).setWidth 32)
  let _ ← dp.lowAccess false addr value

def apMemAccessSetup (addr : Nat) (align : Align) : Program σ Halt Unit := do
  firmwareApWrite dp ap adiv5ApCsw (ap.csw ||| 0x10#32 ||| cswSize align)
  let _ ← dp.lowAccess false adiv5ApTar (BitVec.ofNat 32 addr)

/-- The locals of `advi5_mem_read_bytes`. -/
structure Reader where
  dest : Buffer
  index : Nat
  src : Nat
  osrc : Nat

def readElement (align : Align) (reader : Reader) : Program σ Halt Reader := do
  let value ← dp.lowAccess true adiv5ApDrw 0
  let (dest, index) := adiv5UnpackData reader.dest reader.index reader.src value align
  let src := (reader.src + align.bytes) % 2 ^ 32
  if (src ^^^ reader.osrc) &&& 0xfffffc00 ≠ 0 then do
    let _ ← dp.lowAccess false adiv5ApTar (BitVec.ofNat 32 src)
    let _ ← dp.lowAccess true adiv5ApDrw 0
    pure ⟨dest, index, src, src⟩
  else pure ⟨dest, index, src, reader.osrc⟩

def readElements (align : Align) : Nat → Reader → Program σ Halt Reader
  | 0, reader => pure reader
  | more + 1, reader => do
    let reader ← readElement dp align reader
    readElements align more reader

def advi5MemReadBytes (dest : Buffer) (src len : Nat) : Program σ Halt Buffer :=
  let align := minAlign src len
  if len = 0 then pure dest
  else do
    apMemAccessSetup dp ap src align
    let _ ← dp.lowAccess true adiv5ApDrw 0
    let reader ← readElements dp align (len >>> align.toNat - 1) ⟨dest, 0, src, src⟩
    let value ← dp.lowAccess true adiv5DpRdbuff 0
    pure (adiv5UnpackData reader.dest reader.index reader.src value align).1

/-- The locals of `adiv5_mem_write_bytes`. -/
structure Writer where
  index : Nat
  dest : Nat
  odest : Nat

def writeElement (align : Align) (src : Buffer) (writer : Writer) : Program σ Halt Writer := do
  let (value, index) := adiv5PackData writer.dest src writer.index align
  let _ ← dp.lowAccess false adiv5ApDrw value
  let dest := (writer.dest + align.bytes) % 2 ^ 32
  if (dest ^^^ writer.odest) &&& 0xfffffc00 ≠ 0 then do
    let _ ← dp.lowAccess false adiv5ApTar (BitVec.ofNat 32 dest)
    pure ⟨index, dest, dest⟩
  else pure ⟨index, dest, writer.odest⟩

def writeElements (align : Align) (src : Buffer) : Nat → Writer → Program σ Halt Writer
  | 0, writer => pure writer
  | more + 1, writer => do
    let writer ← writeElement dp align src writer
    writeElements align src more writer

def adiv5MemWriteBytes (dest : Nat) (src : Buffer) (len : Nat) (align : Align) : Program σ Halt Unit := do
  apMemAccessSetup dp ap dest align
  let _ ← writeElements dp align src (len >>> align.toNat) ⟨0, dest, dest⟩
  let _ ← dp.dpRead adiv5DpRdbuff

def adiv5MemWrite (dest : Nat) (src : Buffer) (len : Nat) : Program σ Halt Unit :=
  adiv5MemWriteBytes dp ap dest src len (minAlign dest len)

/-- What a target asks of its access port. -/
inductive Transfer where
  | read (src : BitVec 32) (len : Nat)
  | write (dest : BitVec 32) (bytes : List Byte)
  deriving DecidableEq, Repr

def Transfer.len : Transfer → Nat
  | .read _ len => len
  | .write _ bytes => bytes.length

/-- The bytes that a transfer reads. -/
def transfer : Transfer → Program σ Halt (List Byte)
  | .read src len => do
    let buffer ← advi5MemReadBytes dp ap (fun _ => 0) src.toNat len
    pure ((List.range len).map buffer)
  | .write dest bytes => do
    adiv5MemWrite dp ap dest.toNat (fun i => bytes.getD i 0) bytes.length
    pure []

end Driver

section Jtag
variable {τ : Type} (platformTimeMs : Nat → Nat) (wire : Wire τ)

def swdpAckNoResponse : BitVec 8 := 7

/-- What is done where the last access had no answer is for SWD. -/
def adiv5DpRecoverableAccess (recovery : JtagDp.Action τ (BitVec 32)) (rounds devIndex : Nat) (rnw : Bool)
    (addr : BitVec 16) (value : BitVec 32) : JtagDp.Action τ (BitVec 32) := do
  let result ← fwAdiv5JtagdpLowAccess platformTimeMs wire rounds devIndex rnw addr value
  if (← Program.read).fault devIndex = swdpAckNoResponse then recovery else pure result

def jtagDp (recovery : JtagDp.Action τ (BitVec 32)) (rounds devIndex : Nat) : Dp (Link τ) where
  lowAccess := fwAdiv5JtagdpLowAccess platformTimeMs wire rounds devIndex
  dpRead := fwAdiv5JtagdpRead platformTimeMs wire rounds devIndex
  recoverableAccess := adiv5DpRecoverableAccess platformTimeMs wire recovery rounds devIndex

end Jtag

section Target

/-- A debug port with a MEM-AP. What an access other than a read of the access port gives is left to the device. -/
def memoryPort (device : MemAp.Device) (ap : AccessPort) (other : Transaction → MemAp.State → BitVec 32)
    (delay : List Transaction → Nat) : Behaviour MemAp.State where
  perform transaction state :=
    let addr := (if transaction.apndp then 0x100 else 0) + 4 * transaction.register.toNat
    let after := (MemAp.adiv5DpLowAccess device ap state transaction.rnw addr transaction.value).2
    (if transaction.apndp ∧ transaction.rnw then after.posted else other transaction state, after)
  abort _ state := state
  delay := delay

end Target

section Memories

/-- A byte store for each device. -/
abbrev Memories := Nat → BitVec 32 → Byte

end Memories

end BlackMagic.JtagMemory

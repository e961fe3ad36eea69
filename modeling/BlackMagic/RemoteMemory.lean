import BlackMagic.Hex
import BlackMagic.MemAp

/-! Memory writes of the remote protocol (the `AM` packet of `remote.c`) with any CSW and any alignment code that a packet can
bring to `adiv5_mem_write_bytes`. The packet and the data that is decoded from it share the packet buffer. -/

namespace BlackMagic.RemoteMemory
open Hex Lib.Words
open MemAp (State adiv5ApCsw adiv5ApTar adiv5ApDrw adiv5DpRdbuff accessBytes loadWord)

section Fields

def isHex (c : Byte) : Bool :=
  (chr '0' ≤ c ∧ c ≤ chr '9') ∨ (chr 'A' ≤ c ∧ c ≤ chr 'F') ∨ (chr 'a' ≤ c ∧ c ≤ chr 'f')

def toUpper (c : Byte) : Byte := if chr 'a' ≤ c ∧ c ≤ chr 'z' then c - (chr 'a' - chr 'A') else c

def hton (c : Byte) : Byte := if c ≤ chr '9' then c - chr '0' else toUpper c - chr 'A' + 10#8

/-- The digits of a field from a place on, appended to those before it. -/
def remoteHexDigits (packet : Buffer) : Nat → Nat → Nat → Nat
  | 0, _, ret => ret
  | max + 1, place, ret =>
    if isHex (packet place) then remoteHexDigits packet max (place + 1) (ret * 16 + (hton (packet place)).toNat) else ret

def remoteHexStringToNum (max : Nat) (packet : Buffer) (place : Nat) : Nat := remoteHexDigits packet max place 0

end Fields

section Accesses

/-- A MEM-AP of which more is left open: what a data write does with an access size or an increment mode that is reserved, or
at an address that is no multiple of the size. -/
structure Device extends MemAp.Device where
  reserved : State → BitVec 32 → State

/-- The record of an access port as a packet sets it up. -/
structure AccessPort where
  apsel : BitVec 8
  csw : BitVec 32

/-- The port for low accesses, which look at its number only. -/
def AccessPort.addressed (ap : AccessPort) : MemAp.AccessPort := ⟨ap.apsel, 0, rfl⟩

/-- Byte, halfword or word accesses that increment the address. -/
def plain (csw : BitVec 32) : Bool := csw &&& 7#32 ≤ 2#32 ∧ csw &&& 0x30#32 = 0x10#32

variable (device : Device) (ap : AccessPort)

/-- A low access to a register of the port other than `DRW`. -/
def lowWrite (state : State) (addr : Nat) (value : BitVec 32) : State :=
  (MemAp.adiv5DpLowAccess device.toDevice ap.addressed state false addr value).2

def drwWrite (state : State) (value : BitVec 32) : State :=
  if plain state.csw ∧ state.tar % accessBytes state.csw = 0 then lowWrite device ap state adiv5ApDrw value
  else device.reserved state value

def cswSize : Nat → BitVec 32
  | 0 => 0#32
  | 1 => 1#32
  | 2 | 3 => 2#32
  | _ => 0#32

def apMemAccessSetup (state : State) (addr align : Nat) : State :=
  let csw := ap.csw ||| 0x10#32 ||| cswSize align
  lowWrite device ap (MemAp.adiv5ApWrite device.toDevice ap.addressed state adiv5ApCsw csw) adiv5ApTar (BitVec.ofNat 32 addr)

def adiv5PackData (dest : Nat) (src : Buffer) (index align : Nat) : BitVec 32 × Nat :=
  match align with
  | 0 => (loadWord src index 1 <<< (8 * (dest &&& 3)), index + 1 <<< align)
  | 1 => (loadWord src index 2 <<< (8 * (dest &&& 2)), index + 1 <<< align)
  | _ => (loadWord src index 4, index + 1 <<< align)

/-- The locals of `adiv5_mem_write_bytes` at the head of its loop. -/
abbrev Writing := MemAp.Writing

def writeElement (align : Nat) (src : Buffer) (writing : Writing) : Writing :=
  let (value, index) := adiv5PackData writing.dest src writing.index align
  let port := drwWrite device ap writing.port value
  let dest := (writing.dest + 1 <<< align) % 2 ^ 32
  if (dest ^^^ writing.odest) &&& 0xfffffc00 ≠ 0 then
    { index := index, dest := dest, odest := dest, port := lowWrite device ap port adiv5ApTar (BitVec.ofNat 32 dest) }
  else { index := index, dest := dest, odest := writing.odest, port := port }

/-- `while (len--)`. -/
def writeElements (align : Nat) (src : Buffer) : Nat → Writing → Writing
  | 0, writing => writing
  | more + 1, writing => writeElements align src more (writeElement device ap align src writing)

def adiv5MemWriteBytes (dest : Nat) (src : Buffer) (len align : Nat) (state : State) : State :=
  let port := apMemAccessSetup device ap state dest align
  let writing := writeElements device ap align src (len >>> align) { index := 0, dest := dest, odest := dest, port := port }
  (MemAp.adiv5DpLowAccess device.toDevice ap.addressed writing.port true adiv5DpRdbuff 0#32).2

end Accesses

section Packets

inductive Response where
  | ok
  | parErr
  deriving DecidableEq, Repr

/-- `unhexify` into the start of the buffer, with the text from a place of the same buffer on. -/
def unhexifyInPlace (text : Nat) : Nat → Nat → Buffer → Buffer
  | 0, _, buffer => buffer
  | size + 1, idx, buffer =>
    let value := (unhexDigit (buffer (text + 2 * idx)) <<< 4) ||| unhexDigit (buffer (text + 2 * idx + 1))
    unhexifyInPlace text size (idx + 1) (buffer.set idx value)

def packetAp (packet : Buffer) : AccessPort where
  apsel := BitVec.ofNat 8 (remoteHexStringToNum 2 packet 4)
  csw := BitVec.ofNat 32 (remoteHexStringToNum 8 packet 6)

def packetAlign (packet : Buffer) : Nat := remoteHexStringToNum 2 packet 14
def packetDest (packet : Buffer) : Nat := remoteHexStringToNum 8 packet 16
def packetLength (packet : Buffer) : Nat := remoteHexStringToNum 8 packet 24

/-- The `AM` packet, where every access is acknowledged: the response, the packet buffer and the port. Nothing comes out
where the mask of the alignment is shifted by the width of a word or more. -/
def remoteMemWrite (device : Device) (packet : Buffer) (packetLen : Nat) (state : State) :
    Option (Response × Buffer × State) :=
  let ap := packetAp packet
  let align := packetAlign packet
  let dest := packetDest packet
  let length := packetLength packet
  if packetLen < 8 then some (.parErr, packet, state)
  else if length > 1024 then some (.parErr, packet, state)
  else if align ≥ 32 then none
  else if length &&& (1 <<< align - 1) ≠ 0 then some (.parErr, packet, state)
  else
    let data := unhexifyInPlace 32 length 0 packet
    some (.ok, data, adiv5MemWriteBytes device ap dest data length align state)

end Packets

end BlackMagic.RemoteMemory

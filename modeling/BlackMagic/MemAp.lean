import BlackMagic.Bytes
import BlackMagic.Lib.Words

/-! Block transfers through an ADIv5 MEM-AP (`adiv5.c`, `align.h`), over a model of
the access port: `DRW` reads are posted, so that each returns the result of the
read before it, and `TAR` advances by the access size only inside its 1 KiB page.
Where `TAR` goes at the end of a page, and what the unused byte lanes of a
sub-word read hold, is left to the device. -/

namespace BlackMagic.MemAp
open Lib.Words

inductive Align where
  | bit8
  | bit16
  | bit32
  | bit64
  deriving DecidableEq, Repr

namespace Align

def toNat : Align → Nat
  | bit8 => 0
  | bit16 => 1
  | bit32 => 2
  | bit64 => 3

/-- `1U << align`. -/
def bytes (align : Align) : Nat := 1 <<< align.toNat

end Align

def alignOf (x : Nat) : Align :=
  if x &&& 3 = 0 then .bit32 else if x &&& 1 = 0 then .bit16 else .bit8

def minAlign (x y : Nat) : Align := if (alignOf x).toNat < (alignOf y).toNat then alignOf x else alignOf y

/-- `memcpy` of the low `count` bytes of a little-endian value. -/
def memcpyWord (dest : Buffer) (index : Nat) (value : BitVec 32) (count : Nat) : Buffer :=
  fun i => if index ≤ i ∧ i < index + count then byteOf value (i - index) else dest i

/-- Unpack one element of a transfer into `dest` at `index`, by the byte lanes of
its source address; the result is the buffer and the advanced index. -/
def adiv5UnpackData (dest : Buffer) (index src : Nat) (data : BitVec 32) (align : Align) : Buffer × Nat :=
  match align with
  | .bit8 => (memcpyWord dest index ((data >>> (8 * (src &&& 3))) &&& 0xff#32) 1, index + align.bytes)
  | .bit16 => (memcpyWord dest index ((data >>> (8 * (src &&& 2))) &&& 0xffff#32) 2, index + align.bytes)
  | .bit64 | .bit32 => (memcpyWord dest index data 4, index + align.bytes)

/-- A value of `count` bytes read from a little-endian buffer. -/
def loadWord (src : Buffer) (index count : Nat) : BitVec 32 :=
  ofLanes fun lane => if lane < count then src (index + lane) else 0#8

/-- Pack one element of a transfer from `src` at `index`, into the byte lanes of
its destination address; the result is the word and the advanced index. -/
def adiv5PackData (dest : Nat) (src : Buffer) (index : Nat) (align : Align) : BitVec 32 × Nat :=
  match align with
  | .bit8 => (loadWord src index 1 <<< (8 * (dest &&& 3)), index + align.bytes)
  | .bit16 => (loadWord src index 2 <<< (8 * (dest &&& 2)), index + align.bytes)
  | .bit64 | .bit32 => (loadWord src index 4, index + align.bytes)

/-- What the architecture leaves to the device. -/
structure Device where
  boundary : Nat → Nat
  noise : Nat → BitVec 32

structure State where
  select : BitVec 32
  csw : BitVec 32
  tar : Nat
  posted : BitVec 32
  memory : Nat → Byte

/-- The driver's record of an access port. Its `csw` has no size and no increment
mode: `adiv5_new_ap` masks them out, and nothing puts them back. -/
structure AccessPort where
  apsel : BitVec 8
  csw : BitVec 32
  bare : csw &&& 0x37#32 = 0#32

def adiv5ApCsw : Nat := 0x100
def adiv5ApTar : Nat := 0x104
def adiv5ApDrw : Nat := 0x10c
def adiv5DpSelect : Nat := 0x8
def adiv5DpRdbuff : Nat := 0xc

def cswSize (align : Align) : BitVec 32 :=
  match align with
  | .bit8 => 0#32
  | .bit16 => 1#32
  | .bit64 | .bit32 => 2#32

/-- `adiv5_new_ap` on the CSW value the port reads back. -/
def adiv5NewAp (apsel : BitVec 8) (csw : BitVec 32) : AccessPort where
  apsel := apsel
  csw := (csw &&& ~~~0x40008037#32) ||| 0x80000000#32
  bare := by
    rw [BitVec.and_comm, BitVec.and_or_distrib_left, BitVec.and_comm csw, ← BitVec.and_assoc]
    simp

/-- The number of bytes of one `DRW` access. -/
def accessBytes (csw : BitVec 32) : Nat :=
  if csw &&& 7#32 = 0#32 then 1 else if csw &&& 7#32 = 1#32 then 2 else 4

variable (device : Device) (ap : AccessPort)

def nextTar (csw : BitVec 32) (tar : Nat) : Nat :=
  if csw &&& 0x30#32 = 0x10#32 then
    if (tar + accessBytes csw) / 1024 = tar / 1024 then tar + accessBytes csw else device.boundary tar
  else tar

def readLanes (state : State) : BitVec 32 :=
  ofLanes fun lane =>
    if state.tar % 4 ≤ lane ∧ lane < state.tar % 4 + accessBytes state.csw then
      state.memory (state.tar - state.tar % 4 + lane)
    else byteOf (device.noise state.tar) lane

def writeLanes (state : State) (value : BitVec 32) : Nat → Byte :=
  fun a => if state.tar ≤ a ∧ a < state.tar + accessBytes state.csw then byteOf value (a % 4) else state.memory a

/-- A read of a port register completes into the posted result. -/
def apRead (state : State) (register : Nat) : State :=
  if register = 0x0 then { state with posted := state.csw }
  else if register = 0x4 then { state with posted := BitVec.ofNat 32 state.tar }
  else if register = 0xc then
    { state with posted := readLanes device state, tar := nextTar device state.csw state.tar }
  else state

def apWrite (state : State) (register : Nat) (value : BitVec 32) : State :=
  if register = 0x0 then { state with csw := value }
  else if register = 0x4 then { state with tar := value.toNat }
  else if register = 0xc then
    { state with memory := writeLanes state value, tar := nextTar device state.csw state.tar }
  else state

/-- `adiv5_dp_low_access` when every access is acknowledged: a read of an access
port register returns what the read before it produced. -/
def adiv5DpLowAccess (state : State) (read : Bool) (addr : Nat) (value : BitVec 32) : BitVec 32 × State :=
  if addr &&& 0x100 ≠ 0 then
    let register := (state.select &&& 0xf0#32).toNat ||| (addr &&& 0xc)
    if (state.select >>> 24).setWidth 8 = ap.apsel then
      if read then (state.posted, apRead device state register) else (0#32, apWrite device state register value)
    else (0#32, state)
  else if read then
    if addr = adiv5DpRdbuff then (state.posted, state) else (0#32, state)
  else if addr = adiv5DpSelect then (0#32, { state with select := value })
  else (0#32, state)

/-- `firmware_ap_write`. -/
def adiv5ApWrite (state : State) (addr : Nat) (value : BitVec 32) : State :=
  let select := (ap.apsel.setWidth 32 <<< 24) ||| BitVec.ofNat 32 (addr &&& 0xf0)
  let state := (adiv5DpLowAccess device ap state false adiv5DpSelect select).2
  (adiv5DpLowAccess device ap state false addr value).2

def apMemAccessSetup (state : State) (addr : Nat) (align : Align) : State :=
  let csw := ap.csw ||| 0x10#32 ||| cswSize align
  let state := adiv5ApWrite device ap state adiv5ApCsw csw
  (adiv5DpLowAccess device ap state false adiv5ApTar (BitVec.ofNat 32 addr)).2

/-- The locals of `advi5_mem_read_bytes` at the head of its loop. -/
structure Reading where
  dest : Buffer
  index : Nat
  src : Nat
  osrc : Nat
  port : State

def readElement (align : Align) (reading : Reading) : Reading :=
  let (value, port) := adiv5DpLowAccess device ap reading.port true adiv5ApDrw 0#32
  let (dest, index) := adiv5UnpackData reading.dest reading.index reading.src value align
  let src := (reading.src + align.bytes) % 2 ^ 32
  if (src ^^^ reading.osrc) &&& 0xfffffc00 ≠ 0 then
    let port := (adiv5DpLowAccess device ap port false adiv5ApTar (BitVec.ofNat 32 src)).2
    let port := (adiv5DpLowAccess device ap port true adiv5ApDrw 0#32).2
    { dest := dest, index := index, src := src, osrc := src, port := port }
  else { dest := dest, index := index, src := src, osrc := reading.osrc, port := port }

/-- `while (--len)`, with the number of further elements. -/
def readElements (align : Align) : Nat → Reading → Reading
  | 0, reading => reading
  | more + 1, reading => readElements align more (readElement device ap align reading)

def advi5MemReadBytes (dest : Buffer) (src len : Nat) (state : State) : Buffer × State :=
  let align := minAlign src len
  if len = 0 then (dest, state)
  else
    let elements := len >>> align.toNat
    let port := apMemAccessSetup device ap state src align
    let port := (adiv5DpLowAccess device ap port true adiv5ApDrw 0#32).2
    let reading := readElements device ap align (elements - 1)
      { dest := dest, index := 0, src := src, osrc := src, port := port }
    let (value, port) := adiv5DpLowAccess device ap reading.port true adiv5DpRdbuff 0#32
    ((adiv5UnpackData reading.dest reading.index reading.src value align).1, port)

/-- The locals of `adiv5_mem_write_bytes` at the head of its loop. -/
structure Writing where
  index : Nat
  dest : Nat
  odest : Nat
  port : State

def writeElement (align : Align) (src : Buffer) (writing : Writing) : Writing :=
  let (value, index) := adiv5PackData writing.dest src writing.index align
  let port := (adiv5DpLowAccess device ap writing.port false adiv5ApDrw value).2
  let dest := (writing.dest + align.bytes) % 2 ^ 32
  if (dest ^^^ writing.odest) &&& 0xfffffc00 ≠ 0 then
    let port := (adiv5DpLowAccess device ap port false adiv5ApTar (BitVec.ofNat 32 dest)).2
    { index := index, dest := dest, odest := dest, port := port }
  else { index := index, dest := dest, odest := writing.odest, port := port }

/-- `while (len--)`. -/
def writeElements (align : Align) (src : Buffer) : Nat → Writing → Writing
  | 0, writing => writing
  | more + 1, writing => writeElements align src more (writeElement device ap align src writing)

def adiv5MemWriteBytes (dest : Nat) (src : Buffer) (len : Nat) (align : Align) (state : State) : State :=
  let elements := len >>> align.toNat
  let port := apMemAccessSetup device ap state dest align
  let writing := writeElements device ap align src elements { index := 0, dest := dest, odest := dest, port := port }
  (adiv5DpLowAccess device ap writing.port true adiv5DpRdbuff 0#32).2

end BlackMagic.MemAp

import BlackMagic.Bytes
import BlackMagic.Lib.Program

/-! An up channel of RTT (`rtt.c`): a ring in the memory of the target, which the target fills and the
probe empties. Between any two accesses of the probe the target may write, and every access may
fail; a failed one changes nothing in the target. -/

namespace BlackMagic.Rtt
open Lib Lib.Program

/-- The words of a channel in the control block. -/
structure RttChannel where
  bufAddr : Nat
  bufSize : Nat
  head : Nat
  tail : Nat
  deriving DecidableEq, Repr

/-- The target with its memory and its channel, and the probe with its copy of the channel. What the target has
produced and what has been passed to `rtt_write` is recorded. -/
structure Link where
  memory : Nat → Byte
  channel : RttChannel
  produced : List Byte
  rttChannel : RttChannel
  xmitBuf : Buffer
  written : List Byte

section Target

/-- The address of a place in the ring. -/
def slotAddr (channel : RttChannel) (index : Nat) : Nat := (channel.bufAddr + index) % 2 ^ 32

/-- The target produces a byte. It never overwrites one that has not been read: where there is no room
it writes nothing. -/
def produce (link : Link) (byte : Byte) : Link :=
  let channel := link.channel
  let next := (channel.head + 1) % channel.bufSize
  if channel.bufSize = 0 ∨ next = channel.tail then link
  else
    { link with
      memory := fun addr => if addr = slotAddr channel channel.head then byte else link.memory addr
      channel := { channel with head := next }
      produced := link.produced ++ [byte] }

/-- What happens up to an access: what the target writes, and whether the access fails. -/
structure Moment where
  bytes : List Byte
  fails : Bool

def elapse (moment : Moment) : Program Link ε Unit := change fun link => moment.bytes.foldl produce link

end Target

inductive RttRetval where
  | ok
  | idle
  | err
  deriving DecidableEq, Repr

/-- The accesses of one poll, in their order. -/
structure Moments where
  header : Moment
  table : Moment
  first : Moment
  second : Moment
  tail : Moment

abbrev Action := Program Link RttRetval

section Probe

def rttUpBufSize : Nat := 1024 + 8

/-- `target_mem_read` into the transmit buffer: whether it fails. -/
def targetMemRead (moment : Moment) (dest src len : Nat) : Action Bool := do
  elapse moment
  onlyIf (moment.fails = false) do
    change fun link => { link with
      xmitBuf := fun i => if dest ≤ i ∧ i < dest + len then link.memory ((src + (i - dest)) % 2 ^ 32) else link.xmitBuf i }
  pure moment.fails

/-- `memmove` inside the transmit buffer. -/
def memmove (dest src len : Nat) : Action Unit :=
  change fun link => { link with
    xmitBuf := fun i => if dest ≤ i ∧ i < dest + len then link.xmitBuf (src + (i - dest)) else link.xmitBuf i }

/-- The length of a read that starts and ends at a word. -/
def alignedLength (len : Nat) : Nat := if len % 4 ≠ 0 then (len + 4) / 4 * 4 else len

def rttAlignedMemRead (moment : Moment) (dest src len : Nat) : Action Bool := do
  let offset := src % 4
  let src0 := src - offset
  let len0 := alignedLength (len + offset)
  if src0 = src ∧ len0 = len then targetMemRead moment dest src len
  else
    let retval ← targetMemRead moment dest src0 len0
    memmove dest (dest + offset) len
    pure retval

/-- Read a piece of the ring behind what has been read and move the probe's tail over it. -/
def readPiece (moment : Moment) (bytesRead len : Nat) : Action Unit := do
  let channel := (← read).rttChannel
  if ← rttAlignedMemRead moment bytesRead ((channel.bufAddr + channel.tail) % 2 ^ 32) len then stop .err
  else
    change fun link => { link with
      rttChannel := { link.rttChannel with tail := (link.rttChannel.tail + len) % link.rttChannel.bufSize } }

/-- The piece up to the end of the ring, if the unread bytes go on at its start: how much has been read. -/
def readWrapped (moment : Moment) (bytesFree : Nat) : Action Nat := do
  let channel := (← read).rttChannel
  if channel.tail > channel.head then
    let len := min (channel.bufSize - channel.tail) bytesFree
    readPiece moment 0 len
    pure len
  else pure 0

/-- The piece up to the head: how much has been read with it. -/
def readStraight (moment : Moment) (bytesRead bytesFree : Nat) : Action Nat := do
  let channel := (← read).rttChannel
  if channel.head > channel.tail ∧ bytesFree > 0 then
    let len := min (channel.head - channel.tail) bytesFree
    readPiece moment bytesRead len
    pure (bytesRead + len)
  else pure bytesRead

/-- Write the probe's tail back to the target. -/
def writeTail (moment : Moment) : Action Unit := do
  elapse moment
  if moment.fails then stop .err
  else change fun link => { link with channel := { link.channel with tail := link.rttChannel.tail } }

def rttWrite (bytesRead : Nat) : Action Unit :=
  change fun link => { link with written := link.written ++ link.xmitBuf.take bytesRead }

/-- `print_rtt`; it returns normally where the source returns `RTT_OK`. -/
def printRtt (moments : Moments) : Action Unit := do
  let channel := (← read).rttChannel
  onlyIf (channel.bufAddr = 0 ∨ channel.bufSize = 0) (stop .idle)
  onlyIf (channel.head ≥ channel.bufSize ∨ channel.tail ≥ channel.bufSize) (stop .err)
  onlyIf (channel.head = channel.tail) (stop .idle)
  let bytesFree := rttUpBufSize - 8
  let wrapped ← readWrapped moments.first bytesFree
  let bytesRead ← readStraight moments.second wrapped (bytesFree - wrapped)
  writeTail moments.tail
  rttWrite bytesRead

/-- What `poll_rtt` does for one up channel: it looks at the header of the control block, copies the
channels and empties the ring. -/
def pollRtt (moments : Moments) : Action Unit := do
  elapse moments.header
  onlyIf moments.header.fails (stop .idle)
  elapse moments.table
  onlyIf moments.table.fails (stop .err)
  change fun link => { link with rttChannel := link.channel }
  printRtt moments

end Probe

/-- What can happen next: the target writes a byte, or the probe polls. -/
inductive Event where
  | write (byte : Byte)
  | poll (moments : Moments)

def step (link : Link) : Event → Link
  | .write byte => produce link byte
  | .poll moments => (pollRtt moments link).2

end BlackMagic.Rtt

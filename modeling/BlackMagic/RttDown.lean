import BlackMagic.Rtt

/-! A down channel of RTT (`rtt.c`): a ring in the memory of the target, which the probe fills and the
target empties. Between any two accesses of the probe the target may read and the host may send,
and every access may fail; a failed one changes nothing in the target. -/

namespace BlackMagic.RttDown
open Lib Lib.Program Rtt

/-- The target with its memory and its channel, and the probe with its copy of the channel and the
characters of the host. What the target has read and what `rtt_getchar` has returned is recorded. -/
structure Down where
  memory : Nat → Byte
  channel : RttChannel
  consumed : List Byte
  rttChannel : RttChannel
  recvBuf : List Byte
  taken : List Byte

section Target

/-- The target reads a byte, if there is one. -/
def consume (down : Down) : Down :=
  let channel := down.channel
  if channel.bufSize = 0 ∨ channel.head = channel.tail then down
  else
    { down with
      channel := { channel with tail := (channel.tail + 1) % channel.bufSize }
      consumed := down.consumed ++ [down.memory (slotAddr channel channel.tail)] }

/-- What happens up to an access: how much the target reads and what the host sends, and whether the access fails. -/
structure Interval where
  reads : Nat
  typed : List Byte
  fails : Bool

def receive (typed : List Byte) (down : Down) : Down := { down with recvBuf := down.recvBuf ++ typed }

def pass (interval : Interval) (down : Down) : Down := receive interval.typed (consume^[interval.reads] down)

def elapse (interval : Interval) : Program Down ε Unit := change (pass interval)

end Target

/-- The accesses of one poll: the two reads, the writes of characters, and the write of the head. -/
structure Intervals where
  header : Interval
  table : Interval
  characters : Nat → Interval
  head : Interval

abbrev Action := Program Down RttRetval

section Probe

def rttNodata (down : Down) : Bool := down.recvBuf.isEmpty

/-- The next character of the host, if there is one. -/
def rttGetchar : Action (Option Byte) := do
  let down ← read
  match down.recvBuf with
  | [] => pure none
  | ch :: rest => do
    change fun down => { down with recvBuf := rest, taken := down.taken ++ [ch] }
    pure (some ch)

/-- A character at the probe's head, which advances. -/
def put (ch : Byte) (down : Down) : Down :=
  { down with
    memory := fun addr => if addr = slotAddr down.rttChannel down.rttChannel.head then ch else down.memory addr
    rttChannel := { down.rttChannel with head := (down.rttChannel.head + 1) % down.rttChannel.bufSize } }

def storeCharacter (interval : Interval) (ch : Byte) : Action Unit := do
  elapse interval
  if interval.fails then stop .err else change (put ch)

/-- The loop over the characters, with as many passes as there are places at most. -/
def storeCharacters (characters : Nat → Interval) : Nat → Nat → Action Unit
  | 0, _ => pure ()
  | passes + 1, count => do
    let channel := (← read).rttChannel
    if channel.tail = (channel.head + 1) % channel.bufSize then pure ()
    else
      match ← rttGetchar with
      | none => pure ()
      | some ch => do
        storeCharacter (characters count) ch
        storeCharacters characters passes (count + 1)

/-- Write the probe's head back to the target. -/
def writeHead (interval : Interval) : Action Unit := do
  elapse interval
  if interval.fails then stop .err
  else change fun down => { down with channel := { down.channel with head := down.rttChannel.head } }

/-- `read_rtt`; it returns normally where the source returns `RTT_OK`. -/
def readRtt (intervals : Intervals) : Action Unit := do
  let down ← read
  let channel := down.rttChannel
  onlyIf (rttNodata down) (stop .idle)
  onlyIf (channel.bufAddr = 0 ∨ channel.bufSize = 0) (stop .idle)
  onlyIf (channel.head ≥ channel.bufSize ∨ channel.tail ≥ channel.bufSize) (stop .err)
  storeCharacters intervals.characters channel.bufSize 0
  writeHead intervals.head

/-- What `poll_rtt` does for one down channel. -/
def pollRtt (intervals : Intervals) : Action Unit := do
  elapse intervals.header
  onlyIf intervals.header.fails (stop .idle)
  elapse intervals.table
  onlyIf intervals.table.fails (stop .err)
  change fun down => { down with rttChannel := down.channel }
  readRtt intervals

end Probe

/-- What can happen next: the target reads, the host sends, or the probe polls. -/
inductive Event where
  | consume
  | type (ch : Byte)
  | poll (intervals : Intervals)

def step (down : Down) : Event → Down
  | .consume => consume down
  | .type ch => receive [ch] down
  | .poll intervals => (pollRtt intervals down).2

end BlackMagic.RttDown

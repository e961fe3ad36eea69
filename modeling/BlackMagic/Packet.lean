import BlackMagic.Hex

/-! The packet layer of the GDB remote protocol (`gdb_packet.c`). The receiver is
the loop of `gdb_getpacket` cut at its calls of `gdb_if_getchar`: a state records
the locals of the function between two characters, and one step consumes one
character. `consume_remote_packet` waits for characters of its own, so it is a
second place where the receiver can be waiting. -/

namespace BlackMagic.Packet
open Hex

def gdbPacketStart : Byte := chr '$'
def gdbPacketEnd : Byte := chr '#'
def gdbPacketAck : Byte := chr '+'
def gdbPacketNack : Byte := chr '-'
def gdbPacketEscape : Byte := chr '}'
def gdbPacketRunlengthStart : Byte := chr '*'
def gdbPacketEscapeXor : Byte := 0x20#8
def remoteSom : Byte := chr '!'
def remoteEom : Byte := chr '#'

inductive PacketState where
  | idle
  | gdbCapture
  | gdbEscape
  | gdbChecksumUpper
  | gdbChecksumLower
  deriving DecidableEq, Repr

/-- Where the receiver waits for its next character: in the loop of
`gdb_getpacket`, or in the loop of `consume_remote_packet` with its own offset. -/
inductive Waiting where
  | getpacket
  | remote (offset : Nat)
  deriving DecidableEq, Repr

/-- `remote_packet_process`: the packet buffer it leaves behind and the characters
it sends, for a remote packet of the given length. -/
abbrev RemoteProcess (σ : Type) := Nat → Buffer → σ → Buffer × List Byte × σ

structure Receiver (σ : Type) where
  waiting : Waiting
  state : PacketState
  offset : Nat
  checksum : Byte
  rxChecksum : Byte
  packet : Buffer
  sent : List Byte
  remote : σ

inductive Progress (σ : Type) where
  | wait (receiver : Receiver σ)
  | done (receiver : Receiver σ) (length : Nat)

variable {σ : Type}

/-- The entry of `gdb_getpacket`, with the caller's buffer. -/
def Receiver.start (packet : Buffer) (remote : σ) : Receiver σ :=
  { waiting := .getpacket, state := .idle, offset := 0, checksum := 0#8, rxChecksum := 0#8,
    packet := packet, sent := [], remote := remote }

/-- The end of one iteration of the receive loop: an overlong packet restarts it. -/
def Receiver.loop (size : Nat) (receiver : Receiver σ) : Progress σ :=
  .wait (if receiver.offset ≥ size then { receiver with state := .idle } else receiver)

/-- The tail of the idle case, after the first character or a remote packet:
an end of transmission or an interrupt is a packet of its own. -/
def Receiver.idleExit (size : Nat) (receiver : Receiver σ) : Progress σ :=
  if receiver.packet 0 = 4#8 ∨ receiver.packet 0 = 3#8 then
    .done { receiver with packet := receiver.packet.set 1 0#8 } 1
  else receiver.loop size

/-- The return of `consume_remote_packet` into the idle case. -/
def Receiver.remoteExit (size : Nat) (receiver : Receiver σ) (state : PacketState) : Progress σ :=
  { receiver with waiting := .getpacket, state := state, offset := 0, checksum := 0#8 }.idleExit size

/-- One character inside `consume_remote_packet`. -/
def consumeRemotePacket (process : RemoteProcess σ) (size : Nat) (receiver : Receiver σ) (offset : Nat)
    (rxChar : Byte) : Progress σ :=
  if rxChar = 4#8 then
    { receiver with packet := receiver.packet.set 0 rxChar }.remoteExit size .idle
  else if rxChar = remoteSom then
    .wait { receiver with waiting := .remote 0 }
  else if rxChar = remoteEom then
    let (packet, replies, remote) := process offset (receiver.packet.set offset 0#8) receiver.remote
    { receiver with packet := packet.set 0 0#8, sent := receiver.sent ++ replies, remote := remote }.remoteExit size .idle
  else if rxChar = gdbPacketStart then
    receiver.remoteExit size .gdbCapture
  else if offset < size then
    .wait { receiver with packet := receiver.packet.set offset rxChar, waiting := .remote (offset + 1) }
  else
    { receiver with packet := receiver.packet.set 0 0#8 }.remoteExit size .idle

/-- One character inside `gdb_getpacket`. -/
def getpacketStep (noackmode : Bool) (size : Nat) (receiver : Receiver σ) (rxChar : Byte) : Progress σ :=
  match receiver.state with
  | .idle =>
    let receiver := { receiver with packet := receiver.packet.set 0 rxChar }
    if rxChar = gdbPacketStart then
      { receiver with state := .gdbCapture, offset := 0, checksum := 0#8 }.idleExit size
    else if rxChar = remoteSom then
      .wait { receiver with waiting := .remote 0 }
    else receiver.idleExit size
  | .gdbCapture =>
    if rxChar = gdbPacketStart then
      { receiver with offset := 0, checksum := 0#8 }.loop size
    else if rxChar = gdbPacketEnd then
      { receiver with state := .gdbChecksumUpper }.loop size
    else
      let receiver := { receiver with checksum := receiver.checksum + rxChar }
      if rxChar = gdbPacketEscape then
        { receiver with state := .gdbEscape }.loop size
      else
        { receiver with packet := receiver.packet.set receiver.offset rxChar, offset := receiver.offset + 1 }.loop size
  | .gdbEscape =>
    { receiver with
      checksum := receiver.checksum + rxChar
      packet := receiver.packet.set receiver.offset (rxChar ^^^ gdbPacketEscapeXor)
      offset := receiver.offset + 1
      state := .gdbCapture }.loop size
  | .gdbChecksumUpper =>
    { receiver with
      rxChecksum := if noackmode then receiver.rxChecksum else unhexDigit rxChar <<< 4
      state := .gdbChecksumLower }.loop size
  | .gdbChecksumLower =>
    let rxChecksum := if noackmode then receiver.rxChecksum else receiver.rxChecksum ||| unhexDigit rxChar
    let answer := if rxChecksum = receiver.checksum then gdbPacketAck else gdbPacketNack
    let receiver := { receiver with
      rxChecksum := rxChecksum
      sent := if noackmode then receiver.sent else receiver.sent ++ [answer] }
    if noackmode ∨ rxChecksum = receiver.checksum then
      .done { receiver with packet := receiver.packet.set receiver.offset 0#8 } receiver.offset
    else
      { receiver with state := .idle }.loop size

def receiveStep (process : RemoteProcess σ) (noackmode : Bool) (size : Nat) (receiver : Receiver σ) (rxChar : Byte) :
    Progress σ :=
  match receiver.waiting with
  | .getpacket => getpacketStep noackmode size receiver rxChar
  | .remote offset => consumeRemotePacket process size receiver offset rxChar

/-- `gdb_getpacket` on the characters that arrive: the length it returns, the
receiver at that point and the characters it has not read. `none` means that the
characters run out while it is still waiting. -/
def receive (process : RemoteProcess σ) (noackmode : Bool) (size : Nat) (receiver : Receiver σ) :
    List Byte → Option (Nat × Receiver σ × List Byte)
  | [] => none
  | rxChar :: rest =>
    match receiveStep process noackmode size receiver rxChar with
    | .wait next => receive process noackmode size next rest
    | .done final length => some (length, final, rest)

def gdbGetpacket (process : RemoteProcess σ) (noackmode : Bool) (packet : Buffer) (size : Nat) (remote : σ)
    (input : List Byte) : Option (Nat × Receiver σ × List Byte) :=
  receive process noackmode size (.start packet remote) input

/-- The characters sent for one payload byte, and what they add to the checksum. -/
def gdbNextChar (value : Byte) (csum : Byte) : List Byte × Byte :=
  if value = gdbPacketStart ∨ value = gdbPacketEnd ∨ value = gdbPacketEscape ∨ value = gdbPacketRunlengthStart then
    ([gdbPacketEscape, value ^^^ gdbPacketEscapeXor], csum + (gdbPacketEscape + (value ^^^ gdbPacketEscapeXor)))
  else ([value], csum + value)

/-- The loop over a packet's bytes with its running checksum. -/
def gdbNextChars : List Byte → Byte → List Byte × Byte
  | [], csum => ([], csum)
  | value :: rest, csum =>
    let (sent, csum) := gdbNextChar value csum
    let (more, csum) := gdbNextChars rest csum
    (sent ++ more, csum)

/-- One pass of the send loop of `gdb_putpacket`. -/
def sendPacket (packet : List Byte) : List Byte :=
  let (body, csum) := gdbNextChars packet 0#8
  [gdbPacketStart] ++ body ++ [gdbPacketEnd] ++ printByte csum

/-- The retry condition shared by both senders: the transmissions made when the
peer's characters (0 for a timeout) are `answers`. -/
def sendRetrying (noackmode : Bool) (transmission : List Byte) : Nat → List Byte → List (List Byte)
  | retries, answers =>
    transmission ::
      if noackmode ∨ answers.getD 0 0#8 = gdbPacketAck then []
      else match retries with
        | 0 => []
        | retries + 1 => sendRetrying noackmode transmission retries answers.tail

def gdbPutpacket (noackmode : Bool) (answers packet : List Byte) : List (List Byte) :=
  sendRetrying noackmode (sendPacket packet) 3 answers

end BlackMagic.Packet

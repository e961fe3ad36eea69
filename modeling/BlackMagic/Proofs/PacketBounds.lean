import BlackMagic.Server
import BlackMagic.Proofs.PacketRoundTrip

/-! The receiver on any stream. It writes only inside its buffer, finds the start of the
next packet after it has dropped one, and returns the bodies that leave room for the
terminator. -/

namespace BlackMagic.Proofs.PacketBounds
open BlackMagic.Packet Hex PacketRoundTrip
open BlackMagic.Server (gdbPacketBufferSize gdbMaxPacketSize)

variable {σ : Type} {process : RemoteProcess σ} {noackmode : Bool} {size : Nat}

section Writes

/-- How a buffer comes about by writes at no index above `size` and by the processing of remote packets of no length above
it. -/
inductive Writes (process : RemoteProcess σ) (size : Nat) (start : Buffer) : Buffer → Prop where
  | start : Writes process size start start
  | write {buffer : Buffer} (writes : Writes process size start buffer) {index : Nat} (inside : index ≤ size)
      (value : Byte) : Writes process size start (buffer.set index value)
  | remote {buffer : Buffer} (writes : Writes process size start buffer) {length : Nat} (inside : length ≤ size)
      (state : σ) : Writes process size start (process length buffer state).1

/-- What the receiver keeps between two characters. -/
structure Bounded (process : RemoteProcess σ) (size : Nat) (start : Buffer) (receiver : Receiver σ) : Prop where
  writes : Writes process size start receiver.packet
  body : receiver.waiting = .getpacket → receiver.state ≠ .idle → receiver.offset < size
  remote : ∀ offset, receiver.waiting = .remote offset → offset ≤ size

/-- A step waits in a bounded state or returns a bounded buffer. -/
def Confined (process : RemoteProcess σ) (size : Nat) (start : Buffer) : Progress σ → Prop
  | .wait next => Bounded process size start next
  | .done final _ => Writes process size start final.packet

variable {start : Buffer} {receiver : Receiver σ}

theorem loop_confined (writes : Writes process size start receiver.packet) (waiting : receiver.waiting = .getpacket) :
    Confined process size start (receiver.loop size) := by
  rw [Receiver.loop]
  split
  · exact ⟨writes, fun _ busy => absurd rfl busy, fun offset never => by rw [waiting] at never; cases never⟩
  next room =>
    exact ⟨writes, fun _ _ => Nat.lt_of_not_le room, fun offset never => by rw [waiting] at never; cases never⟩

theorem idleExit_confined (room : 1 ≤ size) (writes : Writes process size start receiver.packet)
    (waiting : receiver.waiting = .getpacket) : Confined process size start (receiver.idleExit size) := by
  rw [Receiver.idleExit]
  split
  · exact writes.write room 0#8
  · exact loop_confined writes waiting

theorem consumeRemotePacket_confined (room : 1 ≤ size) (bounded : Bounded process size start receiver) {offset : Nat}
    (waiting : receiver.waiting = .remote offset) (rxChar : Byte) :
    Confined process size start (consumeRemotePacket process size receiver offset rxChar) := by
  have inside := bounded.remote offset waiting
  have zero : 0 ≤ size := Nat.zero_le size
  rw [consumeRemotePacket]
  split
  · exact idleExit_confined room (bounded.writes.write zero rxChar) rfl
  · split
    · exact ⟨bounded.writes, (fun never => by cases never), fun offset same => by cases same; exact zero⟩
    · split
      · have processed := (bounded.writes.write inside 0#8).remote inside receiver.remote
        exact idleExit_confined room (processed.write zero 0#8) rfl
      · split
        · exact idleExit_confined room bounded.writes rfl
        · split
          next more =>
            exact ⟨bounded.writes.write inside rxChar, (fun never => by cases never), fun offset same => by cases same; exact more⟩
          next => exact idleExit_confined room (bounded.writes.write zero 0#8) rfl

theorem getpacketStep_confined (room : 1 ≤ size) (bounded : Bounded process size start receiver)
    (waiting : receiver.waiting = .getpacket) (rxChar : Byte) :
    Confined process size start (getpacketStep noackmode size receiver rxChar) := by
  have zero : 0 ≤ size := Nat.zero_le size
  have body : receiver.state ≠ .idle → receiver.offset ≤ size := fun busy => (bounded.body waiting busy).le
  rw [getpacketStep]
  cases state : receiver.state with
  | idle =>
    dsimp only
    split
    · exact idleExit_confined room (bounded.writes.write zero rxChar) waiting
    · split
      · exact ⟨bounded.writes.write zero rxChar, (fun never => by cases never), fun offset same => by cases same; exact zero⟩
      · exact idleExit_confined room (bounded.writes.write zero rxChar) waiting
  | gdbCapture =>
    have inside := body (by simp [state])
    dsimp only
    split
    · exact loop_confined bounded.writes waiting
    · split
      · exact loop_confined bounded.writes waiting
      · split
        · exact loop_confined bounded.writes waiting
        · exact loop_confined (bounded.writes.write inside rxChar) waiting
  | gdbEscape =>
    have inside := body (by simp [state])
    exact loop_confined (bounded.writes.write inside (rxChar ^^^ gdbPacketEscapeXor)) waiting
  | gdbChecksumUpper => exact loop_confined bounded.writes waiting
  | gdbChecksumLower =>
    have inside := body (by simp [state])
    dsimp only
    generalize (if noackmode = true then receiver.rxChecksum else receiver.rxChecksum ||| unhexDigit rxChar) = rxChecksum
    split
    · exact bounded.writes.write inside 0#8
    · exact loop_confined bounded.writes waiting

theorem receiveStep_confined (room : 1 ≤ size) (bounded : Bounded process size start receiver) (rxChar : Byte) :
    Confined process size start (receiveStep process noackmode size receiver rxChar) := by
  rw [receiveStep]
  cases waiting : receiver.waiting with
  | getpacket => exact getpacketStep_confined room bounded waiting rxChar
  | remote offset => exact consumeRemotePacket_confined room bounded waiting rxChar

/-- The receiver after a stream that it has read without returning. -/
inductive Reached (process : RemoteProcess σ) (noackmode : Bool) (size : Nat) (start : Receiver σ) :
    List Byte → Receiver σ → Prop where
  | start : Reached process noackmode size start [] start
  | step {stream : List Byte} {receiver next : Receiver σ} {rxChar : Byte}
      (reached : Reached process noackmode size start stream receiver)
      (stepped : receiveStep process noackmode size receiver rxChar = .wait next) :
      Reached process noackmode size start (stream ++ [rxChar]) next

theorem Reached.reads {start next : Receiver σ} {stream : List Byte} (reached : Reached process noackmode size start stream next) :
    Reads process noackmode size start stream next := by
  induction reached with
  | start => exact .refl start
  | step reached stepped ih => exact ih.trans (.step stepped)

theorem Reached.bounded (room : 1 ≤ size) {packet : Buffer} {remote : σ} {stream : List Byte}
    (reached : Reached process noackmode size (.start packet remote) stream receiver) :
    Bounded process size packet receiver := by
  induction reached with
  | start => exact ⟨.start, fun _ busy => absurd rfl busy, (fun offset never => by cases never)⟩
  | @step stream receiver next rxChar reached stepped ih =>
    have confined : Confined process size packet (receiveStep process noackmode size receiver rxChar) :=
      receiveStep_confined room ih rxChar
    rwa [stepped] at confined

end Writes

section Bodies

/-- The characters of a body, without `$` and `#` outside escapes, and the bytes that they stand for. -/
inductive Body : List Byte → List Byte → Prop where
  | nil : Body [] []
  | plain {wire data : List Byte} (body : Body wire data) (c : Byte)
      (ordinary : c ≠ gdbPacketStart ∧ c ≠ gdbPacketEnd ∧ c ≠ gdbPacketEscape) : Body (wire ++ [c]) (data ++ [c])
  | escaped {wire data : List Byte} (body : Body wire data) (c : Byte) :
      Body (wire ++ [gdbPacketEscape, c]) (data ++ [c ^^^ gdbPacketEscapeXor])

/-- The sum of the characters of a body. -/
def sum (wire : List Byte) : Byte := wire.foldl (· + ·) 0#8

/-- What the receiver makes of two checksum characters. -/
def readChecksum (upper lower : Byte) : Byte := unhexDigit upper <<< 4 ||| unhexDigit lower

def frame (wire : List Byte) (upper lower : Byte) : List Byte :=
  [gdbPacketStart] ++ wire ++ [gdbPacketEnd, upper, lower]

theorem sum_plain (wire : List Byte) (c : Byte) : sum (wire ++ [c]) = sum wire + c := by simp [sum]

theorem sum_escaped (wire : List Byte) (c : Byte) :
    sum (wire ++ [gdbPacketEscape, c]) = sum wire + (gdbPacketEscape + c) := by simp [sum, BitVec.add_assoc]

theorem Body.length_le {wire data : List Byte} (body : Body wire data) : data.length ≤ wire.length := by
  induction body with
  | nil => exact Nat.le_refl 0
  | plain body c ordinary ih => simpa using ih
  | escaped body c ih =>
    simp only [List.length_append, List.length_cons, List.length_nil]
    omega

variable {receiver : Receiver σ} {sent wire data : List Byte}

/-- The receiver waits for the start of a packet, whatever it has dropped before. -/
structure Waits (receiver : Receiver σ) (sent : List Byte) : Prop where
  waiting : receiver.waiting = .getpacket
  state : receiver.state = .idle
  sent : receiver.sent = sent

theorem waits_junk {junk : List Byte} (waits : Waits receiver sent) (quiet : ∀ b ∈ junk, Junk b) :
    ∃ next, Waits next sent ∧ Reads process noackmode size receiver junk next := by
  induction junk generalizing receiver with
  | nil => exact ⟨receiver, waits, .refl receiver⟩
  | cons b junk ih =>
    obtain ⟨notStart, notRemote, notInterrupt, notEot⟩ := quiet b List.mem_cons_self
    let kept := { receiver with packet := receiver.packet.set 0 b }
    have step : receiveStep process noackmode size receiver b = .wait kept := by
      simp [receiveStep, getpacketStep, Receiver.idleExit, Receiver.loop, waits.waiting, waits.state,
        notStart, notRemote, notInterrupt, notEot, kept]
    have waitsKept : Waits kept sent := ⟨waits.waiting, waits.state, waits.sent⟩
    obtain ⟨next, waitsNext, reads⟩ := ih waitsKept (fun c member => quiet c (List.mem_cons_of_mem b member))
    exact ⟨next, waitsNext, (Reads.step step).trans reads⟩

theorem waits_capture (waits : Waits receiver sent) (room : 0 < size) :
    ∃ next, Capturing next [] 0#8 sent ∧ Reads process noackmode size receiver [gdbPacketStart] next := by
  let next := { receiver with
    packet := receiver.packet.set 0 gdbPacketStart, state := .gdbCapture, offset := 0, checksum := 0#8 }
  have notSpecial : gdbPacketStart ≠ 4#8 ∧ gdbPacketStart ≠ 3#8 := by decide
  have step : receiveStep process noackmode size receiver gdbPacketStart = .wait next := by
    simp [receiveStep, getpacketStep, Receiver.idleExit, Receiver.loop, waits.waiting, waits.state,
      notSpecial, Nat.ne_of_gt room, next]
  exact ⟨next, ⟨waits.waiting, rfl, rfl, rfl, rfl, waits.sent⟩, .step step⟩

theorem capture_body (body : Body wire data) (capturing : Capturing receiver [] 0#8 sent) (room : data.length < size) :
    ∃ next, Capturing next data (sum wire) sent ∧ Reads process noackmode size receiver wire next := by
  induction body with
  | nil => exact ⟨receiver, capturing, .refl receiver⟩
  | @plain wire data body c ordinary ih =>
    simp only [List.length_append, List.length_singleton] at room
    obtain ⟨middle, stored, reads⟩ := ih (by omega)
    obtain ⟨next, more, reads'⟩ : ∃ next, _ ∧ Reads process noackmode size middle [c] next :=
      capture_plain stored (by omega) ordinary
    rw [sum_plain]
    exact ⟨next, more, reads.trans reads'⟩
  | @escaped wire data body c ih =>
    simp only [List.length_append, List.length_singleton] at room
    obtain ⟨middle, stored, reads⟩ := ih (by omega)
    obtain ⟨next, more, reads'⟩ : ∃ next, _ ∧
        Reads process noackmode size middle [gdbPacketEscape, (c ^^^ gdbPacketEscapeXor) ^^^ gdbPacketEscapeXor] next :=
      capture_escaped stored (by omega)
    have twice : (c ^^^ gdbPacketEscapeXor) ^^^ gdbPacketEscapeXor = c := by simp [BitVec.xor_assoc]
    rw [twice] at more reads'
    rw [sum_escaped]
    exact ⟨next, more, reads.trans reads'⟩

/-- The byte that fills the buffer makes the receiver drop the packet. -/
theorem capture_overlong (body : Body wire data) (capturing : Capturing receiver [] 0#8 sent)
    (positive : 0 < size) (full : data.length = size) :
    ∃ next, Waits next sent ∧ Reads process noackmode size receiver wire next := by
  cases body with
  | nil => exact absurd full (Nat.ne_of_lt positive)
  | @plain wire data body c ordinary =>
    simp only [List.length_append, List.length_singleton] at full
    obtain ⟨middle, stored, reads⟩ : ∃ next, _ ∧ Reads process noackmode size receiver wire next :=
      capture_body body capturing (by omega)
    let next := { middle with
      checksum := middle.checksum + c
      packet := middle.packet.set middle.offset c
      offset := middle.offset + 1
      state := .idle }
    have past : size ≤ data.length + 1 := by omega
    have step : receiveStep process noackmode size middle c = .wait next := by
      simp [receiveStep, getpacketStep, Receiver.loop, stored.waiting, stored.state, stored.offset, ordinary, past, next]
    exact ⟨next, ⟨stored.waiting, rfl, stored.sent⟩, reads.trans (.step step)⟩
  | @escaped wire data body c =>
    simp only [List.length_append, List.length_singleton] at full
    obtain ⟨middle, stored, reads⟩ : ∃ next, _ ∧ Reads process noackmode size receiver wire next :=
      capture_body body capturing (by omega)
    let escaping := { middle with checksum := middle.checksum + gdbPacketEscape, state := .gdbEscape }
    let next := { escaping with
      checksum := escaping.checksum + c
      packet := middle.packet.set middle.offset (c ^^^ gdbPacketEscapeXor)
      offset := middle.offset + 1
      state := .idle }
    have notStart : gdbPacketEscape ≠ gdbPacketStart ∧ gdbPacketEscape ≠ gdbPacketEnd := by decide
    have short : ¬ size ≤ data.length := by omega
    have past : size ≤ data.length + 1 := by omega
    have first : receiveStep process noackmode size middle gdbPacketEscape = .wait escaping := by
      simp [receiveStep, getpacketStep, Receiver.loop, stored.waiting, stored.state, stored.offset, notStart, short, escaping]
    have second : receiveStep process noackmode size escaping c = .wait next := by
      simp [receiveStep, getpacketStep, Receiver.loop, stored.waiting, stored.offset, past, escaping, next]
    exact ⟨next, ⟨stored.waiting, rfl, stored.sent⟩, reads.trans ((Reads.step first).trans (.step second))⟩

/-- Behind a body, the end character and two characters that read as its sum complete the packet. -/
theorem checksum_accepted {upper lower : Byte} (rest : List Byte) (capturing : Capturing receiver data (sum wire) sent)
    (room : data.length < size) (right : noackmode = true ∨ readChecksum upper lower = sum wire) :
    ∃ final, receive process noackmode size receiver ([gdbPacketEnd, upper, lower] ++ rest) =
        some (data.length, final, rest) ∧
      final.packet.take data.length = data ∧ final.packet data.length = 0#8 ∧
      final.sent = if noackmode then sent else sent ++ [gdbPacketAck] := by
  have notStart : gdbPacketEnd ≠ gdbPacketStart := by decide
  have short : ¬ size ≤ data.length := by omega
  let final := { receiver with
    state := .gdbChecksumLower
    rxChecksum := if noackmode then receiver.rxChecksum else sum wire
    sent := if noackmode then sent else sent ++ [gdbPacketAck]
    packet := receiver.packet.set data.length 0#8 }
  refine ⟨final, ?_, ?_, Buffer.set_self _ _ _, rfl⟩
  · cases noackmode with
    | true =>
      simp [receive, receiveStep, getpacketStep, Receiver.loop, capturing.waiting, capturing.state,
        capturing.offset, capturing.checksum, capturing.sent, notStart, short, final]
    | false =>
      have digits : unhexDigit upper <<< 4 ||| unhexDigit lower = sum wire := right.resolve_left (by simp)
      simp [receive, receiveStep, getpacketStep, Receiver.loop, capturing.waiting, capturing.state,
        capturing.offset, capturing.checksum, capturing.sent, notStart, short, digits, final]
  · simpa [final, Buffer.take_set_of_le] using capturing.stored

/-- In ack mode, any other two characters drop the packet with a negative answer. -/
theorem checksum_rejected {upper lower : Byte} (capturing : Capturing receiver data (sum wire) sent)
    (room : data.length < size) (wrong : readChecksum upper lower ≠ sum wire) :
    ∃ next, Waits next (sent ++ [gdbPacketNack]) ∧
      Reads process false size receiver [gdbPacketEnd, upper, lower] next := by
  have notStart : gdbPacketEnd ≠ gdbPacketStart := by decide
  have short : ¬ size ≤ data.length := by omega
  have digits : ¬ unhexDigit upper <<< 4 ||| unhexDigit lower = sum wire := wrong
  let next := { receiver with
    state := .idle
    rxChecksum := unhexDigit upper <<< 4 ||| unhexDigit lower
    sent := sent ++ [gdbPacketNack] }
  refine ⟨next, ⟨capturing.waiting, rfl, rfl⟩, fun rest => ?_⟩
  simp [receive, receiveStep, getpacketStep, Receiver.loop, capturing.waiting, capturing.state,
    capturing.offset, capturing.checksum, capturing.sent, notStart, short, digits, next]

/-- A frame that is accepted, behind junk. -/
theorem frame_received {upper lower : Byte} {junk : List Byte} (rest : List Byte) (waits : Waits receiver sent)
    (quiet : ∀ b ∈ junk, Junk b) (body : Body wire data) (room : data.length < size)
    (right : noackmode = true ∨ readChecksum upper lower = sum wire) :
    ∃ final, receive process noackmode size receiver (junk ++ frame wire upper lower ++ rest) =
        some (data.length, final, rest) ∧
      final.packet.take data.length = data ∧ final.packet data.length = 0#8 ∧
      final.sent = if noackmode then sent else sent ++ [gdbPacketAck] := by
  obtain ⟨waiting, still, skipped⟩ : ∃ next, _ ∧ Reads process noackmode size receiver junk next := waits_junk waits quiet
  obtain ⟨entered, empty, started⟩ : ∃ next, _ ∧ Reads process noackmode size waiting [gdbPacketStart] next :=
    waits_capture still (by omega)
  obtain ⟨complete, stored, captured⟩ : ∃ next, _ ∧ Reads process noackmode size entered wire next :=
    capture_body body empty room
  obtain ⟨final, accepted, facts⟩ : ∃ final, receive process noackmode size complete
      ([gdbPacketEnd, upper, lower] ++ rest) = some (data.length, final, rest) ∧ _ :=
    checksum_accepted rest stored room right
  refine ⟨final, ?_, facts⟩
  rw [← accepted, ← (skipped.trans started).trans captured]
  simp [frame]

end Bodies

section Digits

/-- The value of a hexadecimal digit. -/
def hexValue (c : Byte) : Option Byte :=
  if chr '0' ≤ c ∧ c ≤ chr '9' then some (c - chr '0')
  else if chr 'A' ≤ c ∧ c ≤ chr 'F' then some (c - chr 'A' + 10#8)
  else if chr 'a' ≤ c ∧ c ≤ chr 'f' then some (c - chr 'a' + 10#8)
  else none

/-- Two hexadecimal digits whose value is the sum of a body. -/
def Checked (wire : List Byte) (upper lower : Byte) : Prop :=
  ∃ high low, hexValue upper = some high ∧ hexValue lower = some low ∧ high * 16#8 + low = sum wire

/-- `unhex_digit` reads a hexadecimal digit as its value. -/
theorem unhexDigit_digit : ∀ c : Byte, (hexValue c).all fun value => unhexDigit c = value ∧ value < 16#8 := by
  decide +kernel

theorem digit_read {c value : Byte} (digit : hexValue c = some value) : unhexDigit c = value ∧ value < 16#8 := by
  have read := unhexDigit_digit c
  rw [digit] at read
  simpa using read

private theorem nibbles_combine : ∀ high < 16, ∀ low < 16,
    (BitVec.ofNat 8 high <<< 4 ||| BitVec.ofNat 8 low) = BitVec.ofNat 8 high * 16#8 + BitVec.ofNat 8 low := by
  decide +kernel

theorem readChecksum_digits {upper lower high low : Byte} (first : hexValue upper = some high)
    (second : hexValue lower = some low) : readChecksum upper lower = high * 16#8 + low := by
  obtain ⟨readUpper, smallHigh⟩ := digit_read first
  obtain ⟨readLower, smallLow⟩ := digit_read second
  have combine := nibbles_combine high.toNat (by simpa [BitVec.lt_def] using smallHigh) low.toNat
    (by simpa [BitVec.lt_def] using smallLow)
  rw [readChecksum, readUpper, readLower]
  simpa using combine

theorem Checked.read {wire : List Byte} {upper lower : Byte} (checked : Checked wire upper lower) :
    readChecksum upper lower = sum wire := by
  obtain ⟨high, low, first, second, same⟩ := checked
  rw [readChecksum_digits first second, same]

/-- A hexadecimal digit is no character that the receiver waits for. -/
theorem digit_junk : ∀ c : Byte, (hexValue c).isSome → Junk c := by decide +kernel

end Digits

section Recovery

variable {receiver : Receiver σ} {sent wire data : List Byte}

/-- A character of a remote packet that neither ends nor restarts it. -/
def RemoteChar (c : Byte) : Prop := c ≠ 4#8 ∧ c ≠ remoteSom ∧ c ≠ remoteEom ∧ c ≠ gdbPacketStart

/-- The receiver takes a `$` for the start of a packet: between packets, inside a body, and inside a remote packet that
does not begin like a packet of one character. -/
def Listening (receiver : Receiver σ) : Prop :=
  receiver.waiting = .getpacket ∧ (receiver.state = .idle ∨ receiver.state = .gdbCapture) ∨
    (∃ offset, receiver.waiting = .remote offset) ∧ receiver.packet 0 ≠ 4#8 ∧ receiver.packet 0 ≠ 3#8

/-- A packet that is too long or corrupt, up to the character with which the receiver drops it. -/
inductive Lost (noackmode : Bool) (size : Nat) (receiver : Receiver σ) : List Byte → Prop where
  | overlong {wire data : List Byte} (listening : Listening receiver)
      (body : Body wire data) (full : data.length = size) : Lost noackmode size receiver ([gdbPacketStart] ++ wire)
  | corrupt {wire data : List Byte} {upper lower : Byte}
      (listening : Listening receiver) (ack : noackmode = false)
      (body : Body wire data) (short : data.length < size) (wrong : readChecksum upper lower ≠ sum wire) :
      Lost noackmode size receiver (frame wire upper lower)
  | remote {chars : List Byte} (waiting : receiver.waiting = .getpacket) (idle : receiver.state = .idle) (plain : ∀ c ∈ chars, RemoteChar c)
      (full : chars.length = size + 1) : Lost noackmode size receiver ([remoteSom] ++ chars)

theorem listening_capture (listening : Listening receiver) (room : 0 < size) :
    ∃ next, Capturing next [] 0#8 receiver.sent ∧ Reads process noackmode size receiver [gdbPacketStart] next := by
  rcases listening with ⟨waiting, idle | capturing⟩ | ⟨⟨offset, waiting⟩, notEot, notInterrupt⟩
  · exact waits_capture ⟨waiting, idle, rfl⟩ room
  · let next := { receiver with offset := 0, checksum := 0#8 }
    have step : receiveStep process noackmode size receiver gdbPacketStart = .wait next := by
      simp [receiveStep, getpacketStep, Receiver.loop, waiting, capturing, Nat.ne_of_gt room, next]
    exact ⟨next, ⟨waiting, capturing, rfl, rfl, rfl, rfl⟩, .step step⟩
  · let next := { receiver with waiting := .getpacket, state := .gdbCapture, offset := 0, checksum := 0#8 }
    have others : gdbPacketStart ≠ 4#8 ∧ gdbPacketStart ≠ remoteSom ∧ gdbPacketStart ≠ remoteEom := by decide
    have step : receiveStep process noackmode size receiver gdbPacketStart = .wait next := by
      simp [receiveStep, consumeRemotePacket, Receiver.remoteExit, Receiver.idleExit, Receiver.loop, waiting, others, notEot,
        notInterrupt, Nat.ne_of_gt room, next]
    exact ⟨next, ⟨rfl, rfl, rfl, rfl, rfl, rfl⟩, .step step⟩

/-- A remote packet that does not end in the buffer is dropped. -/
theorem remote_overlong {chars : List Byte} {offset : Nat} (waiting : receiver.waiting = .remote offset)
    (plain : ∀ c ∈ chars, RemoteChar c) (full : offset + chars.length = size + 1) (inside : offset ≤ size) :
    ∃ next, Waits next receiver.sent ∧ Reads process noackmode size receiver chars next := by
  induction chars generalizing receiver offset with
  | nil =>
    rw [List.length_nil] at full
    omega
  | cons c chars ih =>
    obtain ⟨notEot, notSom, notEom, notStart⟩ := plain c List.mem_cons_self
    rw [List.length_cons] at full
    by_cases last : offset = size
    · subst last
      have none : chars = [] := List.length_eq_zero_iff.mp (by omega)
      subst none
      let next := { receiver with
        packet := receiver.packet.set 0 0#8, waiting := .getpacket, state := .idle, offset := 0, checksum := 0#8 }
      have step : receiveStep process noackmode offset receiver c = .wait next := by
        simp [receiveStep, consumeRemotePacket, Receiver.remoteExit, Receiver.idleExit, Receiver.loop, waiting, notEot,
          notSom, notEom, notStart, next]
      exact ⟨next, ⟨rfl, rfl, rfl⟩, .step step⟩
    · have more : offset < size := by omega
      let next := { receiver with packet := receiver.packet.set offset c, waiting := .remote (offset + 1) }
      have step : receiveStep process noackmode size receiver c = .wait next := by
        simp [receiveStep, consumeRemotePacket, waiting, notEot, notSom, notEom, notStart, more, next]
      have rest : ∀ b ∈ chars, RemoteChar b := fun b member => plain b (List.mem_cons_of_mem c member)
      obtain ⟨final, waits, reads⟩ : ∃ final, _ ∧ Reads process noackmode size next chars final :=
        ih rfl rest (by omega) more
      exact ⟨final, waits, (Reads.step step).trans reads⟩

theorem lost_waits {lost : List Byte} (room : 0 < size)
    (loses : Lost noackmode size receiver lost) :
    ∃ next sent, Waits next sent ∧ Reads process noackmode size receiver lost next := by
  cases loses with
  | overlong listening body full =>
    obtain ⟨entered, empty, started⟩ : ∃ next, _ ∧ Reads process noackmode size receiver [gdbPacketStart] next :=
      listening_capture listening room
    obtain ⟨next, waits, reads⟩ : ∃ next, _ ∧ Reads process noackmode size entered _ next :=
      capture_overlong body empty room full
    exact ⟨next, _, waits, started.trans reads⟩
  | corrupt listening ack body short wrong =>
    subst ack
    obtain ⟨entered, empty, started⟩ : ∃ next, _ ∧ Reads process false size receiver [gdbPacketStart] next :=
      listening_capture listening room
    obtain ⟨complete, stored, captured⟩ : ∃ next, _ ∧ Reads process false size entered _ next :=
      capture_body body empty short
    obtain ⟨next, waits, reads⟩ : ∃ next, _ ∧ Reads process false size complete _ next :=
      checksum_rejected stored short wrong
    exact ⟨next, _, waits, (started.trans captured).trans reads⟩
  | @remote chars waiting idle plain full =>
    let entered := { receiver with packet := receiver.packet.set 0 remoteSom, waiting := .remote 0 }
    have notStart : remoteSom ≠ gdbPacketStart := by decide
    have step : receiveStep process noackmode size receiver remoteSom = .wait entered := by
      simp [receiveStep, getpacketStep, waiting, idle, notStart, entered]
    obtain ⟨next, waits, reads⟩ : ∃ next, _ ∧ Reads process noackmode size entered chars next :=
      remote_overlong rfl plain (by omega) (Nat.zero_le size)
    exact ⟨next, _, waits, (Reads.step step).trans reads⟩

/-- For every stream: what is written is inside the buffer, and behind a packet that was dropped the next one is
received. -/
theorem receiver_bounded_recovers (process : RemoteProcess σ) (noackmode : Bool) (room : 1 ≤ size) (packet : Buffer)
    (remote : σ) {stream : List Byte} (reached : Reached process noackmode size (.start packet remote) stream receiver) :
    (Writes process size packet receiver.packet ∧ ∀ rxChar final length,
      receiveStep process noackmode size receiver rxChar = .done final length → Writes process size packet final.packet) ∧
    ∀ lost tail wire data upper lower rest, Lost noackmode size receiver lost →
      (∀ b ∈ tail, Junk b) → Body wire data → data.length < size → Checked wire upper lower →
      ∃ final, gdbGetpacket process noackmode packet size remote
          (stream ++ lost ++ tail ++ frame wire upper lower ++ rest) = some (data.length, final, rest) ∧
        final.packet.take data.length = data ∧ final.packet data.length = 0#8 := by
  have bounded := reached.bounded room
  refine ⟨⟨bounded.writes, fun rxChar final length returns => ?_⟩, ?_⟩
  · have confined : Confined process size packet (receiveStep process noackmode size receiver rxChar) :=
      receiveStep_confined room bounded rxChar
    rwa [returns] at confined
  · intro lost tail wire data upper lower rest loses quiet body short checked
    obtain ⟨next, sent, waits, reads⟩ : ∃ next sent, _ ∧ Reads process noackmode size receiver lost next :=
      lost_waits room loses
    obtain ⟨final, received, stored, ended, -⟩ : ∃ final, receive process noackmode size next
        (tail ++ frame wire upper lower ++ rest) = some (data.length, final, rest) ∧ _ :=
      frame_received rest waits quiet body short (.inr checked.read)
    refine ⟨final, ?_, stored, ended⟩
    rw [← received, ← reached.reads.trans reads, gdbGetpacket]
    simp only [List.append_assoc]

/-- Remote packets that are ignored. -/
def ignoring : RemoteProcess Unit := fun _ packet remote => (packet, [], remote)

private theorem two_bytes : Body [chr 'a', chr 'b'] [chr 'a', chr 'b'] :=
  .plain (.plain .nil (chr 'a') (by decide)) (chr 'b') (by decide)

private theorem one_byte : Body [chr 'm'] [chr 'm'] := .plain .nil (chr 'm') (by decide)

/-- A packet that is too long for a buffer of two bytes, its tail, and a packet that fits. -/
theorem short_packet_recovered :
    ∃ final, gdbGetpacket ignoring false (fun _ => 0#8) 2 ()
        ([] ++ ([gdbPacketStart] ++ [chr 'a', chr 'b']) ++ [chr 'c', chr '#'] ++ frame [chr 'm'] (chr '6') (chr 'd') ++ []) =
          some (1, final, []) ∧ final.packet.take 1 = [chr 'm'] ∧ final.packet 1 = 0#8 :=
  (receiver_bounded_recovers ignoring false (by decide : 1 ≤ 2) (fun _ => 0#8) () .start).2 _ _ _ _ _ _ _
    (.overlong (.inl ⟨rfl, .inl rfl⟩) two_bytes rfl) (by decide) one_byte (by decide) ⟨6#8, 13#8, by decide, by decide, by decide⟩

end Recovery

section Announced

variable {wire data : List Byte}

/-- A packet as long as the buffer is dropped. -/
theorem full_packet_dropped {upper lower : Byte} (packet : Buffer) (remote : σ) (body : Body wire data)
    (positive : 0 < size) (full : data.length = size) (digits : Junk upper ∧ Junk lower) :
    gdbGetpacket process noackmode packet size remote (frame wire upper lower) = none := by
  obtain ⟨next, sent, waits, reads⟩ : ∃ next sent, _ ∧
      Reads process noackmode size (.start packet remote) ([gdbPacketStart] ++ wire) next :=
    lost_waits positive (.overlong (.inl ⟨rfl, .inl rfl⟩) body full)
  have quiet : ∀ b ∈ [gdbPacketEnd, upper, lower], Junk b := by
    intro b member
    simp only [List.mem_cons, List.not_mem_nil, or_false] at member
    rcases member with rfl | rfl | rfl
    · decide
    · exact digits.1
    · exact digits.2
  obtain ⟨last, -, rest⟩ : ∃ last, _ ∧ Reads process noackmode size next [gdbPacketEnd, upper, lower] last :=
    waits_junk waits quiet
  have all := (reads.trans rest) []
  rw [List.append_nil] at all
  rw [gdbGetpacket, frame, all, receive]

/-- A body of the announced size is returned exactly if the bytes that it stands for leave room for the terminator. -/
theorem announced_returned_iff (process : RemoteProcess σ) (noackmode : Bool) (packet : Buffer) (remote : σ)
    {upper lower : Byte} (body : Body wire data) (announced : wire.length ≤ gdbMaxPacketSize)
    (checked : Checked wire upper lower) :
    (∀ rest, ∃ final, gdbGetpacket process noackmode packet gdbPacketBufferSize remote (frame wire upper lower ++ rest) =
        some (data.length, final, rest) ∧ final.packet.take data.length = data) ↔ data.length < gdbPacketBufferSize := by
  constructor
  · intro returned
    by_contra long
    have short := body.length_le
    have full : data.length = gdbPacketBufferSize := by
      rw [gdbMaxPacketSize] at announced
      rw [gdbPacketBufferSize] at long ⊢
      omega
    obtain ⟨high, low, first, second, -⟩ := checked
    have digits : Junk upper ∧ Junk lower := ⟨digit_junk upper (by rw [first]; rfl), digit_junk lower (by rw [second]; rfl)⟩
    obtain ⟨final, returns, -⟩ := returned []
    rw [List.append_nil, full_packet_dropped packet remote body (by decide) full digits] at returns
    cases returns
  · intro room rest
    obtain ⟨final, received, stored, -⟩ : ∃ final, receive process noackmode gdbPacketBufferSize (.start packet remote)
        ([] ++ frame wire upper lower ++ rest) = some (data.length, final, rest) ∧ _ :=
      frame_received rest ⟨rfl, rfl, rfl⟩ (fun b never => absurd never List.not_mem_nil) body room (.inr checked.read)
    exact ⟨final, received, stored⟩

private theorem long_body (n : Nat) : Body (List.replicate n (chr 'a')) (List.replicate n (chr 'a')) := by
  induction n with
  | zero => exact .nil
  | succ n ih =>
    rw [List.replicate_succ']
    exact .plain ih (chr 'a') (by decide)

/-- One packet of one character. -/
theorem short_packet_returned :
    (∀ rest, ∃ final, gdbGetpacket ignoring false (fun _ => 0#8) gdbPacketBufferSize ()
      (frame [chr 'm'] (chr '6') (chr 'd') ++ rest) = some (1, final, rest) ∧ final.packet.take 1 = [chr 'm']) ↔
        1 < gdbPacketBufferSize :=
  announced_returned_iff ignoring false (fun _ => 0#8) () one_byte (by decide) ⟨6#8, 13#8, by decide, by decide, by decide⟩

/-- The longest body that is announced, without escapes. -/
theorem announced_size_dropped :
    (List.replicate gdbMaxPacketSize (chr 'a')).length ≤ gdbMaxPacketSize ∧
      Body (List.replicate gdbMaxPacketSize (chr 'a')) (List.replicate gdbMaxPacketSize (chr 'a')) ∧
      Checked (List.replicate gdbMaxPacketSize (chr 'a')) (chr '0') (chr '0') ∧
      gdbGetpacket ignoring false (fun _ => 0#8) gdbPacketBufferSize ()
        (frame (List.replicate gdbMaxPacketSize (chr 'a')) (chr '0') (chr '0')) = none := by
  have zero : sum (List.replicate gdbMaxPacketSize (chr 'a')) = 0#8 := by decide +kernel
  refine ⟨(List.length_replicate).le, long_body gdbMaxPacketSize, ⟨0#8, 0#8, by decide, by decide, zero.symm⟩, ?_⟩
  exact full_packet_dropped (fun _ => 0#8) () (long_body gdbMaxPacketSize) (by decide) List.length_replicate (by decide)

end Announced

end BlackMagic.Proofs.PacketBounds

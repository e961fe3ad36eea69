import BlackMagic.Packet

/-! What one side of the packet layer sends, the other side receives. The receiver
is followed through a transmission: it skips the junk before the start character,
captures the payload byte by byte while both sides sum the same characters, and
then compares the two checksum digits. -/

namespace BlackMagic.Proofs.PacketRoundTrip
open BlackMagic.Packet Hex

variable {σ : Type} (process : RemoteProcess σ) (noackmode : Bool) (size : Nat)

/-- Reading `chars` takes the receiver from one state to the other without
completing a packet. -/
def Reads (receiver : Receiver σ) (chars : List Byte) (next : Receiver σ) : Prop :=
  ∀ rest, receive process noackmode size receiver (chars ++ rest) = receive process noackmode size next rest

variable {process noackmode size}

theorem Reads.refl (receiver : Receiver σ) : Reads process noackmode size receiver [] receiver := fun _ => rfl

theorem Reads.trans {receiver middle next : Receiver σ} {first second : List Byte}
    (one : Reads process noackmode size receiver first middle)
    (two : Reads process noackmode size middle second next) :
    Reads process noackmode size receiver (first ++ second) next := by
  intro rest
  rw [List.append_assoc, one, two]

theorem Reads.step {receiver next : Receiver σ} {rxChar : Byte}
    (step : receiveStep process noackmode size receiver rxChar = .wait next) :
    Reads process noackmode size receiver [rxChar] next := by
  intro rest
  simp only [List.singleton_append, receive, step]

/-- The receiver waits for the start of a packet. -/
structure Idle (receiver : Receiver σ) (sent : List Byte) : Prop where
  waiting : receiver.waiting = .getpacket
  state : receiver.state = .idle
  offset : receiver.offset = 0
  sent : receiver.sent = sent

/-- The receiver stands inside the body of a packet: it has stored `data`, summed
the characters of the body to `csum`, and sent nothing but `sent`. -/
structure Capturing (receiver : Receiver σ) (data : List Byte) (csum : Byte) (sent : List Byte) : Prop where
  waiting : receiver.waiting = .getpacket
  state : receiver.state = .gdbCapture
  offset : receiver.offset = data.length
  stored : receiver.packet.take data.length = data
  checksum : receiver.checksum = csum
  sent : receiver.sent = sent

/-- A character that neither starts a packet nor is one on its own. -/
def Junk (b : Byte) : Prop := b ≠ gdbPacketStart ∧ b ≠ remoteSom ∧ b ≠ 3#8 ∧ b ≠ 4#8

instance : DecidablePred Junk := fun _ => inferInstanceAs (Decidable (_ ∧ _))

/-- A byte that is sent as it stands is stored as it stands. -/
theorem capture_plain {receiver : Receiver σ} {data sent : List Byte} {csum value : Byte}
    (capturing : Capturing receiver data csum sent) (room : data.length + 1 < size)
    (plain : value ≠ gdbPacketStart ∧ value ≠ gdbPacketEnd ∧ value ≠ gdbPacketEscape) :
    ∃ next, Capturing next (data ++ [value]) (csum + value) sent ∧
      Reads process noackmode size receiver [value] next := by
  let next := { receiver with
    checksum := receiver.checksum + value
    packet := receiver.packet.set receiver.offset value
    offset := receiver.offset + 1 }
  have fits : ¬ size ≤ data.length + 1 := by omega
  have step : receiveStep process noackmode size receiver value = .wait next := by
    simp [receiveStep, getpacketStep, Receiver.loop, capturing.waiting, capturing.state, capturing.offset, plain,
      fits, next]
  refine ⟨next, ⟨capturing.waiting, capturing.state, ?_, ?_, ?_, capturing.sent⟩, .step step⟩
  · simp [next, capturing.offset]
  · simp [next, capturing.offset, Buffer.take_succ_set, capturing.stored]
  · simp [next, capturing.checksum]

/-- An escape pair stores the byte it stands for. -/
theorem capture_escaped {receiver : Receiver σ} {data sent : List Byte} {csum value : Byte}
    (capturing : Capturing receiver data csum sent) (room : data.length + 1 < size) :
    ∃ next, Capturing next (data ++ [value]) (csum + (gdbPacketEscape + (value ^^^ gdbPacketEscapeXor))) sent ∧
      Reads process noackmode size receiver [gdbPacketEscape, value ^^^ gdbPacketEscapeXor] next := by
  let escaping := { receiver with checksum := receiver.checksum + gdbPacketEscape, state := .gdbEscape }
  let next := { escaping with
    checksum := escaping.checksum + (value ^^^ gdbPacketEscapeXor)
    packet := receiver.packet.set receiver.offset value
    offset := receiver.offset + 1
    state := .gdbCapture }
  have notStart : gdbPacketEscape ≠ gdbPacketStart ∧ gdbPacketEscape ≠ gdbPacketEnd := by decide
  have short : ¬ size ≤ data.length := by omega
  have fits : ¬ size ≤ data.length + 1 := by omega
  have first : receiveStep process noackmode size receiver gdbPacketEscape = .wait escaping := by
    simp [receiveStep, getpacketStep, Receiver.loop, capturing.waiting, capturing.state, capturing.offset, notStart,
      short, escaping]
  have second : receiveStep process noackmode size escaping (value ^^^ gdbPacketEscapeXor) = .wait next := by
    simp [receiveStep, getpacketStep, Receiver.loop, capturing.waiting, capturing.offset, fits, escaping, next,
      BitVec.xor_assoc]
  refine ⟨next, ⟨capturing.waiting, rfl, ?_, ?_, ?_, capturing.sent⟩, (Reads.step first).trans (.step second)⟩
  · simp [next, capturing.offset]
  · simp [next, capturing.offset, Buffer.take_succ_set, capturing.stored]
  · simp [next, escaping, capturing.checksum, BitVec.add_assoc]

end BlackMagic.Proofs.PacketRoundTrip

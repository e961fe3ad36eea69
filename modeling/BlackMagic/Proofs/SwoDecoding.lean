import BlackMagic.Traceswo
import BlackMagic.Lib.Words

/-! What the decoder makes of a stream of ITM packets does not depend on how the stream is cut into
buffers: the payload of the enabled channels in full USB packets, with the rest retained. -/

namespace BlackMagic.Proofs.SwoDecoding
open Traceswo

/-- A software packet. -/
structure ItmPacket where
  channel : Fin 32
  payload : List Byte
  sized : payload.length = 1 ∨ payload.length = 2 ∨ payload.length = 4

/-- The code of a payload size. -/
def sizeCode (size : Nat) : Nat := if size = 4 then 3 else size

def header (packet : ItmPacket) : Byte := BitVec.ofNat 8 (8 * packet.channel + sizeCode packet.payload.length)

def stream (packets : List ItmPacket) : List Byte := packets.flatMap fun packet => header packet :: packet.payload

/-- The payload of the channels in the mask. -/
def printed (mask : BitVec 32) (packets : List ItmPacket) : List Byte :=
  (packets.filter fun packet => mask.getLsbD packet.channel).flatMap fun packet => packet.payload

/-- One call after another. -/
def decodeAll (usbHs : Bool) (buffers : List (List (Byte × Bool))) (decoder : Decoder) : Decoder :=
  buffers.foldl (fun decoder buf => (traceswoDecode usbHs true buf decoder).2) decoder

/-- What has been given to the USB. -/
def written (decoder : Decoder) : List Byte := (decoder.full.filter fun entry => entry.2).flatMap fun entry => entry.1

/-- What has come into `swo_buf` so far. -/
def collected (decoder : Decoder) : List Byte :=
  decoder.full.flatMap (fun entry => entry.1) ++ decoder.swoBuf.take decoder.swoBufLen.toNat

variable {usbHs : Bool} {decoder : Decoder}

/-- The limits of the state, and of the indices that have been used. -/
structure Bounded (usbHs : Bool) (decoder : Decoder) : Prop where
  packet : 0 ≤ decoder.swoPktLen ∧ decoder.swoPktLen ≤ 4
  room : 0 ≤ decoder.swoBufLen ∧ decoder.swoBufLen < cdcacmPacketSize usbHs
  used : ∀ i ∈ decoder.indices, 0 ≤ i ∧ i < cdcacmPacketSize usbHs
  full : ∀ entry ∈ decoder.full, entry.1.length = cdcacmPacketSize usbHs

section Bytes

theorem size_positive (usbHs : Bool) : 0 < (cdcacmPacketSize usbHs : Int) := by cases usbHs <;> decide

theorem powerUp_bounded (mask : BitVec 32) : Bounded usbHs (traceswoSetmask mask powerUp) :=
  ⟨⟨Int.le_refl 0, Int.zero_le_ofNat 4⟩, ⟨Int.le_refl 0, size_positive usbHs⟩,
    fun _ listed => absurd listed List.not_mem_nil, fun _ listed => absurd listed List.not_mem_nil⟩

/-- The number of bytes in the buffer as a natural number. -/
private theorem Bounded.count (bounded : Bounded usbHs decoder) :
    ∃ count : Nat, decoder.swoBufLen = count ∧ count < cdcacmPacketSize usbHs := by
  obtain ⟨positive, below⟩ := bounded.room
  exact ⟨decoder.swoBufLen.toNat, by omega, by omega⟩

theorem printByte_bounded (bounded : Bounded usbHs decoder) (ready : Bool) (ch : Byte) :
    Bounded usbHs (printByte usbHs ready ch decoder) := by
  have positive := size_positive usbHs
  have used : ∀ i ∈ decoder.indices ++ [decoder.swoBufLen], 0 ≤ i ∧ i < (cdcacmPacketSize usbHs : Int) := by
    intro i listed
    cases List.mem_append.mp listed with
    | inl earlier => exact bounded.used i earlier
    | inr last => exact List.mem_singleton.mp last ▸ bounded.room
  have room := bounded.room
  rw [printByte]
  by_cases last : decoder.swoBufLen + 1 = (cdcacmPacketSize usbHs : Int)
  · rw [if_pos last]
    refine ⟨bounded.packet, ⟨Int.le_refl 0, positive⟩, used, fun entry listed => ?_⟩
    cases List.mem_append.mp listed with
    | inl earlier => exact bounded.full entry earlier
    | inr new =>
      rw [List.mem_singleton.mp new, Buffer.take_length]
      show (decoder.swoBufLen + 1).toNat = _
      omega
  · rw [if_neg last]
    refine ⟨bounded.packet, ⟨?_, ?_⟩, used, bounded.full⟩
    · show 0 ≤ decoder.swoBufLen + 1
      omega
    · show decoder.swoBufLen + 1 < _
      omega

theorem printByte_collected (bounded : Bounded usbHs decoder) (ready : Bool) (ch : Byte) :
    collected (printByte usbHs ready ch decoder) = collected decoder ++ [ch] := by
  obtain ⟨count, counted, below⟩ := bounded.count
  have index : decoder.swoBufLen.toNat = count := by omega
  have next : (decoder.swoBufLen + 1).toNat = count + 1 := by omega
  have stored : (decoder.swoBuf.set count ch).take (count + 1) = decoder.swoBuf.take count ++ [ch] := Buffer.take_succ_set _ _ _
  rw [printByte]
  by_cases last : decoder.swoBufLen + 1 = (cdcacmPacketSize usbHs : Int)
  · rw [if_pos last]
    simp only [collected, index, next, stored, List.flatMap_append, List.flatMap_cons, List.flatMap_nil, List.append_nil,
      Int.toNat_zero, Buffer.take_zero, List.append_assoc]
  · rw [if_neg last]
    simp only [collected, index, next, stored, List.append_assoc]

theorem printByte_kept {ready : Bool} {ch : Byte} :
    (printByte usbHs ready ch decoder).swoPktLen = decoder.swoPktLen ∧
      (printByte usbHs ready ch decoder).swoPrint = decoder.swoPrint ∧
      (printByte usbHs ready ch decoder).swoDecode = decoder.swoDecode := by
  rw [printByte]
  split
  · exact ⟨rfl, rfl, rfl⟩
  · exact ⟨rfl, rfl, rfl⟩

end Bytes

section Packets

theorem decodeByte_bounded (bounded : Bounded usbHs decoder) (input : Byte × Bool) :
    Bounded usbHs (decodeByte usbHs decoder input) := by
  have packet := bounded.packet
  rw [decodeByte]
  by_cases first : decoder.swoPktLen = 0
  · rw [if_pos first]
    refine ⟨?_, bounded.room, bounded.used, bounded.full⟩
    show 0 ≤ ite _ _ _ ∧ ite _ _ _ ≤ 4
    split_ifs <;> omega
  · rw [if_neg first, if_pos packet.2]
    have printed : Bounded usbHs (if decoder.swoPrint then printByte usbHs input.2 input.1 decoder else decoder) ∧
        (if decoder.swoPrint then printByte usbHs input.2 input.1 decoder else decoder).swoPktLen = decoder.swoPktLen := by
      cases decoder.swoPrint with
      | true => exact ⟨printByte_bounded bounded _ _, printByte_kept.1⟩
      | false => exact ⟨bounded, rfl⟩
    generalize (if decoder.swoPrint then printByte usbHs input.2 input.1 decoder else decoder) = next at printed
    obtain ⟨kept, len⟩ := printed
    refine ⟨?_, kept.room, kept.used, kept.full⟩
    show 0 ≤ next.swoPktLen - 1 ∧ next.swoPktLen - 1 ≤ 4
    omega

/-- A byte of a payload. -/
theorem decodeByte_payload (bounded : Bounded usbHs decoder) {left : Nat} (inside : decoder.swoPktLen = left + 1)
    (input : Byte × Bool) :
    (decodeByte usbHs decoder input).swoPktLen = left ∧
      (decodeByte usbHs decoder input).swoPrint = decoder.swoPrint ∧
      (decodeByte usbHs decoder input).swoDecode = decoder.swoDecode ∧
      collected (decodeByte usbHs decoder input) = collected decoder ++ if decoder.swoPrint then [input.1] else [] := by
  have packet := bounded.packet
  have gained := printByte_collected bounded input.2 input.1
  obtain ⟨len, print, mask⟩ := @printByte_kept usbHs decoder input.2 input.1
  rw [decodeByte, if_neg (by omega), if_pos packet.2]
  cases printing : decoder.swoPrint with
  | true =>
    rw [printing] at print
    refine ⟨?_, print, mask, gained⟩
    show (printByte usbHs input.2 input.1 decoder).swoPktLen - 1 = left
    omega
  | false =>
    refine ⟨?_, printing, rfl, (List.append_nil _).symm⟩
    show decoder.swoPktLen - 1 = left
    omega

theorem decodeBytes_bounded (bounded : Bounded usbHs decoder) (inputs : List (Byte × Bool)) :
    Bounded usbHs (inputs.foldl (decodeByte usbHs) decoder) :=
  List.foldlRecOn inputs _ bounded fun _ kept input _ => decodeByte_bounded kept input

theorem decodePayload (bounded : Bounded usbHs decoder) (inputs : List (Byte × Bool))
    (expected : decoder.swoPktLen = inputs.length) :
    (inputs.foldl (decodeByte usbHs) decoder).swoPktLen = 0 ∧
      (inputs.foldl (decodeByte usbHs) decoder).swoDecode = decoder.swoDecode ∧
      collected (inputs.foldl (decodeByte usbHs) decoder)
        = collected decoder ++ if decoder.swoPrint then inputs.map Prod.fst else [] := by
  induction inputs generalizing decoder with
  | nil =>
    refine ⟨expected, rfl, ?_⟩
    cases decoder.swoPrint <;> exact (List.append_nil _).symm
  | cons input rest ih =>
    have inside : decoder.swoPktLen = rest.length + 1 := by
      rw [expected, List.length_cons]
      rfl
    obtain ⟨len, print, mask, gained⟩ := decodeByte_payload bounded inside input
    obtain ⟨done, kept, all⟩ := ih (decodeByte_bounded bounded input) len
    refine ⟨done, kept.trans mask, ?_⟩
    rw [List.foldl_cons, all, gained, print, List.append_assoc]
    cases decoder.swoPrint <;> rfl

private theorem header_fields : ∀ channel : Fin 32, ∀ code : Fin 4,
    (BitVec.ofNat 8 (8 * channel + code) >>> 3).toNat = channel ∧
      BitVec.ofNat 8 (8 * channel + code) &&& 7#8 = BitVec.ofNat 8 code := by
  decide +kernel

private theorem channel_enabled (mask : BitVec 32) (channel : Fin 32) :
    mask &&& (1#32 <<< (channel : Nat)) ≠ 0#32 ↔ mask.getLsbD channel = true :=
  Lib.Words.masked_bit mask channel.isLt (BitVec.twoPow_eq 32 channel).symm

private theorem header_read (packet : ItmPacket) :
    (header packet >>> 3).toNat = packet.channel ∧ header packet &&& 7#8 = BitVec.ofNat 8 (sizeCode packet.payload.length) := by
  have small : sizeCode packet.payload.length < 4 := by
    rw [sizeCode]
    split
    · decide
    · have sized := packet.sized
      omega
  exact header_fields packet.channel ⟨sizeCode packet.payload.length, small⟩

private theorem size_read (packet : ItmPacket) (otherwise : Int) :
    (if BitVec.ofNat 8 (sizeCode packet.payload.length) = 1#8 then (1 : Int)
      else if BitVec.ofNat 8 (sizeCode packet.payload.length) = 2#8 then 2
      else if BitVec.ofNat 8 (sizeCode packet.payload.length) = 3#8 then 4 else otherwise) = packet.payload.length := by
  obtain one | two | four := packet.sized
  · rw [one]
    rfl
  · rw [two]
    rfl
  · rw [four]
    rfl

/-- The header of a packet. -/
theorem decodeByte_header (packet : ItmPacket) (idle : decoder.swoPktLen = 0) (ready : Bool) :
    decodeByte usbHs decoder (header packet, ready) =
      { decoder with
        swoPktLen := packet.payload.length, swoPrint := decoder.swoDecode.getLsbD packet.channel } := by
  obtain ⟨channel, size⟩ := header_read packet
  have some : (packet.payload.length : Int) ≠ 0 := by
    have sized := packet.sized
    omega
  have enabled : decide ((packet.payload.length : Int) ≠ 0 ∧
      decoder.swoDecode &&& (1#32 <<< (packet.channel : Nat)) ≠ 0#32) = decoder.swoDecode.getLsbD packet.channel := by
    apply Bool.eq_iff_iff.mpr
    rw [decide_eq_true_iff, channel_enabled]
    exact and_iff_right some
  simp only [decodeByte, if_pos idle, channel, size, size_read]
  rw [enabled]

/-- A packet that comes while none is open. -/
theorem decodePacket (bounded : Bounded usbHs decoder) (idle : decoder.swoPktLen = 0) (packet : ItmPacket)
    {inputs : List (Byte × Bool)} (bytes : inputs.map Prod.fst = header packet :: packet.payload) :
    (inputs.foldl (decodeByte usbHs) decoder).swoPktLen = 0 ∧
      (inputs.foldl (decodeByte usbHs) decoder).swoDecode = decoder.swoDecode ∧
      collected (inputs.foldl (decodeByte usbHs) decoder)
        = collected decoder ++ printed decoder.swoDecode [packet] := by
  cases inputs with
  | nil => cases bytes
  | cons first rest =>
    obtain ⟨ch, ready⟩ := first
    obtain ⟨rfl, payload⟩ := List.cons.inj bytes
    have headed := @decodeByte_header usbHs decoder packet idle ready
    have still := decodeByte_bounded bounded (header packet, ready)
    rw [List.foldl_cons]
    rw [headed] at still ⊢
    have len : rest.length = packet.payload.length := by
      rw [← payload, List.length_map]
    obtain ⟨done, mask, gained⟩ := decodePayload still rest (by rw [len])
    refine ⟨done, mask, ?_⟩
    rw [gained, payload]
    refine congrArg (collected decoder ++ ·) ?_
    simp only [printed, List.filter_cons, List.filter_nil]
    cases decoder.swoDecode.getLsbD packet.channel with
    | true => exact (List.append_nil _).symm
    | false => rfl

theorem decodePackets (bounded : Bounded usbHs decoder) (idle : decoder.swoPktLen = 0) (packets : List ItmPacket)
    {inputs : List (Byte × Bool)} (bytes : inputs.map Prod.fst = stream packets) :
    collected (inputs.foldl (decodeByte usbHs) decoder) = collected decoder ++ printed decoder.swoDecode packets := by
  induction packets generalizing decoder inputs with
  | nil =>
    rw [List.map_eq_nil_iff.mp bytes]
    exact (List.append_nil _).symm
  | cons packet rest ih =>
    rw [stream, List.flatMap_cons] at bytes
    obtain ⟨first, later, rfl, head, tail⟩ := List.map_eq_append_iff.mp bytes
    obtain ⟨done, mask, gained⟩ := decodePacket bounded idle packet head
    rw [List.foldl_append, ih (decodeBytes_bounded bounded first) done tail, gained, mask, List.append_assoc]
    refine congrArg (collected decoder ++ ·) ?_
    simp only [printed, List.filter_cons, List.filter_nil]
    cases decoder.swoDecode.getLsbD packet.channel with
    | true => simp
    | false => rfl

end Packets

section Buffers

/-- The calls together are one call with all the bytes. -/
theorem decodeAll_eq (buffers : List (List (Byte × Bool))) :
    decodeAll usbHs buffers decoder = (traceswoDecode usbHs true buffers.flatten decoder).2 := by
  show buffers.foldl (fun decoder buf => buf.foldl (decodeByte usbHs) decoder) decoder
    = buffers.flatten.foldl (decodeByte usbHs) decoder
  rw [List.foldl_flatten]

theorem decodeAll_bounded (mask : BitVec 32) (buffers : List (List (Byte × Bool))) :
    Bounded usbHs (decodeAll usbHs buffers (traceswoSetmask mask powerUp)) := by
  rw [decodeAll_eq]
  exact decodeBytes_bounded (powerUp_bounded mask) _

/-- The bytes that have come in are those of the full buffers, and fewer than another one. -/
theorem collected_full (bounded : Bounded usbHs decoder) :
    decoder.full.flatMap (fun entry => entry.1)
      = (collected decoder).take (cdcacmPacketSize usbHs * ((collected decoder).length / cdcacmPacketSize usbHs)) := by
  obtain ⟨count, counted, below⟩ := bounded.count
  have index : decoder.swoBufLen.toNat = count := by omega
  have blocks : (decoder.full.flatMap fun entry => entry.1).length = cdcacmPacketSize usbHs * decoder.full.length := by
    have full := bounded.full
    generalize decoder.full = list at full
    induction list with
    | nil => rfl
    | cons entry rest ih =>
      rw [List.flatMap_cons, List.length_append, full entry List.mem_cons_self,
        ih fun other listed => full other (List.mem_cons_of_mem entry listed), List.length_cons, Nat.mul_add, Nat.mul_one,
        Nat.add_comm]
  have chunks : (collected decoder).length / cdcacmPacketSize usbHs = decoder.full.length := by
    rw [collected, List.length_append, blocks, Buffer.take_length, index, Nat.mul_add_div (by omega),
      Nat.div_eq_of_lt below, Nat.add_zero]
  rw [chunks, collected, ← blocks, List.take_left]

theorem written_ready {decoder : Decoder} (ready : ∀ entry ∈ decoder.full, entry.2 = true) :
    written decoder = decoder.full.flatMap fun entry => entry.1 := by
  rw [written, List.filter_eq_self.mpr ready]

private theorem decodeByte_ready (all : ∀ entry ∈ decoder.full, entry.2 = true) {input : Byte × Bool} (ready : input.2 = true) :
    ∀ entry ∈ (decodeByte usbHs decoder input).full, entry.2 = true := by
  rw [decodeByte]
  split
  · exact all
  · split
    · cases decoder.swoPrint with
      | false => exact all
      | true =>
        show ∀ entry ∈ (printByte usbHs input.2 input.1 decoder).full, entry.2 = true
        rw [printByte, ready]
        split
        · intro entry listed
          cases List.mem_append.mp listed with
          | inl earlier => exact all entry earlier
          | inr new => exact List.mem_singleton.mp new ▸ rfl
        · exact all
    · exact all

/-- Whatever comes in, the state keeps its limits, and however it is cut, a stream of packets fills buffers with the
payload of the enabled channels. The full ones are written if the USB is ready; the rest stays. -/
theorem decoding_split_independent (usbHs : Bool) (mask : BitVec 32) (buffers : List (List (Byte × Bool))) :
    Bounded usbHs (decodeAll usbHs buffers (traceswoSetmask mask powerUp)) ∧
    decodeAll usbHs buffers (traceswoSetmask mask powerUp)
      = (traceswoDecode usbHs true buffers.flatten (traceswoSetmask mask powerUp)).2 ∧
    ∀ packets, buffers.flatten.map Prod.fst = stream packets →
      collected (decodeAll usbHs buffers (traceswoSetmask mask powerUp)) = printed mask packets ∧
      ((∀ input ∈ buffers.flatten, input.2 = true) →
        written (decodeAll usbHs buffers (traceswoSetmask mask powerUp)) = (printed mask packets).take
          (cdcacmPacketSize usbHs * ((printed mask packets).length / cdcacmPacketSize usbHs))) := by
  have bounded := @decodeAll_bounded usbHs mask buffers
  refine ⟨bounded, decodeAll_eq buffers, fun packets bytes => ?_⟩
  have gained : collected (decodeAll usbHs buffers (traceswoSetmask mask powerUp)) = printed mask packets := by
    rw [decodeAll_eq]
    exact decodePackets (powerUp_bounded mask) rfl packets bytes
  refine ⟨gained, fun ready => ?_⟩
  have full : ∀ entry ∈ (decodeAll usbHs buffers (traceswoSetmask mask powerUp)).full, entry.2 = true := by
    rw [decodeAll_eq]
    refine List.foldlRecOn (motive := fun decoder : Decoder => ∀ entry ∈ decoder.full, entry.2 = true) _ _ ?_ ?_
    · exact fun _ listed => absurd listed List.not_mem_nil
    · exact fun _ kept input listed => decodeByte_ready kept (ready input listed)
  rw [written_ready full, collected_full bounded, gained]

/-- Two packets on two channels, cut inside the second one. -/
def twoPackets : List (List (Byte × Bool)) :=
  [[(0x01#8, true), (0x41#8, true), (0x0a#8, true), (0x42#8, true)], [(0x43#8, true)]]

theorem two_packets_decoded :
    Bounded false (decodeAll false twoPackets (traceswoSetmask 2#32 powerUp)) ∧
    decodeAll false twoPackets (traceswoSetmask 2#32 powerUp)
      = (traceswoDecode false true twoPackets.flatten (traceswoSetmask 2#32 powerUp)).2 ∧
    ∀ packets, twoPackets.flatten.map Prod.fst = stream packets →
      collected (decodeAll false twoPackets (traceswoSetmask 2#32 powerUp)) = printed 2#32 packets ∧
      ((∀ input ∈ twoPackets.flatten, input.2 = true) →
        written (decodeAll false twoPackets (traceswoSetmask 2#32 powerUp)) = (printed 2#32 packets).take
          (cdcacmPacketSize false * ((printed 2#32 packets).length / cdcacmPacketSize false))) :=
  decoding_split_independent false 2#32 twoPackets

/-- The payload of one packet stays in the buffer. -/
theorem one_packet_retained :
    ∃ (packet : ItmPacket) (input : List (Byte × Bool)), input.map Prod.fst = stream [packet] ∧
      (∀ entry ∈ input, entry.2 = true) ∧
      written (decodeAll false [input] (traceswoSetmask 1#32 powerUp)) ≠ printed 1#32 [packet] :=
  ⟨⟨0, [0x41#8], .inl rfl⟩, [(0x01#8, true), (0x41#8, true)], by decide, by simp, by decide +kernel⟩

end Buffers

end BlackMagic.Proofs.SwoDecoding

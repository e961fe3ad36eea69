import BlackMagic.Bytes

/-! The decoder for SWO packets (`traceswodecode.c`), whose state is kept from one input buffer to the next. -/

namespace BlackMagic.Traceswo

/-- `CDCACM_PACKET_SIZE`, which depends on the speed of the USB. -/
def cdcacmPacketSize (usbHs : Bool) : Nat := if usbHs then 512 else 64

/-- The state of the decoder; the indices used in `swo_buf` and the buffers that became full are recorded, with
whether they were written to the USB. -/
structure Decoder where
  swoBuf : Buffer
  swoBufLen : Int
  swoDecode : BitVec 32
  swoPktLen : Int
  swoPrint : Bool
  indices : List Int
  full : List (List Byte × Bool)

def powerUp : Decoder := ⟨fun _ => 0#8, 0, 0#32, 0, false, [], []⟩

variable (usbHs : Bool)

/-- A byte for the USB, which may be ready for a full buffer or not. -/
def printByte (ready : Bool) (ch : Byte) (decoder : Decoder) : Decoder :=
  let decoder := { decoder with
    swoBuf := decoder.swoBuf.set decoder.swoBufLen.toNat ch
    swoBufLen := decoder.swoBufLen + 1
    indices := decoder.indices ++ [decoder.swoBufLen] }
  if decoder.swoBufLen = (cdcacmPacketSize usbHs : Int) then
    { decoder with swoBufLen := 0, full := decoder.full ++ [(decoder.swoBuf.take decoder.swoBufLen.toNat, ready)] }
  else decoder

def decodeByte (decoder : Decoder) (input : Byte × Bool) : Decoder :=
  let ch := input.1
  if decoder.swoPktLen = 0 then
    let channel := ch >>> 3
    let size := ch &&& 7#8
    let swoPktLen : Int :=
      if size = 1#8 then 1 else if size = 2#8 then 2 else if size = 3#8 then 4 else decoder.swoPktLen
    { decoder with
      swoPktLen := swoPktLen
      swoPrint := swoPktLen ≠ 0 ∧ decoder.swoDecode &&& (1#32 <<< channel.toNat) ≠ 0#32 }
  else if decoder.swoPktLen ≤ 4 then
    let decoder := if decoder.swoPrint then printByte usbHs input.2 ch decoder else decoder
    { decoder with swoPktLen := decoder.swoPktLen - 1 }
  else { decoder with swoBufLen := 0, swoPktLen := 0 }

/-- A buffer of bytes, each with whether the USB is ready at that time: what is returned, and the state. -/
def traceswoDecode (usbdDev : Bool) (buf : List (Byte × Bool)) (decoder : Decoder) : Nat × Decoder :=
  if usbdDev then (buf.length, buf.foldl (decodeByte usbHs) decoder) else (0, decoder)

def traceswoSetmask (mask : BitVec 32) (decoder : Decoder) : Decoder := { decoder with swoDecode := mask }

end BlackMagic.Traceswo

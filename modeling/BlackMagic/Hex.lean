import BlackMagic.Bytes

/-! The ASCII hex helpers of `hex_utils.c`, on the byte values the C code uses,
with its 8-bit wrap-around on anything that is not a digit. -/

namespace BlackMagic.Hex

def hexDigit (value : Byte) : Byte :=
  (if value > 9#8 then value + (chr 'A' - chr '0' - 10#8) else value) + chr '0'

def hexify (bytes : List Byte) : List Byte :=
  bytes.flatMap fun (b : Byte) => [hexDigit (b >>> 4), hexDigit (b &&& 15#8)]

def unhexDigit (hex : Byte) : Byte :=
  let tmp := hex - chr '0'
  let tmp := if tmp > 9#8 then tmp - (chr 'A' - chr '0' - 10#8) else tmp
  if tmp > 16#8 then tmp - (chr 'a' - chr 'A') else tmp

/-- `unhexify` reads two characters for each of the `size` bytes it stores; the
text it is given is NUL terminated in the packet buffer, so a short text reads
as NULs. -/
def unhexify (hex : List Byte) : Nat → List Byte
  | 0 => []
  | size + 1 =>
    ((unhexDigit (hex.getD 0 0#8) <<< 4) ||| unhexDigit (hex.getD 1 0#8)) :: unhexify (hex.drop 2) size

/-- The two characters `snprintf` prints for `%02X` of a byte. -/
def printByte (value : Byte) : List Byte := [hexDigit (value >>> 4), hexDigit (value &&& 15#8)]

end BlackMagic.Hex

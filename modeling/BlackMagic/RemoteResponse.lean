import BlackMagic.RemoteMemory

/-! Numbers in the remote protocol (`remote.c`): the response with a parameter, and the number that a text of digits is
read as. -/

namespace BlackMagic.RemoteResponse
open Hex RemoteMemory

/-- The digits of a parameter as they are collected, the last one first. -/
def collectDigits : Nat → BitVec 64 → List Byte
  | 0, _ => []
  | room + 1, param =>
    if param = 0 then [] else hexDigit ((param &&& 0xf).setWidth 8) :: collectDigits room (param >>> 4)

/-- The digits that are sent for a parameter. -/
def responseDigits (param : BitVec 64) : List Byte :=
  let response := collectDigits 16 param
  (if response = [] then [chr '0'] else response).reverse

def remoteRespond (responseCode : Byte) (param : BitVec 64) : List Byte :=
  chr '&' :: responseCode :: (responseDigits param ++ [chr '#'])

/-- The loop of `remote_hex_string_to_num`, with its 64-bit number. -/
def hexNumber (str : Buffer) : Nat → Nat → BitVec 64 → BitVec 64
  | 0, _, ret => ret
  | left + 1, i, ret =>
    if isHex (str i) then hexNumber str left (i + 1) ((ret <<< 4) ||| (hton (str i)).setWidth 64) else ret

def remoteHexStringToNum (max : Nat) (str : Buffer) : BitVec 64 := hexNumber str max 0 0

end BlackMagic.RemoteResponse

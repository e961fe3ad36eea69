import BlackMagic.RemoteResponse
import BlackMagic.Proofs.RegisterReplies
import Mathlib.Tactic.IntervalCases

/-! The hexadecimal texts of the probe are read back as what they were written for. -/

namespace BlackMagic.Proofs.HexCodecs
open BlackMagic.Hex BlackMagic.RemoteResponse RemoteMemory

section Bytes

def lowerCase (c : Byte) : Byte := if chr 'A' ≤ c ∧ c ≤ chr 'Z' then c + (chr 'a' - chr 'A') else c

/-- A text with some of its letters in lower case. -/
def recase : (Nat → Bool) → List Byte → List Byte
  | _, [] => []
  | lower, c :: rest => (if lower 0 then lowerCase c else c) :: recase (fun i => lower (i + 1)) rest

theorem digit_recased (value : Byte) (small : value < 16#8) (lower : Bool) :
    unhexDigit (if lower then lowerCase (hexDigit value) else hexDigit value) = value := by
  revert value lower
  decide

theorem nibbles_joined (value : Byte) :
    value >>> 4 < 16#8 ∧ value &&& 15#8 < 16#8 ∧ (value >>> 4) <<< 4 ||| (value &&& 15#8) = value := by
  revert value
  decide

/-- Whatever the case of the letters is, the bytes are read back. -/
theorem unhexify_hexify (lower : Nat → Bool) (bytes : List Byte) :
    unhexify (recase lower (hexify bytes)) bytes.length = bytes := by
  induction bytes generalizing lower with
  | nil => rfl
  | cons value rest ih =>
    obtain ⟨high, low, joined⟩ := nibbles_joined value
    have later := ih fun i => lower (i + 2)
    rw [hexify, List.flatMap_cons, ← hexify, List.cons_append, List.cons_append, List.nil_append, recase, recase,
      List.length_cons, unhexify]
    simp only [List.getD_cons_zero, List.getD_cons_succ, List.drop_succ_cons, List.drop_zero]
    rw [digit_recased _ high, digit_recased _ low, joined, later]

theorem hexify_digits {bytes : List Byte} {c : Byte} (listed : c ∈ hexify bytes) : isHex c = true := by
  have digits (value : Byte) : isHex (hexDigit (value >>> 4)) = true ∧ isHex (hexDigit (value &&& 15#8)) = true := by
    revert value
    decide
  obtain ⟨value, _, found⟩ := List.mem_flatMap.mp listed
  cases found with
  | head => exact (digits value).1
  | tail _ found =>
    rw [List.mem_singleton.mp found]
    exact (digits value).2

end Bytes

section Numbers

/-- A buffer that starts with a text. -/
def holding (text : List Byte) (rest : Buffer) : Buffer := fun i => text[i]?.getD (rest i)

theorem digit_read (value : Byte) (small : value < 16#8) : isHex (hexDigit value) = true ∧ hton (hexDigit value) = value := by
  revert value
  decide

def appendDigit (ret : BitVec 64) (c : Byte) : BitVec 64 := (ret <<< 4) ||| (hton c).setWidth 64

/-- The number is that of the fields of a packet, in 64 bits. -/
theorem hexNumber_ofNat {str : Buffer} {left i ret : Nat} :
    hexNumber str left i (BitVec.ofNat 64 ret) = BitVec.ofNat 64 (remoteHexDigits str left i ret) := by
  have small : ∀ c : Byte, isHex c = true → (hton c).toNat < 16 := by decide
  induction left generalizing i ret with
  | zero => rfl
  | succ left ih =>
    rw [hexNumber, remoteHexDigits]
    split
    next digit =>
      rw [← ih]
      congr 1
      have value := small _ digit
      generalize hton (str i) = c at value
      apply BitVec.eq_of_toNat_eq
      have shifted : (BitVec.ofNat 64 ret <<< 4).toNat = (ret % 2 ^ 60) <<< 4 := by
        rw [BitVec.toNat_shiftLeft, BitVec.toNat_ofNat, Nat.shiftLeft_eq, Nat.shiftLeft_eq]
        omega
      rw [BitVec.toNat_or, shifted, BitVec.toNat_setWidth, Nat.mod_eq_of_lt (Nat.lt_trans value (by decide)),
        ← Nat.shiftLeft_add_eq_or_of_lt value, Nat.shiftLeft_eq, BitVec.toNat_ofNat]
      omega
    · rfl

theorem hexNumber_digits {str : Buffer} {text : List Byte} {extra i : Nat} {ret : BitVec 64}
    (digits : ∀ c ∈ text, isHex c = true) (held : ∀ k < text.length, str (i + k) = text[k]?.getD 0) :
    hexNumber str (text.length + extra) i ret = hexNumber str extra (i + text.length) (text.foldl appendDigit ret) := by
  induction text generalizing i ret with
  | nil =>
    rw [List.length_nil, Nat.zero_add]
    rfl
  | cons c rest ih =>
    have first : str i = c := held 0 (Nat.succ_pos _)
    have later : ∀ k < rest.length, str (i + 1 + k) = rest[k]?.getD 0 := by
      intro k inside
      rw [Nat.add_right_comm]
      exact held (k + 1) (Nat.succ_lt_succ inside)
    rw [List.length_cons, Nat.add_right_comm, hexNumber, first, digits c List.mem_cons_self, if_pos rfl,
      ih (fun d listed => digits d (List.mem_cons_of_mem c listed)) later, Nat.add_right_comm]
    rfl

theorem nibble_split (param : BitVec 64) :
    (param &&& 0xf).setWidth 8 < 16#8 ∧
      (param >>> 4) <<< 4 ||| ((param &&& 0xf).setWidth 8 : Byte).setWidth 64 = param := by
  constructor
  · rw [BitVec.lt_def, BitVec.toNat_setWidth, BitVec.toNat_and]
    have low : param.toNat &&& (0xf#64).toNat ≤ 15 := Nat.and_le_right
    exact Nat.lt_of_le_of_lt (Nat.mod_le _ _) (Nat.lt_succ_of_le low)
  · apply BitVec.eq_of_getLsbD_eq
    intro i inside
    rw [BitVec.getLsbD_or, BitVec.getLsbD_shiftLeft, BitVec.getLsbD_ushiftRight, BitVec.getLsbD_setWidth,
      BitVec.getLsbD_setWidth, BitVec.getLsbD_and]
    by_cases low : i < 4
    · have bit : (0xf : BitVec 64).getLsbD i = true := by interval_cases i <;> rfl
      have short : i < 8 := by omega
      simp only [inside, low, short, bit, decide_true, Bool.not_true, Bool.and_false, Bool.false_and, Bool.false_or,
        Bool.true_and, Bool.and_true]
    · have small : 0xf < 2 ^ i :=
        Nat.lt_of_lt_of_le (by decide) (Nat.pow_le_pow_right (by decide) (Nat.le_of_not_lt low))
      have bit : (0xf : BitVec 64).getLsbD i = false := Nat.testBit_lt_two_pow small
      have place : 4 + (i - 4) = i := by omega
      simp only [inside, low, bit, place, decide_true, decide_false, Bool.not_false, Bool.true_and, Bool.and_false,
        Bool.or_false]

theorem collectDigits_spec {room : Nat} {param : BitVec 64} (fits : param.toNat < 16 ^ room) :
    (∀ c ∈ collectDigits room param, isHex c = true) ∧ (collectDigits room param).reverse.foldl appendDigit 0 = param := by
  induction room generalizing param with
  | zero =>
    have zero : param = 0 := BitVec.eq_of_toNat_eq (Nat.lt_one_iff.mp fits)
    rw [zero]
    exact ⟨fun c never => absurd never List.not_mem_nil, rfl⟩
  | succ room ih =>
    rw [collectDigits]
    split
    next zero =>
      rw [zero]
      exact ⟨fun c never => absurd never List.not_mem_nil, rfl⟩
    next more =>
      have shorter : (param >>> 4).toNat < 16 ^ room := by
        rw [BitVec.toNat_ushiftRight, Nat.shiftRight_eq_div_pow]
        exact Nat.div_lt_of_lt_mul (by rwa [Nat.pow_succ, Nat.mul_comm] at fits)
      obtain ⟨digits, read⟩ := ih shorter
      obtain ⟨small, joined⟩ := nibble_split param
      obtain ⟨hexadecimal, value⟩ := digit_read _ small
      constructor
      · intro c listed
        cases List.mem_cons.mp listed with
        | inl same => exact same ▸ hexadecimal
        | inr later => exact digits c later
      · rw [List.reverse_cons, List.foldl_append, read, List.foldl_cons, List.foldl_nil, appendDigit, value, joined]

/-- The digits that are sent for a parameter are read back as the parameter, up to a character that is none. -/
theorem responseDigits_read (param : BitVec 64) (rest : Buffer) (extra : Nat) :
    RemoteResponse.remoteHexStringToNum ((responseDigits param).length + extra)
      (holding (responseDigits param ++ [chr '#']) rest) = param := by
  have spec := @collectDigits_spec 16 param param.isLt
  obtain ⟨digits, read⟩ : (∀ c ∈ responseDigits param, isHex c = true) ∧ (responseDigits param).foldl appendDigit 0 = param := by
    rw [responseDigits]
    split
    next none =>
      have zero : param = 0 := by
        rw [none] at spec
        exact spec.2.symm
      rw [zero]
      exact ⟨by decide, rfl⟩
    next =>
      exact ⟨fun c listed => spec.1 c (List.mem_reverse.mp listed), spec.2⟩
  generalize responseDigits param = text at *
  have held : ∀ k < text.length, holding (text ++ [chr '#']) rest (0 + k) = text[k]?.getD 0 := by
    intro k inside
    rw [Nat.zero_add, holding, List.getElem?_append_left inside, List.getElem?_eq_getElem inside]
    rfl
  have stop : holding (text ++ [chr '#']) rest (0 + text.length) = chr '#' := by
    rw [Nat.zero_add, holding, List.getElem?_append_right (Nat.le_refl _), Nat.sub_self]
    rfl
  rw [RemoteResponse.remoteHexStringToNum, hexNumber_digits digits held, read]
  cases extra with
  | zero => rfl
  | succ extra =>
    rw [hexNumber, stop]
    rfl

end Numbers

/-- The codecs: bytes in digits of either case, what `hexify` writes, and the parameter of a response. -/
theorem codecs_invert :
    (∀ lower bytes, unhexify (recase lower (hexify bytes)) bytes.length = bytes) ∧
    (∀ hex buf size, (ReadRegister.hexify hex buf size).writes = List.range (2 * size + 1) ∧
      (ReadRegister.hexify hex buf size).hex.take (2 * size) = hexify (buf.take size) ∧
      (∀ c ∈ (ReadRegister.hexify hex buf size).hex.take (2 * size), isHex c = true) ∧
      (ReadRegister.hexify hex buf size).hex (2 * size) = 0) ∧
    ∀ code param rest extra,
      remoteRespond code param = chr '&' :: code :: (responseDigits param ++ [chr '#']) ∧
        RemoteResponse.remoteHexStringToNum ((responseDigits param).length + extra)
          (holding (responseDigits param ++ [chr '#']) rest) = param := by
  refine ⟨unhexify_hexify, fun hex buf size => ⟨?_, ?_, ?_, ?_⟩, fun code param rest extra => ⟨rfl, ?_⟩⟩
  · exact RegisterReplies.hexify_writes size
  · exact RegisterReplies.hexify_stored size
  · rw [RegisterReplies.hexify_stored]
    exact fun c listed => hexify_digits listed
  · exact Buffer.set_self ..
  · exact responseDigits_read param rest extra

end BlackMagic.Proofs.HexCodecs

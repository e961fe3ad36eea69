import BlackMagic.ReadRegister

/-! The reply to a `p` packet is the driver's bytes, or an error, and stays in its buffers exactly if
the result of the driver is no failure. -/

namespace BlackMagic.Proofs.RegisterReplies
open Lib Lib.Program Lib.Scan Targets Commands Server ReadRegister

section Hexing
variable {hex buf : Buffer}

private theorem bytes_accesses (size : Nat) (hexed : Hexed) (first : Nat) :
    ((List.range' first size).foldl (Hexed.byte buf) hexed).reads = hexed.reads ++ List.range' first size ∧
      ((List.range' first size).foldl (Hexed.byte buf) hexed).writes
        = hexed.writes ++ List.range' (2 * first) (2 * size) := by
  induction size generalizing hexed first with
  | zero => simp
  | succ size ih =>
    obtain ⟨reads, writes⟩ := ih (hexed.byte buf first) (first + 1)
    rw [List.range'_succ, List.foldl_cons, reads, writes, show 2 * (size + 1) = 2 * size + 1 + 1 by omega, List.range'_succ,
      List.range'_succ]
    simp [Hexed.byte, Hexed.digit, Nat.mul_add]

theorem hexify_reads (size : Nat) : (hexify hex buf size).reads = List.range size := by
  rw [hexify, Hexed.terminate, List.range_eq_range']
  exact (bytes_accesses size ⟨hex, [], []⟩ 0).1

theorem hexify_writes (size : Nat) : (hexify hex buf size).writes = List.range (2 * size + 1) := by
  rw [hexify, Hexed.terminate, List.range_succ]
  simp only [List.range_eq_range', (bytes_accesses size ⟨hex, [], []⟩ 0).2]
  rfl

theorem hexify_stored (size : Nat) : (hexify hex buf size).hex.take (2 * size) = Hex.hexify (buf.take size) := by
  rw [hexify, Hexed.terminate, Buffer.take_set_of_le _ _ (Nat.le_refl _)]
  induction size with
  | zero => rfl
  | succ size ih =>
    rw [List.range_succ, List.foldl_append, List.foldl_cons, List.foldl_nil, Hexed.byte, Hexed.digit, Hexed.digit,
      show 2 * (size + 1) = 2 * size + 1 + 1 by omega, Buffer.take_succ_set, Buffer.take_succ_set]
    rw [ih, Buffer.take, Buffer.take, List.range_succ, List.map_append, Hex.hexify, Hex.hexify, List.flatMap_append]
    simp

end Hexing

section Replies

/-- The reply is the hex of the bytes that the driver has produced, or an error, and only the eight
bytes and the packet buffer have been used. -/
structure Handled (driven : Driven) (answer : Answer) : Prop where
  body : answer.body
    = if 0 < driven.result.toInt then Hex.hexify (driven.val.take driven.result.toInt.toNat) else ascii "EFF"
  reads : ∀ i ∈ answer.reads, i < 8
  writes : ∀ i ∈ answer.writes, i < gdbPacketBufferSize + 1

/-- A result between none and eight bytes. -/
def Fits (result : BitVec 32) : Prop := 0 ≤ result.toInt ∧ result.toInt ≤ 8

instance (result : BitVec 32) : Decidable (Fits result) := inferInstanceAs (Decidable (_ ∧ _))

private theorem fits_size {result : BitVec 32} (fits : Fits result) : result.toNat ≤ 8 ∧ result.toInt = result.toNat := by
  obtain ⟨low, high⟩ := fits
  rw [BitVec.toInt_eq_toNat_cond] at low high ⊢
  split at low <;> omega

private theorem unfit_size {result : BitVec 32} (unfit : ¬ Fits result) : 8 < result.toNat := by
  by_contra small
  apply unfit
  rw [Fits, BitVec.toInt_eq_toNat_cond]
  split <;> omega

variable (regRead : Nat → Nat → Buffer → Driven) (packet : Text) (pbuf val : Buffer) (uninitialised : Nat)

/-- What the driver does for the packet. -/
def driven : Driven := regRead (registerOf packet uninitialised) 8 val

private theorem readRegister_eq :
    readRegister (some (some regRead)) packet pbuf val uninitialised
      = let s := (driven regRead packet val uninitialised).result.toNat
        if 0 < s then
          let hexed := hexify pbuf (driven regRead packet val uninitialised).val s
          ⟨hexed.hex.take (s * 2 % 2 ^ 32), hexed.reads, hexed.writes⟩
        else .plain "EFF" := rfl

private theorem unfit_unhandled (unfit : ¬ Fits (driven regRead packet val uninitialised).result) :
    ¬ Handled (driven regRead packet val uninitialised)
      (readRegister (some (some regRead)) packet pbuf val uninitialised) := by
  intro handled
  have size := unfit_size unfit
  have reads := handled.reads
  rw [readRegister_eq] at reads
  simp only [if_pos (show 0 < (driven regRead packet val uninitialised).result.toNat by omega), hexify_reads] at reads
  exact absurd (reads 8 (List.mem_range.mpr size)) (by decide)

/-- A register is read within the buffers, and answered with what the driver has produced or an
error, exactly if the driver does not fail. -/
theorem read_register_handled_iff :
    Handled (driven regRead packet val uninitialised) (readRegister (some (some regRead)) packet pbuf val uninitialised) ↔
      Fits (driven regRead packet val uninitialised).result := by
  constructor
  · intro handled
    by_contra unfit
    exact unfit_unhandled regRead packet pbuf val uninitialised unfit handled
  · intro fits
    rw [readRegister_eq]
    generalize driven regRead packet val uninitialised = driven at fits
    obtain ⟨size, same⟩ := fits_size fits
    dsimp only
    by_cases positive : 0 < driven.result.toNat
    · rw [if_pos positive]
      have short : driven.result.toNat * 2 % 2 ^ 32 = 2 * driven.result.toNat := by omega
      refine ⟨?_, ?_, ?_⟩
      · rw [if_pos (by omega), short, hexify_stored, same, Int.toNat_natCast]
      · intro i listed
        rw [hexify_reads, List.mem_range] at listed
        omega
      · intro i listed
        rw [hexify_writes, List.mem_range] at listed
        have room : 17 ≤ gdbPacketBufferSize + 1 := by decide
        omega
    · rw [if_neg positive]
      refine ⟨?_, (fun _ never => by cases never), (fun _ never => by cases never)⟩
      rw [if_neg (by omega)]
      rfl

end Replies

section Server
variable {answers : Answers} {server : Server} {id : Nat}

private theorem onCurrent_follows (current : server.curTarget = some id) (call : Call) :
    onCurrent call server = (.ok id, { server with calls := server.calls ++ [(id, call)] }) := by
  cases server with
  | mk heap targetList allocated curTarget lastTarget gdbTargetRunning gdbNeedsDetachNotify noackmode output calls =>
    cases current
    rfl

/-- The server answers as the packet does, and is lost where the packet leaves its buffers. -/
theorem handleP_answers (packet : Text) (pbuf val : Buffer) (regRead : Nat → Nat → Buffer → Driven)
    (current : server.curTarget = some id) (reads : answers.regRead = some ⟨[],
      .ok ((driven regRead packet val (answers.uninitialised 0)).result.toInt,
        (driven regRead packet val (answers.uninitialised 0)).val.take 8)⟩) :
    ∃ after, handleP answers packet server
        = (if Fits (driven regRead packet val (answers.uninitialised 0)).result then .ok () else .error .overrun, after) ∧
      (Fits (driven regRead packet val (answers.uninitialised 0)).result →
        after.output = server.output
          ++ [.reply (readRegister (some (some regRead)) packet pbuf val (answers.uninitialised 0)).body]) := by
  have handled := read_register_handled_iff regRead packet pbuf val (answers.uninitialised 0)
  generalize readRegister (some (some regRead)) packet pbuf val (answers.uninitialised 0) = answer at handled ⊢
  generalize driven regRead packet val (answers.uninitialised 0) = driven at reads handled ⊢
  have performed : ∀ state : Server,
      perform (⟨[], .ok (driven.result.toInt, driven.val.take 8)⟩ : Outcome (Int × Text)) state
        = (.ok (driven.result.toInt, driven.val.take 8), state) := fun _ => rfl
  simp only [handleP, reads]
  rw [bind_returned (onCurrent_follows current _), bind_returned (performed _)]
  dsimp only
  by_cases fits : Fits driven.result
  · have inside : ¬ (driven.result.toInt < 0 ∨ 8 < driven.result.toInt) := by
      obtain ⟨low, high⟩ := fits
      omega
    have body := (handled.mpr fits).body
    rw [if_neg inside, if_pos fits, body]
    by_cases positive : 0 < driven.result.toInt
    · rw [if_pos positive]
      refine ⟨_, rfl, fun _ => ?_⟩
      rw [if_pos positive, Buffer.take, ← List.map_take, List.take_range, Nat.min_eq_left (by omega)]
      rfl
    · rw [if_neg positive]
      refine ⟨_, rfl, fun _ => ?_⟩
      rw [if_neg positive]
  · rw [if_neg fits, if_pos]
    · exact ⟨_, rfl, fun never => absurd never fits⟩
    · simp only [Fits, not_and_or, Int.not_le] at fits
      exact fits

end Server

section Drivers

private theorem fits_ofInt {result : Int} (low : -1 ≤ result) (high : result ≤ 8) :
    Fits (BitVec.ofInt 32 result) ↔ 0 ≤ result := by
  rw [Fits, BitVec.toInt_ofInt, Int.bmod_eq_of_le (by omega) (by omega)]
  omega

private theorem ptrForReg_size (cache : Registers.RegCache) (reg : Nat) :
    (Registers.ptrForReg cache reg).1 = if reg < 18 then 4 else if reg < 34 then 8 else -1 := by
  rw [Registers.ptrForReg]
  split
  · rw [if_pos (by omega)]
  · split
    · rw [if_pos (by omega)]
    · split
      · rw [if_pos (by omega)]
      · rw [if_neg (by omega)]
        split
        · rw [if_pos (by omega)]
        · rw [if_neg (by omega)]

private theorem cortexaRegRead_size (cache : Registers.RegCache) (reg : Nat) :
    (Registers.cortexaRegRead cache reg 8).1 = if reg < 18 then 4 else if reg < 34 then 8 else -1 := by
  rw [Registers.cortexaRegRead, ptrForReg_size]
  split
  · rw [if_neg (by decide), ptrForReg_size, if_pos (by assumption)]
  · rename_i above
    split
    · rw [if_neg (by decide), ptrForReg_size, if_neg above, if_pos (by assumption)]
    · rw [if_pos (by decide)]

/-- The drivers differ: one never fails, one knows so many registers, and one asks for a buffer of
another size. -/
theorem driver_fits_iff (core : Registers.Core) (reg : Nat) (val : Buffer) :
    Fits (driverOf core reg 8 val).result ↔
      match core with
      | .cortexM _ _ => True
      | .cortexA _ => reg < 34
      | .riscv32 _ _ => False := by
  cases core with
  | cortexM fpu core => 
    have four : (driverOf (.cortexM fpu core) reg 8 val).result = BitVec.ofInt 32 4 := rfl
    rw [four, fits_ofInt (by decide) (by decide)]
    exact iff_of_true (by decide) trivial
  | cortexA cache =>
    rw [driverOf, Registers.regRead]
    dsimp only
    rw [cortexaRegRead_size]
    split
    · rw [fits_ofInt (by decide) (by decide)]
      omega
    · split
      · rw [fits_ofInt (by decide) (by decide)]
        omega
      · rw [fits_ofInt (by decide) (by decide)]
        omega
  | riscv32 hart stack =>
    have failed : (Registers.riscv32RegRead hart reg 8).1 = -1 := by
      rw [Registers.riscv32RegRead, if_pos (by decide)]
    rw [driverOf, Registers.regRead]
    dsimp only
    rw [failed, fits_ofInt (by decide) (by decide)]
    decide

/-- A hart that reads every register, behind the driver of an RV32 target. -/
def hartDriver : Nat → Nat → Buffer → Driven := driverOf (.riscv32 ⟨false, fun csr => some (BitVec.ofNat 32 csr)⟩ fun _ => 0#32)

theorem riscv_register_unhandled :
    ¬ Handled (driven hartDriver (ascii "p0") (fun _ => 0#8) 0)
      (readRegister (some (some hartDriver)) (ascii "p0") (fun _ => 0#8) (fun _ => 0#8) 0) := by
  apply unfit_unhandled
  intro fits
  exact (driver_fits_iff _ _ _).mp fits

end Drivers

end BlackMagic.Proofs.RegisterReplies

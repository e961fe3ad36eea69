import BlackMagic.SpiCommands
import Mathlib.Tactic.IntervalCases

/-! The transactions of the two SPI reads: a frame around the same data phase, whose beginning depends on how the command
word is taken apart. -/

namespace BlackMagic.Proofs.SpiTransactions
open BlackMagic.SpiCommands SpiFlash

/-- What the Flash answers to so many receptions after the beginning of a transaction and some receptions. -/
def dataFrom (answers : Answers) (setup : List BusEvent) (offset count : Nat) : List Byte :=
  (List.range count).map fun i => answers (setup ++ List.replicate (offset + i) .receive)

/-- A read under one chip select. -/
def framed (answers : Answers) (setup : List BusEvent) (length : Nat) : List BusEvent × List Byte :=
  (setup ++ List.replicate length .receive ++ [.deselect], dataFrom answers setup 0 length)

theorem dataFrom_add (answers : Answers) (setup : List BusEvent) (offset first second : Nat) :
    dataFrom answers setup offset (first + second)
      = dataFrom answers setup offset first ++ dataFrom answers setup (offset + first) second := by
  simp only [dataFrom, List.range_add, List.map_append, List.map_map]
  congr 1
  apply List.map_congr_left
  intro i _
  simp only [Function.comp_apply, Nat.add_assoc]

theorem received_eq (answers : Answers) (setup : List BusEvent) (offset count : Nat) :
    received answers (setup ++ List.replicate offset .receive) count = dataFrom answers setup offset count := by
  apply List.map_congr_left
  intro i _
  rw [List.append_assoc, List.replicate_append_replicate]

theorem bmpSpiRead_framed (answers : Answers) (command : BitVec 16) (address : BitVec 32) (length : Nat) :
    bmpSpiRead answers command address length = framed answers (bmpSpiSetupXfer command address) length := by
  simp only [bmpSpiRead, framed, dataFrom, Nat.zero_add]

section Chunks

/-- The registers that a chunk is run with. -/
def chunkRegisters (enabledStages : BitVec 32) (offset : Nat) (registers : Registers) : Registers :=
  { registers with user0 := if offset ≠ 0 then spiDataInUser0 else enabledStages }

/-- The beginning of a transaction and what was received in it, once the chunk from an offset on starts. -/
def Underway (setup : List BusEvent) (enabledStages : BitVec 32) (offset : Nat) (controller : Controller) : Prop :=
  controller.bus ++ (if controller.selected then [] else [.select]) ++
    stages (chunkRegisters enabledStages offset controller.registers) = setup ++ List.replicate offset .receive

variable {answers : Answers} {setup : List BusEvent} {enabledStages miscReg : BitVec 32} {length offset : Nat}
  {controller : Controller}

theorem count_of_amount {amount : Nat} (some : 0 < amount) (small : amount ≤ 64) :
    clocks (spiDataBitLen (BitVec.ofNat 32 amount) &&& 0x3ff) / 8 = amount := by
  interval_cases amount <;> rfl

theorem stages_data (registers : Registers) : stages { registers with user0 := spiDataInUser0 } = [] := by
  have command : spiDataInUser0 &&& spiCmdUser0 = 0 := by decide
  have address : spiDataInUser0 &&& spiAddrUser0 = 0 := by decide
  have dummies : spiDataInUser0 &&& spiDummyUser0 = 0 := by decide
  simp only [stages, command, address, dummies, ne_eq, not_true_eq_false, if_false, List.append_nil]

theorem held (misc : BitVec 32) : (misc ||| spiMiscCsHold) &&& spiMiscCsHold ≠ 0 := by
  intro zero
  have bit := congrArg (fun word => word.getLsbD 10) zero
  simp [spiMiscCsHold] at bit

theorem released (misc : BitVec 32) : misc &&& ~~~spiMiscCsHold &&& spiMiscCsHold = 0 := by
  rw [BitVec.and_assoc, show ~~~spiMiscCsHold &&& spiMiscCsHold = 0#32 by decide, BitVec.and_zero]
  rfl

/-- What a chunk leaves on the bus and in the data registers. -/
theorem readChunk_spec (underway : Underway setup enabledStages offset controller)
    (data : enabledStages &&& spiDataInUser0 ≠ 0) (free : miscReg &&& spiMiscCsHold = 0) (more : offset < length) :
    (readChunk answers enabledStages miscReg length offset controller).bus
        = setup ++ List.replicate (offset + min (length - offset) 64) .receive ++
          (if length - offset = min (length - offset) 64 then [.deselect] else []) ∧
      (readChunk answers enabledStages miscReg length offset controller).data
        = dataFrom answers setup offset (min (length - offset) 64) ∧
      (length - offset ≠ min (length - offset) 64 →
        (readChunk answers enabledStages miscReg length offset controller).selected = true) := by
  have counted : clocks (spiDataBitLen (BitVec.ofNat 32 (min (length - offset) 64)) &&& 0x3ff) / 8
      = min (length - offset) 64 := count_of_amount (by omega) (by omega)
  have input : (if offset ≠ 0 then spiDataInUser0 else enabledStages) &&& spiDataInUser0 ≠ 0 := by
    split
    · decide
    · exact data
  have begun : ∀ misc dataInLen, controller.bus ++ (if controller.selected then [] else [.select]) ++
      stages { chunkRegisters enabledStages offset controller.registers with misc := misc, dataInLen := dataInLen }
        = setup ++ List.replicate offset .receive := fun _ _ => underway
  have bus := begun (if length - offset = min (length - offset) 64 then miscReg else miscReg ||| spiMiscCsHold)
    (spiDataBitLen (BitVec.ofNat 32 (min (length - offset) 64)))
  simp only [chunkRegisters] at bus
  simp only [readChunk, Controller.execute, if_pos input, counted, bus, received_eq, true_and]
  refine ⟨?_, fun more => ?_⟩
  · rw [List.append_assoc setup, List.replicate_append_replicate]
    split
    next => rw [if_neg (by simp [free])]
    next => rw [if_pos (held miscReg)]
  · rw [if_neg more]
    exact decide_eq_true (held miscReg)

theorem underway_next (offset : Nat) {controller : Controller} (selected : controller.selected = true)
    (bus : controller.bus = setup ++ List.replicate (offset + 64) .receive) :
    Underway setup enabledStages (offset + 64) controller := by
  have data : stages (chunkRegisters enabledStages (offset + 64) controller.registers) = [] :=
    stages_data controller.registers
  rw [Underway, data, selected, bus, if_pos rfl, List.append_nil, List.append_nil]

/-- The chunks together are one frame. -/
theorem readChunks_framed (data : enabledStages &&& spiDataInUser0 ≠ 0) (free : miscReg &&& spiMiscCsHold = 0)
    {chunks : Nat} (underway : Underway setup enabledStages offset controller) (more : offset < length)
    (enough : (length - offset + 63) / 64 = chunks) :
    (readChunks answers enabledStages miscReg length chunks offset controller).1.bus
        = setup ++ List.replicate length .receive ++ [.deselect] ∧
      (readChunks answers enabledStages miscReg length chunks offset controller).2
        = dataFrom answers setup offset (length - offset) := by
  induction chunks generalizing offset controller with
  | zero => omega
  | succ chunks ih =>
    obtain ⟨bus, bytes, selected⟩ := @readChunk_spec answers _ _ _ _ _ _ underway data free more
    have taken : (readChunk answers enabledStages miscReg length offset controller).data.take (min (length - offset) 64)
        = dataFrom answers setup offset (min (length - offset) 64) := by
      rw [bytes, List.take_of_length_le (by simp [dataFrom])]
    simp only [readChunks, taken]
    by_cases last : length - offset ≤ 64
    · have none : chunks = 0 := by omega
      have whole : offset + (length - offset) = length := by omega
      subst none
      simp only [readChunks, bus, Nat.min_eq_left last, if_true, whole, List.append_nil, and_self]
    · have full : min (length - offset) 64 = 64 := by omega
      rw [full] at bus selected ⊢
      rw [if_neg (by omega), List.append_nil] at bus
      obtain ⟨rest, following⟩ := ih (underway_next offset (selected (by omega)) bus) (by omega) (by omega)
      refine ⟨rest, ?_⟩
      rw [following, ← dataFrom_add, show 64 + (length - (offset + 64)) = length - offset by omega]

end Chunks

section Words
variable {answers : Answers} {registers : Registers} {command : BitVec 16} {address : BitVec 32} {length : Nat}

/-- The upper byte of a command word. -/
def upper (command : BitVec 16) : Byte := (command >>> 8).setWidth 8

theorem dummyField_eq : (command.setWidth 32 &&& esp32c3SpiFlashDummyMask) >>> esp32c3SpiFlashDummyShift
    = (upper command).setWidth 32 := by
  apply BitVec.eq_of_getLsbD_eq
  intro i bit
  simp only [upper, esp32c3SpiFlashDummyMask, esp32c3SpiFlashDummyShift]
  interval_cases i <;> simp

theorem dummies_iff : command.setWidth 32 &&& esp32c3SpiFlashDummyMask ≠ 0 ↔ upper command ≠ 0 := by
  rw [not_iff_not]
  constructor
  · intro zero
    have field := @dummyField_eq command
    rw [zero] at field
    have shown : (upper command).setWidth 32 = 0#32 := by rw [← field]; rfl
    bv_omega
  · intro zero
    apply BitVec.eq_of_getLsbD_eq
    intro i bit
    have clear := congrArg (fun byte : Byte => byte.getLsbD (i - 8)) zero
    simp only [upper, esp32c3SpiFlashDummyMask] at clear ⊢
    interval_cases i <;> simp_all

/-- The clocks of the dummy stage that the ESP32-C3 runs for a command word. -/
def dummyClocks (command : BitVec 16) : Nat :=
  if upper command ≠ 0 then clocks (spiUser1DummyLen ((upper command).setWidth 32)) else 0

/-- The beginning of a transaction of the ESP32-C3: it never has an address. -/
def esp32c3Setup (command : BitVec 16) : List BusEvent :=
  .select :: (shiftOut 8 (command.setWidth 8 : Byte) ++ List.replicate (dummyClocks command) .dummy)

theorem shiftOut_user2 (opcode : Byte) :
    shiftOut 8 (spiUser2CmdLen 8 ||| opcode.setWidth 32) = shiftOut 8 opcode := by
  apply List.map_congr_left
  intro i inside
  have bit := List.mem_range.mp inside
  rw [BitVec.getLsbD_or, BitVec.getLsbD_setWidth]
  have low : (spiUser2CmdLen 8).getLsbD (8 - 1 - i) = false := by interval_cases i <;> rfl
  rw [low, Bool.false_or, decide_eq_true (by omega), Bool.true_and]

theorem opcode_eq : (command.setWidth 32 &&& esp32c3SpiFlashOpcodeMask).setWidth 8 = (command.setWidth 8 : Byte) := by
  apply BitVec.eq_of_getLsbD_eq
  intro i bit
  simp only [esp32c3SpiFlashOpcodeMask]
  interval_cases i <;> simp

theorem above_word {flag : Nat} (above : 16 ≤ flag) : command.setWidth 32 &&& 1#32 <<< flag = 0#32 := by
  apply BitVec.eq_of_getLsbD_eq
  intro i bit
  rw [BitVec.getLsbD_and, BitVec.getLsbD_setWidth, BitVec.getLsbD_shiftLeft]
  by_cases low : i < 16
  · have before : i < flag := by omega
    simp [before]
  · rw [BitVec.getLsbD_of_ge command i (by omega)]
    simp

/-- What the configuration of a command of `sfdp.c` comes to. -/
theorem esp32c3SpiConfig_eq (some : 0 < length) : esp32c3SpiConfig (command.setWidth 32) address length registers
    = (spiCmdUser0 ||| (if upper command ≠ 0 then spiDummyUser0 else 0) ||| spiDataInUser0,
      { registers with
        user1 := if upper command ≠ 0 then spiUser1DummyLen ((upper command).setWidth 32) else 0
        user2 := spiUser2CmdLen 8 ||| (command.setWidth 8 : Byte).setWidth 32 }) := by
  have unaddressed : ¬ command.setWidth 32 &&& esp32c3SpiFlashOpcodeModeMask = esp32c3SpiFlashOpcode3bAddr := by
    rw [show esp32c3SpiFlashOpcodeModeMask = 1#32 <<< 16 by decide, above_word (Nat.le_refl 16)]
    decide
  have input : ¬ command.setWidth 32 &&& esp32c3SpiFlashDataOut ≠ 0 := fun set => set (above_word (by omega))
  have cycles : ((upper command).setWidth 32).setWidth 8 = upper command := by simp
  simp only [esp32c3SpiConfig, if_neg unaddressed, if_neg input, if_neg (Nat.ne_of_gt some), dummies_iff, dummyField_eq,
    opcode_eq, cycles]
  simp only [BitVec.ofNat_eq_ofNat, BitVec.or_zero, BitVec.zero_or]

theorem stages_configured (registers : Registers) (upper opcode : Byte) :
    stages { registers with
      user0 := spiCmdUser0 ||| (if upper ≠ 0 then spiDummyUser0 else 0) ||| spiDataInUser0
      user1 := if upper ≠ 0 then spiUser1DummyLen (upper.setWidth 32) else 0
      user2 := spiUser2CmdLen 8 ||| opcode.setWidth 32 }
    = shiftOut 8 opcode ++ List.replicate (if upper ≠ 0 then clocks (spiUser1DummyLen (upper.setWidth 32)) else 0) .dummy := by
  have width : clocks ((spiUser2CmdLen 8 ||| opcode.setWidth 32) >>> 28) = 8 := by
    have high : (opcode.setWidth 32 : BitVec 32) >>> 28 = 0 := by
      apply BitVec.eq_of_toNat_eq
      have small := opcode.isLt
      simp [Nat.shiftRight_eq_div_pow]
      omega
    rw [BitVec.ushiftRight_or_distrib, high]
    rfl
  have count : ∀ field : BitVec 32, spiUser1DummyLen field &&& 0x3f = spiUser1DummyLen field := by
    intro field
    rw [spiUser1DummyLen, BitVec.and_assoc]
    rfl
  by_cases some : upper ≠ 0
  · have command : (spiCmdUser0 ||| spiDummyUser0 ||| spiDataInUser0) &&& spiCmdUser0 ≠ 0 := by decide
    have address : ¬ (spiCmdUser0 ||| spiDummyUser0 ||| spiDataInUser0) &&& spiAddrUser0 ≠ 0 := by decide
    have dummies : (spiCmdUser0 ||| spiDummyUser0 ||| spiDataInUser0) &&& spiDummyUser0 ≠ 0 := by decide
    simp only [stages, if_pos some, if_pos command, if_neg address, if_pos dummies, width, shiftOut_user2, count,
      List.append_nil]
  · have command : (spiCmdUser0 ||| 0 ||| spiDataInUser0) &&& spiCmdUser0 ≠ 0 := by decide
    have address : ¬ (spiCmdUser0 ||| 0 ||| spiDataInUser0) &&& spiAddrUser0 ≠ 0 := by decide
    have dummies : ¬ (spiCmdUser0 ||| 0 ||| spiDataInUser0) &&& spiDummyUser0 ≠ 0 := by decide
    simp only [stages, if_neg some, if_pos command, if_neg address, if_neg dummies, width, shiftOut_user2,
      List.append_nil, List.replicate_zero]

/-- The first chunk starts the transaction. -/
theorem underway_first {setup : List BusEvent} {enabledStages : BitVec 32} {registers : Registers}
    (begun : stages { registers with user0 := enabledStages } = setup) :
    Underway (.select :: setup) enabledStages 0 ⟨registers, [], false, []⟩ := by
  have first : stages (chunkRegisters enabledStages 0 registers) = setup := begun
  simp only [Underway, first, List.replicate_zero, List.append_nil, List.nil_append, Bool.false_eq_true, if_false]
  rfl

theorem esp32c3SpiReadSfdp_framed (some : 0 < length) :
    esp32c3SpiReadSfdp answers registers command address length = framed answers (esp32c3Setup command) length := by
  have data : (spiCmdUser0 ||| (if upper command ≠ 0 then spiDummyUser0 else 0) ||| spiDataInUser0) &&& spiDataInUser0 ≠ 0 := by
    split <;> decide
  have underway := @underway_first _ _ { registers with
      user1 := if upper command ≠ 0 then spiUser1DummyLen ((upper command).setWidth 32) else 0
      user2 := spiUser2CmdLen 8 ||| (command.setWidth 8 : Byte).setWidth 32 }
    (stages_configured registers (upper command) (command.setWidth 8))
  rw [esp32c3SpiReadSfdp, esp32c3SpiRead, esp32c3SpiConfig_eq some]
  obtain ⟨bus, bytes⟩ := @readChunks_framed answers _ _ _ _ _ _ data (released registers.misc) _ underway some rfl
  rw [Nat.sub_zero] at bus bytes
  dsimp only
  rw [bus, bytes]
  rfl

/-- The address bits that the probe sends for a command word. -/
def addressBits (command : BitVec 16) (address : BitVec 32) : List BusEvent :=
  if (upper command).getLsbD 3 then
    [(address >>> 16 &&& 0xff).setWidth 8, (address >>> 8 &&& 0xff).setWidth 8, (address &&& 0xff).setWidth 8].flatMap
      (@shiftOut 8 8)
  else []

theorem addressed_iff : command &&& spiFlashOpcodeModeMask = spiFlashOpcode3bAddr ↔ (upper command).getLsbD 3 = true := by
  constructor
  · intro mode
    have bit := congrArg (fun word => word.getLsbD 11) mode
    simpa [upper, spiFlashOpcodeModeMask, spiFlashOpcode3bAddr] using bit
  · intro set
    apply BitVec.eq_of_getLsbD_eq
    intro i bit
    simp only [upper, spiFlashOpcodeModeMask, spiFlashOpcode3bAddr] at set ⊢
    interval_cases i <;> simp_all

theorem dummyLength_eq : ((command &&& spiFlashDummyMask) >>> spiFlashDummyShift).toNat = (upper command &&& 7).toNat := by
  have field : (command &&& spiFlashDummyMask) >>> spiFlashDummyShift = (upper command &&& 7).setWidth 16 := by
    apply BitVec.eq_of_getLsbD_eq
    intro i bit
    simp only [upper, spiFlashDummyMask, spiFlashDummyShift]
    interval_cases i <;> simp
  have small := (upper command &&& 7).isLt
  rw [field, BitVec.toNat_setWidth]
  exact Nat.mod_eq_of_lt (by omega)

theorem opcodeByte_eq : (command &&& spiFlashOpcodeMask).setWidth 8 = (command.setWidth 8 : Byte) := by
  apply BitVec.eq_of_getLsbD_eq
  intro i bit
  simp only [spiFlashOpcodeMask]
  interval_cases i <;> simp

theorem dummyBytes_eq (count : Nat) :
    ((List.range count).flatMap fun _ => List.replicate 8 BusEvent.dummy) = List.replicate (8 * count) .dummy := by
  induction count with
  | zero => rfl
  | succ count ih =>
    rw [List.range_succ, List.flatMap_append, ih, List.flatMap_singleton, List.replicate_append_replicate, Nat.mul_succ]

theorem bmpSpiSetupXfer_eq : bmpSpiSetupXfer command address = .select :: (shiftOut 8 (command.setWidth 8 : Byte) ++
    (addressBits command address ++ List.replicate (8 * (upper command &&& 7).toNat) .dummy)) := by
  simp only [bmpSpiSetupXfer, addressed_iff, dummyLength_eq, opcodeByte_eq, dummyBytes_eq, addressBits]
  split <;> simp only [List.cons_append, List.append_assoc, List.flatMap_nil]

/-- The probe and the ESP32-C3 put the same on their bus. -/
def SameTransaction (answers : Answers) (registers : Registers) (command : BitVec 16) (address : BitVec 32) (length : Nat) :
    Prop :=
  (esp32c3SpiReadSfdp answers registers command address length).1 = (bmpSpiRead answers command address length).1

/-- The dummy stages have the same clocks only where there are none. -/
theorem clocks_iff : ∀ upper : Byte, upper.getLsbD 3 = false →
    ((if upper ≠ 0 then clocks (spiUser1DummyLen (upper.setWidth 32)) else 0) = 8 * (upper &&& 7).toNat ↔ upper = 0) := by
  decide +kernel

theorem setup_iff : esp32c3Setup command = bmpSpiSetupXfer command address ↔ upper command = 0 := by
  rw [esp32c3Setup, bmpSpiSetupXfer_eq, List.cons.injEq, List.append_cancel_left_eq]
  by_cases addressed : (upper command).getLsbD 3 = true
  · constructor
    · rintro ⟨_, same⟩
      have member : BusEvent.bit ((address >>> 16 &&& 0xff).setWidth 8 : Byte).msb
          ∈ List.replicate (dummyClocks command) BusEvent.dummy := by
        rw [same, addressBits, if_pos addressed]
        exact List.mem_append_left _ List.mem_cons_self
      exact BusEvent.noConfusion (List.eq_of_mem_replicate member)
    · intro zero
      rw [zero] at addressed
      cases addressed
  · have plain := (Bool.not_eq_true _).mp addressed
    rw [← clocks_iff _ plain, addressBits, if_neg addressed, List.nil_append, dummyClocks]
    constructor
    · rintro ⟨_, same⟩
      have lengths := congrArg List.length same
      rwa [List.length_replicate, List.length_replicate] at lengths
    · intro same
      rw [same]
      exact ⟨rfl, rfl⟩

/-- The two reads agree on the command words with neither an address nor dummy clocks. -/
theorem sameTransaction_iff : SameTransaction answers registers command address length ↔ upper command = 0 ∧ 0 < length := by
  rw [SameTransaction, bmpSpiRead_framed]
  rcases Nat.eq_zero_or_pos length with rfl | some
  · constructor
    · intro same
      have empty : (esp32c3SpiReadSfdp answers registers command address 0).1 = [] := rfl
      rw [empty, framed, bmpSpiSetupXfer_eq] at same
      cases same
    · rintro ⟨_, never⟩
      cases never
  · rw [esp32c3SpiReadSfdp_framed some, framed, framed, List.append_cancel_right_eq, List.append_cancel_right_eq, setup_iff]
    exact ⟨fun zero => ⟨zero, some⟩, fun both => both.1⟩

end Words

section Sfdp

theorem tableReads_command {device : Device} {list : List Nat} {read : Read} (made : read ∈ tableReads device list) :
    read.command = spiFlashCmdReadSfdp := by
  induction list with
  | nil => cases made
  | cons i rest ih =>
    rw [tableReads] at made
    cases List.mem_cons.mp made with
    | inl first => rw [first]
    | inr later =>
      split at later
      · rw [List.mem_singleton.mp later]
      · exact ih later

theorem sfdpReads_command {device : Device} {read : Read} (made : read ∈ sfdpReads device) :
    read.command = spiFlashCmdReadSfdp := by
  cases List.mem_cons.mp made with
  | inl first => rw [first]
  | inr later =>
    split at later
    · exact tableReads_command later
    · cases later

/-- No read of SFDP is the same transaction on the ESP32-C3 as on the probe's own bus. -/
theorem sfdp_reads_differ (device : Device) (answers : Answers) (registers : Registers) :
    ∀ read ∈ sfdpReads device, ¬ SameTransaction answers registers read.command read.address read.length := by
  intro read made same
  rw [sfdpReads_command made, sameTransaction_iff] at same
  exact absurd same.1 (by decide)

theorem sfdp_header_differs : ¬ SameTransaction (fun _ => 0xff) ⟨0, 0, 0, 0, 0, 0⟩ spiFlashCmdReadSfdp 0 8 :=
  sfdp_reads_differ ⟨fun _ => 0, ⟨0, 0, 0⟩⟩ (fun _ => 0xff) ⟨0, 0, 0, 0, 0, 0⟩ ⟨spiFlashCmdReadSfdp, 0, 8⟩
    List.mem_cons_self

/-- The ESP32-C3 reads the SFDP header without its address, and with nine dummy clocks in place of eight. -/
theorem sfdp_header_transactions :
    (esp32c3SpiReadSfdp (fun _ => 0xff) ⟨0, 0, 0, 0, 0, 0⟩ spiFlashCmdReadSfdp 0 8).1
        = .select :: (shiftOut 8 0x5a#8 ++ List.replicate 9 .dummy ++ List.replicate 8 .receive ++ [.deselect]) ∧
      (bmpSpiRead (fun _ => 0xff) spiFlashCmdReadSfdp 0 8).1
        = .select :: (shiftOut 8 0x5a#8 ++ shiftOut 24 0#32 ++ List.replicate 8 .dummy ++ List.replicate 8 .receive ++
          [.deselect]) ∧
      ¬ SameTransaction (fun _ => 0xff) ⟨0, 0, 0, 0, 0, 0⟩ spiFlashCmdReadSfdp 0 8 := by
  simp only [SameTransaction]
  decide +kernel

end Sfdp

end BlackMagic.Proofs.SpiTransactions

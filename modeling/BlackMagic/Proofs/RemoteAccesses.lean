import BlackMagic.RemotePacket

/-! What the routines under the remote protocol use of their arrays: the sequences of the ports, and the accesses of a debug
port with the block transfers over them. -/

namespace BlackMagic.Proofs.RemoteAccesses
open RemotePacket Lib Lib.Program
open Jtag (JtagDev jtagMaxDevs)

section Checks

/-- A program that does nothing but look whether all it uses is in bounds. -/
structure Checks (condition : Prop) (program : Action Unit) : Prop where
  passes : condition → ∀ firmware, program firmware = (.ok (), firmware)
  fails : ¬ condition → ∀ firmware, ∃ place, program firmware = (.error (.outOfBounds place), firmware)

theorem checks_touch (place : Place) (size index : Nat) : Checks (index < size) (touch place size index) := by
  constructor
  · intro inside firmware
    rw [touch, if_pos inside]
    rfl
  · intro outside firmware
    rw [touch, if_neg outside]
    exact ⟨place, rfl⟩

theorem Checks.of_iff {condition other : Prop} {program : Action Unit} (checks : Checks condition program)
    (same : other ↔ condition) : Checks other program :=
  ⟨fun holds => checks.passes (same.mp holds), fun fails => checks.fails fun holds => fails (same.mpr holds)⟩

theorem Checks.andThen {first second : Prop} {program rest : Action Unit} (checks : Checks first program)
    (later : Checks second rest) : Checks (first ∧ second) (program >>= fun _ => rest) := by
  constructor
  · intro holds firmware
    rw [bind_returned (checks.passes holds.1 firmware)]
    exact later.passes holds.2 firmware
  · intro fails firmware
    by_cases holds : first
    · rw [bind_returned (checks.passes holds firmware)]
      exact later.fails (fun also => fails ⟨holds, also⟩) firmware
    · obtain ⟨place, stopped⟩ := checks.fails holds firmware
      exact ⟨place, bind_stopped stopped⟩

theorem checks_none : Checks True (pure ()) := ⟨fun _ _ => rfl, fun never => absurd trivial never⟩

theorem Checks.onlyIf {condition guarded : Prop} [Decidable guarded] {program : Action Unit}
    (checks : Checks condition program) : Checks (guarded → condition) (onlyIf guarded program) := by
  by_cases holds : guarded
  · rw [onlyIf_taken holds]
    exact checks.of_iff ⟨fun implied => implied holds, fun met _ => met⟩
  · rw [Program.onlyIf, if_neg holds]
    exact checks_none.of_iff ⟨fun _ => trivial, fun _ taken => absurd taken holds⟩

theorem checks_each {α : Type} {condition : α → Prop} {body : α → Action Unit}
    (checks : ∀ item, Checks (condition item) (body item)) (list : List α) :
    Checks (∀ item ∈ list, condition item) (each body list) := by
  induction list with
  | nil => exact checks_none.of_iff (by simp)
  | cons item rest ih => exact ((checks item).andThen ih).of_iff (by simp)

theorem swdptapSeqOut_checks (clockCycles : Nat) : Checks (clockCycles ≤ 32) (swdptapSeqOut clockCycles) := by
  apply (checks_each (checks_touch .shift 32) (List.range clockCycles)).of_iff
  simp only [List.mem_range]
  exact ⟨fun few cycle inside => Nat.lt_of_lt_of_le inside few, fun all => by
    by_contra many
    exact Nat.lt_irrefl 32 (all 32 (Nat.lt_of_not_le many))⟩

theorem jtagtapTdiSeq_checks (data : Place) (size clockCycles : Nat) :
    Checks (clockCycles ≤ 8 * size) (jtagtapTdiSeq data size clockCycles) := by
  apply (checks_each (fun cycle => checks_touch data size (cycle / 8)) (List.range clockCycles)).of_iff
  simp only [List.mem_range]
  constructor
  · intro few cycle inside
    omega
  · intro all
    by_contra many
    have past := all (8 * size) (Nat.lt_of_not_le many)
    omega

theorem scanBytes_checks (clockCycles : Nat) : Checks (clockCycles ≤ 64) (scanBytes clockCycles) := by
  have cycle : ∀ n, Checks (n / 8 < 8 ∧ (n % 8 = 7 → n / 8 < 8))
      (do touch .dataIn 8 (n / 8); onlyIf (n % 8 = 7) (touch .dataOut 8 (n / 8))) :=
    fun n => (checks_touch _ _ _).andThen (checks_touch _ _ _).onlyIf
  apply ((checks_each cycle (List.range clockCycles)).andThen (checks_touch _ _ _).onlyIf).of_iff
  simp only [List.mem_range]
  constructor
  · intro few
    exact ⟨fun n inside => by omega, fun _ => by omega⟩
  · intro inside
    by_contra many
    have past := (inside.1 64 (Nat.lt_of_not_le many)).1
    omega

theorem remoteSendBuf_checks (size len : Nat) : Checks (len = 0) (remoteSendBuf size len) := by
  have terminated : Checks False (each (touch .hex 2) [0, 1, 2]) :=
    (checks_each (checks_touch .hex 2) [0, 1, 2]).of_iff (by simp)
  have sent := fun offset => (checks_touch .buffer size offset).andThen terminated
  apply (checks_each sent (List.range len)).of_iff
  simp only [List.mem_range, and_false]
  exact ⟨fun none offset inside => by omega, fun never => Nat.eq_zero_of_not_pos fun some => never 0 some⟩

theorem Checks.meets {condition : Prop} {program : Action Unit} {kept : Firmware → Prop} {stopped : Halt → Firmware → Prop}
    (checks : Checks condition program) (holds : condition) : Meets kept program (fun _ => kept) stopped := by
  intro firmware before
  rw [checks.passes holds]
  exact before

end Checks

section Copies

theorem shift_pow (align : Nat) : 1 <<< align = 2 ^ align := by rw [Nat.shiftLeft_eq, Nat.one_mul]

theorem copied_inside {index align : Nat} (inside : index + 1 <<< align ≤ gdbPacketBufferSize + 1) :
    ∀ place ∈ copied index align, place < gdbPacketBufferSize + 1 := by
  intro place listed
  obtain ⟨offset, short, rfl⟩ := List.mem_map.mp listed
  rw [List.mem_range] at short
  split at short
  next narrow => omega
  next wide =>
    have four : 2 ^ 2 ≤ 2 ^ align := Nat.pow_le_pow_right (by decide) (Nat.le_of_not_lt wide)
    rw [shift_pow] at inside
    omega

theorem laneShift_small (addr align : Nat) : laneShift addr align < 32 := by
  have byte : addr &&& 3 ≤ 3 := Nat.and_le_right
  have halfword : addr &&& 2 ≤ 2 := Nat.and_le_right
  unfold laneShift
  split
  next => omega
  next =>
    split
    next => omega
    next => decide

theorem elements_fit (len align : Nat) : (len >>> align) * 1 <<< align ≤ len := by
  rw [shift_pow, Nat.shiftRight_eq_div_pow]
  exact Nat.div_mul_le_self len (2 ^ align)

end Copies

section Transfers

/-- What an access of the debug port keeps, and how it may stop. -/
structure Supports (env : Environment) (rounds : Nat) (functions : Option DpFunctions) (kept : Firmware → Prop)
    (stopped : Halt → Firmware → Prop) : Prop where
  access : ∀ {rnw addr value}, Meets kept (adiv5DpLowAccess env rounds rnw addr value) (fun _ => kept) stopped
  selected : ∀ firmware, kept firmware → firmware.remoteDp.functions = functions
  crash : ∀ firmware, kept firmware → functions = none ∨ firmware.remoteDp.fault = swdpAckNoResponse →
    stopped .nullPointer firmware
  stored : ∀ firmware dest, kept firmware → kept { firmware with packet := dest }

variable {env : Environment} {rounds : Nat} {functions : Option DpFunctions} {kept : Firmware → Prop}
  {stopped : Halt → Firmware → Prop}

theorem recoverable_meets (supports : Supports env rounds functions kept stopped) {rnw : Bool} {addr : BitVec 16}
    {value : BitVec 32} : Meets kept (adiv5DpRecoverableAccess env rounds rnw addr value) (fun _ => kept) stopped := by
  apply Meets.bind supports.access
  intro result
  apply meets_reading
  intro firmware holds
  apply meets_ite
  · intro lost
    apply meets_stop
    rintro _ rfl
    exact supports.crash _ holds (.inr lost)
  · intro _
    apply meets_pure
    rintro _ rfl
    exact holds

theorem jtag_meets (supports : Supports env rounds (some .jtag) kept stopped) {addr : BitVec 16} :
    Meets kept (fwAdiv5JtagdpLowAccess env rounds addr) (fun _ => kept) stopped := by
  intro firmware holds
  have met : Meets kept (adiv5DpLowAccess env rounds true addr 0) (fun _ => kept) stopped := supports.access
  have result := met firmware holds
  rw [adiv5DpLowAccess, read_bind, supports.selected firmware holds] at result
  exact result

theorem dpRead_meets (supports : Supports env rounds functions kept stopped) {addr : BitVec 16} :
    Meets kept (adiv5DpRead env rounds addr) (fun _ => kept) stopped := by
  apply meets_reading
  intro firmware holds
  rw [supports.selected firmware holds]
  cases functions with
  | none =>
    apply meets_stop
    rintro _ rfl
    exact supports.crash _ holds (.inl rfl)
  | some functions =>
    cases functions with
    | swd =>
      apply Meets.known _ holds
      apply meets_ite
      · intro _
        apply Meets.bind (recoverable_meets supports)
        intro _
        exact supports.access
      · intro _
        exact recoverable_meets supports
    | jtag =>
      apply Meets.known _ holds
      apply Meets.bind (jtag_meets supports)
      intro _
      exact jtag_meets supports

theorem apWrite_meets (supports : Supports env rounds functions kept stopped) {apsel : Byte} {addr : BitVec 16}
    {value : BitVec 32} : Meets kept (firmwareApWrite env rounds apsel addr value) (fun _ => kept) stopped := by
  apply Meets.bind (recoverable_meets supports)
  intro _
  apply Meets.bind supports.access
  intro _
  exact meets_pure fun _ holds => holds

theorem apRead_meets (supports : Supports env rounds functions kept stopped) {apsel : Byte} {addr : BitVec 16} :
    Meets kept (firmwareApRead env rounds apsel addr) (fun _ => kept) stopped := by
  apply Meets.bind (recoverable_meets supports)
  intro _
  exact dpRead_meets supports

theorem setup_meets (supports : Supports env rounds functions kept stopped) {ap : RemoteMemory.AccessPort}
    {addr align : Nat} :
    Meets kept (apMemAccessSetup env rounds ap addr align) (fun _ => kept) stopped := by
  apply Meets.bind (apWrite_meets supports)
  intro _
  apply Meets.bind supports.access
  intro _
  exact meets_pure fun _ holds => holds

theorem Supports.storing (supports : Supports env rounds functions kept stopped) {dest : Buffer} :
    Meets kept (change fun firmware => { firmware with packet := dest }) (fun _ => kept) stopped :=
  meets_change fun firmware holds => supports.stored firmware dest holds

theorem unpack_meets (supports : Supports env rounds functions kept stopped) {index : Nat} (src : Nat) (data : BitVec 32)
    {align : MemAp.Align} (inside : index + align.bytes ≤ gdbPacketBufferSize + 1) :
    Meets kept (adiv5UnpackData index src data align) (fun next firmware => next = index + align.bytes ∧ kept firmware)
      stopped := by
  apply Meets.bind ((checks_each (checks_touch _ _) _).meets (copied_inside inside))
  intro _
  apply meets_reading
  intro firmware holds
  apply Meets.known _ holds
  apply Meets.bind supports.storing
  intro _
  apply Meets.bind ((checks_touch _ _ _).meets (laneShift_small src align.toNat))
  intro _
  apply Meets.bind ((checks_touch _ _ _).meets (show align.toNat < 32 by cases align <;> decide))
  intro _
  apply meets_pure
  intro other held
  exact ⟨by cases align <;> rfl, held⟩

theorem pack_meets {index align : Nat} (dest : Nat) (small : align < 32)
    (inside : index + 1 <<< align ≤ gdbPacketBufferSize + 1) :
    Meets kept (adiv5PackData dest index align) (fun packed firmware => packed.2 = index + 1 <<< align ∧ kept firmware)
      stopped := by
  apply Meets.bind ((checks_each (checks_touch _ _) _).meets (copied_inside inside))
  intro _
  apply Meets.bind ((checks_touch _ _ _).meets (laneShift_small dest align))
  intro _
  apply Meets.bind ((checks_touch _ _ _).meets small)
  intro _
  apply meets_reading
  intro firmware holds
  apply meets_pure
  rintro _ rfl
  refine ⟨?_, holds⟩
  rcases align with _ | _ | align <;> rfl

theorem readElement_meets (supports : Supports env rounds functions kept stopped) {align : MemAp.Align} {reading : Transfer}
    (inside : reading.index + align.bytes ≤ gdbPacketBufferSize + 1) :
    Meets kept (readElement env rounds align reading)
      (fun after firmware => after.index = reading.index + align.bytes ∧ kept firmware) stopped := by
  apply Meets.bind supports.access
  intro value
  apply Meets.bind (unpack_meets supports reading.addr value inside)
  intro index
  apply meets_given
  rintro rfl
  apply meets_ite
  · intro _
    apply Meets.bind supports.access
    intro _
    apply Meets.bind supports.access
    intro _
    exact meets_pure fun _ holds => ⟨rfl, holds⟩
  · intro _
    exact meets_pure fun _ holds => ⟨rfl, holds⟩

theorem readElements_meets (supports : Supports env rounds functions kept stopped) {align : MemAp.Align} {more : Nat}
    {reading : Transfer} (inside : reading.index + more * align.bytes ≤ gdbPacketBufferSize + 1) :
    Meets kept (readElements env rounds align more reading)
      (fun after firmware => after.index = reading.index + more * align.bytes ∧ kept firmware) stopped := by
  induction more generalizing reading with
  | zero => exact meets_pure fun _ holds => ⟨by rw [Nat.zero_mul, Nat.add_zero], holds⟩
  | succ more ih =>
    rw [Nat.succ_mul] at inside
    apply Meets.bind (readElement_meets supports (by omega))
    intro next
    apply meets_given
    intro moved
    apply (ih (by omega)).returning
    rintro after firmware ⟨index, holds⟩
    refine ⟨?_, holds⟩
    rw [Nat.succ_mul]
    omega

theorem memRead_meets (supports : Supports env rounds functions kept stopped) {ap : RemoteMemory.AccessPort} {src len : Nat}
    (short : len ≤ gdbPacketBufferSize) :
    Meets kept (advi5MemReadBytes env rounds ap src len) (fun _ => kept) stopped := by
  apply meets_ite
  · intro _
    exact meets_pure fun _ holds => holds
  · intro _
    generalize MemAp.minAlign src len = align
    have fits : (len >>> align.toNat) * align.bytes ≤ len := elements_fit len align.toNat
    have whole : (len >>> align.toNat - 1) * align.bytes + align.bytes ≤ gdbPacketBufferSize + 1 := by
      have small : align.bytes ≤ 8 := by cases align <;> decide
      cases counted : len >>> align.toNat with
      | zero =>
        rw [Nat.zero_sub, Nat.zero_mul]
        unfold gdbPacketBufferSize
        omega
      | succ elements =>
        rw [counted, Nat.succ_mul] at fits
        rw [Nat.add_sub_cancel]
        omega
    apply Meets.bind ((checks_touch _ _ _).meets (show align.toNat < 32 by cases align <;> decide))
    intro _
    apply Meets.bind (setup_meets supports)
    intro _
    apply Meets.bind supports.access
    intro _
    apply Meets.bind (readElements_meets supports (by simp only; omega))
    intro reading
    apply meets_given
    intro moved
    apply Meets.bind supports.access
    intro value
    apply Meets.bind (unpack_meets supports reading.addr value (by simp only at moved; omega))
    intro _
    exact meets_pure fun _ holds => holds.2

theorem writeElement_meets (supports : Supports env rounds functions kept stopped) {align : Nat} {writing : Transfer}
    (small : align < 32) (inside : writing.index + 1 <<< align ≤ gdbPacketBufferSize + 1) :
    Meets kept (writeElement env rounds align writing)
      (fun after firmware => after.index = writing.index + 1 <<< align ∧ kept firmware) stopped := by
  apply Meets.bind (pack_meets writing.addr small inside)
  rintro ⟨value, index⟩
  apply meets_given
  intro moved
  apply Meets.bind supports.access
  intro _
  apply meets_ite
  · intro _
    apply Meets.bind supports.access
    intro _
    exact meets_pure fun _ holds => ⟨moved, holds⟩
  · intro _
    exact meets_pure fun _ holds => ⟨moved, holds⟩

theorem writeElements_meets (supports : Supports env rounds functions kept stopped) {align more : Nat} {writing : Transfer}
    (small : align < 32) (inside : writing.index + more * 1 <<< align ≤ gdbPacketBufferSize + 1) :
    Meets kept (writeElements env rounds align more writing) (fun _ => kept) stopped := by
  induction more generalizing writing with
  | zero => exact meets_pure fun _ holds => holds
  | succ more ih =>
    rw [Nat.succ_mul] at inside
    apply Meets.bind (writeElement_meets supports small (by omega))
    intro next
    apply meets_given
    intro moved
    exact ih (by omega)

theorem memWrite_meets (supports : Supports env rounds functions kept stopped) {ap : RemoteMemory.AccessPort}
    {dest len align : Nat} (short : len ≤ gdbPacketBufferSize) (small : align < 32) :
    Meets kept (adiv5MemWriteBytes env rounds ap dest len align) (fun _ => kept) stopped := by
  have fits := elements_fit len align
  apply Meets.bind ((checks_touch _ _ _).meets small)
  intro _
  apply Meets.bind (setup_meets supports)
  intro _
  apply Meets.bind (writeElements_meets supports small (by simp only; omega))
  intro _
  apply Meets.bind (dpRead_meets supports)
  intro _
  exact meets_pure fun _ holds => holds

end Transfers

end BlackMagic.Proofs.RemoteAccesses

import BlackMagic.Esp32c3Flash

/-! What of the instruction cache of the ESP32-C3 is invalidated after a flash session. The end of the range is the one of the last
erase that has succeeded, whichever addresses the operations before and after it have touched. -/

namespace BlackMagic.Proofs.Esp32c3CacheRange
open Esp32c3Flash

variable {flash : SpiFlash}

section Operations

/-- The steps that are done before the first one without write enable. -/
def stepsDone (enabled : Nat → Bool) : Nat → Nat → List Nat
  | 0, _ => []
  | more + 1, k => if enabled k then k :: stepsDone enabled more (k + 1) else []

def allEnabled (enabled : Nat → Bool) : Nat → Nat → Bool
  | 0, _ => true
  | more + 1, k => enabled k && allEnabled enabled more (k + 1)

def eraseCommand (flash : SpiFlash) (addr : BitVec 32) (k : Nat) : SpiCommand :=
  .sectorErase (addr - flash.start + BitVec.ofNat 32 (k * flash.blocksize))

def writeCommand (flash : SpiFlash) (dest : BitVec 32) (length k : Nat) : SpiCommand :=
  .pageProgram (dest - flash.start + BitVec.ofNat 32 (k * 64)) (min (length - k * 64) 64)

/-- The commands that an operation makes the Flash carry out. -/
def sent (flash : SpiFlash) : FlashOp → List SpiCommand
  | .erase addr length enabled =>
    (stepsDone enabled ((length + flash.blocksize - 1) / flash.blocksize) 0).map (eraseCommand flash addr)
  | .write dest length enabled => (stepsDone enabled ((length + 63) / 64) 0).map (writeCommand flash dest length)

/-- The end of the last erase that has succeeded, after an operation. -/
def opEnd (flash : SpiFlash) (kept : BitVec 32) : FlashOp → BitVec 32
  | .erase addr length enabled =>
    if allEnabled enabled ((length + flash.blocksize - 1) / flash.blocksize) 0 then addr + BitVec.ofNat 32 length else kept
  | .write _ _ _ => kept

def lastEnd (flash : SpiFlash) (kept : BitVec 32) (ops : List FlashOp) : BitVec 32 := ops.foldl (opEnd flash) kept

theorem eraseBlocks_eq (enabled : Nat → Bool) (addr : BitVec 32) (more k : Nat) (device : Device) :
    eraseBlocks flash enabled (addr - flash.start) more k device = (allEnabled enabled more k,
      { device with commands := device.commands ++ (stepsDone enabled more k).map (eraseCommand flash addr) }) := by
  induction more generalizing k device with
  | zero => simp [eraseBlocks, allEnabled, stepsDone]
  | succ more ih =>
    by_cases on : enabled k = true
    · simp only [eraseBlocks, allEnabled, stepsDone, on, if_true, ih, runCommand, Bool.true_and, List.map_cons]
      simp [eraseCommand]
    · simp [eraseBlocks, allEnabled, stepsDone, on]

theorem writeChunks_eq (enabled : Nat → Bool) (dest : BitVec 32) (length more k : Nat) (device : Device) :
    writeChunks enabled (dest - flash.start) length more k device = (allEnabled enabled more k,
      { device with commands := device.commands ++ (stepsDone enabled more k).map (writeCommand flash dest length) }) := by
  induction more generalizing k device with
  | zero => simp [writeChunks, allEnabled, stepsDone]
  | succ more ih =>
    by_cases on : enabled k = true
    · simp only [writeChunks, allEnabled, stepsDone, on, if_true, ih, runCommand, Bool.true_and, List.map_cons]
      simp [writeCommand]
    · simp [writeChunks, allEnabled, stepsDone, on]

theorem runOp_eq (op : FlashOp) (device : Device) : runOp flash op device =
    { device with
      lastInvalidatedSector := opEnd flash device.lastInvalidatedSector op
      commands := device.commands ++ sent flash op } := by
  cases op with
  | erase addr length enabled =>
    simp only [runOp, spiFlashErase, eraseBlocks_eq, opEnd, sent]
    split <;> rfl
  | write dest length enabled =>
    simp only [runOp, spiFlashWrite, writeChunks_eq, opEnd, sent]

theorem runOps_eq (ops : List FlashOp) (device : Device) : runOps flash ops device =
    { device with
      lastInvalidatedSector := lastEnd flash device.lastInvalidatedSector ops
      commands := device.commands ++ ops.flatMap (sent flash) } := by
  induction ops generalizing device with
  | nil => simp [runOps, lastEnd]
  | cons op ops ih =>
    have later := ih (runOp flash op device)
    rw [runOps, List.foldl_cons]
    rw [runOps] at later
    rw [later, runOp_eq, List.flatMap_cons, List.append_assoc]
    rfl

end Operations

section Sessions

theorem exitFlashMode_invalidates (device : Device) : (exitFlashMode device).invalidated =
    device.invalidated ++ [(ibusFlashBase, device.lastInvalidatedSector - ibusFlashBase)] := by
  simp [exitFlashMode, memWrite32, Esp32c3.targetMemWrite32, extmemIcacheSyncCtrl, extmemIcacheSyncAddr, extmemIcacheSyncSize,
    extmemIcachePreloadCtrl, extmemIcachePreloadAddr, extmemIcachePreloadSize, extmemIcacheInvalidate, extmemBase]

theorem exitFlashMode_commands (device : Device) : (exitFlashMode device).commands = device.commands := rfl

/-- A session ends with the invalidation of a range that holds all addresses which its commands have touched. -/
structure Covers (flash : SpiFlash) (ops : List FlashOp) (device : Device) : Prop where
  covered : ∃ first size, (runSession flash ops device).invalidated = device.invalidated ++ [(first, size)] ∧
    ∃ issued, (runSession flash ops device).commands = device.commands ++ issued ∧
      ∀ command ∈ issued, ∀ address, command.touches flash address → (address - first).toNat < size.toNat

/-- No operation touches an address behind the end of the last erase that succeeds. -/
def EndsLast (flash : SpiFlash) (kept : BitVec 32) (ops : List FlashOp) : Prop :=
  ∀ op ∈ ops, ∀ command ∈ sent flash op, ∀ address, command.touches flash address →
    (address - ibusFlashBase).toNat < (lastEnd flash kept ops - ibusFlashBase).toNat

theorem runSession_invalidated (ops : List FlashOp) (device : Device) : (runSession flash ops device).invalidated =
    device.invalidated ++ [(ibusFlashBase, lastEnd flash device.lastInvalidatedSector ops - ibusFlashBase)] := by
  rw [runSession, exitFlashMode_invalidates, runOps_eq]
  rfl

theorem runSession_commands (ops : List FlashOp) (device : Device) :
    (runSession flash ops device).commands = device.commands ++ ops.flatMap (sent flash) := by
  rw [runSession, exitFlashMode_commands, runOps_eq]
  rfl

theorem session_covers_iff (ops : List FlashOp) (device : Device) :
    Covers flash ops device ↔ EndsLast flash device.lastInvalidatedSector ops := by
  constructor
  · rintro ⟨first, size, range, issued, commands, covered⟩ op listed command issues address touches
    rw [runSession_invalidated] at range
    rw [runSession_commands] at commands
    have same := List.append_cancel_left commands
    have only := List.append_cancel_left range
    simp only [List.cons.injEq, Prod.mk.injEq, and_true] at only
    obtain ⟨rfl, rfl⟩ := only
    subst same
    exact covered command (List.mem_flatMap.mpr ⟨op, listed, issues⟩) address touches
  · intro last
    refine ⟨_, _, runSession_invalidated ops device, _, runSession_commands ops device, fun command issues => ?_⟩
    obtain ⟨op, listed, sends⟩ := List.mem_flatMap.mp issues
    exact last op listed command sends

/-- The device after its probe. -/
def probed : Device := ⟨⟨fun _ => 0, fun _ => 0⟩, 0, [], []⟩

def flash4k : SpiFlash := ⟨ibusFlashBase, 4096, by decide⟩

/-- Two sectors are erased, the second one first. -/
def downwards : List FlashOp := [.erase 0x42001000 4096 fun _ => true, .erase 0x42000000 4096 fun _ => true]

theorem second_sector_stale : ¬ Covers flash4k downwards probed := by
  rintro ⟨first, size, range, issued, commands, covered⟩
  have only : [((0x42000000 : BitVec 32), (0x1000 : BitVec 32))] = [(first, size)] := range
  have same : [SpiCommand.sectorErase 0x1000, .sectorErase 0] = issued := commands
  cases only
  cases same
  have inside := covered (.sectorErase 0x1000) List.mem_cons_self 0x42001000 rfl
  exact absurd inside (by decide)

end Sessions

end BlackMagic.Proofs.Esp32c3CacheRange

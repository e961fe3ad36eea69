import BlackMagic.Lpc

/-! What an IAP call leaves behind: the registers and the frame in RAM are as they were before. -/

namespace BlackMagic.Proofs.IapFrame
open BlackMagic.Lpc Lib.Polling Lib.Words

section Registers

variable {cpu : Cpu}

/-- Of registers that are written with what was read from others, each holds what it was there: all that R13 can stand for
only where it is not among the selectors. -/
theorem writeRegs_read {saved registers : Nat → BitVec 32} {regsels : List Nat} {slot : Nat} (plain : slot ≠ regselSp)
    (clear : regselSp ∈ regsels → slot ≠ regselMsp ∧ slot ≠ regselPsp) :
    writeRegs cpu (regsels.zip (regsels.map (cpu.readReg saved))) registers slot =
      if slot ∈ regsels then saved slot else registers slot := by
  induction regsels generalizing registers with
  | nil => rfl
  | cons regsel rest ih =>
    rw [List.map_cons, List.zip_cons_cons, writeRegs, ih (fun later => clear (.tail _ later))]
    by_cases later : slot ∈ rest
    · rw [if_pos later, if_pos (.tail _ later)]
    · rw [if_neg later, Cpu.writeReg]
      by_cases here : slot = regsel
      · subst here
        have same (registers : Nat → BitVec 32) : cpu.slot registers slot = slot := if_neg plain
        rw [if_pos (same registers).symm, if_pos List.mem_cons_self, Cpu.readReg, same]
      · have apart : slot ≠ cpu.slot registers regsel := by
          rw [Cpu.slot]
          by_cases stack : regsel = regselSp
          · obtain ⟨notMsp, notPsp⟩ := clear (stack ▸ List.mem_cons_self)
            rw [if_pos stack]
            split
            · exact notPsp
            · exact notMsp
          · rw [if_neg stack]
            exact here
        have absent : slot ∉ regsel :: rest := List.not_mem_cons_of_ne_of_not_mem here later
        rw [if_neg apart, if_neg absent]

theorem writeRegs_append {one other : List (Nat × BitVec 32)} {registers : Nat → BitVec 32} :
    writeRegs cpu (one ++ other) registers = writeRegs cpu other (writeRegs cpu one registers) := by
  induction one generalizing registers with
  | nil => rfl
  | cons pair rest ih =>
    rw [List.cons_append, writeRegs, writeRegs, ih]

/-- The selectors up to the program counter, and those behind it, where the two stack pointers have their own. -/
theorem regnums_split : ∃ later, cpu.regnums = [0, 1, 2, 3, 4, 5, 6, 7, 8, 9, 10, 11, 12, 13, 14, 15] ++ later ∧
    regselSp ∉ later ∧ regselMsp ∈ later ∧ regselPsp ∈ later ∧ regselXpsr ∈ later ∧ regselSpecial ∈ later := by
  refine ⟨[0x10, 0x11, 0x12, 0x14] ++ (if cpu.fpu then Registers.regnumCortexMf else []), ?_, ?_⟩
  · rfl
  · cases cpu.fpu <;> decide

theorem registers_restored (saved registers : Nat → BitVec 32) {regsel : Nat} (listed : regsel ∈ cpu.regnums) :
    cpu.readReg (writeRegs cpu (cpu.regnums.zip (cpu.regnums.map (cpu.readReg saved))) registers) regsel =
      cpu.readReg saved regsel := by
  obtain ⟨later, split, noSp, msp, psp, xpsr, special⟩ := @regnums_split cpu
  generalize final : writeRegs cpu (cpu.regnums.zip (cpu.regnums.map (cpu.readReg saved))) registers = restored
  have own {slot : Nat} (plain : slot ≠ regselSp) (behind : slot ∈ later) : restored slot = saved slot := by
    rw [← final, split, List.map_append, List.zip_append (List.length_map _).symm, writeRegs_append,
      writeRegs_read plain (fun sp => absurd sp noSp), if_pos behind]
  have others {slot : Nat} (plain : slot ≠ regselSp) (notMsp : slot ≠ regselMsp) (notPsp : slot ≠ regselPsp)
      (listed : slot ∈ cpu.regnums) : restored slot = saved slot := by
    rw [← final, writeRegs_read plain (fun _ => ⟨notMsp, notPsp⟩), if_pos listed]
  have slots {slot : Nat} (plain : slot ≠ regselSp) (listed : slot ∈ cpu.regnums) : restored slot = saved slot := by
    by_cases isMsp : slot = regselMsp
    · subst isMsp
      exact own plain msp
    · by_cases isPsp : slot = regselPsp
      · subst isPsp
        exact own plain psp
      · exact others plain isMsp isPsp listed
  rw [Cpu.readReg, Cpu.readReg, Cpu.slot, Cpu.slot]
  by_cases stack : regsel = regselSp
  · rw [if_pos stack, if_pos stack, own (by decide) xpsr, own (by decide) special]
    split
    · exact own (by decide) psp
    · exact own (by decide) msp
  · rw [if_neg stack, if_neg stack]
    exact slots stack listed

end Registers

section Frame

theorem memWrite_inside {dest i : Nat} {data : List Byte} {state : TargetState} (inside : i < data.length) :
    (Lpc.targetMemWrite dest data state).memory (dest + i) = data.getD i 0 := by
  have covered : dest ≤ dest + i ∧ dest + i < dest + data.length := ⟨Nat.le_add_right _ _, Nat.add_lt_add_left inside _⟩
  simp only [Lpc.targetMemWrite, if_pos covered, Nat.add_sub_cancel_left]

theorem memWrite_outside {dest a : Nat} {data : List Byte} {state : TargetState}
    (outside : a < dest ∨ dest + data.length ≤ a) : (Lpc.targetMemWrite dest data state).memory a = state.memory a := by
  have uncovered : ¬ (dest ≤ a ∧ a < dest + data.length) := by omega
  simp only [Lpc.targetMemWrite, if_neg uncovered]

theorem memRead_get {src len i : Nat} {state : TargetState} (inside : i < len) :
    (Lpc.targetMemRead state src len).getD i 0 = state.memory (src + i) := by
  rw [Lpc.targetMemRead, List.getD_eq_getElem?_getD, List.getElem?_map, List.getElem?_range inside]
  rfl

theorem wdtKick_apart {wdt : Watchdog} {state : TargetState} {a : Nat} (apart : a < wdt.feed ∨ wdt.feed + 4 ≤ a) :
    (wdtKick wdt state).memory a = state.memory a := by
  have word (value : BitVec 32) : (Registers.wordBytes value).length = 4 := rfl
  rw [wdtKick]
  split
  · rw [Lpc.targetMemWrite32, memWrite_outside (by rw [word]; exact apart), Lpc.targetMemWrite32,
      memWrite_outside (by rw [word]; exact apart)]
  · rfl

theorem wdtKick_registers {wdt : Watchdog} {state : TargetState} : (wdtKick wdt state).registers = state.registers := by
  rw [wdtKick]
  split
  · rfl
  · rfl

variable {flash : LpcFlash}

theorem kicked_registers {state : TargetState} : (iapKicked flash state).registers = state.registers := by
  rw [iapKicked]
  split
  · exact wdtKick_registers
  · rfl

theorem kicked_frame {state : TargetState} {i : Nat} (inside : i < iapFrameSize) :
    (iapKicked flash state).memory (flash.iapRam + i) = state.memory (flash.iapRam + i) := by
  rw [iapKicked]
  split
  next wdt kick =>
    apply wdtKick_apart
    cases flash.apart wdt kick with
    | inl below => exact .inl (Nat.lt_of_lt_of_le (Nat.add_lt_add_left inside _) below)
    | inr above => exact .inr (Nat.le_trans above (Nat.le_add_right _ _))
  · rfl

/-- What was saved of one state is put back into any other. -/
theorem restored_frame {cpu : Cpu} {state other : TargetState} {regs : List (BitVec 32)} {i : Nat}
    (inside : i < iapFrameSize) :
    (lpcRestoreState cpu flash.iapRam (Lpc.targetMemRead state flash.iapRam iapFrameSize) regs other).memory (flash.iapRam + i) =
      state.memory (flash.iapRam + i) := by
  have length : (Lpc.targetMemRead state flash.iapRam iapFrameSize).length = iapFrameSize := by
    rw [Lpc.targetMemRead, List.length_map, List.length_range]
  have bytes := @memWrite_inside flash.iapRam i _ other (length ▸ inside)
  exact bytes.trans (memRead_get inside)

end Frame

section Calls

/-- The registers and the bytes of the frame are the same in two states. -/
structure LeftAsWas (cpu : Cpu) (flash : LpcFlash) (before after : TargetState) : Prop where
  registers : ∀ regsel ∈ cpu.regnums, cpu.readReg after.registers regsel = cpu.readReg before.registers regsel
  frame : ∀ i < iapFrameSize, after.memory (flash.iapRam + i) = before.memory (flash.iapRam + i)

/-- The ways in which the routine ends, with the status that each gives. -/
inductive Ending (flash : LpcFlash) (cmd : IapCmd) (run : RomRun) : BitVec 32 → Prop where
  | returned {n} (halted : run.halted n = true) (before : ∀ m < n, run.halted m = false)
      (sound : iapFaulted flash (run.state n) = false) :
      Ending flash cmd run (Lpc.targetMemRead32 (run.state n) (flash.iapRam + resultOffset))
  | faulted {n} (halted : run.halted n = true) (before : ∀ m < n, run.halted m = false)
      (fault : iapFaulted flash (run.state n) = true) : Ending flash cmd run iapStatusInvalidCommand
  | expired {n} (partId : cmd = .partId) (running : ∀ m ≤ n, run.halted m = false) (late : run.expired n = true) :
      Ending flash cmd run iapStatusInvalidCommand

variable {cpu : Cpu} {flash : LpcFlash}

/-- What was saved after the watchdog was fed is restored over whatever the routine has left. -/
theorem restored_as_was (state other : TargetState) :
    LeftAsWas cpu flash state (lpcRestoreState cpu flash.iapRam
      (lpcSaveState cpu flash.iapRam (iapKicked flash state)).1 (lpcSaveState cpu flash.iapRam (iapKicked flash state)).2
      other) := by
  apply LeftAsWas.mk
  · intro regsel listed
    have same := registers_restored (iapKicked flash state).registers other.registers listed
    rw [kicked_registers] at same
    rw [← same, ← @kicked_registers flash state]
    rfl
  · intro i inside
    have same : (iapKicked flash state).memory (flash.iapRam + i) = state.memory (flash.iapRam + i) := kicked_frame inside
    exact (restored_frame inside).trans same

/-- The loop ends at the first poll at which the target has halted, or at one where the time for a part ID call is over. -/
theorem iapWait_ends {patience n : Nat} {cmd : IapCmd} {fullErase halted : Bool} {run : RomRun}
    (ended : iapWait patience cmd fullErase run = some (halted, n)) :
    (∀ m < n, run.halted m = false) ∧ run.halted n = halted ∧
      (halted = false → cmd = .partId ∧ run.expired n = true) := by
  obtain ⟨last, _, before, found⟩ := await_iff.mp ended
  rw [Nat.zero_add] at found
  have earlier : ∀ m < last, run.halted m = false := by
    intro m sooner
    have silent := before m sooner
    rw [Nat.zero_add] at silent
    cases stopped : run.halted m with
    | false => rfl
    | true =>
      rw [if_pos stopped] at silent
      cases silent
  split at found
  next stopped =>
    cases found
    exact ⟨earlier, stopped, fun never => absurd never (by decide)⟩
  next running =>
    split at found
    next late =>
      cases found
      simp only [Bool.and_eq_true, beq_iff_eq] at late
      exact ⟨earlier, Bool.eq_false_of_not_eq_true running, fun _ => ⟨late.1.2, late.2⟩⟩
    · cases found

/-- Whatever the routine does, a call that returns leaves the registers and the frame as they were, and its status is the
return code of the routine, or that of an invalid command after a fault and for a part ID call that does not end in time. -/
theorem lpcIapCall_restores (patience : Nat) (cpu : Cpu) (flash : LpcFlash) (rom : TargetState → RomRun)
    (padding : Byte × Byte) (cmd : IapCmd) (params : List (BitVec 32)) (state : TargetState) {outcome : IapOutcome}
    (returned : lpcIapCall patience cpu flash rom padding cmd params state = some outcome) :
    LeftAsWas cpu flash state outcome.state ∧
      Ending flash cmd (rom (iapStarted cpu flash padding cmd params state)) outcome.status := by
  simp only [lpcIapCall] at returned
  split at returned
  next halted n ended =>
    obtain ⟨before, stopped, inTime⟩ := iapWait_ends ended
    split at returned
    next failed =>
      cases returned
      refine ⟨restored_as_was _ _, ?_⟩
      cases halted with
      | true =>
        have fault := failed.resolve_left (by decide)
        exact .faulted stopped before fault
      | false =>
        obtain ⟨partId, late⟩ := inTime rfl
        apply Ending.expired partId _ late
        intro m until_
        cases Nat.lt_or_eq_of_le until_ with
        | inl sooner => exact before m sooner
        | inr same => rw [same, stopped]
    next sound =>
      cases returned
      refine ⟨restored_as_was _ _, ?_⟩
      obtain ⟨done, clean⟩ := not_or.mp sound
      cases halted with
      | true => exact .returned stopped before (Bool.eq_false_of_not_eq_true clean)
      | false => exact absurd rfl done
  · cases returned

/-- A routine that halts at the first poll with no exception, and gives success as its return code. -/
def successful (_ : TargetState) : RomRun := ⟨fun _ => true, fun _ => false, fun _ => ⟨fun _ => xpsrThumb, fun _ => 0⟩⟩

def lpc802 : LpcFlash := lpc11xxAddFlash 0 0x4000 0x400 0x0f001ff1 2

def cortexM0 : Cpu := ⟨false, fun _ _ => false⟩

def numbered : TargetState := ⟨fun regsel => BitVec.ofNat 32 regsel, fun a => BitVec.ofNat 8 a⟩

theorem lpc802_restored :
    ∃ outcome, lpcIapCall 1 cortexM0 lpc802 successful (0, 0) .partId [] numbered = some outcome ∧
      LeftAsWas cortexM0 lpc802 numbered outcome.state ∧
      Ending lpc802 .partId (successful (iapStarted cortexM0 lpc802 (0, 0) .partId [] numbered)) outcome.status := by
  have ended : (lpcIapCall 1 cortexM0 lpc802 successful (0, 0) .partId [] numbered).isSome = true := by decide +kernel
  obtain ⟨outcome, returned⟩ := Option.isSome_iff_exists.mp ended
  exact ⟨outcome, returned, lpcIapCall_restores 1 cortexM0 lpc802 successful (0, 0) .partId [] numbered returned⟩

end Calls

end BlackMagic.Proofs.IapFrame

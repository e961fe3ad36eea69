import BlackMagic.Proofs.RiscvMemoryAccesses

/-! The native write and the accesses by abstract commands, and all four of them together. -/

namespace BlackMagic.Proofs.RiscvMemoryExact
open Lib Lib.Program Lib.Words RiscvMemory RiscvMemoryAccesses
open Sysbus (rvSysbusMemAddrPostInc riscv32UnpackData riscv32PackData riscvMemAccessWidth)
open SysbusTransfer (Command write_command riscv32PackData_lane accessWidth_spec)

variable {world : World} {excuse : Prop} {base : List Access} {address : BitVec 32} {src : Buffer} {width count : Nat}
  {start : Buffer} {dm : DebugModule}

/-- One write for each element. -/
def writes (address : BitVec 32) (src : Buffer) (width count : Nat) : List Access :=
  (List.range count).map fun k => .write (address + BitVec.ofNat 32 (k * 2 ^ width)) width
    ((List.range (2 ^ width)).map fun lane => src (k * 2 ^ width + lane))

theorem bytesOf_pack (narrow : width ≤ 2) (src : Buffer) (index : Nat) :
    bytesOf width (riscv32PackData src index width) = (List.range (2 ^ width)).map fun lane => src (index + lane) := by
  apply List.map_congr_left
  intro lane inside
  exact riscv32PackData_lane narrow src index (List.mem_range.mp inside)

theorem writes_at (narrow : width ≤ 2) {k : Nat} (inside : k < count) : (writes address src width count)[k]? =
    some (.write (address + BitVec.ofNat 32 (k * 2 ^ width)) width (bytesOf width (riscv32PackData src (k * 2 ^ width) width))) := by
  simp [writes, List.getElem?_range inside, bytesOf_pack narrow]

section NativeWrite

/-- Before element `k` is written. -/
structure Writing (base : List Access) (address : BitVec 32) (src : Buffer) (width count k : Nat) (dm : DebugModule) : Prop where
  accesses : dm.accesses = base ++ (writes address src width count).take k
  error : dm.error = 0
  busyError : dm.busyError = false
  command : Command dm.control width (decide (1 < count)) false false
  address : k < count → dm.address = address + BitVec.ofNat 32 (k * 2 ^ width)

theorem Writing.looked {k : Nat} (writing : Writing base address src width count k dm) :
    Writing base address src width count k { dm with busy := dm.busy - 1 } where
  accesses := writing.accesses
  error := writing.error
  busyError := writing.busyError
  command := writing.command
  address := writing.address

theorem Writing.written {k : Nat} (writing : Writing base address src width count k dm) (idle : dm.busy = 0)
    (excuses : Excuses world excuse) (narrow : width ≤ 2) (inside : k < count) :
    Lost excuse base (writes address src width count)
        (dm.write world (.sysbusData0 (riscv32PackData src (k * 2 ^ width) width))) ∨
      Writing base address src width count (k + 1)
        (dm.write world (.sysbusData0 (riscv32PackData src (k * 2 ^ width) width))) := by
  generalize packed : riscv32PackData src (k * 2 ^ width) width = value
  have quiet : Quiet { dm with data := value } := ⟨idle, writing.error, writing.busyError⟩
  have wide : dm.width = width := writing.command.width
  have next : (writes address src width count)[k]? = some (.write dm.address dm.width (bytesOf dm.width value)) := by
    rw [writes_at narrow inside, writing.address inside, wide, packed]
  have performed := take_performed writing.accesses next
  have started : dm.write world (.sysbusData0 value) =
      ({ dm with data := value } : DebugModule).perform world (.write dm.address dm.width (bytesOf dm.width value)) :=
    if_neg (not_not.mpr idle)
  rw [started, perform_quiet quiet]
  simp only [performed]
  by_cases failed : world.error (base ++ (writes address src width count).take (k + 1)) = 0
  · refine .inr ⟨rfl, failed, writing.busyError, writing.command, fun more => ?_⟩
    have increments : ({ dm with data := value } : DebugModule).option rvSysbusMemAddrPostInc = true :=
      writing.command.increment.trans (decide_eq_true (by omega))
    have wider : ({ dm with data := value } : DebugModule).width = width := wide
    have advanced : dm.address + BitVec.ofNat 32 (2 ^ width) = address + BitVec.ofNat 32 ((k + 1) * 2 ^ width) := by
      rw [writing.address inside, BitVec.add_assoc, ← BitVec.ofNat_add, ← Nat.succ_mul]
    simp only [failed, increments, wider, and_self, if_true]
    exact advanced
  · exact .inl ⟨excuses.access _ failed, ⟨_, rfl⟩, .inl failed⟩

/-- Where the native write is once element `k` is about to be written. -/
def Passing (excuse : Prop) (base : List Access) (address : BitVec 32) (src : Buffer) (width count : Nat) (start : Buffer) (k : Nat)
    (dest : Buffer) (dm : DebugModule) : Prop :=
  Lost excuse base (writes address src width count) dm ∨ Writing base address src width count k dm ∧ dest = start

theorem Passing.begun {k : Nat} {dest : Buffer} (passing : Passing excuse base address src width count start k dest dm) :
    Begun base (writes address src width count) dm := by
  rcases passing with lost | going
  · exact lost.begun
  · exact ⟨_, going.1.accesses⟩

/-- The module is idle, unless it has been lost while it was busy. -/
def Idle (excuse : Prop) (base : List Access) (address : BitVec 32) (src : Buffer) (width count : Nat) (start : Buffer) (k : Nat)
    (dest : Buffer) (dm : DebugModule) : Prop :=
  Lost excuse base (writes address src width count) dm ∨
    (Writing base address src width count k dm ∧ dest = start) ∧ dm.busy = 0

theorem Idle.passing {k : Nat} {dest : Buffer} (idle : Idle excuse base address src width count start k dest dm) :
    Passing excuse base address src width count start k dest dm := idle.imp id And.left

theorem nativeWrites_run (excuses : Excuses world excuse) (narrow : width ≤ 2) (more : Nat) {k : Nat} (all : k + more = count) :
    Meets (At (Idle excuse base address src width count start k)) (nativeWrites world src width more k)
      (fun _ => At (Idle excuse base address src width count start count))
      (Left excuse (Begun base (writes address src width count))) := by
  induction more generalizing k with
  | zero =>
    obtain rfl : k = count := by omega
    exact meets_pure fun _ idle => idle
  | succ more ih =>
    have stored : Meets (At (Idle excuse base address src width count start k))
        (riscvDmWrite world (.sysbusData0 (riscv32PackData src (k * 2 ^ width) width)))
        (fun _ => At (Passing excuse base address src width count start (k + 1)))
        (Left excuse (Begun base (writes address src width count))) := by
      apply meets_write excuses fun _ _ idle => idle.passing.begun
      rintro dest dm (lost | ⟨⟨writing, so⟩, idle⟩)
      · exact .inl (lost.writeData _)
      · exact (writing.written idle excuses narrow (by omega)).imp id fun written => ⟨written, so⟩
    rw [nativeWrites]
    refine stored.bind fun _ => ?_
    refine (meets_waitSysbus excuses (fun _ _ passing => passing.begun) fun dest dm passing => ?_).bind fun _ => ?_
    · exact passing.imp Lost.looked fun going => ⟨going.1.looked, going.2⟩
    · refine (ih (by omega)).starting fun hart holds => ?_
      exact holds.1.imp id fun going => ⟨going, holds.2⟩

theorem write_started (unready : ¬ Quiet dm → excuse) (command : Command dm.control width (decide (1 < count)) false false) :
    Lost excuse dm.accesses (writes address src width count) (dm.write world (.sysbusAddr0 address)) ∨
      Writing dm.accesses address src width count 0 (dm.write world (.sysbusAddr0 address)) ∧
        (dm.write world (.sysbusAddr0 address)).busy = 0 := by
  have onAddr : ({ dm with address := address } : DebugModule).option Sysbus.rvSysbusMemReadOnAddr = false := command.onAddr
  have fresh : Begun dm.accesses (writes address src width count) dm := ⟨0, by simp⟩
  simp only [DebugModule.write, onAddr, Bool.false_eq_true, if_false]
  split
  next busy => exact .inl ⟨unready fun quiet => busy quiet.busy, fresh, .inr rfl⟩
  next idle =>
    by_cases stuck : dm.error ≠ 0 ∨ dm.busyError = true
    · refine .inl ⟨unready fun quiet => ?_, fresh, stuck⟩
      exact stuck.elim (fun failed => failed quiet.error) fun early => by simp [quiet.busyError] at early
    · simp only [not_or, not_not, Bool.not_eq_true] at stuck
      refine .inr ⟨⟨by simp, stuck.1, stuck.2, command, fun _ => ?_⟩, not_not.mp idle⟩
      rw [Nat.zero_mul, BitVec.add_zero]

theorem meets_nativeWrite (narrow : width ≤ 2) {hart : Hart} (excuses : Excuses world excuse)
    (unready : ¬ Quiet hart.dbgModule → excuse) :
    Meets (fun current => current = hart)
      (riscv32SysbusMemNativeWrite world address src (count * 2 ^ width) width (2 ^ width))
      (fun _ => At (Finished excuse hart.dbgModule.accesses (writes address src width count) Quiet hart.dest))
      (Left excuse (Begun hart.dbgModule.accesses (writes address src width count))) := by
  have command := write_command narrow (2 ^ width < count * 2 ^ width)
  have clean := write_clean narrow (2 ^ width < count * 2 ^ width)
  rw [riscv32SysbusMemNativeWrite, element_count]
  generalize (width <<< 17) ||| (if 2 ^ width < count * 2 ^ width then rvSysbusMemAddrPostInc else 0) = control at command clean
  simp only [several_elements] at command
  refine (meets_setUp excuses clean).bind fun _ => ?_
  have addressed : Meets (At fun dest dm => dest = hart.dest ∧ dm = { hart.dbgModule with control := control })
      (riscvDmWrite world (.sysbusAddr0 address))
      (fun _ => At (Idle excuse hart.dbgModule.accesses address src width count hart.dest 0))
      (Left excuse (Begun hart.dbgModule.accesses (writes address src width count))) := by
    apply meets_write excuses fun _ dm holds => ⟨0, by simp [holds.2]⟩
    rintro _ _ ⟨rfl, rfl⟩
    have started := @write_started world excuse address src width count { hart.dbgModule with control := control }
      (fun loud => unready fun quiet => loud ⟨quiet.busy, quiet.error, quiet.busyError⟩) command
    exact started.imp id fun writing => ⟨⟨writing.1, rfl⟩, writing.2⟩
  refine addressed.bind fun _ => (nativeWrites_run excuses narrow count (Nat.zero_add count)).bind fun _ => ?_
  refine (meets_sysbusCheck excuses).starting fun hart idle => ?_
  rcases idle with lost | ⟨⟨writing, so⟩, idle⟩
  · exact .inl ⟨lost.excused, lost.begun⟩
  · refine .inr ⟨?_, so, idle, writing.error, writing.busyError⟩
    rw [writing.accesses, List.take_of_length_le (by simp [writes])]

end NativeWrite

section Abstract

/-- A command for an access to memory. -/
structure MemoryCommand (command width : Nat) (writes increment : Bool) : Prop where
  kind : command >>> 24 = 2
  width : (command >>> rvAbstMemAccessShift) &&& 7 = width
  writes : decide (command &&& rvAbstWrite ≠ 0) = writes
  increment : decide (command &&& rvAbstMemAddrPostInc ≠ 0) = increment

theorem abstract_read_command (narrow : width ≤ 2) (several : Prop) [Decidable several] :
    MemoryCommand (rvDmAbstCmdAccessMem ||| rvAbstRead ||| (width <<< rvAbstMemAccessShift) |||
      (if several then rvAbstMemAddrPostInc else 0)) width false (decide several) := by
  by_cases more : several <;> simp only [more, if_true, if_false, decide_true, decide_false] <;>
    interval_cases width <;> constructor <;> decide

theorem abstract_write_command (narrow : width ≤ 2) (several : Prop) [Decidable several] :
    MemoryCommand (rvDmAbstCmdAccessMem ||| rvAbstWrite ||| (width <<< rvAbstMemAccessShift) |||
      (if several then rvAbstMemAddrPostInc else 0)) width true (decide several) := by
  by_cases more : several <;> simp only [more, if_true, if_false, decide_true, decide_false] <;>
    interval_cases width <;> constructor <;> decide

variable {expected : List Access} {command : Nat} {writing : Bool}

/-- No further command is carried out. -/
structure Refused (excuse : Prop) (base expected : List Access) (dm : DebugModule) : Prop where
  excused : excuse
  begun : Begun base expected dm
  refused : dm.commandError ≠ 0

/-- So many elements have been accessed, the next one is at this address. -/
structure Commanding (base expected : List Access) (next : BitVec 32) (k : Nat) (dm : DebugModule) : Prop where
  accesses : dm.accesses = base ++ expected.take k
  error : dm.commandError = 0
  arg1 : k < expected.length → dm.arg1 = next

/-- The access that a command stands for. -/
def commanded (writing : Bool) (width : Nat) (dm : DebugModule) : Access :=
  if writing then .write dm.arg1 width (bytesOf width dm.arg0) else .read dm.arg1 width

theorem execute_idle (memory : MemoryCommand command width writing increment) (idle : dm.commandBusy = 0)
    (unfailed : dm.commandError = 0) : dm.execute world command =
      { dm with
        arg0 := if writing then dm.arg0 else world.found (dm.accesses ++ [commanded writing width dm])
        arg1 :=
          if world.error (dm.accesses ++ [commanded writing width dm]) = 0 ∧ increment then dm.arg1 + BitVec.ofNat 32 (2 ^ width)
          else dm.arg1
        commandError := world.error (dm.accesses ++ [commanded writing width dm])
        commandBusy := world.delay (dm.accesses ++ [commanded writing width dm])
        accesses := dm.accesses ++ [commanded writing width dm] } := by
  rw [DebugModule.execute, if_neg (not_not.mpr unfailed), if_neg (not_not.mpr idle), if_neg (not_not.mpr memory.kind)]
  simp only [memory.width, memory.writes, commanded, ← memory.increment, decide_eq_true_eq]

theorem Refused.execute (refused : Refused excuse base expected dm) (command : Nat) :
    Refused excuse base expected (dm.execute world command) := by
  rw [DebugModule.execute, if_pos refused.refused]
  exact refused

/-- What element `k` is accessed by. -/
theorem executed {k : Nat} {next : BitVec 32} (commanding : Commanding base expected next k dm) (idle : dm.commandBusy = 0)
    (memory : MemoryCommand command width writing (decide (1 < expected.length))) (excuses : Excuses world excuse)
    (known : expected[k]? = some (commanded writing width dm)) :
    Refused excuse base expected (dm.execute world command) ∨
      Commanding base expected (next + BitVec.ofNat 32 (2 ^ width)) (k + 1) (dm.execute world command) ∧
        (writing = false → (dm.execute world command).arg0 = world.found (base ++ expected.take (k + 1))) := by
  have performed := take_performed commanding.accesses known
  rw [execute_idle memory idle commanding.error, performed]
  by_cases failed : world.error (base ++ expected.take (k + 1)) = 0
  · refine .inr ⟨⟨rfl, failed, fun more => ?_⟩, fun reads => by simp only [reads, Bool.false_eq_true, if_false]⟩
    have several : 1 < expected.length := by omega
    simp only [failed, several, decide_true, and_self, if_true, commanding.arg1 (by omega)]
  · exact .inl ⟨excuses.access _ failed, ⟨_, rfl⟩, failed⟩

theorem abstract_polled : Polled world .abstCtrlStatus rvDmAbstStatusBusy DebugModule.commandBusy where
  busy dm := by
    have bits : ∀ error : BitVec 3, ((0x1000 ||| error.toNat <<< 8) &&& 0x1000 ≠ 0) ∧
        ((0 ||| error.toNat <<< 8) &&& 0x1000 = 0) := by decide
    simp only [DebugModule.read, rvDmAbstStatusBusy]
    split
    next some => exact iff_of_true (bits dm.commandError).1 some
    next none => exact iff_of_false (not_not.mpr (bits dm.commandError).2) none
  counts dm := rfl

variable {assertion : Buffer → DebugModule → Prop}

/-- What the status of a command that is over tells. -/
def Told (excuse : Prop) (base expected : List Access) (assertion : Buffer → DebugModule → Prop) (status : Nat) (dest : Buffer)
    (dm : DebugModule) : Prop :=
  ((status >>> 8) &&& 7 ≠ 0 ∧ excuse ∧ Begun base expected dm ∨ (status >>> 8) &&& 7 = 0 ∧ assertion dest dm) ∧
    dm.commandBusy = 0

/-- A wait for a command goes on only after those that have not failed. -/
theorem meets_commandWait (excuses : Excuses world excuse) (begun : ∀ dest dm, assertion dest dm → Begun base expected dm)
    (unfailed : ∀ dest dm, assertion dest dm → dm.commandError = 0)
    (stable : ∀ dest dm, assertion dest dm → assertion dest { dm with commandBusy := dm.commandBusy - 1 }) :
    Meets (At fun dest dm => Refused excuse base expected dm ∨ assertion dest dm) (riscvCommandWaitComplete world)
      (fun _ => At fun dest dm => assertion dest dm ∧ dm.commandBusy = 0) (Left excuse (Begun base expected)) := by
  refine meets_reading fun hart holds => ?_
  have leaves : ∀ dest dm, Refused excuse base expected dm ∨ assertion dest dm → Begun base expected dm :=
    fun dest dm cases => cases.elim (fun refused => refused.begun) (begun dest dm)
  have waits := @meets_waitWhile world excuse (Begun base expected)
    (fun dest dm => Refused excuse base expected dm ∨ assertion dest dm) .abstCtrlStatus rvDmAbstStatusBusy
    DebugModule.commandBusy
    (Told excuse base expected assertion) abstract_polled excuses leaves
    (fun dest dm cases => cases.imp (fun refused => ⟨refused.excused, refused.begun, refused.refused⟩) (stable dest dm))
    (fun dest dm cases idle => by
      have fields : ∀ error : BitVec 3, ((0 ||| error.toNat <<< 8) >>> 8 &&& 7 = 0 ↔ error = 0) := by decide
      simp only [Told, DebugModule.read, idle, ne_eq, not_true_eq_false, if_false, fields, and_true]
      refine cases.imp (fun refused => ⟨refused.refused, refused.excused, refused.begun⟩) fun fine => ?_
      exact ⟨unfailed dest dm fine, by simpa only [idle] using stable dest dm fine⟩)
    (hart.dbgModule.commandBusy + 1)
  refine (waits.known ⟨holds, Nat.lt_succ_self _⟩).bind fun status => ?_
  have noted : Meets (At (Told excuse base expected assertion status)) (setStatus ((status >>> 8) &&& 7))
      (fun _ => At fun dest dm => ((status >>> 8) &&& 7 ≠ 0 ∧ excuse ∧ Begun base expected dm ∨
      (status >>> 8) &&& 7 = 0 ∧ assertion dest dm) ∧ dm.commandBusy = 0) (Left excuse (Begun base expected)) :=
    meets_change fun _ current => current
  refine noted.bind fun _ => ?_
  have cleared : Meets (At (Told excuse base expected assertion status)) (riscvDmWrite world (.abstCtrlStatus (7 <<< 8)))
      (fun _ => At fun dest dm => ((status >>> 8) &&& 7 ≠ 0 ∧ excuse ∧ Begun base expected dm ∨
      (status >>> 8) &&& 7 = 0 ∧ assertion dest dm) ∧ dm.commandBusy = 0) (Left excuse (Begun base expected)) := by
    apply meets_write excuses
    · exact fun dest dm current => current.1.elim (fun failed => failed.2.2) fun fine => begun dest dm fine.2
    · rintro dest dm ⟨current, idle⟩
      rw [DebugModule.write, DebugModule.unlessBusy, if_pos idle]
      refine ⟨current.imp id fun fine => ⟨fine.1, ?_⟩, idle⟩
      have same : dm.commandError &&& ~~~BitVec.ofNat 3 (7 <<< 8 >>> 8) = dm.commandError := by
        rw [unfailed dest dm fine.2]
        exact BitVec.zero_and
      rw [same]
      exact fine.2
  refine cleared.bind fun _ => meets_ite (fun fine => ?_) fun failed => ?_
  · exact meets_pure fun _ current => ⟨(current.1.resolve_left fun bad => bad.1 fine).2, current.2⟩
  · refine meets_stop fun _ current => ⟨rfl, ?_⟩
    exact (current.1.resolve_right fun good => failed good.1).2

end Abstract

section AbstractRuns

/-- The module takes commands. -/
structure CommandIdle (dm : DebugModule) : Prop where
  busy : dm.commandBusy = 0
  error : dm.commandError = 0

theorem reads_length : (reads address width count).length = count := by simp [reads]

theorem writes_length : (writes address src width count).length = count := by simp [writes]

/-- Where an access by commands is before element `k`. -/
def Between (excuse : Prop) (base expected : List Access) (next : BitVec 32) (content : Buffer) (k : Nat) (dest : Buffer)
    (dm : DebugModule) : Prop :=
  Refused excuse base expected dm ∨ (Commanding base expected next k dm ∧ dest = content) ∧ dm.commandBusy = 0

variable {expected : List Access} {next : BitVec 32} {content : Buffer} {command : Nat}

theorem Between.begun {k : Nat} {dest : Buffer} (between : Between excuse base expected next content k dest dm) :
    Begun base expected dm := by
  rcases between with refused | ⟨⟨commanding, -⟩, -⟩
  · exact refused.begun
  · exact ⟨_, commanding.accesses⟩

theorem Between.finished {k : Nat} {dest : Buffer} (between : Between excuse base expected next content k dest dm)
    (all : expected.length = k) : Finished excuse base expected CommandIdle content dest dm := by
  rcases between with refused | ⟨⟨commanding, so⟩, idle⟩
  · exact .inl ⟨refused.excused, refused.begun⟩
  · refine .inr ⟨?_, so, idle, commanding.error⟩
    rw [commanding.accesses, ← all, List.take_length]

theorem Commanding.settled {k : Nat} (commanding : Commanding base expected next k dm) :
    Commanding base expected next k { dm with commandBusy := dm.commandBusy - 1 } :=
  ⟨commanding.accesses, commanding.error, commanding.arg1⟩

theorem next_element (address : BitVec 32) (width k : Nat) : address + BitVec.ofNat 32 (k * 2 ^ width) + BitVec.ofNat 32 (2 ^ width) =
    address + BitVec.ofNat 32 ((k + 1) * 2 ^ width) := by
  rw [BitVec.add_assoc, ← BitVec.ofNat_add, ← Nat.succ_mul]

/-- The address is taken unless a command is going on. -/
theorem meets_addressed {hart : Hart} (excuses : Excuses world excuse) (unready : ¬ CommandIdle hart.dbgModule → excuse) :
    Meets (fun current => current = hart) (riscvDmWrite world (.data1 address))
      (fun _ => At (Between excuse hart.dbgModule.accesses expected address hart.dest 0))
      (Left excuse (Begun hart.dbgModule.accesses expected)) := by
  have fresh : Begun hart.dbgModule.accesses expected hart.dbgModule := ⟨0, by simp⟩
  have stored : Meets (At fun dest dm => dest = hart.dest ∧ dm = hart.dbgModule) (riscvDmWrite world (.data1 address))
      (fun _ => At (Between excuse hart.dbgModule.accesses expected address hart.dest 0))
      (Left excuse (Begun hart.dbgModule.accesses expected)) := by
    apply meets_write excuses
    · rintro _ _ ⟨-, rfl⟩
      exact fresh
    · rintro _ _ ⟨rfl, rfl⟩
      simp only [DebugModule.write, DebugModule.unlessBusy]
      split
      next idle =>
        by_cases failed : hart.dbgModule.commandError = 0
        · exact .inr ⟨⟨⟨by simp, failed, fun _ => rfl⟩, rfl⟩, idle⟩
        · exact .inl ⟨unready fun ready => failed ready.error, fresh, failed⟩
      next busy =>
        refine .inl ⟨unready fun ready => busy ready.busy, fresh, ?_⟩
        split
        next => exact (by decide : (1 : BitVec 3) ≠ 0)
        next failed => exact failed
  exact stored.known ⟨rfl, rfl⟩

theorem abstractReads_run (excuses : Excuses world excuse) (memory : MemoryCommand command width false (decide (1 < count)))
    (more : Nat) {k : Nat} (all : k + more = count) :
    Meets (At (Between excuse base (reads address width count) (address + BitVec.ofNat 32 (k * 2 ^ width))
        (filled world base address width count start k) k))
      (abstractReads world width command more k)
      (fun _ => At (Between excuse base (reads address width count) (address + BitVec.ofNat 32 (count * 2 ^ width))
        (filled world base address width count start count) count))
      (Left excuse (Begun base (reads address width count))) := by
  induction more generalizing k with
  | zero =>
    obtain rfl : k = count := by omega
    exact meets_pure fun _ between => between
  | succ more ih =>
    have sent : Meets (At (Between excuse base (reads address width count) (address + BitVec.ofNat 32 (k * 2 ^ width))
          (filled world base address width count start k) k)) (riscvDmWrite world (.abstCommand command))
        (fun _ => At fun dest dm => Refused excuse base (reads address width count) dm ∨
          Commanding base (reads address width count) (address + BitVec.ofNat 32 ((k + 1) * 2 ^ width)) (k + 1) dm ∧
            dest = filled world base address width count start k ∧
            dm.arg0 = world.found (base ++ (reads address width count).take (k + 1)))
        (Left excuse (Begun base (reads address width count))) := by
      apply meets_write excuses fun _ _ between => between.begun
      rintro dest dm (refused | ⟨⟨commanding, so⟩, idle⟩)
      · exact .inl (refused.execute command)
      · have known : (reads address width count)[k]? = some (commanded false width dm) := by
          rw [reads_at (by omega), commanded, commanding.arg1 (by rw [reads_length]; omega)]
          rfl
        rw [← @reads_length address width count] at memory
        refine (executed commanding idle memory excuses known).imp id fun done => ?_
        rw [next_element] at done
        exact ⟨done.1, so, done.2 rfl⟩
    rw [abstractReads]
    refine sent.bind fun _ => ?_
    refine (meets_commandWait excuses (fun _ _ holds => ⟨_, holds.1.accesses⟩) (fun _ _ holds => holds.1.error)
      fun _ _ holds => ⟨holds.1.settled, holds.2⟩).bind fun _ => ?_
    have fetched : Meets (At fun dest dm => (Commanding base (reads address width count)
          (address + BitVec.ofNat 32 ((k + 1) * 2 ^ width)) (k + 1) dm ∧ dest = filled world base address width count start k ∧
          dm.arg0 = world.found (base ++ (reads address width count).take (k + 1))) ∧ dm.commandBusy = 0)
        (riscvDmRead world .data0)
        (fun value => At fun dest dm => Commanding base (reads address width count)
          (address + BitVec.ofNat 32 ((k + 1) * 2 ^ width)) (k + 1) dm ∧ dm.commandBusy = 0 ∧
          dest = filled world base address width count start k ∧
          BitVec.ofNat 32 value = world.found (base ++ (reads address width count).take (k + 1)))
        (Left excuse (Begun base (reads address width count))) := by
      apply meets_dmRead excuses fun _ _ holds => ⟨_, holds.1.1.accesses⟩
      rintro dest dm ⟨⟨commanding, so, found⟩, idle⟩
      rw [DebugModule.read, DebugModule.unlessBusy, if_pos idle]
      refine ⟨commanding, idle, so, ?_⟩
      rw [← found]
      exact BitVec.ofNat_toNat _ _ |>.trans (BitVec.setWidth_eq _)
    refine fetched.bind fun value => ?_
    refine (meets_unpackData fun dest dm holds => ?_).bind fun _ => ih (by omega)
    refine .inr ⟨⟨holds.1, ?_⟩, holds.2.1⟩
    rw [filled, holds.2.2.1, holds.2.2.2]

theorem meets_abstractRead {len : Nat} {hart : Hart} (excuses : Excuses world excuse)
    (unready : ¬ CommandIdle hart.dbgModule → excuse) (wide : riscvMemAccessWidth address.toNat len = width)
    (whole : len = count * 2 ^ width) :
    Meets (fun current => current = hart) (riscv32AbstractMemRead world address len)
      (fun _ => At (Finished excuse hart.dbgModule.accesses (reads address width count) CommandIdle
        (filled world hart.dbgModule.accesses address width count hart.dest count)))
      (Left excuse (Begun hart.dbgModule.accesses (reads address width count))) := by
  have narrow : width ≤ 2 := wide ▸ (accessWidth_spec address.toNat len).1
  have memory := abstract_read_command narrow (2 ^ width < len)
  rw [riscv32AbstractMemRead]
  simp only [wide]
  generalize rvDmAbstCmdAccessMem ||| rvAbstRead ||| (width <<< rvAbstMemAccessShift) |||
    (if 2 ^ width < len then rvAbstMemAddrPostInc else 0) = command at memory
  subst whole
  rw [element_count]
  simp only [several_elements] at memory
  have run := @abstractReads_run world excuse hart.dbgModule.accesses address width count hart.dest command excuses memory count 0
    (Nat.zero_add count)
  rw [Nat.zero_mul, BitVec.add_zero] at run
  refine (meets_addressed excuses unready).bind fun _ => ?_
  exact run.returning fun _ _ between => between.finished reads_length

theorem abstractWrites_run (excuses : Excuses world excuse) (narrow : width ≤ 2)
    (memory : MemoryCommand command width true (decide (1 < count))) (more : Nat) {k : Nat} (all : k + more = count) :
    Meets (At (Between excuse base (writes address src width count) (address + BitVec.ofNat 32 (k * 2 ^ width)) start k))
      (abstractWrites world src width command more k)
      (fun _ => At (Between excuse base (writes address src width count) (address + BitVec.ofNat 32 (count * 2 ^ width))
        start count))
      (Left excuse (Begun base (writes address src width count))) := by
  induction more generalizing k with
  | zero =>
    obtain rfl : k = count := by omega
    exact meets_pure fun _ between => between
  | succ more ih =>
    have stored : Meets (At (Between excuse base (writes address src width count) (address + BitVec.ofNat 32 (k * 2 ^ width))
          start k)) (riscvDmWrite world (.data0 (riscv32PackData src (k * 2 ^ width) width)))
        (fun _ => At fun dest dm => Refused excuse base (writes address src width count) dm ∨
          (Commanding base (writes address src width count) (address + BitVec.ofNat 32 (k * 2 ^ width)) k dm ∧ dest = start) ∧
            dm.commandBusy = 0 ∧ dm.arg0 = riscv32PackData src (k * 2 ^ width) width)
        (Left excuse (Begun base (writes address src width count))) := by
      apply meets_write excuses fun _ _ between => between.begun
      rintro dest dm (refused | ⟨⟨commanding, so⟩, idle⟩)
      · left
        simp only [DebugModule.write, DebugModule.unlessBusy]
        split
        next => exact ⟨refused.excused, refused.begun, refused.refused⟩
        next =>
          refine ⟨refused.excused, refused.begun, ?_⟩
          rw [if_neg refused.refused]
          exact refused.refused
      · right
        rw [DebugModule.write, DebugModule.unlessBusy, if_pos idle]
        exact ⟨⟨⟨commanding.accesses, commanding.error, commanding.arg1⟩, so⟩, idle, rfl⟩
    have sent : Meets (At fun dest dm => Refused excuse base (writes address src width count) dm ∨
          (Commanding base (writes address src width count) (address + BitVec.ofNat 32 (k * 2 ^ width)) k dm ∧ dest = start) ∧
            dm.commandBusy = 0 ∧ dm.arg0 = riscv32PackData src (k * 2 ^ width) width)
        (riscvDmWrite world (.abstCommand command))
        (fun _ => At fun dest dm => Refused excuse base (writes address src width count) dm ∨
          Commanding base (writes address src width count) (address + BitVec.ofNat 32 ((k + 1) * 2 ^ width)) (k + 1) dm ∧
            dest = start)
        (Left excuse (Begun base (writes address src width count))) := by
      apply meets_write excuses
      · exact fun _ _ cases => cases.elim (fun refused => refused.begun) fun going => ⟨_, going.1.1.accesses⟩
      · rintro dest dm (refused | ⟨⟨commanding, so⟩, idle, packed⟩)
        · exact .inl (refused.execute command)
        · have known : (writes address src width count)[k]? = some (commanded true width dm) := by
            rw [writes_at narrow (by omega), commanded, commanding.arg1 (by rw [writes_length]; omega), packed]
            rfl
          rw [← @writes_length address src width count] at memory
          refine (executed commanding idle memory excuses known).imp id fun done => ?_
          rw [next_element] at done
          exact ⟨done.1, so⟩
    rw [abstractWrites]
    refine stored.bind fun _ => sent.bind fun _ => ?_
    refine (meets_commandWait excuses (fun _ _ holds => ⟨_, holds.1.accesses⟩) (fun _ _ holds => holds.1.error)
      fun _ _ holds => ⟨holds.1.settled, holds.2⟩).bind fun _ => ?_
    exact (ih (by omega)).starting fun _ holds => .inr holds

theorem meets_abstractWrite {len : Nat} {hart : Hart} (excuses : Excuses world excuse)
    (unready : ¬ CommandIdle hart.dbgModule → excuse) (wide : riscvMemAccessWidth address.toNat len = width)
    (whole : len = count * 2 ^ width) :
    Meets (fun current => current = hart) (riscv32AbstractMemWrite world address src len)
      (fun _ => At (Finished excuse hart.dbgModule.accesses (writes address src width count) CommandIdle hart.dest))
      (Left excuse (Begun hart.dbgModule.accesses (writes address src width count))) := by
  have narrow : width ≤ 2 := wide ▸ (accessWidth_spec address.toNat len).1
  have memory := abstract_write_command narrow (2 ^ width < len)
  rw [riscv32AbstractMemWrite]
  simp only [wide]
  generalize rvDmAbstCmdAccessMem ||| rvAbstWrite ||| (width <<< rvAbstMemAccessShift) |||
    (if 2 ^ width < len then rvAbstMemAddrPostInc else 0) = command at memory
  subst whole
  rw [element_count]
  simp only [several_elements] at memory
  have run := @abstractWrites_run world excuse hart.dbgModule.accesses address src width count hart.dest command excuses narrow
    memory count 0 (Nat.zero_add count)
  rw [Nat.zero_mul, BitVec.add_zero] at run
  refine (meets_addressed excuses unready).bind fun _ => ?_
  exact run.returning fun _ _ between => between.finished writes_length

end AbstractRuns

section Exact

/-- A world in which nothing fails. -/
structure Sound (world : World) : Prop where
  transfers : ∀ n, world.fails n = false
  accesses : ∀ accesses, world.error accesses = 0

/-- What a read or write has done, however it ended. -/
structure Performed (world : World) (ready : DebugModule → Prop) (hart : Hart) (expected : List Access) (content : Buffer)
    (run : Except Halt Unit × Hart) : Prop where
  begun : Begun hart.dbgModule.accesses expected run.2.dbgModule
  ends : run.1 ≠ .error .hung
  complete : Sound world → ready hart.dbgModule → run.1 = .ok () ∧
    run.2.dbgModule.accesses = hart.dbgModule.accesses ++ expected ∧ run.2.dest = content ∧ ready run.2.dbgModule

theorem performed_of_meets {ready : DebugModule → Prop} {hart : Hart} {expected : List Access} {content : Buffer}
    {program : Action Unit} (met : ∀ excuse : Prop, Excuses world excuse → (¬ ready hart.dbgModule → excuse) →
      Meets (fun current => current = hart) program
        (fun _ => At (Finished excuse hart.dbgModule.accesses expected ready content))
        (Left excuse (Begun hart.dbgModule.accesses expected))) :
    Performed world ready hart expected content (program hart) := by
  have result := met (¬ (Sound world ∧ ready hart.dbgModule))
    ⟨fun n failed both => by simp [both.1.transfers n] at failed, fun accesses failed both => failed (both.1.accesses accesses)⟩
    (fun unready both => unready both.2) hart rfl
  generalize program hart = run at result ⊢
  obtain ⟨ending, final⟩ := run
  cases ending with
  | ok value =>
    have finished : Finished (¬ (Sound world ∧ ready hart.dbgModule)) hart.dbgModule.accesses expected ready content final.dest
      final.dbgModule := result
    refine ⟨finished.begun, (fun never => by cases never), fun sound idle => ⟨rfl, ?_⟩⟩
    rcases finished with ⟨excused, -⟩ | done
    · exact absurd ⟨sound, idle⟩ excused
    · exact done
  | error reason =>
    obtain ⟨rfl, excused, begun⟩ := result
    exact ⟨begun, (fun never => by cases never), fun sound idle => absurd ⟨sound, idle⟩ excused⟩

/-- An access lies inside a stretch of memory. -/
def Inside (address : BitVec 32) (len : Nat) (access : Access) : Prop :=
  ∃ offset, access.address = address + BitVec.ofNat 32 offset ∧ offset + 2 ^ access.width ≤ len

theorem element_inside {k : Nat} (inside : k < count) : k * 2 ^ width + 2 ^ width ≤ count * 2 ^ width := by
  rw [← Nat.succ_mul]
  exact Nat.mul_le_mul_right _ inside

theorem reads_inside {access : Access} (read : access ∈ reads address width count) : Inside address (count * 2 ^ width) access := by
  obtain ⟨k, inside, rfl⟩ := List.mem_map.mp read
  exact ⟨k * 2 ^ width, rfl, element_inside (List.mem_range.mp inside)⟩

theorem writes_inside {access : Access} (written : access ∈ writes address src width count) :
    Inside address (count * 2 ^ width) access := by
  obtain ⟨k, inside, rfl⟩ := List.mem_map.mp written
  exact ⟨k * 2 ^ width, rfl, element_inside (List.mem_range.mp inside)⟩

/-- Every read and write of a hart, with what it performs. -/
structure ExactAccesses (world : World) (hart : Hart) : Prop where
  nativeRead : ∀ address width count, width ≤ 2 → 0 < count →
    Performed world Quiet hart (reads address width count)
      (filled world hart.dbgModule.accesses address width count hart.dest count)
      (riscv32SysbusMemNativeRead world address (count * 2 ^ width) width (2 ^ width) hart)
  nativeWrite : ∀ address src width count, width ≤ 2 → 0 < count →
    Performed world Quiet hart (writes address src width count) hart.dest
      (riscv32SysbusMemNativeWrite world address src (count * 2 ^ width) width (2 ^ width) hart)
  abstractRead : ∀ address len width count, riscvMemAccessWidth address.toNat len = width → len = count * 2 ^ width →
    Performed world CommandIdle hart (reads address width count)
      (filled world hart.dbgModule.accesses address width count hart.dest count) (riscv32AbstractMemRead world address len hart)
  abstractWrite : ∀ address src len width count, riscvMemAccessWidth address.toNat len = width → len = count * 2 ^ width →
    Performed world CommandIdle hart (writes address src width count) hart.dest
      (riscv32AbstractMemWrite world address src len hart)
  whole : ∀ (address : BitVec 32) len, ∃ count, len = count * 2 ^ riscvMemAccessWidth address.toNat len
  inside : ∀ address src width count access, access ∈ reads address width count ∨ access ∈ writes address src width count →
    Inside address (count * 2 ^ width) access

theorem accesses_exact (world : World) (hart : Hart) : ExactAccesses world hart where
  nativeRead _ _ _ narrow nonempty :=
    performed_of_meets fun _ excuses unready => meets_nativeRead narrow nonempty excuses unready
  nativeWrite _ _ _ _ narrow _ := performed_of_meets fun _ excuses unready => meets_nativeWrite narrow excuses unready
  abstractRead _ _ _ _ wide whole := performed_of_meets fun _ excuses unready => meets_abstractRead excuses unready wide whole
  abstractWrite _ _ _ _ _ wide whole := performed_of_meets fun _ excuses unready => meets_abstractWrite excuses unready wide whole
  whole address len := by
    obtain ⟨-, -, multiple, -⟩ := accessWidth_spec address.toNat len
    exact ⟨_, (Nat.div_mul_cancel (Nat.dvd_of_mod_eq_zero multiple)).symm⟩
  inside _ _ _ _ _ expected := expected.elim reads_inside writes_inside

end Exact

end BlackMagic.Proofs.RiscvMemoryExact

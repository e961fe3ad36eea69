import BlackMagic.RiscvMemory
import BlackMagic.Proofs.SysbusTransfer

/-! Reads and writes of a RISC-V hart perform one access for each of their elements and no other, although reads are started one
step ahead of the data. Where a transfer or an access fails, they perform the first ones of these only. -/

namespace BlackMagic.Proofs.RiscvMemoryAccesses
open Lib Lib.Program Lib.Words RiscvMemory
open Sysbus (rvSysbusMemReadOnAddr rvSysbusMemAddrPostInc rvSysbusMemReadOnData riscv32UnpackData riscv32PackData
  riscvMemAccessWidth)
open SysbusTransfer (Command read_command write_command zero_command riscv32PackData_lane accessWidth_spec)

variable {world : World}

section Transfers

/-- What goes wrong in the world is an excuse. -/
structure Excuses (world : World) (excuse : Prop) : Prop where
  transfer : ∀ n, world.fails n = true → excuse
  access : ∀ accesses, world.error accesses ≠ 0 → excuse

/-- An assertion about the buffer and the module. -/
def At (assertion : Buffer → DebugModule → Prop) (hart : Hart) : Prop := assertion hart.dest hart.dbgModule

/-- How an access ends early. -/
def Left (excuse : Prop) (left : DebugModule → Prop) (reason : Halt) (hart : Hart) : Prop :=
  reason = .returned ∧ excuse ∧ left hart.dbgModule

variable {excuse : Prop} {left : DebugModule → Prop} {before after : Buffer → DebugModule → Prop}

theorem meets_transfer (excuses : Excuses world excuse) (leaves : ∀ dest dm, before dest dm → left dm) :
    Meets (At before) (transfer world) (fun _ => At before) (Left excuse left) := by
  refine meets_reading fun hart holds => ?_
  have counted : Meets (fun current => current = hart) (change fun hart => { hart with transfers := hart.transfers + 1 })
      (fun _ => At before) (Left excuse left) := by
    rintro _ rfl
    exact holds
  refine counted.bind fun _ => meets_ite (fun failed => ?_) fun _ => ?_
  · exact meets_stop fun _ current => ⟨rfl, excuses.transfer _ failed, leaves _ _ current⟩
  · exact meets_pure fun _ current => current

theorem meets_write {write : Write} (excuses : Excuses world excuse) (leaves : ∀ dest dm, before dest dm → left dm)
    (step : ∀ dest dm, before dest dm → after dest (dm.write world write)) :
    Meets (At before) (riscvDmWrite world write) (fun _ => At after) (Left excuse left) :=
  (meets_transfer excuses leaves).bind fun _ => meets_change fun _ holds => step _ _ holds

theorem meets_dmRead {register : Register} {after : Nat → Buffer → DebugModule → Prop} (excuses : Excuses world excuse)
    (leaves : ∀ dest dm, before dest dm → left dm)
    (step : ∀ dest dm, before dest dm → after (dm.read world register).1 dest (dm.read world register).2) :
    Meets (At before) (riscvDmRead world register) (fun value => At (after value)) (Left excuse left) := by
  refine (meets_transfer excuses leaves).bind fun _ => meets_reading fun hart holds => ?_
  have changed : Meets (fun current => current = hart) (changeModule fun dm => (dm.read world register).2)
      (fun _ => At (after (hart.dbgModule.read world register).1)) (Left excuse left) := by
    rintro _ rfl
    exact step _ _ holds
  exact changed.bind fun _ => meets_pure fun _ current => current

theorem meets_unpackData {index : Nat} {value : BitVec 32} {width : Nat}
    (step : ∀ dest dm, before dest dm → after (riscv32UnpackData dest index value width) dm) :
    Meets (At before) (unpackData index value width) (fun _ => At after) (Left excuse left) :=
  meets_change fun _ holds => step _ _ holds

/-- A status shows whether a count has come to an end, and goes on with it. -/
structure Polled (world : World) (register : Register) (mask : Nat) (count : DebugModule → Nat) : Prop where
  busy : ∀ dm, (dm.read world register).1 &&& mask ≠ 0 ↔ count dm ≠ 0
  counts : ∀ dm, count (dm.read world register).2 = count dm - 1

theorem meets_waitWhile {register : Register} {mask : Nat} {count : DebugModule → Nat}
    {after : Nat → Buffer → DebugModule → Prop} (polled : Polled world register mask count) (excuses : Excuses world excuse)
    (leaves : ∀ dest dm, before dest dm → left dm)
    (stable : ∀ dest dm, before dest dm → before dest (dm.read world register).2)
    (ends : ∀ dest dm, before dest dm → count dm = 0 →
      after (dm.read world register).1 dest (dm.read world register).2) (looks : Nat) :
    Meets (At fun dest dm => before dest dm ∧ count dm < looks) (waitWhile world register mask looks)
      (fun status => At (after status)) (Left excuse left) := by
  induction looks with
  | zero => exact fun _ holds => absurd holds.2 (Nat.not_lt_zero _)
  | succ looks ih =>
    have look : Meets (At fun dest dm => before dest dm ∧ count dm < looks + 1) (riscvDmRead world register)
        (fun status => At fun dest dm => (status &&& mask ≠ 0 → before dest dm ∧ count dm < looks) ∧
          (¬ status &&& mask ≠ 0 → after status dest dm)) (Left excuse left) := by
      apply meets_dmRead excuses fun dest dm holds => leaves dest dm holds.1
      rintro dest dm ⟨holds, room⟩
      constructor
      · intro busy
        have some := (polled.busy dm).mp busy
        refine ⟨stable dest dm holds, ?_⟩
        rw [polled.counts]
        omega
      · intro idle
        exact ends dest dm holds (by simpa only [polled.busy, ne_eq, Decidable.not_not] using idle)
    refine look.bind fun status => meets_ite (fun busy => ?_) fun idle => ?_
    · exact ih.starting fun _ holds => holds.1 busy
    · exact meets_pure fun _ holds => holds.2 idle

end Transfers

section Module

variable {excuse : Prop} {base expected : List Access} {dm : DebugModule}

/-- The first ones of the expected accesses have been performed. -/
def Begun (base expected : List Access) (dm : DebugModule) : Prop := ∃ j, dm.accesses = base ++ expected.take j

/-- No further access over the system bus is performed. -/
structure Lost (excuse : Prop) (base expected : List Access) (dm : DebugModule) : Prop where
  excused : excuse
  begun : Begun base expected dm
  stuck : dm.error ≠ 0 ∨ dm.busyError = true

structure Quiet (dm : DebugModule) : Prop where
  busy : dm.busy = 0
  error : dm.error = 0
  busyError : dm.busyError = false

theorem perform_quiet (quiet : Quiet dm) (access : Access) : dm.perform world access =
    { dm with
      data := if access.reads then world.found (dm.accesses ++ [access]) else dm.data
      address :=
        if world.error (dm.accesses ++ [access]) = 0 ∧ dm.option rvSysbusMemAddrPostInc then
          dm.address + BitVec.ofNat 32 (2 ^ dm.width)
        else dm.address
      error := world.error (dm.accesses ++ [access])
      busy := world.delay (dm.accesses ++ [access])
      accesses := dm.accesses ++ [access] } := by
  rw [DebugModule.perform, if_neg (not_not.mpr quiet.busy), if_neg (by simp [quiet.error, quiet.busyError])]

theorem Lost.perform (lost : Lost excuse base expected dm) (access : Access) :
    Lost excuse base expected (dm.perform world access) := by
  rw [DebugModule.perform]
  split
  · exact ⟨lost.excused, lost.begun, .inr rfl⟩
  · rw [if_pos lost.stuck]
    exact lost

theorem Lost.writeAddress (lost : Lost excuse base expected dm) (value : BitVec 32) :
    Lost excuse base expected (dm.write world (.sysbusAddr0 value)) := by
  have moved : Lost excuse base expected { dm with address := value } := ⟨lost.excused, lost.begun, lost.stuck⟩
  simp only [DebugModule.write]
  split
  · exact ⟨lost.excused, lost.begun, .inr rfl⟩
  · split
    · exact moved.perform _
    · exact moved

theorem Lost.writeData (lost : Lost excuse base expected dm) (value : BitVec 32) :
    Lost excuse base expected (dm.write world (.sysbusData0 value)) := by
  have stored : Lost excuse base expected { dm with data := value } := ⟨lost.excused, lost.begun, lost.stuck⟩
  simp only [DebugModule.write]
  split
  · exact ⟨lost.excused, lost.begun, .inr rfl⟩
  · exact stored.perform _

theorem Lost.readData (lost : Lost excuse base expected dm) :
    Lost excuse base expected (dm.read world .sysbusData0).2 := by
  simp only [DebugModule.read]
  split
  · exact lost.perform _
  · exact lost

/-- A control word that clears no error. -/
structure Clean (control : Nat) : Prop where
  error : BitVec.ofNat 3 (control >>> 12) = 0
  busyError : control.testBit 22 = false

theorem writeControl_clean {control : Nat} (clean : Clean control) (dm : DebugModule) :
    dm.write world (.sysbusCtrlStatus control) = { dm with control := control } := by
  have kept : ∀ error : BitVec 3, error &&& ~~~0 = error := by decide
  simp only [DebugModule.write, clean.error, clean.busyError, kept, Bool.not_false, Bool.and_true]

theorem Lost.writeControl (lost : Lost excuse base expected dm) {control : Nat} (clean : Clean control) :
    Lost excuse base expected (dm.write world (.sysbusCtrlStatus control)) := by
  rw [writeControl_clean clean]
  exact ⟨lost.excused, lost.begun, lost.stuck⟩

theorem zero_clean : Clean 0 := ⟨rfl, rfl⟩

theorem read_clean {width : Nat} (narrow : width ≤ 2) (several : Prop) [Decidable several] :
    Clean ((width <<< 17) ||| rvSysbusMemReadOnAddr |||
      (if several then rvSysbusMemAddrPostInc ||| rvSysbusMemReadOnData else 0)) := by
  by_cases more : several <;> simp only [more, if_true, if_false] <;> interval_cases width <;> constructor <;> decide

theorem write_clean {width : Nat} (narrow : width ≤ 2) (several : Prop) [Decidable several] :
    Clean ((width <<< 17) ||| (if several then rvSysbusMemAddrPostInc else 0)) := by
  by_cases more : several <;> simp only [more, if_true, if_false] <;> interval_cases width <;> constructor <;> decide

theorem take_performed {k : Nat} {access : Access} (so : dm.accesses = base ++ expected.take k)
    (next : expected[k]? = some access) : dm.accesses ++ [access] = base ++ expected.take (k + 1) := by
  rw [so, List.append_assoc, List.take_add_one, next]
  rfl

theorem sysbus_polled : Polled world .sysbusCtrlStatus rvSysbusStatusBusy DebugModule.busy where
  busy dm := by
    have bits : ∀ error : BitVec 3, ((0x200000 ||| error.toNat <<< 12) &&& 0x200000 ≠ 0) ∧
        ((0 ||| error.toNat <<< 12) &&& 0x200000 = 0) := by decide
    simp only [DebugModule.read, rvSysbusStatusBusy]
    split
    next some => exact iff_of_true (bits dm.error).1 some
    next none => exact iff_of_false (not_not.mpr (bits dm.error).2) none
  counts dm := rfl

variable {before : Buffer → DebugModule → Prop} {left : DebugModule → Prop}

theorem meets_waitSysbus (excuses : Excuses world excuse) (leaves : ∀ dest dm, before dest dm → left dm)
    (stable : ∀ dest dm, before dest dm → before dest { dm with busy := dm.busy - 1 }) :
    Meets (At before) (waitSysbus world) (fun _ => At fun dest dm => before dest dm ∧ dm.busy = 0) (Left excuse left) := by
  refine meets_reading fun hart holds => ?_
  have waits := @meets_waitWhile world excuse left before .sysbusCtrlStatus rvSysbusStatusBusy DebugModule.busy
    (fun _ dest dm => before dest dm ∧ dm.busy = 0) sysbus_polled excuses leaves stable
    (fun dest dm current idle => ⟨stable dest dm current, by simp only [DebugModule.read, idle]⟩) (hart.dbgModule.busy + 1)
  have known : Meets (fun current => current = hart)
      (waitWhile world .sysbusCtrlStatus rvSysbusStatusBusy (hart.dbgModule.busy + 1))
      (fun _ => At fun dest dm => before dest dm ∧ dm.busy = 0) (Left excuse left) :=
    waits.known ⟨holds, Nat.lt_succ_self _⟩
  exact known.bind fun _ => meets_pure fun _ current => current

/-- All accesses have been performed, or there is an excuse for those that are missing. -/
def Finished (excuse : Prop) (base expected : List Access) (ready : DebugModule → Prop) (content dest : Buffer)
    (dm : DebugModule) : Prop :=
  excuse ∧ Begun base expected dm ∨ dm.accesses = base ++ expected ∧ dest = content ∧ ready dm

theorem Finished.begun {ready : DebugModule → Prop} {content dest : Buffer}
    (finished : Finished excuse base expected ready content dest dm) : Begun base expected dm := by
  rcases finished with ⟨-, begun⟩ | ⟨all, -, -⟩
  · exact begun
  · exact ⟨expected.length, by rw [all, List.take_length]⟩

/-- The write of the control register that every access over the system bus begins with. -/
theorem meets_setUp {hart : Hart} {control : Nat} (excuses : Excuses world excuse) (clean : Clean control) :
    Meets (fun current => current = hart) (riscvDmWrite world (.sysbusCtrlStatus control))
      (fun _ => At fun dest dm => dest = hart.dest ∧ dm = { hart.dbgModule with control := control })
      (Left excuse (Begun hart.dbgModule.accesses expected)) := by
  have written : Meets (At fun dest dm => dest = hart.dest ∧ dm = hart.dbgModule) (riscvDmWrite world (.sysbusCtrlStatus control))
      (fun _ => At fun dest dm => dest = hart.dest ∧ dm = { hart.dbgModule with control := control })
      (Left excuse (Begun hart.dbgModule.accesses expected)) := by
    apply meets_write excuses
    · rintro _ _ ⟨-, rfl⟩
      exact ⟨0, by simp⟩
    · rintro _ _ ⟨rfl, rfl⟩
      exact ⟨rfl, writeControl_clean clean _⟩
  exact written.known ⟨rfl, rfl⟩

theorem meets_sysbusCheck {content : Buffer} (excuses : Excuses world excuse) :
    Meets (At (Finished excuse base expected Quiet content)) (riscvSysbusCheck world)
      (fun _ => At (Finished excuse base expected Quiet content)) (Left excuse (Begun base expected)) := by
  have look : Meets (At (Finished excuse base expected Quiet content)) (riscvDmRead world .sysbusCtrlStatus)
      (fun _ => At (Finished excuse base expected Quiet content)) (Left excuse (Begun base expected)) := by
    apply meets_dmRead excuses fun _ _ finished => finished.begun
    intro dest dm finished
    refine finished.imp id fun done => ⟨done.1, done.2.1, ?_⟩
    exact ⟨by simp only [DebugModule.read, done.2.2.busy], done.2.2.error, done.2.2.busyError⟩
  refine look.bind fun status => ?_
  have noted : Meets (At (Finished excuse base expected Quiet content)) (setStatus ((status >>> 12) &&& 7))
      (fun _ => At (Finished excuse base expected Quiet content)) (Left excuse (Begun base expected)) :=
    meets_change fun _ holds => holds
  refine noted.bind fun _ => ?_
  apply meets_write excuses fun _ _ finished => finished.begun
  intro dest dm finished
  refine finished.imp id fun done => ⟨done.1, done.2.1, done.2.2.busy, ?_, ?_⟩
  · simp only [DebugModule.write, done.2.2.error]
    exact BitVec.zero_and
  · simp only [DebugModule.write, done.2.2.busyError, Bool.false_and]

end Module

section NativeRead

variable {excuse : Prop} {base : List Access} {src : BitVec 32} {width count : Nat} {dest : Buffer} {dm : DebugModule}

/-- One read for each element. -/
def reads (src : BitVec 32) (width count : Nat) : List Access :=
  (List.range count).map fun k => .read (src + BitVec.ofNat 32 (k * 2 ^ width)) width

theorem reads_at {k : Nat} (inside : k < count) :
    (reads src width count)[k]? = some (.read (src + BitVec.ofNat 32 (k * 2 ^ width)) width) := by
  simp [reads, List.getElem?_range inside]

/-- The buffer after some elements, each as its own read has found it. -/
def filled (world : World) (base : List Access) (src : BitVec 32) (width count : Nat) (dest : Buffer) : Nat → Buffer
  | 0 => dest
  | k + 1 => riscv32UnpackData (filled world base src width count dest k) (k * 2 ^ width)
      (world.found (base ++ (reads src width count).take (k + 1))) width

/-- Before element `k` is fetched its read has been started, but none after it. -/
structure Reading (world : World) (base : List Access) (src : BitVec 32) (width count k : Nat) (dm : DebugModule) : Prop where
  accesses : dm.accesses = base ++ (reads src width count).take (k + 1)
  error : dm.error = 0
  busyError : dm.busyError = false
  command : k < count → Command dm.control width (decide (1 < count)) true (decide (1 < count))
  address : k + 1 < count → dm.address = src + BitVec.ofNat 32 ((k + 1) * 2 ^ width)
  data : k < count → dm.data = world.found (base ++ (reads src width count).take (k + 1))
  idle : count ≤ k → dm.busy = 0

theorem Reading.looked {k : Nat} (reading : Reading world base src width count k dm) :
    Reading world base src width count k { dm with busy := dm.busy - 1 } where
  accesses := reading.accesses
  error := reading.error
  busyError := reading.busyError
  command := reading.command
  address := reading.address
  data := reading.data
  idle done := by simp only [reading.idle done]

theorem Lost.looked {expected : List Access} (lost : Lost excuse base expected dm) :
    Lost excuse base expected { dm with busy := dm.busy - 1 } :=
  ⟨lost.excused, lost.begun, lost.stuck⟩

/-- The module when the data of element `k` is read: the next read follows where there is one. -/
structure Fetching (world : World) (base : List Access) (src : BitVec 32) (width count k : Nat) (dm : DebugModule) : Prop where
  accesses : dm.accesses = base ++ (reads src width count).take (k + 1)
  quiet : Quiet dm
  onData : dm.option rvSysbusMemReadOnData = decide (k + 1 < count)
  command : k + 1 < count → Command dm.control width true true true
  address : k + 1 < count → dm.address = src + BitVec.ofNat 32 ((k + 1) * 2 ^ width)
  data : dm.data = world.found (base ++ (reads src width count).take (k + 1))

theorem Reading.fetching {k : Nat} (reading : Reading world base src width count k dm) (idle : dm.busy = 0)
    (inside : k < count) (onData : k + 1 = count → ¬ 1 < count) : Fetching world base src width count k dm where
  accesses := reading.accesses
  quiet := ⟨idle, reading.error, reading.busyError⟩
  onData := by
    have shown := (reading.command inside).onData
    rw [DebugModule.option, shown]
    exact decide_eq_decide.mpr ⟨fun several => by_contra fun last => onData (by omega) several, fun more => by omega⟩
  command more := by
    have several : 1 < count := by omega
    simpa only [several, decide_true] using reading.command inside
  address := reading.address
  data := reading.data inside

theorem Reading.fetching_last {k : Nat} (reading : Reading world base src width count k dm) (idle : dm.busy = 0)
    (last : k + 1 = count) : Fetching world base src width count k { dm with control := 0 } where
  accesses := reading.accesses
  quiet := ⟨idle, reading.error, reading.busyError⟩
  onData := by
    have none : ¬ k + 1 < count := by omega
    simp [DebugModule.option, none]
  command more := by omega
  address more := by omega
  data := reading.data (by omega)

theorem Fetching.fetched {k : Nat} (fetching : Fetching world base src width count k dm) (excuses : Excuses world excuse)
    (inside : k < count) :
    Lost excuse base (reads src width count) (dm.read world .sysbusData0).2 ∨
      Reading world base src width count (k + 1) (dm.read world .sysbusData0).2 := by
  simp only [DebugModule.read, fetching.quiet.busy, fetching.onData, ne_eq, not_true_eq_false, false_or, decide_eq_true_eq]
  split
  next more =>
    have command := fetching.command more
    have wide : dm.width = width := command.width
    have next : (reads src width count)[k + 1]? = some (.read dm.address dm.width) := by
      rw [reads_at more, fetching.address more, wide]
    have performed := take_performed fetching.accesses next
    have increments : dm.option rvSysbusMemAddrPostInc = true := command.increment
    rw [perform_quiet fetching.quiet, performed]
    by_cases failed : world.error (base ++ (reads src width count).take (k + 1 + 1)) = 0
    · right
      have several : 1 < count := by omega
      refine ⟨rfl, failed, fetching.quiet.busyError, fun _ => ?_, fun _ => ?_, fun _ => rfl, fun done => by omega⟩
      · simpa only [several, decide_true] using command
      · simp only [failed, increments, and_self, if_true, fetching.address more, wide, BitVec.add_assoc,
          ← BitVec.ofNat_add]
        rw [Nat.succ_mul (k + 1)]
    · exact .inl ⟨excuses.access _ failed, ⟨_, rfl⟩, .inl failed⟩
  next last =>
    have all : (reads src width count).take (k + 1) = (reads src width count).take (k + 1 + 1) := by
      rw [List.take_of_length_le, List.take_of_length_le] <;> simp [reads] <;> omega
    right
    refine ⟨by rw [fetching.accesses, all], fetching.quiet.error, fetching.quiet.busyError, fun more => by omega,
      fun more => by omega, fun more => by omega, fun _ => fetching.quiet.busy⟩

theorem last_block (width : Nat) {k count : Nat} : k * 2 ^ width + 2 ^ width = count * 2 ^ width ↔ k + 1 = count := by
  rw [← Nat.succ_mul]
  exact Nat.mul_left_inj (Nat.two_pow_pos width).ne'

theorem several_elements (width count : Nat) : 2 ^ width < count * 2 ^ width ↔ 1 < count := by
  rw [Nat.lt_mul_iff_one_lt_left (Nat.two_pow_pos width)]

theorem element_count (width count : Nat) : (count * 2 ^ width + 2 ^ width - 1) / 2 ^ width = count := by
  rw [Nat.add_sub_assoc (Nat.two_pow_pos width), Nat.add_comm, Nat.add_mul_div_right _ _ (Nat.two_pow_pos width),
    Nat.div_eq_of_lt (Nat.sub_lt (Nat.two_pow_pos width) Nat.one_pos), Nat.zero_add]

/-- Where the native read is before element `k`. -/
def Passing (world : World) (excuse : Prop) (base : List Access) (src : BitVec 32) (width count : Nat) (start : Buffer) (k : Nat)
    (dest : Buffer) (dm : DebugModule) : Prop :=
  Lost excuse base (reads src width count) dm ∨
    Reading world base src width count k dm ∧ dest = filled world base src width count start k

variable {start : Buffer} {command : Nat}

theorem Passing.begun {k : Nat} {dest : Buffer} (passing : Passing world excuse base src width count start k dest dm) :
    Begun base (reads src width count) dm := by
  rcases passing with lost | going
  · exact lost.begun
  · exact ⟨_, going.1.accesses⟩

theorem nativeReads_pass {k : Nat} (excuses : Excuses world excuse) (inside : k < count)
    (increments : command &&& rvSysbusMemAddrPostInc ≠ 0 ↔ 1 < count) (more : Nat) {last : Unit → Hart → Prop}
    (rest : Meets (At (Passing world excuse base src width count start (k + 1)))
      (nativeReads world (count * 2 ^ width) width command more (k + 1)) last
      (Left excuse (Begun base (reads src width count)))) :
    Meets (At (Passing world excuse base src width count start k))
      (nativeReads world (count * 2 ^ width) width command (more + 1) k) last
      (Left excuse (Begun base (reads src width count))) := by
  rw [nativeReads]
  refine (meets_waitSysbus excuses (fun _ _ passing => passing.begun) fun dest dm passing => ?_).bind fun _ => ?_
  · exact passing.imp Lost.looked fun going => ⟨going.1.looked, going.2⟩
  have armed : Meets (At fun dest dm => Passing world excuse base src width count start k dest dm ∧ dm.busy = 0)
      (onlyIf (k * 2 ^ width + 2 ^ width = count * 2 ^ width ∧ command &&& rvSysbusMemAddrPostInc ≠ 0)
        (riscvDmWrite world (.sysbusCtrlStatus 0)))
      (fun _ => At fun dest dm => Lost excuse base (reads src width count) dm ∨
        Fetching world base src width count k dm ∧ dest = filled world base src width count start k)
      (Left excuse (Begun base (reads src width count))) := by
    apply meets_onlyIf
    · rintro ⟨final, -⟩
      apply meets_write excuses fun _ _ holds => holds.1.begun
      rintro dest dm ⟨passing, idle⟩
      refine passing.imp (fun lost => lost.writeControl zero_clean) fun going => ⟨?_, going.2⟩
      rw [writeControl_clean zero_clean]
      exact going.1.fetching_last idle ((last_block width).mp final)
    · intro other hart holds
      refine holds.1.imp id fun going => ⟨going.1.fetching holds.2 inside fun final several => ?_, going.2⟩
      exact other ⟨(last_block width).mpr final, increments.mpr several⟩
  refine armed.bind fun _ => ?_
  have fetch : Meets (At fun dest dm => Lost excuse base (reads src width count) dm ∨
        Fetching world base src width count k dm ∧ dest = filled world base src width count start k)
      (riscvDmRead world .sysbusData0)
      (fun value => At fun dest dm => Lost excuse base (reads src width count) dm ∨
        Reading world base src width count (k + 1) dm ∧ dest = filled world base src width count start k ∧
          BitVec.ofNat 32 value = world.found (base ++ (reads src width count).take (k + 1)))
      (Left excuse (Begun base (reads src width count))) := by
    apply meets_dmRead excuses
    · rintro dest dm (lost | ⟨fetching, -⟩)
      · exact lost.begun
      · exact ⟨_, fetching.accesses⟩
    · rintro dest dm (lost | ⟨fetching, so⟩)
      · exact .inl lost.readData
      · refine (fetching.fetched excuses inside).imp id fun reading => ⟨reading, so, ?_⟩
        rw [← fetching.data]
        exact BitVec.ofNat_toNat _ _ |>.trans (BitVec.setWidth_eq _)
  refine fetch.bind fun value => ?_
  refine (meets_unpackData fun dest dm holds => ?_).bind fun _ => rest
  refine holds.imp id fun going => ⟨going.1, ?_⟩
  rw [filled, going.2.1, going.2.2]

theorem nativeReads_run (excuses : Excuses world excuse) (increments : command &&& rvSysbusMemAddrPostInc ≠ 0 ↔ 1 < count)
    (more : Nat) {k : Nat} (all : k + more = count) :
    Meets (At (Passing world excuse base src width count start k))
      (nativeReads world (count * 2 ^ width) width command more k)
      (fun _ => At (Passing world excuse base src width count start count))
      (Left excuse (Begun base (reads src width count))) := by
  induction more generalizing k with
  | zero =>
    obtain rfl : k = count := by omega
    exact meets_pure fun _ passing => passing
  | succ more ih => exact nativeReads_pass excuses (by omega) increments more (ih (by omega))

theorem read_started {dm : DebugModule} (excuses : Excuses world excuse) (unready : ¬ Quiet dm → excuse)
    (command : Command dm.control width (decide (1 < count)) true (decide (1 < count))) (nonempty : 0 < count) :
    Lost excuse dm.accesses (reads src width count) (dm.write world (.sysbusAddr0 src)) ∨
      Reading world dm.accesses src width count 0 (dm.write world (.sysbusAddr0 src)) := by
  have onAddr : ({ dm with address := src } : DebugModule).option rvSysbusMemReadOnAddr = true := command.onAddr
  have wide : ({ dm with address := src } : DebugModule).width = width := command.width
  have fresh : Begun dm.accesses (reads src width count) dm := ⟨0, by simp⟩
  simp only [DebugModule.write, onAddr, if_true]
  split
  next busy => exact .inl ⟨unready fun quiet => busy quiet.busy, fresh, .inr rfl⟩
  next idle =>
    by_cases stuck : dm.error ≠ 0 ∨ dm.busyError = true
    · have lost : Lost excuse dm.accesses (reads src width count) { dm with address := src } := by
        refine ⟨unready fun quiet => ?_, fresh, stuck⟩
        exact stuck.elim (fun failed => failed quiet.error) fun early => by simp [quiet.busyError] at early
      exact .inl (lost.perform _)
    · have quiet : Quiet { dm with address := src } := by
        simp only [not_or, not_not, Bool.not_eq_true] at stuck
        exact ⟨not_not.mp idle, stuck.1, stuck.2⟩
      have next : (reads src width count)[0]? = some (.read src width) := by
        rw [reads_at nonempty, Nat.zero_mul, BitVec.add_zero]
      have performed := @take_performed dm.accesses (reads src width count) dm 0 _ (by simp) next
      rw [perform_quiet quiet]
      simp only [wide, performed]
      by_cases failed : world.error (dm.accesses ++ (reads src width count).take (0 + 1)) = 0
      · right
        refine ⟨rfl, failed, quiet.busyError, fun _ => command, fun more => ?_, fun _ => rfl, fun empty => by omega⟩
        have increments : ({ dm with address := src } : DebugModule).option rvSysbusMemAddrPostInc = true :=
          command.increment.trans (decide_eq_true (by omega))
        simp only [failed, increments, and_self, if_true, Nat.zero_add, Nat.one_mul]
      · exact .inl ⟨excuses.access _ failed, ⟨_, rfl⟩, .inl failed⟩

theorem meets_nativeRead (narrow : width ≤ 2) (nonempty : 0 < count) {hart : Hart} (excuses : Excuses world excuse)
    (unready : ¬ Quiet hart.dbgModule → excuse) :
    Meets (fun current => current = hart) (riscv32SysbusMemNativeRead world src (count * 2 ^ width) width (2 ^ width))
      (fun _ => At (Finished excuse hart.dbgModule.accesses (reads src width count) Quiet
        (filled world hart.dbgModule.accesses src width count hart.dest count)))
      (Left excuse (Begun hart.dbgModule.accesses (reads src width count))) := by
  have command := read_command narrow (2 ^ width < count * 2 ^ width)
  have clean := read_clean narrow (2 ^ width < count * 2 ^ width)
  rw [riscv32SysbusMemNativeRead, element_count]
  generalize (width <<< 17) ||| rvSysbusMemReadOnAddr |||
    (if 2 ^ width < count * 2 ^ width then rvSysbusMemAddrPostInc ||| rvSysbusMemReadOnData else 0) = control at command clean
  simp only [several_elements] at command
  refine (meets_setUp excuses clean).bind fun _ => ?_
  have addressed : Meets (At fun dest dm => dest = hart.dest ∧ dm = { hart.dbgModule with control := control })
      (riscvDmWrite world (.sysbusAddr0 src))
      (fun _ => At (Passing world excuse hart.dbgModule.accesses src width count hart.dest 0))
      (Left excuse (Begun hart.dbgModule.accesses (reads src width count))) := by
    apply meets_write excuses fun _ dm holds => ⟨0, by simp [holds.2]⟩
    rintro _ _ ⟨rfl, rfl⟩
    have started := @read_started world excuse src width count { hart.dbgModule with control := control } excuses
      (fun loud => unready fun quiet => loud ⟨quiet.busy, quiet.error, quiet.busyError⟩) command nonempty
    exact started.imp id fun reading => ⟨reading, rfl⟩
  refine addressed.bind fun _ => ?_
  have increments : control &&& rvSysbusMemAddrPostInc ≠ 0 ↔ 1 < count := decide_eq_decide.mp command.increment
  refine (nativeReads_run excuses increments count (Nat.zero_add count)).bind fun _ => ?_
  refine (meets_sysbusCheck excuses).starting fun hart passing => ?_
  rcases passing with lost | ⟨reading, so⟩
  · exact .inl ⟨lost.excused, lost.begun⟩
  · refine .inr ⟨?_, so, reading.idle (Nat.le_refl count), reading.error, reading.busyError⟩
    rw [reading.accesses, List.take_of_length_le (by simp [reads])]

end NativeRead

end BlackMagic.Proofs.RiscvMemoryAccesses

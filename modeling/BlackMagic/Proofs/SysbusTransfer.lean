import BlackMagic.Sysbus
import BlackMagic.Proofs.MemApTransfer

/-! Which transfers over the system bus are faithful. A transfer in a width the debug
module has is; the detour over a wider width is only sometimes, for reads, and never
for writes, because the value read back is overwritten instead of patched. -/

namespace BlackMagic.Proofs.SysbusTransfer
open BlackMagic.Sysbus MemAp Lib.Words

variable {flags : Nat} {noise : Nat → BitVec 32}

/-- An access at this width and address is performed. -/
def Able (flags width address : Nat) : Prop := supports flags width = true ∧ address % 2 ^ width = 0

structure Command (control width : Nat) (increment onAddr onData : Bool) : Prop where
  width : (control >>> 17) &&& 7 = width
  increment : decide (control &&& rvSysbusMemAddrPostInc ≠ 0) = increment
  onAddr : decide (control &&& rvSysbusMemReadOnAddr ≠ 0) = onAddr
  onData : decide (control &&& rvSysbusMemReadOnData ≠ 0) = onData
  clears : (control >>> 12) &&& 7 = 0

theorem read_command {width : Nat} (narrow : width ≤ 2) (several : Prop) [Decidable several] :
    Command ((width <<< 17) ||| rvSysbusMemReadOnAddr |||
      (if several then rvSysbusMemAddrPostInc ||| rvSysbusMemReadOnData else 0)) width (decide several) true
      (decide several) := by
  by_cases more : several <;> simp only [more, if_true, if_false, decide_true, decide_false] <;>
    interval_cases width <;> constructor <;> decide

theorem write_command {width : Nat} (narrow : width ≤ 2) (several : Prop) [Decidable several] :
    Command ((width <<< 17) ||| (if several then rvSysbusMemAddrPostInc else 0)) width (decide several) false false := by
  by_cases more : several <;> simp only [more, if_true, if_false, decide_true, decide_false] <;>
    interval_cases width <;> constructor <;> decide

theorem zero_command : Command 0 0 false false false := by
  constructor <;> decide

theorem writeControl_keeps {control width : Nat} {increment onAddr onData : Bool} {bus : Bus}
    (command : Command control width increment onAddr onData) (known : bus.error < 8) :
    writeControl control bus = { bus with control := control } := by
  have kept : bus.error &&& 7 = bus.error := by
    rw [Nat.and_two_pow_sub_one_eq_mod bus.error 3]
    exact Nat.mod_eq_of_lt known
  simp [writeControl, command.clears, kept]

private theorem power_cases {width : Nat} (narrow : width ≤ 2) :
    2 ^ width = 1 ∧ width = 0 ∨ 2 ^ width = 2 ∧ width = 1 ∨ 2 ^ width = 4 ∧ width = 2 := by
  interval_cases width <;> decide

theorem riscv32UnpackData_stores {width : Nat} (narrow : width ≤ 2) (dest : Buffer) (index : Nat) (data : BitVec 32)
    (i : Nat) : riscv32UnpackData dest index data width i =
      if index ≤ i ∧ i < index + 2 ^ width then byteOf data (i - index) else dest i := by
  interval_cases width
  · simp only [riscv32UnpackData, memcpyWord, Nat.pow_zero]
    refine ite_congr rfl (fun inside => ?_) (fun _ => rfl)
    have first : i - index = 0 := by omega
    rw [first, byteOf_mask (by decide)]
  · simp only [riscv32UnpackData, memcpyWord, Nat.pow_one]
    refine ite_congr rfl (fun inside => ?_) (fun _ => rfl)
    have half : i - index = 0 ∨ i - index = 1 := by omega
    rcases half with first | second
    · rw [first, byteOf_mask (by decide)]
    · rw [second, byteOf_mask (by decide)]
  · rfl

theorem riscv32PackData_lane {width lane : Nat} (narrow : width ≤ 2) (src : Buffer) (index : Nat)
    (inside : lane < 2 ^ width) : byteOf (riscv32PackData src index width) lane = src (index + lane) := by
  interval_cases width
  · rw [riscv32PackData, loadWord, byteOf_ofLanes _ (by omega)]
    exact if_pos inside
  · rw [riscv32PackData, loadWord, byteOf_ofLanes _ (by omega)]
    exact if_pos inside
  · rw [riscv32PackData, loadWord, byteOf_ofLanes _ (by omega)]
    exact if_pos inside

section Access

variable {bus : Bus} {width : Nat} {increment onAddr onData : Bool}

theorem Command.busWidth (command : Command bus.control width increment onAddr onData) : bus.width = width :=
  command.width

theorem Command.advance (command : Command bus.control width increment onAddr onData) :
    bus.advance = if increment then (bus.address + 2 ^ width) % 2 ^ 32 else bus.address := by
  have option : bus.option rvSysbusMemAddrPostInc = increment := by simpa [Bus.option] using command.increment
  rw [Bus.advance, option, command.busWidth]

theorem accessError_zero_iff (command : Command bus.control width increment onAddr onData) :
    accessError flags bus = 0 ↔ Able flags width bus.address := by
  rw [accessError, command.busWidth, Able]
  by_cases supported : supports flags width = true
  · by_cases aligned : bus.address % 2 ^ width = 0 <;> simp [supported, aligned]
  · simp [supported]

theorem accessError_lt (bus : Bus) : accessError flags bus < 8 := by
  rw [accessError]
  split
  next => decide
  next => split <;> decide

/-- A performed read leaves the element in the low lanes of the data register. -/
theorem busRead_able (noise : Nat → BitVec 32) (command : Command bus.control width increment onAddr onData) (narrow : width ≤ 2)
    (able : Able flags width bus.address) :
    ∃ data, busRead flags noise bus = { bus with data := data, address := bus.advance } ∧
      ∀ lane < 2 ^ width, byteOf data lane = bus.memory (bus.address + lane) := by
  have fine := (accessError_zero_iff command).mpr able
  refine ⟨_, by rw [busRead, if_neg (by simp [fine])], fun lane inside => ?_⟩
  have bound : lane < 4 := by rcases power_cases narrow with ⟨size, -⟩ | ⟨size, -⟩ | ⟨size, -⟩ <;> omega
  rw [byteOf_ofLanes _ bound, command.busWidth, if_pos inside]

end Access

/-- The read loop at block `k`: everything before it is stored, and the data register
holds it. -/
structure Reading (flags width address count : Nat) (dest : Buffer) (content : Nat → Byte) (k : Nat)
    (reading : Buffer × Bus) : Prop where
  stored : ∀ i, reading.1 i = if i < k * 2 ^ width then content (address + i) else dest i
  memory : reading.2.memory = content
  error : reading.2.error = 0
  data : ∀ lane < 2 ^ width, byteOf reading.2.data lane = content (address + k * 2 ^ width + lane)
  several : 1 < count → Command reading.2.control width true true true ∧
    reading.2.address = (address + (k + 1) * 2 ^ width) % 2 ^ 32
  single : count = 1 → Command reading.2.control width false true false

/-- What a native read leaves of the bus. -/
structure Quiet (content : Nat → Byte) (bus : Bus) : Prop where
  memory : bus.memory = content
  error : bus.error = 0

theorem unpack_block {width address k : Nat} (narrow : width ≤ 2) {content : Nat → Byte} {dest buffer : Buffer}
    {data : BitVec 32} (stored : ∀ i, buffer i = if i < k * 2 ^ width then content (address + i) else dest i)
    (block : ∀ lane < 2 ^ width, byteOf data lane = content (address + k * 2 ^ width + lane)) (i : Nat) :
    riscv32UnpackData buffer (k * 2 ^ width) data width i =
      if i < (k + 1) * 2 ^ width then content (address + i) else dest i := by
  rw [riscv32UnpackData_stores narrow, stored i, Nat.succ_mul]
  have size := Nat.two_pow_pos width
  generalize 2 ^ width = length at *
  by_cases old : i < k * length
  · rw [if_neg (by omega), if_pos old, if_pos (by omega)]
  · by_cases new : i < k * length + length
    · rw [if_pos ⟨by omega, new⟩, if_pos new, block _ (by omega)]
      congr 1
      omega
    · rw [if_neg (by omega), if_neg old, if_neg new]

/-- One pass of the read loop that is not the last. -/
private theorem nativeRead_pass {width address count : Nat} (narrow : width ≤ 2)
    (supported : supports flags width = true) (aligned : address % 2 ^ width = 0)
    (fits : address + count * 2 ^ width ≤ 2 ^ 32) {dest : Buffer} {content : Nat → Byte} {k : Nat} {buffer : Buffer}
    {bus : Bus} (before : k + 1 < count) (state : Reading flags width address count dest content k (buffer, bus)) :
    Reading flags width address count dest content (k + 1)
      (riscv32UnpackData buffer (k * 2 ^ width) (readData flags noise bus).1 width, (readData flags noise bus).2) := by
  obtain ⟨command, place⟩ := state.several (by omega)
  have stored := unpack_block narrow state.stored state.data
  have room : (k + 1) * 2 ^ width + 2 ^ width ≤ count * 2 ^ width := by
    rw [← Nat.succ_mul]
    exact Nat.mul_le_mul_right _ before
  have size := Nat.two_pow_pos width
  have plain : bus.address = address + (k + 1) * 2 ^ width := by
    rw [place]
    exact Nat.mod_eq_of_lt (by omega)
  have able : Able flags width bus.address := by
    refine ⟨supported, ?_⟩
    rw [plain, Nat.add_mul_mod_self_right]
    exact aligned
  obtain ⟨data, performed, lanes⟩ := busRead_able noise command narrow able
  have onData : bus.option rvSysbusMemReadOnData = true := by simpa [Bus.option] using command.onData
  have read : readData flags noise bus = (bus.data, { bus with data := data, address := bus.advance }) := by
    rw [readData, if_pos ⟨state.error, onData⟩, performed]
  rw [read]
  refine ⟨stored, state.memory, state.error, fun lane inside => ?_, fun _ => ⟨command, ?_⟩, fun one => by omega⟩
  · have memory : bus.memory = content := state.memory
    rw [lanes lane inside, memory, plain]
  · have next := command.advance
    rw [if_pos rfl, plain, Nat.add_assoc, ← Nat.succ_mul] at next
    exact next

theorem nativeReads_able {width address count : Nat} (narrow : width ≤ 2) (supported : supports flags width = true)
    (aligned : address % 2 ^ width = 0) (fits : address + count * 2 ^ width ≤ 2 ^ 32) {dest : Buffer}
    {content : Nat → Byte} {command : Nat} (increments : command &&& rvSysbusMemAddrPostInc ≠ 0 ↔ 1 < count)
    (more : Nat) {k : Nat} {reading : Buffer × Bus} (total : k + (more + 1) = count)
    (state : Reading flags width address count dest content k reading) {out : Buffer × Bus}
    (running : nativeReads flags noise (count * 2 ^ width) width command (more + 1) k reading = out) :
    (∀ i, out.1 i = if i < count * 2 ^ width then content (address + i) else dest i) ∧ Quiet content out.2 ∧
      ∀ lane < 2 ^ width, byteOf out.2.data lane = content (address + (count - 1) * 2 ^ width + lane) := by
  induction more generalizing k reading with
  | zero =>
    obtain ⟨buffer, bus⟩ := reading
    have last : (k + 1) * 2 ^ width = count * 2 ^ width := by rw [total]
    have index : k = count - 1 := by omega
    have stored := unpack_block narrow state.stored state.data
    have error : bus.error = 0 := state.error
    simp only [nativeReads, ← Nat.succ_mul, last, true_and, increments] at running
    by_cases several : 1 < count
    · have stopped : readData flags noise (writeControl 0 bus) = (bus.data, { bus with control := 0 }) := by
        rw [writeControl_keeps zero_command (by rw [error]; decide)]
        simp [readData, Bus.option]
      rw [if_pos several, stopped] at running
      subst running
      rw [last] at stored
      exact ⟨stored, ⟨state.memory, error⟩, index ▸ state.data⟩
    · have command := state.single (by omega)
      have offData : bus.option rvSysbusMemReadOnData = false := by simpa [Bus.option] using command.onData
      have stopped : readData flags noise bus = (bus.data, bus) := by simp [readData, offData]
      rw [if_neg several, stopped] at running
      subst running
      rw [last] at stored
      exact ⟨stored, ⟨state.memory, error⟩, index ▸ state.data⟩
  | succ more ih =>
    obtain ⟨buffer, bus⟩ := reading
    have before : k + 1 < count := by omega
    have early : k * 2 ^ width + 2 ^ width ≠ count * 2 ^ width := by
      rw [← Nat.succ_mul]
      exact Nat.ne_of_lt (Nat.mul_lt_mul_of_pos_right before (Nat.two_pow_pos width))
    rw [nativeReads] at running
    simp only [early, false_and, if_false] at running
    exact ih (by omega) (nativeRead_pass narrow supported aligned fits before state) running

/-- A native transfer of `count` blocks runs its loop that many times. -/
private theorem block_count (width : Nat) {count : Nat} : (count * 2 ^ width + 2 ^ width - 1) / 2 ^ width = count := by
  have size := Nat.two_pow_pos width
  rw [Nat.add_sub_assoc size, Nat.mul_comm, Nat.mul_add_div size, Nat.div_eq_of_lt (by omega), Nat.add_zero]

private theorem several_blocks (width count : Nat) : 2 ^ width < count * 2 ^ width ↔ 1 < count := by
  have size := Nat.two_pow_pos width
  constructor
  · intro more
    by_contra few
    have : count * 2 ^ width ≤ 1 * 2 ^ width := Nat.mul_le_mul_right _ (by omega)
    omega
  · intro more
    calc 2 ^ width = 1 * 2 ^ width := (Nat.one_mul _).symm
      _ < count * 2 ^ width := Nat.mul_lt_mul_of_pos_right more size

theorem riscvSysbusCheck_quiet (hart : Hart) : (riscvSysbusCheck hart).bus.error = 0 ∧
    (riscvSysbusCheck hart).bus.memory = hart.bus.memory ∧ (riscvSysbusCheck hart).bus.data = hart.bus.data := by
  refine ⟨?_, rfl, rfl⟩
  simp [riscvSysbusCheck, writeControl]

/-- A native read of blocks that the bus can read. -/
theorem nativeRead_able {width address count : Nat} (narrow : width ≤ 2) (able : Able flags width address)
    (nonempty : 0 < count) (fits : address + count * 2 ^ width ≤ 2 ^ 32) (dest : Buffer) {hart : Hart}
    (error : hart.bus.error = 0) {out : Buffer × Hart}
    (running : riscv32SysbusMemNativeRead flags noise dest address (count * 2 ^ width) width (2 ^ width) hart = out) :
    (∀ i, out.1 i = if i < count * 2 ^ width then hart.bus.memory (address + i) else dest i) ∧
      Quiet hart.bus.memory out.2.bus ∧
      ∀ lane < 2 ^ width, byteOf out.2.bus.data lane = hart.bus.memory (address + (count - 1) * 2 ^ width + lane) := by
  obtain ⟨more, rfl⟩ : ∃ more, count = more + 1 := ⟨count - 1, by omega⟩
  have command := read_command narrow (2 ^ width < (more + 1) * 2 ^ width)
  rw [riscv32SysbusMemNativeRead, block_count] at running
  generalize (width <<< 17) ||| rvSysbusMemReadOnAddr ||| (if 2 ^ width < (more + 1) * 2 ^ width then
    rvSysbusMemAddrPostInc ||| rvSysbusMemReadOnData else 0) = value at running command
  have onAddr : value &&& rvSysbusMemReadOnAddr ≠ 0 := by simpa using command.onAddr
  have increments : value &&& rvSysbusMemAddrPostInc ≠ 0 ↔ 1 < more + 1 := by
    rw [← several_blocks width (more + 1)]
    have same := command.increment
    rwa [decide_eq_decide] at same
  dsimp only at running
  rw [writeControl_keeps command (by rw [error]; decide)] at running
  obtain ⟨data, performed, lanes⟩ := busRead_able noise (show
    Command ({ hart.bus with control := value, address := address } : Bus).control width _ _ _ from command) narrow able
  have started : writeAddress flags noise address { hart.bus with control := value } =
      { hart.bus with
        control := value, data := data
        address := Bus.advance { hart.bus with control := value, address := address } } := by
    rw [writeAddress, if_pos ⟨error, by simpa [Bus.option] using onAddr⟩, performed]
  rw [started] at running
  have state : Reading flags width address (more + 1) dest hart.bus.memory 0 (dest, { hart.bus with
      control := value, data := data
      address := Bus.advance { hart.bus with control := value, address := address } }) := by
    refine ⟨by simp, rfl, error, fun lane inside => ?_, fun many => ?_, fun one => ?_⟩
    · rw [lanes lane inside, Nat.zero_mul, Nat.add_zero]
    · have several : decide (2 ^ width < (more + 1) * 2 ^ width) = true := by simpa [several_blocks] using many
      rw [several] at command
      refine ⟨command, ?_⟩
      have next := (show Command ({ hart.bus with control := value, address := address } : Bus).control width _ _ _
        from command).advance
      rw [if_pos rfl] at next
      simpa using next
    · have few : decide (2 ^ width < (more + 1) * 2 ^ width) = false := by simp [one]
      rwa [few] at command
  generalize looping : nativeReads flags noise ((more + 1) * 2 ^ width) width value (more + 1) 0 _ = looped at running
  obtain ⟨stored, quiet, last⟩ := nativeReads_able narrow able.1 able.2 fits increments more (Nat.zero_add _) state looping
  subst running
  obtain ⟨cleared, memory, data⟩ := riscvSysbusCheck_quiet { hart with bus := looped.2 }
  exact ⟨stored, ⟨memory.trans quiet.memory, cleared⟩, fun lane inside => by rw [data]; exact last lane inside⟩

/-- A native read that the bus refuses stores what the data register held. -/
theorem nativeReads_unable {width len command : Nat} (narrow : width ≤ 2) (more : Nat) {k : Nat} {buffer : Buffer}
    {bus : Bus} (broken : bus.error ≠ 0) (known : bus.error < 8) {out : Buffer × Bus}
    (running : nativeReads flags noise len width command more k (buffer, bus) = out) :
    (∀ i, out.1 i = if k * 2 ^ width ≤ i ∧ i < (k + more) * 2 ^ width then byteOf bus.data (i % 2 ^ width) else buffer i) ∧
      out.2.memory = bus.memory ∧ out.2.data = bus.data := by
  induction more generalizing k buffer bus with
  | zero =>
    subst running
    refine ⟨fun i => ?_, rfl, rfl⟩
    rw [Nat.add_zero, if_neg (by omega)]
    rfl
  | succ more ih =>
    rw [nativeReads] at running
    dsimp only at running
    obtain ⟨after, passing, same, still, data, memory⟩ : ∃ after,
        (if k * 2 ^ width + 2 ^ width = len ∧ command &&& rvSysbusMemAddrPostInc ≠ 0 then writeControl 0 bus else bus) =
          after ∧ after.error ≠ 0 ∧ after.error < 8 ∧ after.data = bus.data ∧ after.memory = bus.memory := by
      refine ⟨_, rfl, ?_⟩
      split
      next =>
        rw [writeControl_keeps zero_command known]
        exact ⟨broken, known, rfl, rfl⟩
      next => exact ⟨broken, known, rfl, rfl⟩
    rw [passing] at running
    have stuck : readData flags noise after = (after.data, after) := by simp [readData, same]
    rw [stuck] at running
    obtain ⟨stored, memoryRest, dataRest⟩ := ih same still running
    refine ⟨fun i => ?_, memoryRest.trans memory, dataRest.trans data⟩
    rw [stored i, data, riscv32UnpackData_stores narrow]
    have size := Nat.two_pow_pos width
    have next : (k + 1) * 2 ^ width = k * 2 ^ width + 2 ^ width := Nat.succ_mul _ _
    have total : (k + 1 + more) * 2 ^ width = (k + (more + 1)) * 2 ^ width := by rw [Nat.add_assoc, Nat.add_comm 1]
    have above : (k + 1) * 2 ^ width ≤ (k + (more + 1)) * 2 ^ width := Nat.mul_le_mul_right _ (by omega)
    rw [total]
    by_cases later : (k + 1) * 2 ^ width ≤ i ∧ i < (k + (more + 1)) * 2 ^ width
    · rw [if_pos later, if_pos ⟨by omega, later.2⟩]
    · rw [if_neg later]
      by_cases here : k * 2 ^ width ≤ i ∧ i < k * 2 ^ width + 2 ^ width
      · have lane : i % 2 ^ width = i - k * 2 ^ width := by
          conv_lhs => rw [← Nat.sub_add_cancel here.1]
          rw [Nat.add_mul_mod_self_right]
          exact Nat.mod_eq_of_lt (by omega)
        rw [if_pos here, if_pos ⟨here.1, by omega⟩, lane]
      · rw [if_neg here, if_neg (by omega)]

theorem nativeRead_unable {width address count : Nat} (narrow : width ≤ 2) (unable : ¬ Able flags width address)
    (dest : Buffer) {hart : Hart} (error : hart.bus.error = 0) {out : Buffer × Hart}
    (running : riscv32SysbusMemNativeRead flags noise dest address (count * 2 ^ width) width (2 ^ width) hart = out) :
    (∀ i, out.1 i = if i < count * 2 ^ width then byteOf hart.bus.data (i % 2 ^ width) else dest i) ∧
      Quiet hart.bus.memory out.2.bus := by
  have command := read_command narrow (2 ^ width < count * 2 ^ width)
  rw [riscv32SysbusMemNativeRead, block_count] at running
  generalize (width <<< 17) ||| rvSysbusMemReadOnAddr ||| (if 2 ^ width < count * 2 ^ width then
    rvSysbusMemAddrPostInc ||| rvSysbusMemReadOnData else 0) = value at running command
  have onAddr : value &&& rvSysbusMemReadOnAddr ≠ 0 := by simpa using command.onAddr
  dsimp only at running
  rw [writeControl_keeps command (by rw [error]; decide)] at running
  let addressed : Bus := { hart.bus with control := value, address := address }
  have refused : accessError flags addressed ≠ 0 :=
    fun fine => unable ((accessError_zero_iff (show Command addressed.control width _ _ _ from command)).mp fine)
  have started : writeAddress flags noise address { hart.bus with control := value } =
      { addressed with error := accessError flags addressed } := by
    rw [writeAddress, if_pos ⟨error, by simpa [Bus.option] using onAddr⟩, busRead, if_pos refused]
  rw [started] at running
  generalize looping : nativeReads flags noise (count * 2 ^ width) width value count 0 _ = looped at running
  obtain ⟨stored, memory, -⟩ := nativeReads_unable narrow count refused (accessError_lt addressed) looping
  subst running
  obtain ⟨cleared, kept, -⟩ := riscvSysbusCheck_quiet { hart with bus := looped.2 }
  refine ⟨fun i => ?_, kept.trans memory, cleared⟩
  rw [Nat.zero_mul, Nat.zero_add] at stored
  simpa [addressed] using stored i

/-- The write loop at block `k`. -/
structure Writing (flags width address count : Nat) (src : Buffer) (content : Nat → Byte) (k : Nat) (bus : Bus) :
    Prop where
  error : bus.error = 0
  memory : ∀ a, bus.memory a = if address ≤ a ∧ a < address + k * 2 ^ width then src (a - address) else content a
  command : Command bus.control width (decide (1 < count)) false false
  place : k < count → bus.address = address + k * 2 ^ width

theorem writeData_able {width address count k : Nat} {src : Buffer} {content : Nat → Byte} {bus : Bus}
    (narrow : width ≤ 2) (able : Able flags width address) (fits : address + count * 2 ^ width ≤ 2 ^ 32)
    (inside : k < count) (state : Writing flags width address count src content k bus) :
    Writing flags width address count src content (k + 1)
      (writeData flags (riscv32PackData src (k * 2 ^ width) width) bus) := by
  have place := state.place inside
  have size := Nat.two_pow_pos width
  have next : (k + 1) * 2 ^ width = k * 2 ^ width + 2 ^ width := Nat.succ_mul _ _
  let loaded : Bus := { bus with data := riscv32PackData src (k * 2 ^ width) width }
  have command : Command loaded.control width (decide (1 < count)) false false := state.command
  have fine : accessError flags loaded = 0 := by
    rw [accessError_zero_iff command, show loaded.address = _ from place]
    exact ⟨able.1, by rw [Nat.add_mul_mod_self_right]; exact able.2⟩
  have performed : writeData flags (riscv32PackData src (k * 2 ^ width) width) bus = { loaded with
      memory := fun a =>
        if loaded.address ≤ a ∧ a < loaded.address + 2 ^ loaded.width then byteOf loaded.data (a - loaded.address)
        else loaded.memory a
      address := loaded.advance } := by
    rw [writeData, if_pos state.error, busWrite, if_neg (by simpa [loaded] using fine)]
  rw [performed]
  refine ⟨state.error, fun a => ?_, state.command, fun more => ?_⟩
  · have address' : loaded.address = address + k * 2 ^ width := place
    simp only [command.busWidth, address', next]
    by_cases here : address + k * 2 ^ width ≤ a ∧ a < address + k * 2 ^ width + 2 ^ width
    · rw [if_pos here, if_pos ⟨by omega, by omega⟩, riscv32PackData_lane narrow src _ (by omega)]
      congr 1
      omega
    · rw [if_neg here, show loaded.memory a = _ from state.memory a]
      by_cases before : address ≤ a ∧ a < address + k * 2 ^ width
      · rw [if_pos before, if_pos ⟨before.1, by omega⟩]
      · rw [if_neg before, if_neg (by omega)]
  · have several : decide (1 < count) = true := by simp; omega
    have advance := command.advance
    rw [several, if_pos rfl, show loaded.address = _ from place] at advance
    have room : (k + 1) * 2 ^ width + 2 ^ width ≤ count * 2 ^ width := by
      rw [← Nat.succ_mul]
      exact Nat.mul_le_mul_right _ more
    rw [show (Bus.address { loaded with memory := _, address := loaded.advance }) = loaded.advance from rfl, advance,
      Nat.mod_eq_of_lt (by omega)]
    omega

theorem nativeWrites_able {width address count : Nat} {src : Buffer} {content : Nat → Byte} (narrow : width ≤ 2)
    (able : Able flags width address) (fits : address + count * 2 ^ width ≤ 2 ^ 32) (more : Nat) {k : Nat} {bus : Bus}
    (total : k + more = count) (state : Writing flags width address count src content k bus) :
    Writing flags width address count src content count (nativeWrites flags src width more k bus) := by
  induction more generalizing k bus with
  | zero =>
    subst total
    exact state
  | succ more ih => exact ih (by omega) (writeData_able narrow able fits (by omega) state)

private theorem writeAddress_plain {width : Nat} {several : Bool} {address : Nat} {bus : Bus}
    (command : Command bus.control width several false false) :
    writeAddress flags noise address bus = { bus with address := address } := by
  have offAddr : bus.control &&& rvSysbusMemReadOnAddr = 0 := by simpa using command.onAddr
  simp [writeAddress, Bus.option, offAddr]

/-- A native write of blocks that the bus can write. -/
theorem nativeWrite_able {width address count : Nat} (narrow : width ≤ 2) (able : Able flags width address)
    (fits : address + count * 2 ^ width ≤ 2 ^ 32) (src : Buffer) {hart : Hart} (error : hart.bus.error = 0)
    {out : Hart}
    (running : riscv32SysbusMemNativeWrite flags noise address src (count * 2 ^ width) width (2 ^ width) hart = out) :
    (∀ a, out.bus.memory a =
      if address ≤ a ∧ a < address + count * 2 ^ width then src (a - address) else hart.bus.memory a) ∧
      out.bus.error = 0 := by
  have command := write_command narrow (2 ^ width < count * 2 ^ width)
  rw [riscv32SysbusMemNativeWrite, block_count] at running
  generalize (width <<< 17) ||| (if 2 ^ width < count * 2 ^ width then rvSysbusMemAddrPostInc else 0) = value
    at running command
  simp only [several_blocks] at command
  rw [writeControl_keeps command (by rw [error]; decide),
    writeAddress_plain (show Command ({ hart.bus with control := value } : Bus).control width _ _ _ from command)] at running
  have state : Writing flags width address count src hart.bus.memory 0
      { hart.bus with control := value, address := address } :=
    ⟨error, fun a => by simp, command, fun _ => by simp⟩
  have written := nativeWrites_able narrow able fits count (Nat.zero_add count) state
  subst running
  obtain ⟨cleared, kept, -⟩ := riscvSysbusCheck_quiet { hart with
    bus := nativeWrites flags src width count 0 { hart.bus with control := value, address := address } }
  exact ⟨fun a => by rw [kept]; exact written.memory a, cleared⟩

theorem nativeWrites_stuck {width : Nat} {src : Buffer} (more : Nat) {k : Nat} {bus : Bus} (broken : bus.error ≠ 0) :
    nativeWrites flags src width more k bus = bus := by
  induction more generalizing k with
  | zero => rfl
  | succ more ih =>
    have nothing : writeData flags (riscv32PackData src (k * 2 ^ width) width) bus = bus := by
      rw [writeData, if_neg broken]
    rw [nativeWrites, nothing]
    exact ih

/-- A native write that the bus refuses changes no memory. -/
theorem nativeWrite_unable {width address count : Nat} (narrow : width ≤ 2) (unable : ¬ Able flags width address)
    (src : Buffer) {hart : Hart} (error : hart.bus.error = 0) {out : Hart}
    (running : riscv32SysbusMemNativeWrite flags noise address src (count * 2 ^ width) width (2 ^ width) hart = out) :
    Quiet hart.bus.memory out.bus := by
  have command := write_command narrow (2 ^ width < count * 2 ^ width)
  rw [riscv32SysbusMemNativeWrite, block_count] at running
  generalize (width <<< 17) ||| (if 2 ^ width < count * 2 ^ width then rvSysbusMemAddrPostInc else 0) = value
    at running command
  rw [writeControl_keeps command (by rw [error]; decide),
    writeAddress_plain (show Command ({ hart.bus with control := value } : Bus).control width _ _ _ from command)] at running
  have unchanged : (nativeWrites flags src width count 0
      { hart.bus with control := value, address := address }).memory = hart.bus.memory := by
    cases count with
    | zero => rfl
    | succ more =>
      let loaded : Bus := { hart.bus with
        control := value, address := address, data := riscv32PackData src (0 * 2 ^ width) width }
      have refused : accessError flags loaded ≠ 0 :=
        fun fine => unable ((accessError_zero_iff (show Command loaded.control width _ _ _ from command)).mp fine)
      have first : writeData flags (riscv32PackData src (0 * 2 ^ width) width)
          { hart.bus with control := value, address := address } =
            { loaded with error := accessError flags loaded } := by
        rw [writeData, if_pos error, busWrite, if_pos refused]
      rw [nativeWrites, first, nativeWrites_stuck more refused]
  subst running
  obtain ⟨cleared, kept, -⟩ := riscvSysbusCheck_quiet { hart with
    bus := nativeWrites flags src width count 0 { hart.bus with control := value, address := address } }
  exact ⟨kept.trans unchanged, cleared⟩

section Widths

theorem widthAlign_bytes {width : Nat} (narrow : width ≤ 2) :
    (widthAlign width).bytes = 2 ^ width ∧ MemApTransfer.Narrow (widthAlign width) := by
  interval_cases width <;> exact ⟨rfl, by decide⟩

theorem supports_iff_testBit {width : Nat} (narrow : width ≤ 2) : supports flags width = flags.testBit width := by
  rw [supports, Nat.testBit_and]
  interval_cases width <;> simp [Nat.testBit]

theorem flags_and_width {width : Nat} (narrow : width ≤ 2) :
    flags &&& 2 ^ width ≠ 0 ↔ supports flags width = true := by
  rw [supports_iff_testBit narrow, Nat.and_two_pow]
  cases flags.testBit width <;> simp

/-- The width the detour takes: at least the access width, and one that the module
has unless it is the widest. -/
theorem nextNativeWidth_spec {width : Nat} (narrow : width ≤ 2) (unsupported : supports flags width = false) :
    nextNativeWidth flags 2 width ≤ 2 ∧ width ≤ nextNativeWidth flags 2 width ∧
      (supports flags (nextNativeWidth flags 2 width) = true → width < nextNativeWidth flags 2 width) ∧
      (supports flags (nextNativeWidth flags 2 width) = false → nextNativeWidth flags 2 width = 2) ∧
      nextNativeWidth flags 2 width ≠ 0 := by
  have bit : ∀ k ≤ 2, (flags >>> k) &&& 1 = 0 ↔ supports flags k = false := by
    intro k small
    rw [supports_iff_testBit small, Nat.testBit, Nat.and_comm]
    simp
  interval_cases width
  · simp only [nextNativeWidth, bit 0 (by decide), bit 1 (by decide), unsupported]
    cases first : supports flags 1 <;> simp [first]
  · simp only [nextNativeWidth, bit 1 (by decide), bit 2 (by decide), unsupported]
    cases first : supports flags 2 <;> simp [first]
  · simp [nextNativeWidth, unsupported]

private theorem accessWidth_eq (address length : Nat) : riscvMemAccessWidth address length =
    if address % 4 = 0 ∧ length % 4 = 0 then 2 else if address % 2 = 0 ∧ length % 2 = 0 then 1 else 0 := by
  have low : ∀ x, x &&& 3 = x % 4 := fun x => Nat.and_two_pow_sub_one_eq_mod x 2
  have addressHalf : address % 2 = address % 4 % 2 := by omega
  have lengthHalf : length % 2 = length % 4 % 2 := by omega
  rw [riscvMemAccessWidth, low, low, addressHalf, lengthHalf]
  have addressLow := Nat.mod_lt address (by decide : 0 < 4)
  have lengthLow := Nat.mod_lt length (by decide : 0 < 4)
  generalize address % 4 = x at *
  generalize length % 4 = y at *
  interval_cases x <;> interval_cases y <;> rfl

/-- The access width divides the address and the length, and no wider one does. -/
theorem accessWidth_spec (address length : Nat) :
    riscvMemAccessWidth address length ≤ 2 ∧ address % 2 ^ riscvMemAccessWidth address length = 0 ∧
      length % 2 ^ riscvMemAccessWidth address length = 0 ∧
      ∀ width, riscvMemAccessWidth address length < width → width ≤ 2 →
        address % 2 ^ width = 0 → length % 2 ^ width ≠ 0 := by
  rw [accessWidth_eq]
  split
  next both => exact ⟨by decide, both.1, both.2, fun width wider narrow => by omega⟩
  next notFour =>
    split
    next both =>
      refine ⟨by decide, both.1, both.2, fun width wider narrow first second => notFour ?_⟩
      obtain rfl : width = 2 := by omega
      exact ⟨first, second⟩
    next notTwo =>
      refine ⟨by decide, Nat.mod_one _, Nat.mod_one _, fun width wider narrow first second => ?_⟩
      obtain rfl | rfl : width = 1 ∨ width = 2 := by omega
      · exact notTwo ⟨first, second⟩
      · exact notFour ⟨first, second⟩

end Widths

end BlackMagic.Proofs.SysbusTransfer

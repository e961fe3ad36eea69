import BlackMagic.Proofs.JtagMemoryFollows
import BlackMagic.Proofs.MemApTransfer

/-! Transfers of memory over a JTAG chain move exactly the bytes that they name. -/

namespace BlackMagic.Proofs.JtagMemoryTransfers
open Lib Lib.Program Lib.Tap
open JtagMemory JtagDp JtagDpWire JtagDpSessions JtagDpRegisters JtagMemoryFollows MemApTransfer
open Jtag (Probe)
open MemAp (Align AccessPort State minAlign)
open SwdAccess (Halt)

section Accesses
variable {device : MemAp.Device} {ap : AccessPort} {behaviour : Nat → Behaviour State} {devIndex : Nat}
  {rest : Nat → Core State} {state : State}

/-- Where the port of a device is, with all other ports as they were. -/
structure Port (devIndex : Nat) (rest : Nat → Core State) (state : State) (cores : Nat → Core State) : Prop where
  registers : (cores devIndex).registers = state
  others : ∀ other, other ≠ devIndex → cores other = rest other

/-- The next access gives what was posted. -/
structure Posted (devIndex : Nat) (rest : Nat → Core State) (state : State) (cores : Nat → Core State) : Prop
    extends Port devIndex rest state cores where
  result : (cores devIndex).result = state.posted

def never : Halt → (Nat → Core State) → Prop := fun _ _ => False

/-- An address of the driver, as the port takes it. -/
def place (addr : BitVec 16) : Nat :=
  (if addr &&& SwdAccess.adiv5ApnDp ≠ 0 then 0x100 else 0) + 4 * ((addr >>> 2).setWidth 2).toNat

theorem places : place adiv5DpSelect = MemAp.adiv5DpSelect ∧ place adiv5DpRdbuff = MemAp.adiv5DpRdbuff ∧
    place adiv5ApCsw = MemAp.adiv5ApCsw ∧ place adiv5ApTar = MemAp.adiv5ApTar ∧ place adiv5ApDrw = MemAp.adiv5ApDrw := by
  decide

variable {other : Transaction → State → BitVec 32} {delay : List Transaction → Nat}

theorem completed_port (fitted : behaviour devIndex = memoryPort device ap other delay) (rnw : Bool) (addr : BitVec 16)
    (value : BitVec 32) {cores : Nat → Core State} (port : Port devIndex rest state cores) :
    Port devIndex rest (MemAp.adiv5DpLowAccess device ap state rnw (place addr) value).2
        (Function.update cores devIndex (completed behaviour devIndex (transactionAt rnw addr value) cores)) ∧
      (addr &&& SwdAccess.adiv5ApnDp ≠ 0 → rnw = true →
        (completed behaviour devIndex (transactionAt rnw addr value) cores).result =
          (MemAp.adiv5DpLowAccess device ap state rnw (place addr) value).2.posted) := by
  have outcome : completed behaviour devIndex (transactionAt rnw addr value) cores =
      ⟨(MemAp.adiv5DpLowAccess device ap state rnw (place addr) value).2,
        if (transactionAt rnw addr value).apndp ∧ rnw then
          (MemAp.adiv5DpLowAccess device ap state rnw (place addr) value).2.posted
        else other (transactionAt rnw addr value) state,
        (cores devIndex).performed ++ [transactionAt rnw addr value]⟩ := by
    rw [completed, fitted, port.registers]
    simp only [memoryPort, transactionAt, place, decide_eq_true_eq]
  rw [outcome]
  refine ⟨⟨?_, fun i apart => ?_⟩, fun selects reads => if_pos ⟨decide_eq_true selects, reads⟩⟩
  · rw [Function.update_self]
  · rw [Function.update_of_ne apart]
    exact port.others i apart

theorem complete_meets (fitted : behaviour devIndex = memoryPort device ap other delay) (rnw : Bool) (addr : BitVec 16)
    (value : BitVec 32) :
    Meets (Port devIndex rest state) (complete behaviour devIndex (transactionAt rnw addr value))
      (fun _ => Port devIndex rest (MemAp.adiv5DpLowAccess device ap state rnw (place addr) value).2) never :=
  fun _ port => (completed_port fitted rnw addr value port).1

/-- An access gives what the one before it has produced. -/
theorem lowAccess_meets (fitted : behaviour devIndex = memoryPort device ap other delay) (rnw : Bool) (addr : BitVec 16)
    (value : BitVec 32) {initial : Nat → Core State} (port : Port devIndex rest state initial) :
    Meets (fun cores => cores = initial) ((plainDp behaviour devIndex).lowAccess rnw addr value)
      (fun previous cores => previous = (initial devIndex).result ∧
        Port devIndex rest (MemAp.adiv5DpLowAccess device ap state rnw (place addr) value).2 cores ∧
        (addr &&& SwdAccess.adiv5ApnDp ≠ 0 → rnw = true → (cores devIndex).result = (cores devIndex).registers.posted)) never := by
  rintro cores rfl
  obtain ⟨after, posted⟩ := completed_port fitted rnw addr value port
  have ran : (plainDp behaviour devIndex).lowAccess rnw addr value cores = (.ok (cores devIndex).result,
      Function.update cores devIndex (completed behaviour devIndex (transactionAt rnw addr value) cores)) := by
    show (read >>= _) cores = _
    rw [read_bind, bind_returned (complete_runs devIndex (transactionAt rnw addr value) cores)]
    rfl
  rw [ran]
  refine ⟨rfl, after, fun selects reads => ?_⟩
  rw [after.registers, Function.update_self]
  exact posted selects reads

theorem write_meets (fitted : behaviour devIndex = memoryPort device ap other delay) (addr : BitVec 16) (value : BitVec 32) :
    Meets (Port devIndex rest state) ((plainDp behaviour devIndex).lowAccess false addr value)
      (fun _ => Port devIndex rest (MemAp.adiv5DpLowAccess device ap state false (place addr) value).2) never :=
  meets_knowing fun _ port => (lowAccess_meets fitted false addr value port).returning fun _ _ result => result.2.1

theorem drw_meets (fitted : behaviour devIndex = memoryPort device ap other delay) :
    Meets (Port devIndex rest state) ((plainDp behaviour devIndex).lowAccess true adiv5ApDrw 0)
      (fun _ => Posted devIndex rest (MemAp.adiv5DpLowAccess device ap state true MemAp.adiv5ApDrw 0).2) never := by
  refine meets_knowing fun cores port => ?_
  refine (lowAccess_meets fitted true adiv5ApDrw 0 port).returning fun _ final result => ?_
  exact ⟨result.2.1, (result.2.2 (by decide) rfl).trans (congrArg State.posted result.2.1.registers)⟩

theorem drw_posted (fitted : behaviour devIndex = memoryPort device ap other delay) :
    Meets (Posted devIndex rest state) ((plainDp behaviour devIndex).lowAccess true adiv5ApDrw 0)
      (fun value cores => value = state.posted ∧
        Posted devIndex rest (MemAp.adiv5DpLowAccess device ap state true MemAp.adiv5ApDrw 0).2 cores) never := by
  refine meets_knowing fun cores posted => ?_
  refine (lowAccess_meets fitted true adiv5ApDrw 0 posted.toPort).returning fun value final result => ?_
  exact ⟨result.1.trans posted.result, result.2.1,
    (result.2.2 (by decide) rfl).trans (congrArg State.posted result.2.1.registers)⟩

theorem setup_meets (fitted : behaviour devIndex = memoryPort device ap other delay) (addr : Nat) (align : Align) :
    Meets (Port devIndex rest state) (apMemAccessSetup (plainDp behaviour devIndex) ap addr align)
      (fun _ => Port devIndex rest (MemAp.apMemAccessSetup device ap state addr align)) never := by
  have written : Meets (Port devIndex rest state)
      (firmwareApWrite (plainDp behaviour devIndex) ap adiv5ApCsw (ap.csw ||| 0x10#32 ||| MemAp.cswSize align))
      (fun _ => Port devIndex rest
        (MemAp.adiv5ApWrite device ap state MemAp.adiv5ApCsw (ap.csw ||| 0x10#32 ||| MemAp.cswSize align))) never :=
    Meets.bind (write_meets fitted _ _) fun _ => Meets.bind (write_meets fitted _ _) fun _ => meets_pure fun _ port => port
  exact Meets.bind written fun _ => Meets.bind (write_meets fitted _ _) fun _ => meets_pure fun _ port => port

end Accesses

section Loops
variable {device : MemAp.Device} {ap : AccessPort} {behaviour : Nat → Behaviour State} {devIndex : Nat}
  {rest : Nat → Core State} {other : Transaction → State → BitVec 32} {delay : List Transaction → Nat} {align : Align}

def readerOf (reading : MemAp.Reading) : Reader := ⟨reading.dest, reading.index, reading.src, reading.osrc⟩

theorem readElement_meets (fitted : behaviour devIndex = memoryPort device ap other delay) {reading : MemAp.Reading}
    (selected : Selected ap align reading.port) :
    Meets (Posted devIndex rest reading.port) (readElement (plainDp behaviour devIndex) align (readerOf reading))
      (fun reader cores => reader = readerOf (MemAp.readElement device ap align reading) ∧
        Posted devIndex rest (MemAp.readElement device ap align reading).port cores) never := by
  refine Meets.bind (drw_posted fitted) fun value => meets_given fun same => ?_
  subst same
  have value : (MemAp.adiv5DpLowAccess device ap reading.port true MemAp.adiv5ApDrw 0#32).1 = reading.port.posted :=
    congrArg Prod.fst (selected.drw_read 0#32)
  refine meets_ite (fun crossed => ?_) fun inside => ?_
  · have next : MemAp.readElement device ap align reading =
        { dest := (MemAp.adiv5UnpackData reading.dest reading.index reading.src reading.port.posted align).1
          index := (MemAp.adiv5UnpackData reading.dest reading.index reading.src reading.port.posted align).2
          src := (reading.src + align.bytes) % 2 ^ 32
          osrc := (reading.src + align.bytes) % 2 ^ 32
          port := (MemAp.adiv5DpLowAccess device ap (MemAp.adiv5DpLowAccess device ap
            (MemAp.adiv5DpLowAccess device ap reading.port true MemAp.adiv5ApDrw 0#32).2 false MemAp.adiv5ApTar
            (BitVec.ofNat 32 ((reading.src + align.bytes) % 2 ^ 32))).2 true MemAp.adiv5ApDrw 0#32).2 } := by
      rw [← value]
      exact if_pos crossed
    rw [next]
    refine Meets.bind ((write_meets fitted _ _).starting fun _ posted => posted.toPort) fun _ => ?_
    exact Meets.bind (drw_meets fitted) fun _ => meets_pure fun _ posted => ⟨rfl, posted⟩
  · have next : MemAp.readElement device ap align reading =
        { dest := (MemAp.adiv5UnpackData reading.dest reading.index reading.src reading.port.posted align).1
          index := (MemAp.adiv5UnpackData reading.dest reading.index reading.src reading.port.posted align).2
          src := (reading.src + align.bytes) % 2 ^ 32
          osrc := reading.osrc
          port := (MemAp.adiv5DpLowAccess device ap reading.port true MemAp.adiv5ApDrw 0#32).2 } := by
      rw [← value]
      exact if_neg inside
    rw [next]
    exact meets_pure fun _ posted => ⟨rfl, posted⟩

theorem readElements_meets (fitted : behaviour devIndex = memoryPort device ap other delay) (narrow : Narrow align)
    {dest : Buffer} {start count : Nat} {content : Nat → Byte} (aligned : start % align.bytes = 0) (more : Nat)
    {reading : MemAp.Reading} (read : Read ap align dest start content count reading) :
    Meets (Posted devIndex rest reading.port) (readElements (plainDp behaviour devIndex) align more (readerOf reading))
      (fun reader cores => reader = readerOf (MemAp.readElements device ap align more reading) ∧
        Posted devIndex rest (MemAp.readElements device ap align more reading).port cores) never := by
  induction more generalizing count reading with
  | zero => exact meets_pure fun _ posted => ⟨rfl, posted⟩
  | succ more ih =>
    refine Meets.bind (readElement_meets fitted read.port.selected) fun reader => meets_given fun same => ?_
    subst same
    exact ih (readElement_read device narrow aligned read)

def writerOf (writing : MemAp.Writing) : Writer := ⟨writing.index, writing.dest, writing.odest⟩

theorem writeElement_meets (fitted : behaviour devIndex = memoryPort device ap other delay) (src : Buffer)
    (writing : MemAp.Writing) :
    Meets (Port devIndex rest writing.port) (writeElement (plainDp behaviour devIndex) align src (writerOf writing))
      (fun writer cores => writer = writerOf (MemAp.writeElement device ap align src writing) ∧
        Port devIndex rest (MemAp.writeElement device ap align src writing).port cores) never := by
  refine Meets.bind (write_meets fitted _ _) fun _ => meets_ite (fun crossed => ?_) fun inside => ?_
  · have next : MemAp.writeElement device ap align src writing =
        { index := (MemAp.adiv5PackData writing.dest src writing.index align).2
          dest := (writing.dest + align.bytes) % 2 ^ 32
          odest := (writing.dest + align.bytes) % 2 ^ 32
          port := (MemAp.adiv5DpLowAccess device ap (MemAp.adiv5DpLowAccess device ap writing.port false MemAp.adiv5ApDrw
            (MemAp.adiv5PackData writing.dest src writing.index align).1).2 false MemAp.adiv5ApTar
            (BitVec.ofNat 32 ((writing.dest + align.bytes) % 2 ^ 32))).2 } := if_pos crossed
    rw [next]
    exact Meets.bind (write_meets fitted _ _) fun _ => meets_pure fun _ port => ⟨rfl, port⟩
  · have next : MemAp.writeElement device ap align src writing =
        { index := (MemAp.adiv5PackData writing.dest src writing.index align).2
          dest := (writing.dest + align.bytes) % 2 ^ 32
          odest := writing.odest
          port := (MemAp.adiv5DpLowAccess device ap writing.port false MemAp.adiv5ApDrw
            (MemAp.adiv5PackData writing.dest src writing.index align).1).2 } := if_neg inside
    rw [next]
    exact meets_pure fun _ port => ⟨rfl, port⟩

theorem writeElements_meets (fitted : behaviour devIndex = memoryPort device ap other delay) (src : Buffer) (more : Nat)
    (writing : MemAp.Writing) :
    Meets (Port devIndex rest writing.port) (writeElements (plainDp behaviour devIndex) align src more (writerOf writing))
      (fun _ => Port devIndex rest (MemAp.writeElements device ap align src more writing).port) never := by
  induction more generalizing writing with
  | zero => exact meets_pure fun _ port => port
  | succ more ih =>
    refine Meets.bind (writeElement_meets fitted src writing) fun writer => meets_given fun same => ?_
    subst same
    exact ih _

theorem dpRead_meets (fitted : behaviour devIndex = memoryPort device ap other delay) {state : State} :
    Meets (Port devIndex rest state) ((plainDp behaviour devIndex).dpRead adiv5DpRdbuff)
      (fun _ => Port devIndex rest state) never := by
  have buffered : Meets (Port devIndex rest state) (complete behaviour devIndex (transactionAt true adiv5DpRdbuff 0))
      (fun _ => Port devIndex rest state) never :=
    complete_meets fitted true adiv5DpRdbuff 0
  exact Meets.bind buffered fun _ => Meets.bind buffered fun _ => meets_pure fun _ port => port

end Loops

section Recall
variable {behaviour : Nat → Behaviour State} {aps : Nat → AccessPort} {served : Nat → Prop} {cores : Nat → Core State}
  {memories : Memories} {devIndex : Nat}

/-- What is at the ports is what has been stored. -/
def Remembered (served : Nat → Prop) (cores : Nat → Core State) (memories : Memories) : Prop :=
  ∀ devIndex, served devIndex → ∀ address : BitVec 32,
    (cores devIndex).registers.memory address.toNat = memories devIndex address

theorem Remembered.after (remembered : Remembered served cores memories) {last : Nat → Core State} {state : State}
    (port : Port devIndex cores state last) {memory : BitVec 32 → Byte}
    (same : ∀ address : BitVec 32, state.memory address.toNat = memory address) :
    Remembered served last (Function.update memories devIndex memory) := by
  intro other at_ address
  by_cases here : other = devIndex
  · subst here
    rw [port.registers, Function.update_self, same address]
  · rw [port.others other here, Function.update_of_ne here, remembered other at_ address]

end Recall

section Chains
variable {behaviour : Nat → Behaviour State} {aps : Nat → AccessPort} {served : Nat → Prop}
  {parts : List (ChainPart (DebugPort State))} {platformTimeMs : Nat → Nat} {limit rounds : Nat} {stack : Buffer}

def jtagTransfer (platformTimeMs : Nat → Nat) (stack : Buffer)
    (recovery : JtagDp.Action (Probe (DebugPort State)) (BitVec 32)) (rounds : Nat) (aps : Nat → AccessPort)
    (item : Nat × Transfer) : JtagDp.Action (Probe (DebugPort State)) (List Byte) :=
  transfer (jtagDp platformTimeMs (probeWire stack) recovery rounds item.1) (aps item.1) item.2

def blank : State := ⟨0, 0, 0, 0, fun _ => 0⟩

end Chains

end BlackMagic.Proofs.JtagMemoryTransfers

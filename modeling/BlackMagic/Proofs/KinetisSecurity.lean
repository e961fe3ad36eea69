import BlackMagic.Kinetis
import BlackMagic.Proofs.FlashResults
import Mathlib.Data.Nat.Prime.Basic

/-! When a Kinetis or KE04 part is left unsecured: an erased security byte is programmed again when its region is closed,
and no write in the address range of the commands puts anything else there. -/

namespace BlackMagic.Proofs.KinetisSecurity
open BlackMagic.Flash Kinetis Lib.Words FlashRuns FlashSteps FlashResults

section Commands

/-- The controller takes a command and carries it out. -/
def Obeyed (driver : Driver) (controller : Controller) (command : Nat) : Prop :=
  match driver with
  | .kinetis _ => controller.fstat command &&& (ftfxFstatAccerr ||| ftfxFstatFpviol ||| ftfxFstatMgstat0) = 0
  | .ke04 => controller.waits command = true ∧
      controller.fstat command &&& (ftmreFstatAccerr ||| ftmreFstatFpviol ||| ftmreFstatMgstat1 ||| ftmreFstatMgstat0) = 0

/-- A command to the controller of a part. -/
def issue (driver : Driver) (controller : Controller) : Nat → (Nat → Device → Device) → Device → Bool × Device :=
  match driver with
  | .kinetis _ => kinetisFccobCmd controller
  | .ke04 => ke04Command controller

def writeLen : Driver → Nat
  | .kinetis writeLen => writeLen
  | .ke04 => ke04WriteLen

variable {driver : Driver} {controller : Controller} {addr : Nat} {execute : Nat → Device → Device} {device : Device}

theorem issue_effect (driver : Driver) (controller : Controller) (addr : Nat) (execute : Nat → Device → Device)
    (device : Device) : ∃ failed,
      (issue driver controller addr execute device).2 = carryOut failed (execute (addr % 2 ^ 24)) device ∨
      (issue driver controller addr execute device).2 = carryOut true id device := by
  cases driver with
  | kinetis writeLen => exact ⟨_, .inl rfl⟩
  | ke04 =>
    simp only [issue, ke04Command]
    split
    · exact ⟨true, .inr rfl⟩
    · exact ⟨_, .inl rfl⟩

theorem issue_obeyed (obeyed : Obeyed driver controller device.commands) :
    (issue driver controller addr execute device).2 = carryOut false (execute (addr % 2 ^ 24)) device := by
  cases driver with
  | kinetis writeLen =>
    have flags : ∀ fstat : Byte, fstat &&& (ftfxFstatAccerr ||| ftfxFstatFpviol ||| ftfxFstatMgstat0) = 0 →
        fstat &&& (ftfxFstatAccerr ||| ftfxFstatFpviol) = 0 ∧ fstat &&& ftfxFstatMgstat0 = 0 := by
      decide +kernel
    obtain ⟨taken, done⟩ := flags _ obeyed
    simp only [issue, kinetisFccobCmd, taken, done]
    rfl
  | ke04 =>
    have flags : ∀ fstat : Byte,
        fstat &&& (ftmreFstatAccerr ||| ftmreFstatFpviol ||| ftmreFstatMgstat1 ||| ftmreFstatMgstat0) = 0 →
          fstat &&& (ftmreFstatAccerr ||| ftmreFstatFpviol) = 0 ∧ fstat &&& (ftmreFstatMgstat1 ||| ftmreFstatMgstat0) = 0 := by
      decide +kernel
    obtain ⟨waited, answer⟩ := obeyed
    obtain ⟨taken, done⟩ := flags _ answer
    simp only [issue, ke04Command, waited, taken, done]
    rfl

/-- What holds of every command of a loop holds of the loop. -/
theorem commandLoop_related (related : Device → Device → Prop) (refl : ∀ device, related device device)
    (trans : ∀ {first second third}, related first second → related second third → related first third)
    {command : Nat → Device → Bool × Device} {step total : Nat}
    (each : ∀ offset < total, ∀ device, related device (command offset device).2) {fuel offset len : Nat}
    (inside : len = 0 ∨ offset + len ≤ total) (device : Device) :
    related device (commandLoop command step fuel offset len device).2 := by
  induction fuel generalizing offset len device with
  | zero => exact refl device
  | succ fuel ih =>
    rw [commandLoop]
    split
    next => exact refl device
    next some =>
      have one := each offset (by omega) device
      dsimp only
      split
      next => exact one
      next =>
        apply trans one
        apply ih
        split
        · exact .inr (by omega)
        · exact .inl rfl

end Commands

section SecurityByte

/-- The security byte stays, or loses bits that it does not have when the part is unsecured. -/
structure Spared (place : Nat) (before after : Device) : Prop where
  erasures : after.erasures place = before.erasures place
  byte : after.memory place = before.memory place ∨ after.memory place = before.memory place &&& flashSecurityByteUnsecured

theorem Spared.refl (place : Nat) (device : Device) : Spared place device device := ⟨rfl, .inl rfl⟩

theorem Spared.trans {place : Nat} {first second third : Device} (one : Spared place first second)
    (two : Spared place second third) : Spared place first third := by
  have twice : ∀ byte : Byte, byte &&& flashSecurityByteUnsecured &&& flashSecurityByteUnsecured =
      byte &&& flashSecurityByteUnsecured := by decide +kernel
  refine ⟨two.erasures.trans one.erasures, ?_⟩
  rcases two.byte with same | cleared
  · rw [same]
    exact one.byte
  · rcases one.byte with same | earlier
    · rw [cleared, same]
      exact .inr rfl
    · rw [cleared, earlier, twice]
      exact .inr rfl

/-- The security byte is as before, or erased. -/
def Erased (place : Nat) (before after : Device) : Prop :=
  after.memory place = before.memory place ∧ after.erasures place = before.erasures place ∨ after.memory place = 0xff#8

theorem Erased.trans {place : Nat} {first second third : Device} (one : Erased place first second)
    (two : Erased place second third) : Erased place first third := by
  rcases two with ⟨same, count⟩ | wiped
  · rcases one with ⟨earlier, before⟩ | wiped
    · exact .inl ⟨same.trans earlier, count.trans before⟩
    · exact .inr (same.trans wiped)
  · exact .inr wiped

variable {driver : Driver} {controller : Controller} {device : Device} {place : Nat}

theorem erase_erased (sector addr : Nat) (device : Device) :
    Erased place device (issue driver controller addr (eraseSector sector) device).2 := by
  obtain ⟨failed, effect | effect⟩ := issue_effect driver controller addr (eraseSector sector) device
  · rw [effect]
    cases failed with
    | true => exact .inl ⟨rfl, rfl⟩
    | false =>
      by_cases inside : place / sector = (addr % 2 ^ 24) / sector
      · exact .inr (if_pos inside)
      · exact .inl ⟨if_neg inside, if_neg inside⟩
  · rw [effect]
    exact .inl ⟨rfl, rfl⟩

theorem program_spared {addr : Nat} {data : List Byte} (guarded : addr % 2 ^ 24 ≤ place →
      ∀ byte ∈ data[place - addr % 2 ^ 24]?, byte = flashSecurityByteUnsecured) (device : Device) :
    Spared place device (issue driver controller addr (program · data) device).2 := by
  obtain ⟨failed, effect | effect⟩ := issue_effect driver controller addr (program · data) device
  · rw [effect]
    cases failed with
    | true => exact ⟨rfl, .inl rfl⟩
    | false =>
      refine ⟨rfl, ?_⟩
      by_cases reached : addr % 2 ^ 24 ≤ place
      · have value : (carryOut false (program (addr % 2 ^ 24) data) device).memory place =
            device.memory place &&& data[place - addr % 2 ^ 24]?.getD 0xff#8 := if_pos reached
        have allOnes : ∀ byte : Byte, byte &&& 0xff#8 = byte := by decide +kernel
        rw [value]
        cases here : data[place - addr % 2 ^ 24]? with
        | none => exact .inl (allOnes _)
        | some byte => exact .inr (by rw [guarded reached byte (by rw [here]; rfl)]; rfl)
      · exact .inl (if_neg reached)
  · rw [effect]
    exact ⟨rfl, .inl rfl⟩

end SecurityByte

section Handlers

variable {part : Part} {controller : Controller}

theorem erase_handled (i addr len : Nat) (device : Device) :
    Erased part.securityByteAddress device (part.handle false controller (.erase i addr len) device).2 := by
  have each (offset : Nat) (_ : offset < len) (device : Device) : Erased part.securityByteAddress device
      (issue part.driver controller (add32 addr offset) (eraseSector (part.regions.flash i).blocksize) device).2 :=
    erase_erased _ _ device
  have loop : Erased part.securityByteAddress device (commandLoop (fun offset =>
      issue part.driver controller (add32 addr offset) (eraseSector (part.regions.flash i).blocksize))
        (part.regions.flash i).blocksize len 0 len device).2 :=
    commandLoop_related (Erased part.securityByteAddress) (fun _ => .inl ⟨rfl, rfl⟩) Erased.trans each
      (.inr (Nat.le_of_eq (Nat.zero_add len))) device
  simp only [Part.handle]
  cases driver : part.driver with
  | kinetis writeLen =>
    rw [driver] at loop
    exact loop
  | ke04 =>
    rw [driver] at loop
    exact loop

theorem patched_length (place dest : Nat) (src : List Byte) : (patched false place dest src).length = src.length := by
  rw [patched]
  split
  · exact List.length_set
  · rfl

/-- The byte of the data for the security byte leaves the part unsecured. -/
theorem patched_byte {place dest offset : Nat} {src : List Byte} {length : Nat} (below : dest + src.length ≤ 2 ^ 24)
    (reached : dest + offset ≤ place) :
    ∀ byte ∈ (((patched false place dest src).drop offset).take length)[place - (dest + offset)]?,
      byte = flashSecurityByteUnsecured := by
  intro byte member
  have sum : add32 dest src.length = dest + src.length := add32_of_lt (by omega)
  rw [List.getElem?_take, List.getElem?_drop] at member
  have index : offset + (place - (dest + offset)) = place - dest := by omega
  rw [index] at member
  split at member
  next =>
    have inside : place - dest < src.length := by
      rw [← patched_length place dest src]
      exact (List.getElem?_eq_some_iff.mp member).1
    have patch : patched false place dest src = src.set (place - dest) flashSecurityByteUnsecured := by
      rw [patched, sum, if_pos]
      simp only [Bool.not_false, Bool.true_and, Bool.and_eq_true, decide_eq_true_eq]
      omega
    rw [patch, List.getElem?_set_self inside] at member
    exact (Option.some.inj member).symm
  next => cases member

theorem write_handled {i dest source : Nat} {src : List Byte} (below : dest + src.length ≤ 2 ^ 24) (device : Device) :
    Spared part.securityByteAddress device (part.handle false controller (.write i dest source src) device).2 := by
  have each (offset : Nat) (inside : offset < src.length) (device : Device) : Spared part.securityByteAddress device
      (issue part.driver controller (add32 dest offset) (program · (((patched false part.securityByteAddress dest src).drop
        offset).take (writeLen part.driver))) device).2 := by
    have place : add32 dest offset % 2 ^ 24 = dest + offset := by
      rw [add32_of_lt (by omega), Nat.mod_eq_of_lt (by omega)]
    apply program_spared
    rw [place]
    exact fun reached => patched_byte below reached
  have loop : Spared part.securityByteAddress device (commandLoop (fun offset => issue part.driver controller
      (add32 dest offset) (program · (((patched false part.securityByteAddress dest src).drop offset).take
        (writeLen part.driver)))) (writeLen part.driver) src.length 0 src.length device).2 :=
    commandLoop_related (Spared part.securityByteAddress) (Spared.refl _) Spared.trans each
      (.inr (Nat.le_of_eq (Nat.zero_add src.length))) device
  rw [← patched_length part.securityByteAddress dest src] at loop
  simp only [Part.handle]
  cases driver : part.driver with
  | kinetis writeLen =>
    simp only [driver, Part.securityByteAddress] at loop ⊢
    exact loop
  | ke04 =>
    simp only [driver, Part.securityByteAddress] at loop ⊢
    exact loop

/-- An erased byte is programmed again with the word or phrase that it is in. -/
theorem reprogrammed {driver : Driver} {device : Device} {start length place : Nat}
    (obeyed : Obeyed driver controller device.commands) (erased : device.memory place = 0xff#8) (low : start ≤ place)
    (high : place < start + length) (below : start < 2 ^ 24) {vals : List Byte}
    (replaced : vals = (readBytes device.memory start length).set (place - start) flashSecurityByteUnsecured) :
    (issue driver controller start (program · vals) device).2.memory place = flashSecurityByteUnsecured := by
  have inside : place - start < (readBytes device.memory start length).length := by
    rw [readBytes, List.length_map, List.length_range]
    omega
  have byte : vals[place - start]? = some flashSecurityByteUnsecured := by
    rw [replaced]
    exact List.getElem?_set_self inside
  have value : (carryOut false (program start vals) device).memory place =
      device.memory place &&& vals[place - start]?.getD 0xff#8 := if_pos low
  rw [issue_obeyed obeyed, Nat.mod_eq_of_lt below, value, byte, erased]
  rfl

theorem done_handled {i : Nat} {device : Device} (obeyed : device.memory part.securityByteAddress = 0xff#8 →
      Obeyed part.driver controller device.commands)
    (byte : device.memory part.securityByteAddress = flashSecurityByteUnsecured ∨
      device.memory part.securityByteAddress = 0xff#8) :
    (part.handle false controller (.done i) device).2.memory part.securityByteAddress = flashSecurityByteUnsecured := by
  simp only [Part.handle]
  cases driver : part.driver with
  | kinetis writeLen =>
    simp only [driver, Part.securityByteAddress] at obeyed byte ⊢
    simp only [kinetisFlashDone, Bool.false_eq_true, if_false]
    split
    next same => exact same
    next other =>
      have erased := byte.resolve_left other
      split
      next => exact reprogrammed (obeyed erased) erased (by decide) (by decide) (by decide) rfl
      next => exact reprogrammed (obeyed erased) erased (by decide) (by decide) (by decide) rfl
  | ke04 =>
    simp only [driver, Part.securityByteAddress] at obeyed byte ⊢
    simp only [ke04FlashDone, Bool.false_or, decide_eq_true_eq]
    split
    next same => exact same
    next other =>
      have erased := byte.resolve_left other
      exact reprogrammed (obeyed erased) erased (by decide) (by decide) (by decide) rfl

theorem program_erasures (driver : Driver) (addr : Nat) (data : List Byte) (device : Device) :
    (issue driver controller addr (program · data) device).2.erasures = device.erasures := by
  obtain ⟨failed, effect | effect⟩ := issue_effect driver controller addr (program · data) device
  · rw [effect]
    cases failed <;> rfl
  · rw [effect]
    rfl

theorem done_erasures (i : Nat) (device : Device) :
    (part.handle false controller (.done i) device).2.erasures = device.erasures := by
  simp only [Part.handle]
  cases driver : part.driver with
  | kinetis writeLen =>
    simp only [kinetisFlashDone, Bool.false_eq_true, if_false]
    split
    · rfl
    · split
      · exact program_erasures (.kinetis writeLen) _ _ device
      · exact program_erasures (.kinetis writeLen) _ _ device
  | ke04 =>
    simp only [ke04FlashDone, Bool.false_or, decide_eq_true_eq]
    split
    · rfl
    · exact program_erasures .ke04 _ _ device

end Handlers

section Steps

variable (part : Part) (controller : Controller) (device : Device)

/-- The device after the calls that the target has made. -/
def present (target : Target) : Device := part.after false controller device target.calls

def securityByte (target : Target) : Byte := (present part controller device target).memory part.securityByteAddress

def sectorErasures (target : Target) : Nat := (present part controller device target).erasures part.securityByteAddress

/-- The part is unsecured, or will be when a region is closed. -/
def Guarded (target : Target) : Prop :=
  securityByte part controller device target = flashSecurityByteUnsecured ∨
    securityByte part controller device target = 0xff#8 ∧
      ∃ i < part.regions.list.length, (target.state i).operation ≠ .none

/-- The part was unsecured before, or the sector of the security byte has been erased since. -/
def Concerned (start target : Target) : Prop :=
  securityByte part controller device start = flashSecurityByteUnsecured ∨
    sectorErasures part controller device start < sectorErasures part controller device target

/-- Every command that is to program the security byte after an erase is carried out. -/
def Reprogrammed (start : Target) (calls : List Call) : Prop :=
  ∀ before i, start.calls <+: before → before ++ [.done i] <+: calls →
    (part.after false controller device before).memory part.securityByteAddress = 0xff#8 →
      Obeyed part.driver controller (part.after false controller device before).commands

/-- What holds along a sequence whose writes lie in the address range of the commands. -/
structure Kept (start target : Target) : Prop where
  past : start.calls <+: target.calls
  low : ∀ i, (target.state i).buf.isSome → (target.state i).bufAddrHigh ≤ 2 ^ 24
  guarded : Concerned part controller device start target → Guarded part controller device target

variable {part controller device} {env : Environment} {start target next : Target}

theorem after_call (calls : List Call) (call : Call) : part.after false controller device (calls ++ [call]) =
    (part.handle false controller call (part.after false controller device calls)).2 := by
  rw [Part.after, List.foldl_append]
  rfl

/-- What is all the same to the device, and leaves the regions busy that are busy. -/
structure Frame (part : Part) (controller : Controller) (device : Device) (target next : Target) : Prop where
  past : target.calls <+: next.calls
  byte : securityByte part controller device next = securityByte part controller device target
  erasures : sectorErasures part controller device next = sectorErasures part controller device target
  busy : ∀ i, (target.state i).operation ≠ .none → (next.state i).operation ≠ .none

theorem Kept.frame (kept : Kept part controller device start target) (frame : Frame part controller device target next)
    (low : ∀ i, (next.state i).buf.isSome → (next.state i).bufAddrHigh ≤ 2 ^ 24) :
    Kept part controller device start next := by
  refine ⟨kept.past.trans frame.past, low, fun concerned => ?_⟩
  rw [Concerned, frame.erasures] at concerned
  rw [Guarded, frame.byte]
  rcases kept.guarded concerned with unsecured | ⟨erased, i, listed, busy⟩
  · exact .inl unsecured
  · exact .inr ⟨erased, i, listed, frame.busy i busy⟩

/-- A call that a driver does nothing for. -/
def Idle (part : Part) (call : Call) : Prop :=
  ∀ controller device, (part.handle false controller call device).2 = device

theorem idle_present {calls : List Call} {call : Call} (idle : Idle part call) :
    part.after false controller device (calls ++ [call]) = part.after false controller device calls := by
  rw [after_call, idle]

theorem idle_calls (part : Part) : Idle part .enterFlashMode ∧ Idle part .exitFlashMode ∧ Idle part .reset ∧
    (∀ size, Idle part (.malloc size)) ∧ ∀ i offset len, Idle part (.memcpy i offset len) := by
  simp only [Idle, Part.handle]
  cases part.driver with
  | kinetis writeLen => simp
  | ke04 => simp

/-- At most one call, which the driver does nothing for. -/
def AtMost (part : Part) (calls next : List Call) : Prop := next = calls ∨ ∃ call, Idle part call ∧ next = calls ++ [call]

theorem AtMost.frame (calls : AtMost part target.calls next.calls)
    (busy : ∀ i, (target.state i).operation ≠ .none → (next.state i).operation ≠ .none) :
    Frame part controller device target next := by
  rcases calls with same | ⟨call, idle, more⟩
  · exact ⟨by rw [same], by simp only [securityByte, present, same], by simp only [sectorErasures, present, same], busy⟩
  · refine ⟨by rw [more]; exact List.prefix_append _ _, ?_, ?_, busy⟩
    · simp only [securityByte, present, more, idle_present idle]
    · simp only [sectorErasures, present, more, idle_present idle]

theorem enter_calls (part : Part) (env : Environment) (target : Target) :
    AtMost part target.calls (targetEnterFlashMode env target).2.calls := by
  obtain ⟨entering, -, resetting, -⟩ := idle_calls part
  rw [targetEnterFlashMode]
  split
  · exact .inl rfl
  · by_cases driver : env.enterFlashMode = true
    · simp only [driver, if_true]
      split <;> exact .inr ⟨_, entering, rfl⟩
    · by_cases reset : env.reset = true
      · simp only [driver, reset, if_true, if_false, Bool.false_eq_true]
        exact .inr ⟨_, resetting, rfl⟩
      · simp only [driver, reset, if_true, if_false, Bool.false_eq_true]
        exact .inl rfl

theorem exit_calls (part : Part) (env : Environment) (target : Target) :
    AtMost part target.calls (targetExitFlashMode env target).2.calls := by
  obtain ⟨-, exiting, resetting, -⟩ := idle_calls part
  rw [targetExitFlashMode]
  split
  · exact .inl rfl
  · by_cases driver : env.exitFlashMode = true
    · simp only [driver, if_true]
      exact .inr ⟨_, exiting, rfl⟩
    · by_cases reset : env.reset = true
      · simp only [driver, reset, if_true, if_false, Bool.false_eq_true]
        exact .inr ⟨_, resetting, rfl⟩
      · simp only [driver, reset, if_false, Bool.false_eq_true]
        exact .inl rfl

theorem region_callbacks (known : part ∈ parts) {i : Nat} (listed : i < part.regions.list.length) :
    (part.regions.flash i).done = true ∧ (part.regions.flash i).prepare = false ∧
      (part.regions.flash i).writesize ∣ 2 ^ 24 := by
  have all : ∀ part ∈ parts, ∀ flash ∈ part.list, flash.done = true ∧ flash.prepare = false ∧ flash.writesize ∣ 2 ^ 24 := by
    decide +kernel
  apply all part known
  rw [Regions.flash, List.getElem?_eq_getElem listed]
  exact List.getElem_mem listed

theorem put_busy {i : Nat} {state : FlashState} (busy : (target.state i).operation ≠ .none → state.operation ≠ .none)
    (j : Nat) (before : (target.state j).operation ≠ .none) : ((target.put i state).state j).operation ≠ .none := by
  by_cases same : j = i
  · subst same
    simpa [Target.put] using busy before
  · simpa [Target.put, same] using before

theorem put_low {i : Nat} {state : FlashState}
    (low : ∀ j, (target.state j).buf.isSome → (target.state j).bufAddrHigh ≤ 2 ^ 24)
    (here : state.buf.isSome → state.bufAddrHigh ≤ 2 ^ 24) (j : Nat) :
    ((target.put i state).state j).buf.isSome → ((target.put i state).state j).bufAddrHigh ≤ 2 ^ 24 := by
  by_cases same : j = i
  · subst same
    simpa [Target.put] using here
  · simpa [Target.put, same] using low j

theorem next_multiple {size a b : Nat} (first : size ∣ a) (second : size ∣ b) (less : a < b) : a + size ≤ b := by
  obtain ⟨x, rfl⟩ := first
  obtain ⟨y, rfl⟩ := second
  have step : x + 1 ≤ y := Nat.lt_of_mul_lt_mul_left less
  calc size * x + size = size * (x + 1) := by rw [Nat.mul_succ]
    _ ≤ size * y := Nat.mul_le_mul_left size step

/-- The block of a flush ends within the range of the commands. -/
theorem flushed_below {state : FlashState} {size offset : Nat} (divides : size ∣ 2 ^ 24) (filled : Filled state)
    (range : state.bufAddrHigh ≤ 2 ^ 24) (multiple : size ∣ offset)
    (more : offset < sub32 state.bufAddrHigh (alignDown state.bufAddrLow size)) :
    add32 (alignDown state.bufAddrLow size) offset + size ≤ 2 ^ 24 := by
  obtain ⟨k, small, rfl⟩ := (Nat.dvd_prime_pow Nat.prime_two).mp divides
  have below := filled.2.2
  have down := alignDown_two_pow (a := state.bufAddrLow) (by omega) (by omega : k < 32)
  have rounded : 2 ^ k * (state.bufAddrLow / 2 ^ k) ≤ state.bufAddrLow := Nat.mul_div_le _ _
  rw [down] at more ⊢
  rw [sub32_of_le (by omega) (by omega)] at more
  rw [add32_of_lt (by omega)]
  exact next_multiple (Nat.dvd_add (Nat.dvd_mul_right _ _) multiple) divides (by omega)

theorem Kept.done (known : part ∈ parts) {i : Nat} (listed : i < part.regions.list.length)
    (kept : Kept part controller device start target)
    (reprogrammed : Reprogrammed part controller device start (target.calls ++ [.done i])) :
    Kept part controller device start ((noted target (part.regions.flash i).done (.done i)).put i
      { target.state i with buf := none, operation := .none }) := by
  have callback := (region_callbacks known listed).1
  have shape : noted target (part.regions.flash i).done (.done i) =
      { target with calls := target.calls ++ [.done i] } := by rw [noted, if_pos callback]
  rw [shape]
  refine ⟨kept.past.trans (List.prefix_append _ _), put_low kept.low (fun never => by cases never), ?_⟩
  intro concerned
  have earlier : Concerned part controller device start target := by
    rw [Concerned] at concerned ⊢
    simpa only [sectorErasures, present, Target.put, after_call, done_erasures] using concerned
  have byte : securityByte part controller device target = flashSecurityByteUnsecured ∨
      securityByte part controller device target = 0xff#8 := by
    rcases kept.guarded earlier with unsecured | ⟨erased, -⟩
    · exact .inl unsecured
    · exact .inr erased
  have obeyed := reprogrammed target.calls i kept.past (List.prefix_refl _)
  left
  simp only [securityByte, present, Target.put, after_call]
  exact done_handled obeyed byte

theorem Kept.erase {i addr len : Nat} (listed : i < part.regions.list.length) (busy : (target.state i).operation ≠ .none)
    (kept : Kept part controller device start target) :
    Kept part controller device start (noted target true (.erase i addr len)) := by
  refine ⟨kept.past.trans (List.prefix_append _ _), kept.low, fun concerned => ?_⟩
  have erased : Erased part.securityByteAddress (present part controller device target)
      (present part controller device (noted target true (.erase i addr len))) := by
    have calls : (noted target true (.erase i addr len)).calls = target.calls ++ [.erase i addr len] := rfl
    rw [present, present, calls, after_call]
    exact erase_handled i addr len _
  rcases erased with ⟨same, count⟩ | wiped
  · have earlier : Concerned part controller device start target := by
      rw [Concerned] at concerned ⊢
      simpa only [sectorErasures, count] using concerned
    rcases kept.guarded earlier with unsecured | ⟨byte, others⟩
    · exact .inl (same.trans unsecured)
    · exact .inr ⟨same.trans byte, others⟩
  · exact .inr ⟨wiped, i, listed, busy⟩

theorem Kept.write {i dest source : Nat} {data : List Byte} (below : dest + data.length ≤ 2 ^ 24)
    (kept : Kept part controller device start target) :
    Kept part controller device start (noted target true (.write i dest source data)) := by
  refine ⟨kept.past.trans (List.prefix_append _ _), kept.low, fun concerned => ?_⟩
  have spared : Spared part.securityByteAddress (present part controller device target)
      (present part controller device (noted target true (.write i dest source data))) := by
    have calls : (noted target true (.write i dest source data)).calls = target.calls ++ [.write i dest source data] := rfl
    rw [present, present, calls, after_call]
    exact write_handled below _
  have earlier : Concerned part controller device start target := by
    rw [Concerned] at concerned ⊢
    simpa only [sectorErasures, spared.erasures] using concerned
  rcases spared.byte with same | cleared
  · rcases kept.guarded earlier with unsecured | ⟨byte, busy⟩
    · exact .inl (same.trans unsecured)
    · exact .inr ⟨same.trans byte, busy⟩
  · rcases kept.guarded earlier with unsecured | ⟨byte, -⟩
    · exact .inl (cleared.trans (congrArg (· &&& flashSecurityByteUnsecured) unsecured))
    · exact .inl (cleared.trans (congrArg (· &&& flashSecurityByteUnsecured) byte))

/-- One step of a call whose write lies in the range of the commands. -/
theorem step_kept (known : part ∈ parts) {write : Nat × List Byte} (range : write.1 + write.2.length ≤ 2 ^ 24)
    (kept : Kept part controller device start target) (step : Step part.regions env write target next)
    (reprogrammed : Reprogrammed part controller device start next.calls) :
    Kept part controller device start next := by
  have low := kept.low
  obtain ⟨-, -, -, allocating, copying⟩ := idle_calls part
  cases step with
  | enter outside entered =>
    have state : (targetEnterFlashMode env target).2.state = target.state := enterFlashMode_state.1
    refine kept.frame ((enter_calls part env target).frame fun i busy => ?_) fun i => ?_
    · rwa [state]
    · rw [state]
      exact low i
  | exit inside =>
    have state : (targetExitFlashMode env target).2.state = target.state := exitFlashMode_state.1
    refine kept.frame ((exit_calls part env target).frame fun i busy => ?_) fun i => ?_
    · rwa [state]
    · rw [state]
      exact low i
  | @done i listed busy agreed =>
    apply kept.done known listed
    have callback := (region_callbacks known listed).1
    rwa [noted, if_pos callback] at reprogrammed
  | @prepare i operation listed idle other filled agreed =>
    have callback := (region_callbacks known listed).2.1
    rw [noted, if_neg (by rw [callback]; decide)]
    exact kept.frame (AtMost.frame (.inl rfl) (put_busy fun _ => other)) (put_low low (low i))
  | @erase i addr listed place erasing agreed =>
    have busy : (target.state i).operation ≠ .none := by
      rw [erasing]
      decide
    exact kept.erase listed busy
  | @malloc i listed free fresh =>
    exact kept.frame (AtMost.frame (.inr ⟨_, allocating _, rfl⟩) (put_busy id)) (put_low low fun _ => Nat.zero_le _)
  | @write i offset buf listed writing held filled multiple more agreed =>
    have divides := (region_callbacks known listed).2.2
    have range := low i (by rw [held]; rfl)
    have below := flushed_below divides filled range multiple more
    apply kept.write
    simpa using below
  | @emptied i listed writing held =>
    exact kept.frame (AtMost.frame (.inl rfl) (put_busy id)) (put_low low fun _ => Nat.zero_le _)
  | @setup i dest buf listed held unfilled =>
    have range := low i (by rw [held]; rfl)
    exact kept.frame (AtMost.frame (.inl rfl) (put_busy id)) (put_low low fun _ => range)
  | @copy i dest chunk listed held block piece =>
    obtain ⟨buf, present⟩ := Option.isSome_iff_exists.mp held
    obtain ⟨skipped, inside, place, -⟩ := piece.part
    have range := low i held
    have reach : add32 dest chunk.length ≤ 2 ^ 24 := by
      have start : add32 write.1 skipped = write.1 + skipped := add32_of_lt (by omega)
      rw [place, start, add32_of_lt (by omega)]
      omega
    simp only [copyChunk, present]
    exact kept.frame (AtMost.frame (.inr ⟨_, copying _ _ _, rfl⟩) (put_busy id))
      (put_low low fun _ => Nat.max_le.mpr ⟨range, reach⟩)

end Steps

section Sequences

variable {part : Part} {controller : Controller} {device : Device} {start target final : Target}

theorem Reprogrammed.shorter {calls more : List Call} (reprogrammed : Reprogrammed part controller device start more)
    (earlier : calls <+: more) : Reprogrammed part controller device start calls :=
  fun before i past done => reprogrammed before i past (done.trans earlier)

theorem step_longer {env : Environment} {write : Nat × List Byte} (step : Step part.regions env write target final) :
    target.calls <+: final.calls := by
  rcases step_adds step with same | ⟨call, more, -⟩
  · rw [same]
  · rw [more]
    exact List.prefix_append _ _

theorem steps_longer {env : Environment} {write : Nat × List Byte} (steps : Steps part.regions env write target final) :
    target.calls <+: final.calls := by
  induction steps with
  | refl => exact List.prefix_refl _
  | tail _ step ih => exact ih.trans (step_longer step)

theorem steps_kept {env : Environment} (known : part ∈ parts) {write : Nat × List Byte}
    (range : write.1 + write.2.length ≤ 2 ^ 24) (kept : Kept part controller device start target)
    (steps : Steps part.regions env write target final)
    (reprogrammed : Reprogrammed part controller device start final.calls) :
    Kept part controller device start final := by
  induction steps with
  | refl => exact kept
  | tail _ step ih => exact step_kept known range (ih (reprogrammed.shorter (step_longer step))) step reprogrammed

/-- No write of a sequence goes above the addresses that a command can have. -/
def InRange (requests : List Request) : Prop :=
  ∀ dest data, .write dest data ∈ requests → dest + data.length ≤ 2 ^ 24

theorem request_steps {env : Environment} {request : Request} (range : InRange [request])
    (acknowledged : perform part.regions env request target = (true, final)) :
    ∃ write : Nat × List Byte, write.1 + write.2.length ≤ 2 ^ 24 ∧ Steps part.regions env write target final := by
  cases request with
  | write dest data =>
    exact ⟨(dest, data), range dest data (List.mem_singleton_self _), targetFlashWrite_steps acknowledged rfl⟩
  | erase addr len => exact ⟨(0, []), Nat.zero_le _, targetFlashErase_steps acknowledged rfl⟩

theorem session_kept {env : Environment} (known : part ∈ parts) {requests : List Request}
    (released : ∀ i, Released (start.state i)) (session : Session part.regions env start requests target)
    (range : InRange requests) (reprogrammed : Reprogrammed part controller device start target.calls) :
    Kept part controller device start target := by
  induction session with
  | start =>
    refine ⟨List.prefix_refl _, fun i held => ?_, fun concerned => ?_⟩
    · rw [(released i).2] at held
      cases held
    · rcases concerned with unsecured | never
      · exact .inl unsecured
      · exact absurd never (Nat.lt_irrefl _)
  | @request requests request middle next session acknowledged ih =>
    have earlier : InRange requests := fun dest data member => range dest data (List.mem_append_left _ member)
    have last : InRange [request] := fun dest data member => range dest data (List.mem_append_right _ member)
    obtain ⟨write, within, steps⟩ := request_steps last acknowledged
    exact steps_kept known within (ih earlier (reprogrammed.shorter (steps_longer steps))) steps reprogrammed

variable {heap : List Call → Bool} {garbage : List Call → Buffer} {requests : List Request}

/-- A part that was unsecured before a sequence, or whose security byte has been erased during it, is unsecured after its
completion. -/
theorem stays_unsecured (known : part ∈ parts) (released : ∀ i, Released (start.state i))
    (session : Session part.regions (part.environment false controller device heap garbage) start requests target)
    (completed : targetFlashComplete part.regions (part.environment false controller device heap garbage) target =
      (true, final))
    (range : InRange requests) (reprogrammed : Reprogrammed part controller device start final.calls)
    (concerned : Concerned part controller device start final) :
    securityByte part controller device final = flashSecurityByteUnsecured := by
  have orderly : Orderly start := fun i => (released i).tidy
  have below : Below requests := fun dest data member => by
    have within := range dest data member
    omega
  have steps : Steps part.regions _ (0, []) target final := targetFlashComplete_steps completed rfl
  have kept := session_kept known released session range (reprogrammed.shorter (steps_longer steps))
  have closed := (targetFlashComplete_released (session.orderly orderly below) completed rfl).1
  have last := steps_kept known (Nat.zero_le _) kept steps reprogrammed
  rcases last.guarded concerned with unsecured | ⟨-, i, listed, busy⟩
  · exact unsecured
  · exact absurd (closed i listed).1 busy

/-- A part with one region, and a sequence of one erase. -/
def smallest : Part := kinetisPart klWriteLen [(0, 0x8000, 0x400)]

def eraseSecond : Request := .erase 0x400 0x400

def working : Controller := ⟨fun _ => 0x80, fun _ => true⟩

/-- The second command, which programs the security byte after the erase, goes wrong. -/
def faulty : Controller := ⟨fun command => if command = 1 then 0x81 else 0x80, fun _ => true⟩

def unsecuredDevice : Device := ⟨fun _ => flashSecurityByteUnsecured, fun _ => 0, 0⟩

def answering (controller : Controller) : Environment :=
  smallest.environment false controller unsecuredDevice (fun _ => true) fun _ _ => 0#8

def secondErased (controller : Controller) : Target :=
  (perform smallest.regions (answering controller) eraseSecond Target.probed).2

def erasedFinal (controller : Controller) : Target :=
  (targetFlashComplete smallest.regions (answering controller) (secondErased controller)).2

theorem erase_unsecured :
    securityByte smallest working unsecuredDevice (erasedFinal working) = flashSecurityByteUnsecured := by
  have known : smallest ∈ parts := List.mem_cons_self
  have acknowledged : perform smallest.regions (answering working) eraseSecond Target.probed =
      (true, secondErased working) := Prod.ext (by decide +kernel) rfl
  have completed : targetFlashComplete smallest.regions (answering working) (secondErased working) =
      (true, erasedFinal working) := Prod.ext (by decide +kernel) rfl
  have released : ∀ i, Released (Target.probed.state i) := fun _ => ⟨rfl, rfl⟩
  have range : InRange [eraseSecond] := by
    intro dest data member
    cases List.mem_singleton.mp member
  have flags : 0x80#8 &&& (ftfxFstatAccerr ||| ftfxFstatFpviol ||| ftfxFstatMgstat0) = 0 := by decide
  have obeyed : ∀ command, Obeyed smallest.driver working command := fun _ => flags
  exact stays_unsecured known released (.request .start acknowledged) completed range (fun _ _ _ _ _ => obeyed _) (.inl rfl)

/-- All calls return true, and the part is left secured. -/
theorem reprogramming_unchecked :
    ∃ target final, Session smallest.regions (answering faulty) Target.probed [eraseSecond] target ∧
      targetFlashComplete smallest.regions (answering faulty) target = (true, final) ∧
      securityByte smallest faulty unsecuredDevice Target.probed = flashSecurityByteUnsecured ∧
      securityByte smallest faulty unsecuredDevice final = 0xff#8 := by
  have acknowledged : perform smallest.regions (answering faulty) eraseSecond Target.probed =
      (true, secondErased faulty) := Prod.ext (by decide +kernel) rfl
  have completed : targetFlashComplete smallest.regions (answering faulty) (secondErased faulty) =
      (true, erasedFinal faulty) := Prod.ext (by decide +kernel) rfl
  exact ⟨secondErased faulty, erasedFinal faulty, .request .start acknowledged, completed, rfl, by decide +kernel⟩

end Sequences

end BlackMagic.Proofs.KinetisSecurity

import Mathlib.Data.List.Basic
import Mathlib.Data.List.TakeDrop
import Mathlib.Data.Nat.Bitwise

/-! Boundary scan: the controller of a test access port and a chain of parts that share its
clock and its mode pin. The registers between `TDI` and `TDO` form one shift register; the
part next to `TDO` comes first. -/

namespace BlackMagic.Lib.Tap

inductive TapState where
  | testLogicReset
  | runTestIdle
  | selectDr
  | captureDr
  | shiftDr
  | exit1Dr
  | pauseDr
  | exit2Dr
  | updateDr
  | selectIr
  | captureIr
  | shiftIr
  | exit1Ir
  | pauseIr
  | exit2Ir
  | updateIr
  deriving DecidableEq, Repr

/-- The state after a clock with the given mode. -/
def TapState.next : TapState → Bool → TapState
  | .testLogicReset, tms => if tms then .testLogicReset else .runTestIdle
  | .runTestIdle, tms => if tms then .selectDr else .runTestIdle
  | .selectDr, tms => if tms then .selectIr else .captureDr
  | .captureDr, tms => if tms then .exit1Dr else .shiftDr
  | .shiftDr, tms => if tms then .exit1Dr else .shiftDr
  | .exit1Dr, tms => if tms then .updateDr else .pauseDr
  | .pauseDr, tms => if tms then .exit2Dr else .pauseDr
  | .exit2Dr, tms => if tms then .updateDr else .shiftDr
  | .updateDr, tms => if tms then .selectDr else .runTestIdle
  | .selectIr, tms => if tms then .testLogicReset else .captureIr
  | .captureIr, tms => if tms then .exit1Ir else .shiftIr
  | .shiftIr, tms => if tms then .exit1Ir else .shiftIr
  | .exit1Ir, tms => if tms then .updateIr else .pauseIr
  | .pauseIr, tms => if tms then .exit2Ir else .pauseIr
  | .exit2Ir, tms => if tms then .updateIr else .shiftIr
  | .updateIr, tms => if tms then .selectDr else .runTestIdle

/-- What does not change of a part: its identification, what its instruction register
captures (as many bits as the register has), the bits of the data register that an instruction
selects, and what an update of that register does to the part. -/
structure ChainPart (σ : Type) where
  idcode : BitVec 32
  irCapture : List Bool
  held : σ → List Bool → List Bool
  accept : σ → List Bool → List Bool → σ

/-- A part on a chain. After a reset its identification register is selected. -/
structure Device (σ : Type) where
  part : ChainPart σ
  ir : Option (List Bool)
  state : σ

structure Chain (σ : Type) where
  tap : TapState
  devices : List (Device σ)
  bits : List Bool

variable {σ : Type}

def ChainPart.irLength (part : ChainPart σ) : Nat := part.irCapture.length

/-- The instruction of all ones. -/
def bypassed (ir : List Bool) : Bool := ir.all fun bit => bit

namespace Device

def idcodeBits (device : Device σ) : List Bool := (List.range 32).map device.part.idcode.getLsbD

/-- The bits of the selected data register. -/
def selected (device : Device σ) : List Bool :=
  match device.ir with
  | none => device.idcodeBits
  | some ir => if bypassed ir then [false] else device.part.held device.state ir

def latchDr (device : Device σ) (bits : List Bool) : Device σ :=
  match device.ir with
  | none => device
  | some ir => if bypassed ir then device else { device with state := device.part.accept device.state ir bits }

def latchIr (device : Device σ) (bits : List Bool) : Device σ := { device with ir := some bits }

def reset (device : Device σ) : Device σ := { device with ir := none }

end Device

/-- Deal the bits of the shift register out to the parts, each as many as it has. -/
def deal (width : Device σ → Nat) (latch : Device σ → List Bool → Device σ) : List (Device σ) → List Bool → List (Device σ)
  | [], _ => []
  | device :: rest, bits => latch device (bits.take (width device)) :: deal width latch rest (bits.drop (width device))

namespace Chain

/-- What the clock does in the state it finds. -/
def advance (chain : Chain σ) (tdi : Bool) : Chain σ :=
  match chain.tap with
  | .captureDr => { chain with bits := chain.devices.flatMap Device.selected }
  | .captureIr => { chain with bits := chain.devices.flatMap fun device => device.part.irCapture }
  | .shiftDr | .shiftIr => { chain with bits := (chain.bits ++ [tdi]).tail }
  | _ => chain

/-- What happens on the way into a state. -/
def enter (chain : Chain σ) (state : TapState) : Chain σ :=
  match state with
  | .testLogicReset => { chain with tap := state, devices := chain.devices.map Device.reset }
  | .updateDr =>
    { chain with
      tap := state
      devices := deal (fun device => device.selected.length) Device.latchDr chain.devices chain.bits }
  | .updateIr =>
    { chain with tap := state, devices := deal (fun device => device.part.irLength) Device.latchIr chain.devices chain.bits }
  | _ => { chain with tap := state }

/-- Nothing drives the output outside the shift states. -/
def output (chain : Chain σ) (tdi : Bool) : Bool :=
  match chain.tap with
  | .shiftDr | .shiftIr => chain.bits.headD tdi
  | _ => true

/-- One clock: the bit at `TDO` and the chain after it. -/
def clock (chain : Chain σ) (tms tdi : Bool) : Bool × Chain σ :=
  (chain.output tdi, (chain.advance tdi).enter (chain.tap.next tms))

/-- Clocks one after the other. -/
def drive (chain : Chain σ) : List (Bool × Bool) → List Bool × Chain σ
  | [] => ([], chain)
  | (tms, tdi) :: rest =>
    let first := chain.clock tms tdi
    let later := first.2.drive rest
    (first.1 :: later.1, later.2)

def parts (chain : Chain σ) : List (ChainPart σ) := chain.devices.map Device.part

end Chain

section Parts

/-- A part is dealt the bits behind those of the parts before it. -/
theorem deal_getElem? (width : Device σ → Nat) (latch : Device σ → List Bool → Device σ) (devices : List (Device σ))
    (bits : List Bool) (index : Nat) :
    (deal width latch devices bits)[index]? = (devices[index]?).map fun device =>
      latch device ((bits.drop ((devices.take index).map width).sum).take (width device)) := by
  induction devices generalizing bits index with
  | nil => rfl
  | cons device rest ih =>
    cases index with
    | zero => simp [deal]
    | succ index => simp [deal, ih, List.drop_drop]

/-- Nothing changes where every part keeps what it has. -/
theorem deal_kept {width : Device σ → Nat} {latch : Device σ → List Bool → Device σ} {devices : List (Device σ)}
    (kept : ∀ device ∈ devices, ∀ bits, latch device bits = device) (bits : List Bool) :
    deal width latch devices bits = devices := by
  induction devices generalizing bits with
  | nil => rfl
  | cons device rest ih =>
    rw [deal, kept device List.mem_cons_self]
    exact congrArg _ (ih (fun other listed => kept other (List.mem_cons_of_mem device listed)) _)

theorem deal_replicate (width : Device σ → Nat) (latch : Device σ → List Bool → Device σ) (devices : List (Device σ))
    (bit : Bool) {count : Nat} (enough : (devices.map width).sum ≤ count) :
    deal width latch devices (List.replicate count bit)
      = devices.map fun device => latch device (List.replicate (width device) bit) := by
  induction devices generalizing count with
  | nil => rfl
  | cons device rest ih =>
    rw [List.map_cons, List.sum_cons] at enough
    rw [deal, List.map_cons, List.take_replicate, List.drop_replicate, ih (by omega), Nat.min_eq_left (by omega)]

private theorem deal_parts {width : Device σ → Nat} {latch : Device σ → List Bool → Device σ}
    (same : ∀ device bits, (latch device bits).part = device.part) (devices : List (Device σ)) (bits : List Bool) :
    (deal width latch devices bits).map Device.part = devices.map Device.part := by
  induction devices generalizing bits with
  | nil => rfl
  | cons device rest ih => simp [deal, same, ih]

private theorem latchDr_part (device : Device σ) (bits : List Bool) : (device.latchDr bits).part = device.part := by
  unfold Device.latchDr
  split
  · rfl
  · split <;> rfl

private theorem latchIr_part (device : Device σ) (bits : List Bool) : (device.latchIr bits).part = device.part := rfl

namespace Chain

@[simp] theorem enter_tap (chain : Chain σ) (state : TapState) : (chain.enter state).tap = state := by
  cases state <;> rfl

private theorem advance_devices (chain : Chain σ) (tdi : Bool) : (chain.advance tdi).devices = chain.devices := by
  unfold advance
  split <;> rfl

private theorem enter_parts (chain : Chain σ) (state : TapState) : (chain.enter state).parts = chain.parts := by
  cases state with
  | testLogicReset => simp [enter, parts, Function.comp_def, Device.reset]
  | updateDr => exact deal_parts latchDr_part _ _
  | updateIr => exact deal_parts latchIr_part _ _
  | _ => rfl

theorem clock_parts (chain : Chain σ) (tms tdi : Bool) : (chain.clock tms tdi).2.parts = chain.parts := by
  rw [clock, enter_parts, parts, advance_devices, parts]

theorem drive_parts (chain : Chain σ) (pins : List (Bool × Bool)) : (chain.drive pins).2.parts = chain.parts := by
  induction pins generalizing chain with
  | nil => rfl
  | cons pin rest ih => exact (ih _).trans (chain.clock_parts pin.1 pin.2)

/-- The mode alone decides where the controller goes. -/
theorem drive_tap (chain : Chain σ) (pins : List (Bool × Bool)) :
    (chain.drive pins).2.tap = pins.foldl (fun tap pin => tap.next pin.1) chain.tap := by
  induction pins generalizing chain with
  | nil => rfl
  | cons pin rest ih =>
    rw [drive, List.foldl_cons, ih, clock, enter_tap]

theorem drive_append (chain : Chain σ) (first second : List (Bool × Bool)) :
    chain.drive (first ++ second) = ((chain.drive first).1 ++ ((chain.drive first).2.drive second).1,
      ((chain.drive first).2.drive second).2) := by
  induction first generalizing chain with
  | nil => rfl
  | cons pin rest ih => simp [drive, ih]

end Chain

end Parts

section Shifting

def TapState.shifting : TapState → Bool
  | .shiftDr | .shiftIr => true
  | _ => false

namespace Chain

theorem clock_shift {chain : Chain σ} (shifting : chain.tap.shifting = true) (tdi : Bool) :
    chain.clock false tdi = (chain.bits.headD tdi, { chain with bits := (chain.bits ++ [tdi]).tail }) := by
  obtain ⟨tap, devices, bits⟩ := chain
  cases tap <;> first | rfl | cases shifting

/-- The bits that go in push out those that were there. -/
theorem drive_shift (chain : Chain σ) (shifting : chain.tap.shifting = true) (bits : List Bool) :
    chain.drive (bits.map fun tdi => (false, tdi))
      = ((chain.bits ++ bits).take bits.length, { chain with bits := (chain.bits ++ bits).drop bits.length }) := by
  induction bits generalizing chain with
  | nil => simp [drive]
  | cons tdi rest ih =>
    have later := ih { chain with bits := (chain.bits ++ [tdi]).tail } shifting
    rw [List.map_cons, drive, clock_shift shifting]
    simp only [later]
    cases held : chain.bits with
    | nil => simp
    | cons bit others => simp

end Chain

end Shifting

end BlackMagic.Lib.Tap

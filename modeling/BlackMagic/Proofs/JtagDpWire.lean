import BlackMagic.JtagDp
import BlackMagic.Lib.Simulation
import BlackMagic.Proofs.JtagAccess

/-! The instructions and the data of the debug ports on a chain arrive as if the ports were driven straight. -/

namespace BlackMagic.Proofs.JtagDpWire
open Lib Lib.Program Lib.Tap Lib.Bits Lib.Words
open Jtag (Probe Access jtagMaxDevs tdiBit)
open JtagDp (Behaviour DebugPort Ports portPart portWire probeWire bytesOf doubleWordAt instructionOf transactionOf irAbort irDpacc
  irApacc)
open JtagPins JtagScan JtagAccess

variable {δ : Type}

section Words

/-- The instructions of a debug port that the probe uses. -/
def Accessible (ir : BitVec 32) : Prop := ir = irAbort ∨ ir = irDpacc ∨ ir = irApacc

theorem Accessible.bits {ir : BitVec 32} (accessible : Accessible ir) :
    ir.getLsbD 2 = false ∧ ∀ place < 32, 4 ≤ place → ir.getLsbD place = false := by
  rcases accessible with rfl | rfl | rfl <;> exact ⟨rfl, by decide +kernel⟩

theorem Accessible.selects {ir : BitVec 32} (accessible : Accessible ir) : ir ≠ 0xffffffff#32 := by
  rcases accessible with rfl | rfl | rfl <;> decide

theorem irBitsOf_eq (ir : BitVec 32) (length : Nat) : irBitsOf ir length = bitsOf length ir := rfl

theorem instructionOf_bits {ir : BitVec 32} (accessible : Accessible ir) {length : Nat} (long : 4 ≤ length) :
    instructionOf (irBitsOf ir length) = ir := by
  apply BitVec.eq_of_getLsbD_eq
  intro place inside
  rw [instructionOf, getLsbD_wordOf _ inside, irBitsOf_eq]
  by_cases within : place < length
  · exact getD_bitsOf ir within
  · have zero := accessible.bits.2 place inside (by omega)
    have outside : (bitsOf length ir).length ≤ place := by
      rw [length_bitsOf]
      omega
    rw [zero, List.getD_eq_default _ _ outside]

theorem bypassed_bits {ir : BitVec 32} (accessible : Accessible ir) {length : Nat} (long : 4 ≤ length) :
    bypassed (irBitsOf ir length) = false := by
  have second := accessible.bits.1
  have member : false ∈ irBitsOf ir length :=
    List.mem_map.mpr ⟨2, List.mem_range.mpr (by omega), second⟩
  rw [bypassed, List.all_eq_false]
  exact ⟨false, member, by decide⟩

/-- The bits of a request as the pins take them from memory. -/
theorem tdiBits_bytesOf (word : BitVec 64) (count : Nat) : tdiBits (bytesOf word) count = bitsOf count word := by
  apply List.map_congr_left
  intro cycle _
  have inside : cycle % 8 < 8 := by omega
  have place : 8 * (cycle / 8) + cycle % 8 = cycle := by omega
  rw [tdiBit, bytesOf, BitVec.getLsbD_setWidth, BitVec.getLsbD_ushiftRight, place]
  simp [inside]

theorem doubleWordAt_bit (bytes : Buffer) {place : Nat} (inside : place < 64) :
    (doubleWordAt bytes).getLsbD place = tdiBit bytes place := by
  rw [tdiBit, doubleWordAt]
  simp only [BitVec.getLsbD_append]
  interval_cases place <;> rfl

end Words

section Updates
variable {behaviour : Behaviour δ}

theorem value_low {first second : BitVec 64} (same : ∀ place < 35, first.getLsbD place = second.getLsbD place) :
    (first >>> 3).setWidth 32 = (second >>> 3).setWidth 32 := by
  apply BitVec.eq_of_getLsbD_eq
  intro place inside
  simp only [BitVec.getLsbD_setWidth, BitVec.getLsbD_ushiftRight, same (3 + place) (by omega)]

theorem transactionOf_low {first second : BitVec 64} (same : ∀ place < 35, first.getLsbD place = second.getLsbD place)
    (apndp : Bool) : transactionOf apndp first = transactionOf apndp second := by
  have register : (first >>> 1).setWidth 2 = (second >>> 1).setWidth 2 := by
    apply BitVec.eq_of_getLsbD_eq
    intro place inside
    simp only [BitVec.getLsbD_setWidth, BitVec.getLsbD_ushiftRight, same (1 + place) (by omega)]
  rw [transactionOf, transactionOf, value_low same, register, same 0 (by decide)]

/-- What an update makes of a request lies in its 35 lowest bits. -/
theorem update_low {ir : BitVec 32} {first second : BitVec 64} {port : DebugPort δ}
    (same : ∀ place < 35, first.getLsbD place = second.getLsbD place) :
    port.update behaviour ir first = port.update behaviour ir second := by
  simp only [DebugPort.update, transactionOf_low same, value_low same]

theorem wordOf_low (word : BitVec 64) : ∀ place < 35, (wordOf 64 (bitsOf 35 word)).getLsbD place = word.getLsbD place := by
  intro place inside
  rw [getLsbD_wordOf _ (by omega), getD_bitsOf _ inside]

/-- What the probe takes from a response lies there too. -/
theorem response_low {first second : BitVec 64} (same : ∀ place < 35, first.getLsbD place = second.getLsbD place) :
    (first >>> 3).setWidth 32 = (second >>> 3).setWidth 32 ∧
      (first &&& 0x07#64).setWidth 8 = (second &&& 0x07#64).setWidth 8 := by
  refine ⟨value_low same, ?_⟩
  apply BitVec.eq_of_getLsbD_eq
  intro place inside
  simp only [BitVec.getLsbD_setWidth, BitVec.getLsbD_and, same place (by omega)]

end Updates

section Wires
variable {behaviour : Nat → Behaviour δ} {served : Nat → Prop} {parts : List (ChainPart (DebugPort δ))}
  {probe : Probe (DebugPort δ)} {ports : Ports δ} {devIndex : Nat} {ir : BitVec 32} {stack : Buffer}

/-- A chain with debug ports at the places that are served, which are near enough to its ends. -/
structure Equipped (behaviour : Nat → Behaviour δ) (served : Nat → Prop) (parts : List (ChainPart (DebugPort δ))) : Prop where
  regular : ∀ part ∈ parts, Regular part
  fits : parts.length ≤ jtagMaxDevs
  port : ∀ i, served i → ∃ idcode irCapture, parts[i]? = some (portPart (behaviour i) idcode irCapture) ∧ 4 ≤ irCapture.length
  near : ∀ i, served i → irBits (parts.take i) ≤ 64 ∧ irBits (parts.drop (i + 1)) ≤ 64

/-- The ports on the chain are those that are driven straight. -/
structure Wired (served : Nat → Prop) (parts : List (ChainPart (DebugPort δ))) (probe : Probe (DebugPort δ)) (ports : Ports δ) :
    Prop where
  ready : Ready parts probe
  same : ∀ i, served i → (probe.chain.devices[i]?).map Device.state = some (ports.ports i)

/-- The port has been given an instruction. -/
structure Selected (served : Nat → Prop) (parts : List (ChainPart (DebugPort δ))) (devIndex : Nat) (ir : BitVec 32)
    (probe : Probe (DebugPort δ)) (ports : Ports δ) : Prop extends Wired served parts probe ports where
  current : (probe.jtagDevs devIndex).currentIr = ir
  instruction : ports.instruction devIndex = ir

theorem Equipped.inside (equipped : Equipped behaviour served parts) (at_ : served devIndex) : devIndex < parts.length := by
  obtain ⟨idcode, irCapture, found, _⟩ := equipped.port devIndex at_
  exact (List.getElem?_eq_some_iff.mp found).1

/-- A write of an instruction leaves the states of all parts. -/
theorem writeIr_states (equipped : Equipped behaviour served parts) (ready : Ready parts probe) (at_ : served devIndex) (i : Nat) :
    ((Jtag.jtagDevWriteIr devIndex ir probe).chain.devices[i]?).map Device.state =
      (probe.chain.devices[i]?).map Device.state := by
  have inside := equipped.inside at_
  by_cases fresh : ir = (probe.jtagDevs devIndex).currentIr
  · rw [Jtag.jtagDevWriteIr, if_pos fresh]
  · have near := equipped.near devIndex at_
    have chain := (writeIr_chain ready equipped.regular (List.getElem?_eq_getElem inside) fresh
      (by rw [ready.exactly.irPrescan devIndex inside]; exact near.1)
      (by rw [ready.exactly.irPostscan devIndex inside]; exact near.2)).2
    rw [chain, deal_getElem?, Option.map_map]
    rfl

theorem writeIr_selected (equipped : Equipped behaviour served parts) (wired : Wired served parts probe ports)
    (at_ : served devIndex) (accessible : Accessible ir) :
    Selected served parts devIndex ir (Jtag.jtagDevWriteIr devIndex ir probe) ((portWire behaviour).writeIr devIndex ir ports) := by
  have inside := equipped.inside at_
  have near := equipped.near devIndex at_
  have allowed : Allowed probe (.writeIr devIndex ir) := by
    refine ⟨by rw [wired.ready.exactly.count]; exact inside, ?_⟩
    split
    · exact fun ones => absurd ones accessible.selects
    · rw [wired.ready.exactly.irPrescan devIndex inside, wired.ready.exactly.irPostscan devIndex inside]
      exact near
  refine ⟨⟨(writeIr_spec wired.ready equipped.regular allowed).2, fun i other => ?_⟩, ?_, ?_⟩
  · rw [writeIr_states equipped wired.ready at_]
    exact wired.same i other
  · by_cases fresh : ir = (probe.jtagDevs devIndex).currentIr
    · rw [Jtag.jtagDevWriteIr, if_pos fresh, fresh]
    · rw [writeIr_cached fresh (by rw [wired.ready.exactly.count]; exact inside), if_pos rfl]
  · exact Function.update_self ..

/-- What a selected port shifts, and what it makes of what it is given. -/
structure Shifting (behaviour : Behaviour δ) (ir : BitVec 32) (port : DebugPort δ) (device : Device (DebugPort δ)) : Prop where
  state : device.state = port
  selected : device.selected = bitsOf 35 port.capture
  latched : ∀ request, (device.latchDr (bitsOf 35 request)).state = port.update behaviour ir request

theorem Selected.shifting (equipped : Equipped behaviour served parts) (selected : Selected served parts devIndex ir probe ports)
    (at_ : served devIndex) (accessible : Accessible ir) {device : Device (DebugPort δ)}
    (found : probe.chain.devices[devIndex]? = some device) :
    Shifting (behaviour devIndex) ir (ports.ports devIndex) device := by
  obtain ⟨idcode, irCapture, listed, long⟩ := equipped.port devIndex at_
  have part : device.part = portPart (behaviour devIndex) idcode irCapture := by
    have here := selected.ready.part_at found
    rw [listed] at here
    exact (Option.some.inj here).symm
  have state : device.state = ports.ports devIndex := by
    have same := selected.same devIndex at_
    rw [found] at same
    exact Option.some.inj same
  have length : device.part.irLength = irCapture.length := by rw [part]; rfl
  have current : device.ir = some (irBitsOf ir irCapture.length) := by
    rw [selected.ready.caches devIndex device found, selected.current, length]
  have active := bypassed_bits accessible long
  refine ⟨state, ?_, fun request => ?_⟩
  · rw [Device.selected, current]
    simp only [active, Bool.false_eq_true, if_false, part, portPart, state]
  · rw [Device.latchDr, current]
    simp only [active, Bool.false_eq_true, if_false, part, portPart, state, instructionOf_bits accessible long]
    exact update_low (wordOf_low request)

theorem shiftDr_devs (dataOut : Option Buffer) (dataIn : Buffer) (clockCycles : Nat) :
    (Jtag.jtagDevShiftDr devIndex dataOut dataIn clockCycles probe).2.jtagDevs = probe.jtagDevs := by
  cases dataOut <;> rfl

theorem shiftDr_selected (equipped : Equipped behaviour served parts) (selected : Selected served parts devIndex ir probe ports)
    (at_ : served devIndex) (accessible : Accessible ir) (dataOut : Option Buffer) (request : BitVec 64) :
    Selected served parts devIndex ir (Jtag.jtagDevShiftDr devIndex dataOut (bytesOf request) 35 probe).2
        (ports.update behaviour devIndex request) ∧
      (dataOut.isSome = true → ∃ stored, (Jtag.jtagDevShiftDr devIndex dataOut (bytesOf request) 35 probe).1 = some stored ∧
        ∀ place < 35, (doubleWordAt stored).getLsbD place = (ports.ports devIndex).capture.getLsbD place) := by
  have inside := equipped.inside at_
  have allowed : Allowed probe (.shiftDr devIndex dataOut (bytesOf request) 35) := by
    refine ⟨by rw [selected.ready.exactly.count]; exact inside, fun i within other => ?_, fun _ => by decide⟩
    rw [selected.ready.exactly.count] at within
    by_contra busy
    exact other (selected.ready.single i within devIndex inside busy (by rw [selected.current]; exact accessible.selects))
  obtain ⟨⟨device, bits, found, length, devices, given, stored⟩, ready⟩ :=
    shiftDr_spec selected.ready equipped.regular equipped.fits allowed
  have shifting := selected.shifting equipped at_ accessible found
  rw [shifting.selected, length_bitsOf] at length given stored
  rw [Nat.sub_self, List.drop_zero, List.drop_zero, tdiBits_bytesOf] at given
  constructor
  · refine ⟨⟨ready, fun i other => ?_⟩, ?_, selected.instruction⟩
    · rw [devices, List.getElem?_set]
      by_cases here : devIndex = i
      · subst here
        rw [if_pos rfl, if_pos (List.getElem?_eq_some_iff.mp found).1, given, Option.map_some, shifting.latched,
          ← selected.instruction, Ports.update]
        simp only [Function.update_self]
      · rw [if_neg here, selected.same i other]
        exact congrArg some (Function.update_of_ne (Ne.symm here) ..).symm
    · rw [shiftDr_devs]
      exact selected.current
  · intro kept
    obtain ⟨buffer, result, out⟩ := stored kept
    refine ⟨buffer, result, fun place low => ?_⟩
    rw [doubleWordAt_bit _ (by omega)]
    rw [List.take_of_length_le (by simp), List.take_of_length_le (by simp)] at out
    have bit := congrArg (fun list => list.getD place false) out
    rw [getD_bitsOf _ low] at bit
    rw [← bit, tdiBits]
    simp [low]

end Wires

end BlackMagic.Proofs.JtagDpWire

import BlackMagic.Jtag

/-! What the pin sequences do to a chain: the ways between the states, the bits that a data
sequence moves, and the bytes in which the bits that come out are stored. -/

namespace BlackMagic.Proofs.JtagPins
open Lib.Tap Jtag

variable {σ : Type}

section Ways

theorem shiftIr_idle (devices : List (Device σ)) (bits : List Bool) :
    jtagtapShiftIr ⟨.runTestIdle, devices, bits⟩
      = ⟨.shiftIr, devices, devices.flatMap fun device => device.part.irCapture⟩ := rfl

theorem shiftDr_idle (devices : List (Device σ)) (bits : List Bool) :
    jtagtapShiftDr ⟨.runTestIdle, devices, bits⟩ = ⟨.shiftDr, devices, devices.flatMap Device.selected⟩ := rfl

theorem returnIdle_dr (devices : List (Device σ)) (bits : List Bool) :
    jtagtapReturnIdle 1 ⟨.exit1Dr, devices, bits⟩
      = ⟨.runTestIdle, deal (fun device => device.selected.length) Device.latchDr devices bits, bits⟩ := rfl

/-- One more bit, and back to idle, with parts that an update does not change. -/
theorem leave_dr {chain : Chain σ} (shifting : chain.tap = .shiftDr)
    (kept : ∀ device ∈ chain.devices, ∀ bits, device.latchDr bits = device) :
    ∃ bits, jtagtapReturnIdle 1 (jtagtapNext true true chain).2 = ⟨.runTestIdle, chain.devices, bits⟩ := by
  obtain ⟨tap, devices, bits⟩ := chain
  cases shifting
  have same := returnIdle_dr devices (bits ++ [true]).tail
  rw [deal_kept kept] at same
  exact ⟨_, same⟩

theorem leave_ir (devices : List (Device σ)) (bits : List Bool) :
    jtagtapReturnIdle 1 (jtagtapNext true true ⟨.shiftIr, devices, bits⟩).2
      = ⟨.runTestIdle, deal (fun device => device.part.irLength) Device.latchIr devices (bits ++ [true]).tail,
        (bits ++ [true]).tail⟩ := rfl

private theorem five_ones (tap : TapState) :
    ((((tap.next true).next true).next true).next true).next true = .testLogicReset := by
  cases tap <;> rfl

/-- From every state a reset leads to idle, with the identification registers selected. -/
theorem reset_idle (chain : Chain σ) :
    ∃ devices bits, jtagtapReset chain = ⟨.runTestIdle, devices, bits⟩ ∧ devices.map Device.part = chain.parts ∧
      ∀ device ∈ devices, device.ir = none := by
  have split : jtagtapReset chain
      = (((chain.drive (List.replicate 4 (true, true))).2.drive [(true, true)]).2.drive [(false, true)]).2 := by
    have joined := Chain.drive_append chain (List.replicate 4 (true, true)) [(true, true), (false, true)]
    exact (congrArg Prod.snd joined).trans rfl
  have there : (chain.drive (List.replicate 4 (true, true))).2.tap.next true = .testLogicReset := by
    rw [Chain.drive_tap]
    exact five_ones chain.tap
  have parts := Chain.drive_parts chain (List.replicate 4 (true, true))
  rw [split]
  generalize (chain.drive (List.replicate 4 (true, true))).2 = before at there parts
  have entered : (before.drive [(true, true)]).2 = (before.advance true).enter .testLogicReset := by
    rw [← there]
    rfl
  rw [entered]
  refine ⟨_, _, rfl, ?_, ?_⟩
  · have kept := (before.advance true |>.enter .testLogicReset).drive_parts [(false, true)]
    have reached := before.drive_parts [(true, true)]
    rw [entered] at reached
    exact (kept.trans reached).trans parts
  · intro device listed
    obtain ⟨original, _, rfl⟩ := List.mem_map.mp listed
    rfl

end Ways

section Sequences

/-- The bits that a sequence of this length takes from its data. -/
def tdiBits (dataIn : Buffer) (count : Nat) : List Bool := (List.range count).map (tdiBit dataIn)

@[simp] theorem tdiBits_length (dataIn : Buffer) (count : Nat) : (tdiBits dataIn count).length = count := by
  simp [tdiBits]

private theorem tdiCycles_through (dataIn : Buffer) (count : Nat) :
    tdiCycles false dataIn count = (tdiBits dataIn count).map fun tdi => (false, tdi) := by
  simp [tdiCycles, tdiBits, Function.comp_def]

private theorem tdiCycles_leaving (dataIn : Buffer) (count : Nat) :
    tdiCycles true dataIn (count + 1)
      = ((tdiBits dataIn count).map fun tdi => (false, tdi)) ++ [(true, tdiBit dataIn count)] := by
  simp only [tdiCycles, tdiBits, List.range_succ, List.map_append, List.map_map, List.map_cons, List.map_nil]
  congr 1
  · apply List.map_congr_left
    intro cycle inside
    have below := List.mem_range.mp inside
    simp
    omega
  · simp

/-- A sequence in a shift state that stays there. -/
theorem drive_through {chain : Chain σ} (shifting : chain.tap.shifting = true) (dataIn : Buffer) (count : Nat) :
    chain.drive (tdiCycles false dataIn count)
      = ((chain.bits ++ tdiBits dataIn count).take count,
        { chain with bits := (chain.bits ++ tdiBits dataIn count).drop count }) := by
  rw [tdiCycles_through, Chain.drive_shift chain shifting, tdiBits_length]

private theorem clock_leaving {chain : Chain σ} (shifting : chain.tap.shifting = true) (tdi : Bool) :
    (chain.clock true tdi).1 = chain.bits.headD tdi ∧
      (chain.clock true tdi).2 = { chain with tap := chain.tap.next true, bits := (chain.bits ++ [tdi]).tail } := by
  obtain ⟨tap, devices, bits⟩ := chain
  cases tap <;> first | exact ⟨rfl, rfl⟩ | cases shifting

private theorem take_last (list : List Bool) (last : Bool) {count : Nat} (inside : count ≤ list.length) :
    list.take count ++ [(list.drop count).headD last] = (list ++ [last]).take (count + 1) := by
  rw [List.take_add_one, List.take_append_of_le_length inside]
  congr 1
  cases rest : list.drop count with
  | nil =>
    have whole : list.length = count := by
      have length := congrArg List.length rest
      rw [List.length_drop] at length
      simp at length
      omega
    simp [← whole]
  | cons bit others =>
    have found : list[count]? = some bit := by rw [← List.head?_drop, rest]; rfl
    rw [List.getElem?_append_left (by rw [List.getElem?_eq_some_iff] at found; exact found.1), found]
    rfl

/-- A sequence that leaves the shift state with its last bit. -/
theorem drive_leaving {chain : Chain σ} (shifting : chain.tap.shifting = true) (dataIn : Buffer) {count : Nat}
    (some : 0 < count) :
    chain.drive (tdiCycles true dataIn count)
      = ((chain.bits ++ tdiBits dataIn count).take count,
        { chain with tap := chain.tap.next true, bits := (chain.bits ++ tdiBits dataIn count).drop count }) := by
  obtain ⟨before, rfl⟩ := Nat.exists_eq_succ_of_ne_zero some.ne'
  have through := Chain.drive_shift chain shifting (tdiBits dataIn before)
  have bits : tdiBits dataIn (before + 1) = tdiBits dataIn before ++ [tdiBit dataIn before] := by
    simp [tdiBits, List.range_succ]
  rw [tdiBits_length] at through
  have middle : ({ chain with bits := (chain.bits ++ tdiBits dataIn before).drop before } : Chain σ).tap.shifting = true :=
    shifting
  have leaving := clock_leaving middle (tdiBit dataIn before)
  have enough : before ≤ (chain.bits ++ tdiBits dataIn before).length := by simp
  rw [tdiCycles_leaving, Chain.drive_append, through, bits, ← List.append_assoc]
  simp only [Chain.drive, leaving.1, leaving.2]
  rw [take_last _ _ enough, ← List.drop_append_of_le_length enough, List.tail_drop]

/-- Eight bytes of ones are enough for 64 bits. -/
theorem ones_tdiBits (probe : Probe σ) {count : Nat} (fits : count ≤ 64) :
    tdiBits probe.ones count = List.replicate count true := by
  apply List.ext_getElem (by simp)
  intro cycle inside _
  have bound : cycle < 64 := by simp at inside; omega
  have set : ∀ bit < 8, (0xff#8).getLsbD bit = true := by decide
  simp only [tdiBits, List.getElem_map, List.getElem_range, List.getElem_replicate, tdiBit, Probe.ones]
  rw [if_pos (by omega)]
  exact set _ (by omega)

end Sequences

section Storing

/-- The bits of the bytes before the one that is being gathered do not change. -/
private theorem storeTdo_before (bits : List Bool) (cycle : Nat) (value : Byte) (dataOut : Buffer) {index : Nat}
    (before : index < cycle / 8 * 8) : tdiBit (storeTdo bits cycle value dataOut) index = tdiBit dataOut index := by
  induction bits generalizing cycle value dataOut with
  | nil =>
    rw [storeTdo]
    split
    · rfl
    · rw [tdiBit, Buffer.set_other _ _ (by omega), tdiBit]
  | cons tdo rest ih =>
    rw [storeTdo]
    split
    · rw [ih _ _ _ (by omega), tdiBit, Buffer.set_other _ _ (by omega), tdiBit]
    · exact ih _ _ _ (by omega)

private theorem or_bit (value : Byte) (tdo : Bool) {place bit : Nat} (inside : bit < 8) (clear : value.getLsbD place = false) :
    (if tdo then value ||| (1#8 <<< place) else value).getLsbD bit = if bit = place then tdo else value.getLsbD bit := by
  cases tdo with
  | false =>
    by_cases same : bit = place
    · simp [same, clear]
    · simp [same]
  | true =>
    simp only [if_true, BitVec.getLsbD_or, BitVec.getLsbD_shiftLeft, inside, decide_true, Bool.true_and]
    by_cases same : bit = place
    · simp [same]
    · simp [same]
      omega

/-- What is stored from a cycle on: the bits gathered so far and the bits to come. -/
private theorem storeTdo_bit (bits : List Bool) (cycle : Nat) (value : Byte) (dataOut : Buffer)
    (clear : ∀ bit, cycle % 8 ≤ bit → value.getLsbD bit = false) {index : Nat} (from_ : cycle / 8 * 8 ≤ index)
    (inside : index < cycle + bits.length) :
    tdiBit (storeTdo bits cycle value dataOut) index
      = if index < cycle then value.getLsbD (index % 8) else bits.getD (index - cycle) false := by
  induction bits generalizing cycle value dataOut with
  | nil =>
    have started : cycle % 8 ≠ 0 := by simp at inside; omega
    have place : (cycle - 1) / 8 = index / 8 := by simp at inside; omega
    rw [storeTdo, if_neg started, if_pos (by simpa using inside), tdiBit, place, Buffer.set_self]
  | cons tdo rest ih =>
    have gathered := fun bit (below : bit < 8) => or_bit value tdo below (clear (cycle % 8) (Nat.le_refl _))
    have here : index < cycle + 1 → (if tdo then value ||| (1#8 <<< (cycle % 8)) else value).getLsbD (index % 8)
        = if index < cycle then value.getLsbD (index % 8) else (tdo :: rest).getD (index - cycle) false := by
      intro reached
      rw [gathered _ (by omega)]
      by_cases now : index = cycle
      · simp [now]
      · rw [if_neg (by omega), if_pos (by omega)]
    have later : ¬ index < cycle + 1 → rest.getD (index - (cycle + 1)) false
        = if index < cycle then value.getLsbD (index % 8) else (tdo :: rest).getD (index - cycle) false := by
      intro beyond
      obtain ⟨ahead, rfl⟩ : ∃ ahead, index = cycle + 1 + ahead := ⟨index - (cycle + 1), by omega⟩
      rw [if_neg (by omega), show cycle + 1 + ahead - cycle = ahead + 1 by omega, Nat.add_sub_cancel_left]
      rfl
    rw [List.length_cons] at inside
    rw [storeTdo]
    split
    next full =>
      by_cases reached : index < cycle + 1
      · rw [storeTdo_before _ _ _ _ (by omega), tdiBit, show index / 8 = cycle / 8 by omega, Buffer.set_self]
        exact here reached
      · rw [ih (cycle + 1) 0#8 _ (fun _ _ => by simp) (by omega) (by omega), if_neg reached]
        exact later reached
    next more =>
      rw [ih (cycle + 1) _ _ _ (by omega) (by omega)]
      · split
        next reached => exact here reached
        next beyond => exact later beyond
      · intro bit above
        by_cases below : bit < 8
        · rw [gathered bit below, if_neg (by omega)]
          exact clear bit (by omega)
        · exact BitVec.getLsbD_of_ge _ _ (by omega)

/-- The bits that came out, as they are stored. -/
theorem storeTdo_tdiBits (bits : List Bool) (dataOut : Buffer) :
    tdiBits (storeTdo bits 0 0#8 dataOut) bits.length = bits := by
  apply List.ext_getElem (by simp)
  intro index inside there
  have stored := storeTdo_bit bits 0 0#8 dataOut (fun _ _ => by simp) (Nat.zero_le index) (by simpa using there)
  rw [if_neg (Nat.not_lt_zero _), Nat.sub_zero, List.getD_eq_getElem _ _ there] at stored
  simp only [tdiBits, List.getElem_map, List.getElem_range]
  exact stored

end Storing

end BlackMagic.Proofs.JtagPins

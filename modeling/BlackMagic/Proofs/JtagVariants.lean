import BlackMagic.Jtagtap
import BlackMagic.Proofs.JtagPins

/-! The data sequences of the JTAG pins against each other: the same edges, and the same bits stored
except for those of a last byte that is not complete. -/

namespace BlackMagic.Proofs.JtagVariants
open Lib.Tap Jtagtap JtagPins
open Jtag (tdiBit tdiCycles storeTdo)

section Gathering
variable {answer : Nat → Bool}

/-- The gathering of the bits alone. -/
def gatherAll (answer : Nat → Bool) (cycles : List Nat) (shift : Shift) : Shift :=
  cycles.foldl (fun shift cycle => shift.gather cycle (answer cycle)) shift

private theorem gather_drive (f : Pins → Pins) (cycle : Nat) (tdo : Bool) (shift : Shift) :
    (shift.drive f).gather cycle tdo = (shift.gather cycle tdo).drive f := by
  simp only [Shift.gather, Shift.drive]
  split <;> rfl

private theorem sample_drive (tdo : List (Bool × Bool) → Bool) (f : Pins → Pins) (cycle : Nat) (shift : Shift) :
    sample tdo cycle (shift.drive f) = (shift.gather cycle (tdo (f shift.pins).edges)).drive fun _ => f shift.pins := by
  have pins : (shift.gather cycle (tdo (f shift.pins).edges)).pins = shift.pins := by
    rw [Shift.gather]
    split <;> rfl
  rw [sample, gather_drive, ← pins]
  simp only [Shift.drive, pins]

/-- With the rest written back they are stored as the bits of one sequence. -/
private theorem gatherAll_storeTdo (count start : Nat) (shift : Shift) :
    ((gatherAll answer (List.range' start count) shift).writeBack (start + count)).dataOut
      = storeTdo ((List.range' start count).map answer) start shift.value shift.dataOut := by
  induction count generalizing start shift with
  | zero =>
    simp only [gatherAll, List.range'_zero, List.foldl_nil, List.map_nil, storeTdo, Shift.writeBack, Nat.add_zero]
    by_cases whole : start % 8 = 0 <;> simp [whole]
  | succ count ih =>
    have later := ih (start + 1) (shift.gather start (answer start))
    rw [List.range'_succ, List.map_cons, storeTdo, gatherAll, List.foldl_cons, ← gatherAll,
      show start + (count + 1) = start + 1 + count by omega, later, Shift.gather]
    split <;> rfl

/-- Before it is complete a byte keeps what it was. -/
private theorem gatherAll_kept (count : Nat) (shift : Shift) {byte : Nat} (open_ : count / 8 ≤ byte) :
    (gatherAll answer (List.range count) shift).dataOut byte = shift.dataOut byte := by
  induction count with
  | zero => rfl
  | succ count ih =>
    have before := ih (by omega)
    rw [gatherAll] at before
    rw [List.range_succ, gatherAll, List.foldl_append, List.foldl_cons, List.foldl_nil, Shift.gather]
    split
    · dsimp only
      rw [Buffer.set_other _ _ (by omega), before]
    · exact before

end Gathering

section Cycles
variable {tdo : List (Bool × Bool) → Bool} {finalTms : Bool} {dataIn dataOut : Buffer} {clockCycles : Nat}
variable {tms tdi : Bool} {edges : List (Bool × Bool)}

/-- What the pins have shown after so many cycles. -/
def shown (finalTms : Bool) (dataIn : Buffer) (clockCycles : Nat) (edges : List (Bool × Bool)) (cycles : Nat) :
    List (Bool × Bool) :=
  edges ++ (tdiCycles finalTms dataIn clockCycles).take cycles

/-- What TDO answers in a cycle. -/
def answer (tdo : List (Bool × Bool) → Bool) (finalTms : Bool) (dataIn : Buffer) (clockCycles : Nat)
    (edges : List (Bool × Bool)) (cycle : Nat) : Bool :=
  tdo (shown finalTms dataIn clockCycles edges (cycle + 1))

private theorem shown_succ {cycle : Nat} (inside : cycle < clockCycles) :
    shown finalTms dataIn clockCycles edges (cycle + 1)
      = shown finalTms dataIn clockCycles edges cycle ++ [(tmsAt finalTms clockCycles cycle, tdiBit dataIn cycle)] := by
  have within : cycle < (tdiCycles finalTms dataIn clockCycles).length := by simpa [tdiCycles] using inside
  rw [shown, shown, List.take_add_one, List.getElem?_eq_getElem within, List.append_assoc]
  simp [tdiCycles, tmsAt]

private theorem shown_all : shown finalTms dataIn clockCycles edges clockCycles
    = edges ++ tdiCycles finalTms dataIn clockCycles := by
  rw [shown, List.take_of_length_le]
  simp [tdiCycles]

/-- A loop whose every cycle clocks once, and then gathers what TDO answers. -/
private theorem loop_gathers {body : Shift → Nat → Shift} {fits : Pins → Prop} {start : Pins} (ready : fits start)
    (begun : start.edges = edges)
    (clocks : ∀ (shift : Shift) (cycle : Nat), fits shift.pins → ∃ pins, fits pins ∧
      pins.edges = shift.pins.edges ++ [(tmsAt finalTms clockCycles cycle, tdiBit dataIn cycle)] ∧
      body shift cycle = (shift.gather cycle (tdo pins.edges)).drive fun _ => pins)
    {count : Nat} (inside : count ≤ clockCycles) :
    ∃ pins, fits pins ∧ pins.edges = shown finalTms dataIn clockCycles edges count ∧
      (List.range count).foldl body ⟨start, 0#8, dataOut⟩
        = (gatherAll (answer tdo finalTms dataIn clockCycles edges) (List.range count) ⟨start, 0#8, dataOut⟩).drive
            fun _ => pins := by
  induction count with
  | zero => exact ⟨start, ready, by simp [shown, begun], rfl⟩
  | succ count ih =>
    obtain ⟨pins, fitting, seen, state⟩ := ih (by omega)
    obtain ⟨next, also, edge, moved⟩ := clocks
      ((gatherAll (answer tdo finalTms dataIn clockCycles edges) (List.range count) ⟨start, 0#8, dataOut⟩).drive
        fun _ => pins) count fitting
    have grown : next.edges = shown finalTms dataIn clockCycles edges (count + 1) := by
      rw [shown_succ (by omega), ← seen, edge]
      rfl
    refine ⟨next, also, grown, ?_⟩
    rw [List.range_succ, List.foldl_append, List.foldl_cons, List.foldl_nil, state, moved, grown, gather_drive, gatherAll,
      gatherAll, List.foldl_append]
    rfl

private theorem delayed_clocks (shift : Shift) (cycle : Nat) (low : shift.pins.tck = false) :
    ∃ pins, pins.tck = false ∧
      pins.edges = shift.pins.edges ++ [(tmsAt finalTms clockCycles cycle, tdiBit dataIn cycle)] ∧
      clkDelayCycle tdo finalTms dataIn clockCycles shift cycle
        = (shift.gather cycle (tdo pins.edges)).drive fun _ => pins := by
  obtain ⟨⟨tms, tdi, tck, edges⟩, value, dataOut⟩ := shift
  cases low
  refine ⟨⟨tmsAt finalTms clockCycles cycle, tdiBit dataIn cycle, false, _⟩, rfl, rfl, ?_⟩
  have sampled := sample_drive tdo
    (fun pins => ((pins.setTms (tmsAt finalTms clockCycles cycle)).setTdi (tdiBit dataIn cycle)).raiseTck) cycle
    ⟨⟨tms, tdi, false, edges⟩, value, dataOut⟩
  exact congrArg Shift.clear sampled

private theorem undelayed_clocks (shift : Shift) (cycle : Nat) (_ : True) :
    ∃ pins, True ∧
      pins.edges = shift.pins.edges ++ [(tmsAt finalTms clockCycles cycle, tdiBit dataIn cycle)] ∧
      noDelayCycle tdo finalTms dataIn clockCycles shift cycle
        = (shift.gather cycle (tdo pins.edges)).drive fun _ => pins := by
  obtain ⟨⟨tms, tdi, tck, edges⟩, value, dataOut⟩ := shift
  refine ⟨⟨tmsAt finalTms clockCycles cycle, tdiBit dataIn cycle, true, _⟩, trivial, rfl, ?_⟩
  exact sample_drive tdo
    (fun pins => ((pins.clearTck.setTdi (tdiBit dataIn cycle)).setTms (tmsAt finalTms clockCycles cycle)).raiseTck) cycle
    ⟨⟨tms, tdi, tck, edges⟩, value, dataOut⟩

private theorem generic_clocks (shift : Shift) (cycle : Nat) (low : shift.pins.tck = false) :
    ∃ pins, pins.tck = false ∧
      pins.edges = shift.pins.edges ++ [(tmsAt finalTms clockCycles cycle, tdiBit dataIn cycle)] ∧
      genericCycle tdo finalTms dataIn clockCycles shift cycle
        = (shift.gather cycle (tdo pins.edges)).drive fun _ => pins := by
  obtain ⟨⟨tms, tdi, tck, edges⟩, value, dataOut⟩ := shift
  cases low
  refine ⟨⟨tmsAt finalTms clockCycles cycle, tdiBit dataIn cycle, false, _⟩, rfl, rfl, ?_⟩
  rw [← gather_drive]
  rfl

/-- What the firmware leaves: all edges, and the bits packed as one sequence. -/
structure Shifted (tdo : List (Bool × Bool) → Bool) (finalTms : Bool) (dataIn dataOut : Buffer) (clockCycles : Nat)
    (edges : List (Bool × Bool)) (after : Shift) : Prop where
  seen : after.pins.edges = edges ++ tdiCycles finalTms dataIn clockCycles
  low : after.pins.tck = false
  packed : after.dataOut
    = storeTdo ((List.range clockCycles).map (answer tdo finalTms dataIn clockCycles edges)) 0 0#8 dataOut

private theorem writeBack_drive (f : Pins → Pins) (cycles : Nat) (shift : Shift) :
    (shift.drive f).writeBack cycles = (shift.writeBack cycles).drive f := by
  simp only [Shift.writeBack, Shift.drive]
  split <;> rfl

private theorem written_back (start : Pins) :
    ((gatherAll (answer tdo finalTms dataIn clockCycles edges) (List.range clockCycles) ⟨start, 0#8, dataOut⟩).writeBack
        clockCycles).dataOut
      = storeTdo ((List.range clockCycles).map (answer tdo finalTms dataIn clockCycles edges)) 0 0#8 dataOut := by
  have stored := @gatherAll_storeTdo (answer tdo finalTms dataIn clockCycles edges) clockCycles 0 ⟨start, 0#8, dataOut⟩
  rw [← List.range_eq_range', Nat.zero_add] at stored
  exact stored

/-- Packed bits are the bits that TDO answered. -/
theorem Shifted.bit {after : Shift} (shifted : Shifted tdo finalTms dataIn dataOut clockCycles edges after) {cycle : Nat}
    (inside : cycle < clockCycles) :
    tdiBit after.dataOut cycle = answer tdo finalTms dataIn clockCycles edges cycle := by
  have bits := storeTdo_tdiBits ((List.range clockCycles).map (answer tdo finalTms dataIn clockCycles edges)) dataOut
  rw [← shifted.packed, List.length_map, List.length_range] at bits
  have at_ := congrArg (fun list => list[cycle]?) bits
  simpa [tdiBits, inside] using at_

/-- With and without a delay. -/
theorem firmware_shifted (targetClkDivider : BitVec 32) :
    Shifted tdo finalTms dataIn dataOut clockCycles edges
      (jtagtapTdiTdoSeq tdo finalTms dataIn clockCycles targetClkDivider dataOut (resting tms tdi edges)) := by
  rw [jtagtapTdiTdoSeq]
  split
  · obtain ⟨pins, low, seen, state⟩ := @loop_gathers tdo finalTms dataIn dataOut clockCycles edges
      (clkDelayCycle tdo finalTms dataIn clockCycles) (fun pins => pins.tck = false) (resting false false edges) rfl rfl
      delayed_clocks clockCycles (Nat.le_refl clockCycles)
    have after : tdiTdoSeqClkDelay tdo finalTms dataIn clockCycles ⟨resting false false edges, 0#8, dataOut⟩ = _ :=
      congrArg (Shift.writeBack clockCycles) state
    rw [writeBack_drive] at after
    refine ⟨?_, ?_, ?_⟩
    · exact (congrArg (fun shift => shift.pins.edges) after).trans (seen.trans shown_all)
    · exact (congrArg (fun shift => shift.pins.tck) after).trans low
    · exact (congrArg Shift.dataOut after).trans (written_back _)
  · obtain ⟨pins, -, seen, state⟩ := @loop_gathers tdo finalTms dataIn dataOut clockCycles edges
      (noDelayCycle tdo finalTms dataIn clockCycles) (fun _ => True) (resting false false edges) trivial rfl
      undelayed_clocks clockCycles (Nat.le_refl clockCycles)
    have after : tdiTdoSeqNoDelay tdo finalTms dataIn clockCycles ⟨resting false false edges, 0#8, dataOut⟩ = _ :=
      congrArg (fun shift => (Shift.writeBack clockCycles shift).clear) state
    rw [writeBack_drive] at after
    refine ⟨?_, ?_, ?_⟩
    · exact (congrArg (fun shift => shift.pins.edges) after).trans (seen.trans shown_all)
    · exact congrArg (fun shift => shift.pins.tck) after
    · exact (congrArg Shift.dataOut after).trans (written_back _)

/-- The generic sequence drives the same, and lacks the last byte that is not complete. -/
theorem generic_shifted :
    (genericTdiTdoSeq tdo finalTms dataIn clockCycles dataOut (resting tms tdi edges)).pins.edges
        = edges ++ tdiCycles finalTms dataIn clockCycles ∧
      ∀ cycle < clockCycles,
        tdiBit (genericTdiTdoSeq tdo finalTms dataIn clockCycles dataOut (resting tms tdi edges)).dataOut cycle
          = if cycle < clockCycles / 8 * 8 then answer tdo finalTms dataIn clockCycles edges cycle else tdiBit dataOut cycle := by
  obtain ⟨pins, low, seen, state⟩ := @loop_gathers tdo finalTms dataIn dataOut clockCycles edges
    (genericCycle tdo finalTms dataIn clockCycles) (fun pins => pins.tck = false) (resting tms tdi edges) rfl rfl
    generic_clocks clockCycles (Nat.le_refl clockCycles)
  have after : genericTdiTdoSeq tdo finalTms dataIn clockCycles dataOut (resting tms tdi edges) = _ := state
  rw [after]
  refine ⟨seen.trans shown_all, fun cycle inside => ?_⟩
  have packed := @written_back tdo finalTms dataIn dataOut clockCycles edges (resting tms tdi edges)
  have kept := @gatherAll_kept (answer tdo finalTms dataIn clockCycles edges) clockCycles
    ⟨resting tms tdi edges, 0#8, dataOut⟩ (cycle / 8)
  generalize gatherAll (answer tdo finalTms dataIn clockCycles edges) (List.range clockCycles)
    ⟨resting tms tdi edges, 0#8, dataOut⟩ = gathered at packed kept
  split
  · have full : Shifted tdo finalTms dataIn dataOut clockCycles edges
        ((gathered.writeBack clockCycles).drive fun _ => ⟨tms, tdi, false, edges ++ tdiCycles finalTms dataIn clockCycles⟩) :=
      ⟨rfl, rfl, packed⟩
    have bit := full.bit inside
    have same : (gathered.writeBack clockCycles).dataOut (cycle / 8) = gathered.dataOut (cycle / 8) := by
      rw [Shift.writeBack]
      split
      · exact Buffer.set_other _ _ (by omega)
      · rfl
    rw [tdiBit] at bit ⊢
    exact (congrArg (fun byte => byte.getLsbD (cycle % 8)) same).symm.trans bit
  · rw [tdiBit, tdiBit]
    exact congrArg (fun byte => byte.getLsbD (cycle % 8)) (kept (by omega))

end Cycles

section Sequences
variable {finalTms : Bool} {dataIn : Buffer} {clockCycles : Nat} {tms tdi : Bool} {edges : List (Bool × Bool)}

/-- A loop over the pins whose every cycle clocks once. -/
private theorem loop_clocks {body : Pins → Nat → Pins} {fits : Pins → Prop} {start : Pins} (ready : fits start)
    (clocks : ∀ pins cycle, fits pins → fits (body pins cycle) ∧
      (body pins cycle).edges = pins.edges ++ [(tmsAt finalTms clockCycles cycle, tdiBit dataIn cycle)])
    {count : Nat} (inside : count ≤ clockCycles) :
    fits ((List.range count).foldl body start) ∧
      ((List.range count).foldl body start).edges = shown finalTms dataIn clockCycles start.edges count := by
  induction count with
  | zero => exact ⟨ready, by simp [shown]⟩
  | succ count ih =>
    obtain ⟨fitting, seen⟩ := ih (by omega)
    obtain ⟨next, edge⟩ := clocks _ count fitting
    rw [List.range_succ, List.foldl_append, List.foldl_cons, List.foldl_nil]
    exact ⟨next, by rw [edge, seen, shown_succ (by omega)]⟩

theorem firmware_driven (targetClkDivider : BitVec 32) :
    (jtagtapTdiSeq finalTms dataIn clockCycles targetClkDivider (resting tms tdi edges)).edges
      = edges ++ tdiCycles finalTms dataIn clockCycles := by
  rw [← shown_all, jtagtapTdiSeq]
  split
  · apply (@loop_clocks finalTms dataIn clockCycles _ (fun pins => pins.tck = false) _ _ _ _ (Nat.le_refl clockCycles)).2
    · rfl
    · rintro ⟨tms, tdi, tck, edges⟩ cycle low
      cases low
      exact ⟨rfl, rfl⟩
  · apply (@loop_clocks finalTms dataIn clockCycles _ (fun _ => True) _ trivial _ _ (Nat.le_refl clockCycles)).2
    rintro ⟨tms, tdi, tck, edges⟩ cycle _
    exact ⟨trivial, rfl⟩

theorem generic_driven (tdo : List (Bool × Bool) → Bool) :
    (genericTdiSeq tdo finalTms dataIn clockCycles (resting tms tdi edges)).edges
      = edges ++ tdiCycles finalTms dataIn clockCycles := by
  rw [← shown_all, genericTdiSeq]
  apply (@loop_clocks finalTms dataIn clockCycles _ (fun pins => pins.tck = false) _ _ _ _ (Nat.le_refl clockCycles)).2
  · rfl
  · rintro ⟨tms, tdi, tck, edges⟩ cycle low
    cases low
    exact ⟨rfl, rfl⟩

end Sequences

section Variants
variable (tdo : List (Bool × Bool) → Bool) (finalTms : Bool) (dataIn dataOut : Buffer) (clockCycles : Nat)
  (tms tdi : Bool) (edges : List (Bool × Bool))

/-- Two runs show the parts the same and store the same bits. -/
structure Agree (clockCycles : Nat) (one other : Shift) : Prop where
  edges : one.pins.edges = other.pins.edges
  bits : ∀ cycle < clockCycles, tdiBit one.dataOut cycle = tdiBit other.dataOut cycle

/-- All variants agree, with TDO and without. -/
structure VariantsAgree : Prop where
  firmware : ∀ one other, Agree clockCycles
    (jtagtapTdiTdoSeq tdo finalTms dataIn clockCycles one dataOut (resting tms tdi edges))
    (jtagtapTdiTdoSeq tdo finalTms dataIn clockCycles other dataOut (resting tms tdi edges))
  generic : ∀ one, Agree clockCycles
    (jtagtapTdiTdoSeq tdo finalTms dataIn clockCycles one dataOut (resting tms tdi edges))
    (genericTdiTdoSeq tdo finalTms dataIn clockCycles dataOut (resting tms tdi edges))
  firmwareTdi : ∀ one other, (jtagtapTdiSeq finalTms dataIn clockCycles one (resting tms tdi edges)).edges
    = (jtagtapTdiSeq finalTms dataIn clockCycles other (resting tms tdi edges)).edges
  genericTdi : ∀ one, (jtagtapTdiSeq finalTms dataIn clockCycles one (resting tms tdi edges)).edges
    = (genericTdiSeq tdo finalTms dataIn clockCycles (resting tms tdi edges)).edges

/-- The variants agree exactly if the bits of the last byte that is not complete were there before. -/
theorem variants_agree_iff :
    VariantsAgree tdo finalTms dataIn dataOut clockCycles tms tdi edges ↔
      ∀ cycle, clockCycles / 8 * 8 ≤ cycle → cycle < clockCycles →
        tdiBit dataOut cycle = tdo (edges ++ (tdiCycles finalTms dataIn clockCycles).take (cycle + 1)) := by
  have firmware := fun divider => @firmware_shifted tdo finalTms dataIn dataOut clockCycles tms tdi edges divider
  have generic := @generic_shifted tdo finalTms dataIn dataOut clockCycles tms tdi edges
  constructor
  · intro agree cycle open_ inside
    have bits := (agree.generic 0#32).bits cycle inside
    rw [(firmware _).bit inside, generic.2 cycle inside, if_neg (by omega)] at bits
    exact bits.symm
  · intro before
    refine ⟨fun one other => ⟨?_, fun cycle inside => ?_⟩, fun one => ⟨?_, fun cycle inside => ?_⟩, fun one other => ?_,
      fun one => ?_⟩
    · rw [(firmware one).seen, (firmware other).seen]
    · rw [(firmware one).bit inside, (firmware other).bit inside]
    · rw [(firmware one).seen, generic.1]
    · rw [(firmware one).bit inside, generic.2 cycle inside]
      split
      · rfl
      · exact (before cycle (by omega) inside).symm
    · rw [firmware_driven, firmware_driven]
    · rw [firmware_driven, generic_driven]

/-- One bit, answered with a one, is never stored. -/
theorem one_bit_disagrees :
    ¬ VariantsAgree (fun _ => true) false (fun _ => 0#8) (fun _ => 0#8) 1 false false [] := by
  intro agree
  have bits := (agree.generic 0#32).bits 0 Nat.one_pos
  revert bits
  decide

end Variants

section Chain
variable {σ : Type}

/-- What the last part of a chain answers. -/
def chainTdo (chain : Chain σ) (edges : List (Bool × Bool)) : Bool := ((chain.drive edges).1.getLast?).getD false

private theorem drive_length (chain : Chain σ) (pins : List (Bool × Bool)) : (chain.drive pins).1.length = pins.length := by
  induction pins generalizing chain with
  | nil => rfl
  | cons first rest ih => exact congrArg (· + 1) (ih _)

private theorem drive_take (chain : Chain σ) (pins : List (Bool × Bool)) (count : Nat) :
    (chain.drive (pins.take count)).1 = (chain.drive pins).1.take count := by
  induction pins generalizing chain count with
  | nil => simp [Chain.drive]
  | cons first rest ih =>
    cases count with
    | zero => rfl
    | succ count => exact congrArg (_ :: ·) (ih _ count)

private theorem answers_drive (chain : Chain σ) (finalTms : Bool) (dataIn : Buffer) (clockCycles : Nat) :
    (List.range clockCycles).map (answer (chainTdo chain) finalTms dataIn clockCycles [])
      = (chain.drive (tdiCycles finalTms dataIn clockCycles)).1 := by
  have count : (tdiCycles finalTms dataIn clockCycles).length = clockCycles := by simp [tdiCycles]
  apply List.ext_getElem
  · rw [drive_length, count, List.length_map, List.length_range]
  · intro cycle inside there
    rw [List.getElem_map, List.getElem_range, answer, shown, List.nil_append, chainTdo, drive_take, List.take_add_one,
      List.getElem?_eq_getElem there, Option.toList_some, List.getLast?_append_of_ne_nil _ (List.cons_ne_nil _ _)]
    rfl

/-- The firmware does to a chain what the model of the scan takes it to do. -/
theorem firmware_drives (chain : Chain σ) (finalTms : Bool) (dataIn dataOut : Buffer) (clockCycles : Nat) (tms tdi : Bool)
    (targetClkDivider : BitVec 32) :
    let after := jtagtapTdiTdoSeq (chainTdo chain) finalTms dataIn clockCycles targetClkDivider dataOut (resting tms tdi [])
    Jtag.jtagtapTdiTdoSeq dataOut finalTms dataIn clockCycles chain = (after.dataOut, (chain.drive after.pins.edges).2) := by
  have shifted := @firmware_shifted (chainTdo chain) finalTms dataIn dataOut clockCycles tms tdi [] targetClkDivider
  have packed := shifted.packed
  rw [answers_drive] at packed
  dsimp only
  rw [packed, shifted.seen, List.nil_append]
  rfl

end Chain

end BlackMagic.Proofs.JtagVariants

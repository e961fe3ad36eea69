import BlackMagic.Proofs.JtagPins

/-! The scan of a chain: what it finds out of the identifications, of the lengths of the
instruction registers and of the places of the devices. -/

namespace BlackMagic.Proofs.JtagScan
open Lib.Tap Jtag JtagPins

variable {σ : Type}

/-- The bits that the table expects. -/
def quirkBits (quirks : IrQuirks) : List Bool := (List.range quirks.irLength.toNat).map quirks.irValue.getLsbD

/-- A part with an identification and with an instruction register that captures a one and then
zeros, or what the table has for it. -/
structure Regular (part : ChainPart σ) : Prop where
  marked : part.idcode.getLsbD 0 = true
  real : part.idcode ≠ 0xffffffff#32
  captures :
    (∃ length, 2 ≤ length ∧ length ≤ 16 ∧ (jtagDeviceGetQuirks part.idcode).irLength = 0#8 ∧
      part.irCapture = true :: List.replicate (length - 1) false) ∨
    (jtagDeviceGetQuirks part.idcode).irLength ≠ 0#8 ∧ part.irCapture = quirkBits (jtagDeviceGetQuirks part.idcode)

/-- The length of the instruction registers one after the other. -/
def irBits (parts : List (ChainPart σ)) : Nat := (parts.map ChainPart.irLength).sum

section Tables

/-- The devices from one number up to another are rewritten, the others are as before. -/
private def Filled (f : Nat → JtagDev → JtagDev) (first last : Nat) (before after : Nat → JtagDev) : Prop :=
  ∀ i, after i = if first ≤ i ∧ i < last then f i (before i) else before i

variable {f : Nat → JtagDev → JtagDev} {first last : Nat} {after : Nat → JtagDev}

private theorem filled_none (devs : Nat → JtagDev) : Filled f last last devs devs := by
  intro i
  rw [if_neg (by omega)]

private theorem Filled.step {probe : Probe σ} (inside : first < last)
    (rest : Filled f (first + 1) last (probe.setDev first (f first)).jtagDevs after) :
    Filled f first last probe.jtagDevs after := by
  intro i
  rw [rest i]
  by_cases here : i = first
  · subst here
    rw [if_neg (by omega), if_pos ⟨Nat.le_refl _, inside⟩]
    exact if_pos rfl
  · have same : (probe.setDev first (f first)).jtagDevs i = probe.jtagDevs i := if_neg here
    rw [same]
    by_cases later : first + 1 ≤ i ∧ i < last
    · rw [if_pos later, if_pos ⟨by omega, later.2⟩]
    · rw [if_neg later, if_neg (by omega)]

private theorem Filled.back {probe : Probe σ}
    (rest : Filled f 0 last (probe.setDev last (f last)).jtagDevs after) : Filled f 0 (last + 1) probe.jtagDevs after := by
  intro i
  rw [rest i]
  by_cases here : i = last
  · subst here
    rw [if_neg (by omega), if_pos ⟨Nat.zero_le _, Nat.lt_succ_self _⟩]
    exact if_pos rfl
  · have same : (probe.setDev last (f last)).jtagDevs i = probe.jtagDevs i := if_neg here
    rw [same]
    by_cases before : i < last
    · rw [if_pos ⟨Nat.zero_le _, before⟩, if_pos ⟨Nat.zero_le _, by omega⟩]
    · rw [if_neg (by omega), if_neg (by omega)]

/-- What a change to one device leaves alone is the same in all of them. -/
private theorem setDev_field {α : Type} (field : JtagDev → α) (f : JtagDev → JtagDev) (probe : Probe σ) (device i : Nat)
    (same : ∀ dev, field (f dev) = field dev) :
    field ((probe.setDev device f).jtagDevs i) = field (probe.jtagDevs i) := by
  simp only [Probe.setDev]
  split
  next here => rw [here, same]
  next => rfl

private theorem Filled.at {before : Nat → JtagDev} (filled : Filled f first last before after) {i : Nat}
    (above : first ≤ i) (below : i < last) : after i = f i (before i) :=
  (filled i).trans (if_pos ⟨above, below⟩)

private theorem Filled.past {before : Nat → JtagDev} (filled : Filled f first last before after) {i : Nat}
    (outside : last ≤ i) : after i = before i :=
  (filled i).trans (if_neg (by omega))

end Tables

section Idcodes

private theorem wordAt_bit (bytes : Buffer) {i : Nat} (inside : i < 32) :
    (wordAt bytes).getLsbD i = tdiBit bytes i := by
  have place : i / 8 = 0 ∧ i % 8 = i ∨ i / 8 = 1 ∧ i % 8 = i - 8 ∨ i / 8 = 2 ∧ i % 8 = i - 16 ∨
      i / 8 = 3 ∧ i % 8 = i - 24 := by omega
  simp only [wordAt, tdiBit, BitVec.getLsbD_append]
  obtain ⟨lane, bit⟩ | ⟨lane, bit⟩ | ⟨lane, bit⟩ | ⟨lane, bit⟩ := place
  · rw [lane, bit, if_pos (by omega)]
  · rw [lane, bit, if_neg (by omega), if_pos (by omega)]
  · rw [lane, bit, if_neg (by omega), if_neg (by omega), if_pos (by omega)]
    congr 1
  · rw [lane, bit, if_neg (by omega), if_neg (by omega), if_neg (by omega)]
    congr 1

/-- The word whose bits came out. -/
theorem wordAt_stored (word : BitVec 32) (dataOut : Buffer) :
    wordAt (storeTdo ((List.range 32).map word.getLsbD) 0 0#8 dataOut) = word := by
  have stored := storeTdo_tdiBits ((List.range 32).map word.getLsbD) dataOut
  rw [List.length_map, List.length_range, tdiBits, List.map_inj_left] at stored
  apply BitVec.eq_of_getLsbD_eq
  intro i inside
  rw [wordAt_bit _ inside]
  exact stored i (List.mem_range.mpr inside)

private theorem wordAt_ones (dataOut : Buffer) :
    wordAt (storeTdo (List.replicate 32 true) 0 0#8 dataOut) = 0xffffffff#32 := by
  have bits : List.replicate 32 true = (List.range 32).map (0xffffffff#32).getLsbD := by decide
  rw [bits, wordAt_stored]

/-- One identification read, and ones behind it. -/
private theorem idcode_read {probe : Probe σ} (shifting : probe.chain.tap = .shiftDr) :
    jtagtapTdiTdoSeq (fun _ => 0#8) false probe.ones 32 probe.chain
      = (storeTdo ((probe.chain.bits ++ List.replicate 32 true).take 32) 0 0#8 fun _ => 0#8,
        { probe.chain with bits := (probe.chain.bits ++ List.replicate 32 true).drop 32 }) := by
  rw [jtagtapTdiTdoSeq, drive_through (by rw [shifting]; rfl), ones_tdiBits probe (by decide)]

/-- The identification that a device of the chain has. -/
private def identify (devices : List (Device σ)) (i : Nat) (dev : JtagDev) : JtagDev :=
  { dev with jdIdcode := ((devices[i]?).map fun device => device.part.idcode).getD dev.jdIdcode }

private theorem length_idcodeBits (device : Device σ) : device.idcodeBits.length = 32 := by simp [Device.idcodeBits]

private theorem scanIdcodes_spec {devices : List (Device σ)} (real : ∀ item ∈ devices, item.part.idcode ≠ 0xffffffff#32)
    (fits : devices.length ≤ jtagMaxDevs) (left device ones more : Nat) (probe : Probe σ)
    (place : device + left = devices.length) (enough : left < more) (shifting : probe.chain.tap = .shiftDr)
    (ahead : probe.chain.bits = (devices.drop device).flatMap Device.idcodeBits ++ List.replicate ones true) :
    ∃ after, scanIdcodes more device probe = (some devices.length, after) ∧ after.chain.tap = .shiftDr ∧
      after.chain.devices = probe.chain.devices ∧
      Filled (identify devices) device devices.length probe.jtagDevs after.jtagDevs := by
  induction left generalizing device ones more probe with
  | zero =>
    obtain ⟨more, rfl⟩ := Nat.exists_eq_succ_of_ne_zero (Nat.ne_of_gt enough)
    have bits : (probe.chain.bits ++ List.replicate 32 true).take 32 = List.replicate 32 true := by
      rw [ahead, List.drop_of_length_le (by omega), List.flatMap_nil, List.nil_append, List.replicate_append_replicate,
        List.take_replicate, Nat.min_eq_left (by omega)]
    obtain rfl : device = devices.length := by omega
    rw [scanIdcodes, idcode_read shifting, bits, if_pos (wordAt_ones _)]
    exact ⟨_, rfl, shifting, rfl, filled_none _⟩
  | succ left ih =>
    obtain ⟨more, rfl⟩ := Nat.exists_eq_succ_of_ne_zero (Nat.ne_of_gt (Nat.lt_of_le_of_lt (Nat.zero_le _) enough))
    have inside : device < devices.length := by omega
    have length := length_idcodeBits devices[device]
    rw [List.drop_eq_getElem_cons inside, List.flatMap_cons, List.append_assoc] at ahead
    have bits : (probe.chain.bits ++ List.replicate 32 true).take 32 = devices[device].idcodeBits := by
      rw [ahead, List.append_assoc, ← length, List.take_left]
    have later : (probe.chain.bits ++ List.replicate 32 true).drop 32
        = (devices.drop (device + 1)).flatMap Device.idcodeBits ++ List.replicate (ones + 32) true := by
      rw [ahead, List.append_assoc, ← length, List.drop_left, List.append_assoc, List.replicate_append_replicate]
    have word : wordAt (storeTdo devices[device].idcodeBits 0 0#8 fun _ => 0#8) = devices[device].part.idcode :=
      wordAt_stored _ _
    have identified : identify devices device = fun dev => { dev with jdIdcode := devices[device].part.idcode } := by
      funext dev
      rw [identify, List.getElem?_eq_getElem inside]
      rfl
    rw [scanIdcodes, idcode_read shifting, bits, word, if_neg (real _ (List.getElem_mem inside)), if_neg (by omega)]
    let next : Probe σ :=
      { probe with chain := { probe.chain with bits := (probe.chain.bits ++ List.replicate 32 true).drop 32 } }
    obtain ⟨after, scanned, tap, same, filled⟩ := ih (device + 1) (ones + 32) more
      (next.setDev device (identify devices device)) (by omega) (by omega) shifting later
    refine ⟨after, ?_, tap, same, Filled.step inside filled⟩
    rw [← scanned, identified]

private theorem latchDr_identified {device : Device σ} (reset : device.ir = none) (bits : List Bool) :
    device.latchDr bits = device := by
  simp [Device.latchDr, reset]

private theorem selected_identified {devices : List (Device σ)} (reset : ∀ device ∈ devices, device.ir = none) :
    devices.flatMap Device.selected = devices.flatMap Device.idcodeBits := by
  apply List.flatMap_congr
  intro device listed
  simp [Device.selected, reset device listed]

/-- After the identifications the chain is idle, and the table has every device of it. -/
private theorem jtagReadIdcodes_spec (probe : Probe σ) (regular : ∀ part ∈ probe.chain.parts, Regular part)
    (fits : probe.chain.parts.length ≤ jtagMaxDevs) :
    ∃ after devices bits, jtagReadIdcodes probe = (true, after) ∧ after.chain = ⟨.runTestIdle, devices, bits⟩ ∧
      devices.map Device.part = probe.chain.parts ∧ after.jtagDevCount = devices.length ∧
      Filled (identify devices) 0 devices.length probe.jtagDevs after.jtagDevs := by
  obtain ⟨devices, bits, there, parts, reset⟩ := reset_idle probe.chain
  have size : devices.length = probe.chain.parts.length := by rw [← parts, List.length_map]
  have real : ∀ item ∈ devices, item.part.idcode ≠ 0xffffffff#32 := by
    intro item listed
    have member : item.part ∈ probe.chain.parts := by
      rw [← parts]
      exact List.mem_map_of_mem listed
    exact (regular _ member).real
  let started : Probe σ := (probe.pins jtagtapReset).pins jtagtapShiftDr
  have chain : started.chain = ⟨.shiftDr, devices, devices.flatMap Device.idcodeBits⟩ := by
    rw [← selected_identified reset, ← shiftDr_idle devices bits, ← there]
    rfl
  obtain ⟨after, scanned, tap, same, filled⟩ := scanIdcodes_spec real (by omega) devices.length 0 0 (jtagMaxDevs + 1)
    started (by omega) (by omega) (by rw [chain]) (by rw [chain]; simp)
  rw [chain] at same
  have kept : ∀ device ∈ after.chain.devices, ∀ bits, device.latchDr bits = device := by
    rw [same]
    exact fun device listed => latchDr_identified (reset device listed)
  obtain ⟨last, left⟩ := leave_dr tap kept
  rw [same] at left
  rw [jtagReadIdcodes, scanned]
  exact ⟨_, devices, last, rfl, left, parts, rfl, filled⟩

end Idcodes

section Registers

/-- The bits still to come out, with ones behind them; the chain has `total` bits. -/
private structure Ahead (bits : List Bool) (total : Nat) (devices : List (Device σ)) (chain : Chain σ) : Prop where
  tap : chain.tap = .shiftIr
  same : chain.devices = devices
  shown : ∃ ones, chain.bits = bits ++ List.replicate ones true ∧ bits.length + ones = total

private theorem next_ahead {bits : List Bool} {total : Nat} {devices : List (Device σ)} {chain : Chain σ}
    (ahead : Ahead bits total devices chain) :
    (jtagtapNext false true chain).1 = bits.headD true ∧
      Ahead bits.tail total devices (jtagtapNext false true chain).2 := by
  obtain ⟨tap, same, ones, shown, length⟩ := ahead
  rw [jtagtapNext, Chain.clock_shift (by rw [tap]; rfl)]
  cases bits with
  | nil =>
    rw [List.nil_append] at shown
    have all : (chain.bits ++ [true]).tail = List.replicate ones true := by
      rw [shown, ← List.replicate_succ', List.replicate_succ, List.tail_cons]
    constructor
    · rw [shown]
      cases ones <;> rfl
    · exact ⟨tap, same, ones, all, length⟩
  | cons bit rest =>
    constructor
    · rw [shown]
      rfl
    · refine ⟨tap, same, ones + 1, ?_, by simp at length ⊢; omega⟩
      rw [shown, List.append_assoc, ← List.replicate_succ']
      rfl

/-- The table has what is usual or one thing of its own. -/
theorem quirks_cases (idcode : BitVec 32) :
    jtagDeviceGetQuirks idcode = ⟨0#16, 0#8⟩ ∨ jtagDeviceGetQuirks idcode = ⟨1#16, 6#8⟩ := by
  have table : ∀ descr ∈ devDescr, descr.irQuirks = ⟨0#16, 0#8⟩ ∨ descr.irQuirks = ⟨1#16, 6#8⟩ := by decide
  rw [jtagDeviceGetQuirks]
  cases found : findDescr idcode with
  | none => exact .inl rfl
  | some descr => exact table descr (List.mem_of_find?_eq_some found)

/-- A one and zeros: as many as the register has, and six where the table says so. -/
theorem Regular.shape {part : ChainPart σ} (regular : Regular part) :
    2 ≤ part.irLength ∧ part.irLength ≤ 16 ∧ part.irCapture = true :: List.replicate (part.irLength - 1) false ∧
      (jtagDeviceGetQuirks part.idcode = ⟨0#16, 0#8⟩ ∨
        jtagDeviceGetQuirks part.idcode = ⟨1#16, 6#8⟩ ∧ part.irLength = 6) := by
  obtain ⟨length, low, high, usual, captured⟩ | ⟨special, captured⟩ := regular.captures
  · have same : part.irLength = length := by
      rw [ChainPart.irLength, captured, List.length_cons, List.length_replicate]
      omega
    rw [same]
    refine ⟨low, high, captured, .inl ?_⟩
    obtain none | six := quirks_cases part.idcode
    · exact none
    · rw [six] at usual
      cases usual
  · obtain none | six := quirks_cases part.idcode
    · rw [none] at special
      exact absurd rfl special
    · have bits : part.irCapture = [true, false, false, false, false, false] := by
        rw [captured, six]
        decide
      have same : part.irLength = 6 := by rw [ChainPart.irLength, bits]; rfl
      rw [same]
      exact ⟨by omega, by omega, bits, .inr ⟨six, rfl⟩⟩

variable {probe : Probe σ} {more prescan device : Nat}

/-- What the scan writes down for a device. -/
private def describeIr (length prescan : Nat) (dev : JtagDev) : JtagDev :=
  { dev with irLen := BitVec.ofNat 8 length, irPrescan := BitVec.ofNat 8 prescan, currentIr := 0xffffffff#32 }

/-- The probe after a device has been scanned and written down. -/
private def afterDevice (probe : Probe σ) (chain : Chain σ) (device length prescan : Nat) : Probe σ :=
  { probe with chain := chain }.setDev device (describeIr length prescan)

/-- The loop at a device of which some bits, one or none, have been read. -/
private def startIr (prescan device read : Nat) (probe : Probe σ) : IrScan :=
  ⟨prescan, device, BitVec.ofNat 8 read, jtagDeviceGetQuirks (probe.jtagDevs device).jdIdcode⟩

/-- The counter of bits does not overflow. -/
theorem irLen_facts : ∀ read ≤ 16,
    (BitVec.ofNat 8 read).toNat = read ∧ BitVec.ofNat 8 read + 1#8 = BitVec.ofNat 8 (read + 1) ∧
      (BitVec.ofNat 8 (read + 1) > 1#8 ↔ 0 < read) ∧ (BitVec.ofNat 8 (read + 1) = 2#8 ↔ read = 1) ∧
      (BitVec.ofNat 8 (read + 1) = 6#8 ↔ read = 5) ∧ BitVec.ofNat 8 (read + 1) ≠ 0#8 ∧
      BitVec.ofNat 8 (read + 1) - 1#8 = BitVec.ofNat 8 read ∧ (1#16).getLsbD read = decide (read = 0) := by
  decide

/-- One bit of a register that is not in the table. -/
private theorem scanIrs_usual {read : Nat} (fits : read ≤ 16) :
    scanIrs (more + 1) ⟨prescan, device, BitVec.ofNat 8 read, ⟨0#16, 0#8⟩⟩ probe
      = let next : Probe σ := { probe with chain := (jtagtapNext false true probe.chain).2 }
        if (jtagtapNext false true probe.chain).1 = true ∧ 0 < read then
          if read = 1 then some (true, next)
          else
            let described := next.setDev device (describeIr read prescan)
            scanIrs more (startIr (prescan + read) (device + 1) 1 described) described
        else scanIrs more ⟨prescan, device, BitVec.ofNat 8 (read + 1), ⟨0#16, 0#8⟩⟩ next := by
  obtain ⟨size, succ, edge, two, _, nonzero, back, _⟩ := irLen_facts read fits
  have described : describeIr read prescan = fun dev =>
      { dev with irLen := BitVec.ofNat 8 read, irPrescan := BitVec.ofNat 8 prescan, currentIr := 0xffffffff#32 } := rfl
  rw [scanIrs, described]
  simp only [size, jtagMaxIrLen, fits, if_true, ne_eq, not_true_eq_false, false_and, true_and, if_false, succ, edge,
    two, nonzero, or_false, back, startIr]

/-- One bit of a register of six bits that is in the table. -/
private theorem scanIrs_six {read : Nat} (fits : read ≤ 16) :
    scanIrs (more + 1) ⟨prescan, device, BitVec.ofNat 8 read, ⟨1#16, 6#8⟩⟩ probe
      = let next : Probe σ := { probe with chain := (jtagtapNext false true probe.chain).2 }
        if decide (read = 0) ≠ (jtagtapNext false true probe.chain).1 then some next.failed
        else if read = 5 then
          let described := next.setDev device (describeIr 6 prescan)
          scanIrs more (startIr (prescan + 6) (device + 1) 0 described) described
        else scanIrs more ⟨prescan, device, BitVec.ofNat 8 (read + 1), ⟨1#16, 6#8⟩⟩ next := by
  obtain ⟨size, succ, _, _, six, _, _, expected⟩ := irLen_facts read fits
  have some : ¬ (6#8 = 0#8) := by decide
  rw [scanIrs]
  simp only [size, jtagMaxIrLen, fits, if_true, succ, expected, ne_eq, some, not_false_eq_true, true_and, false_and,
    false_or, six, if_false]
  by_cases last : read = 5
  · subst last
    rfl
  · simp only [last, if_false]

variable {total : Nat} {devices : List (Device σ)} {after : List Bool}

/-- The rest of a register that is not in the table, up to the first bit of the next one. -/
private theorem scanIrs_usual_rest (zeros read : Nat) (probe : Probe σ) (started : 1 ≤ read) (long : 2 ≤ read + zeros)
    (fits : read + zeros ≤ 16) (ahead : Ahead (List.replicate zeros false ++ after) total devices probe.chain)
    (edge : after.headD true = true) :
    ∃ chain, Ahead after.tail total devices chain ∧
      ∀ more, scanIrs (zeros + 1 + more) ⟨prescan, device, BitVec.ofNat 8 read, ⟨0#16, 0#8⟩⟩ probe
        = scanIrs more (startIr (prescan + (read + zeros)) (device + 1) 1 (afterDevice probe chain device (read + zeros) prescan))
          (afterDevice probe chain device (read + zeros) prescan) := by
  induction zeros generalizing read probe with
  | zero =>
    obtain ⟨bit, next⟩ := next_ahead ahead
    refine ⟨_, next, ?_⟩
    have last : (jtagtapNext false true probe.chain).1 = true ∧ 0 < read := ⟨bit.trans edge, started⟩
    intro more
    rw [show 0 + 1 + more = more + 1 by omega, scanIrs_usual (by omega), Nat.add_zero]
    simp only [last, and_self, if_true, show read ≠ 1 by omega, if_false]
    rfl
  | succ zeros ih =>
    obtain ⟨bit, next⟩ := next_ahead ahead
    have inner : ¬ ((jtagtapNext false true probe.chain).1 = true ∧ 0 < read) := by
      rw [bit]
      simp [List.replicate_succ]
    obtain ⟨chain, there, scanned⟩ := ih (read + 1) { probe with chain := (jtagtapNext false true probe.chain).2 }
      (by omega) (by omega) (by omega) next
    refine ⟨chain, there, ?_⟩
    intro more
    rw [show zeros + 1 + 1 + more = zeros + 1 + more + 1 by omega, scanIrs_usual (by omega)]
    simp only [inner, if_false]
    rw [scanned, show read + 1 + zeros = read + (zeros + 1) by omega]
    rfl

/-- The rest of a register of six bits that is in the table. -/
private theorem scanIrs_six_rest (zeros read : Nat) (probe : Probe σ) (started : 1 ≤ read) (six : read + zeros = 5)
    (ahead : Ahead (List.replicate (zeros + 1) false ++ after) total devices probe.chain) :
    ∃ chain, Ahead after total devices chain ∧
      ∀ more, scanIrs (zeros + 1 + more) ⟨prescan, device, BitVec.ofNat 8 read, ⟨1#16, 6#8⟩⟩ probe
        = scanIrs more (startIr (prescan + 6) (device + 1) 0 (afterDevice probe chain device 6 prescan))
          (afterDevice probe chain device 6 prescan) := by
  induction zeros generalizing read probe with
  | zero =>
    obtain ⟨bit, next⟩ := next_ahead ahead
    refine ⟨_, next, ?_⟩
    obtain rfl : read = 5 := six
    have expected : ¬ decide (5 = 0) ≠ (jtagtapNext false true probe.chain).1 := by
      rw [bit]
      simp
    intro more
    rw [show 0 + 1 + more = more + 1 by omega, scanIrs_six (by omega)]
    simp only [expected, if_false, if_true]
    rfl
  | succ zeros ih =>
    obtain ⟨bit, next⟩ := next_ahead ahead
    have expected : ¬ decide (read = 0) ≠ (jtagtapNext false true probe.chain).1 := by
      rw [bit]
      simp [List.replicate_succ]
      omega
    obtain ⟨chain, there, scanned⟩ := ih (read + 1) { probe with chain := (jtagtapNext false true probe.chain).2 }
      (by omega) (by omega) next
    refine ⟨chain, there, ?_⟩
    intro more
    rw [show zeros + 1 + 1 + more = zeros + 1 + more + 1 by omega, scanIrs_six (by omega)]
    simp only [expected, if_false, show read ≠ 5 by omega]
    rw [scanned]
    rfl

/-- The first bit of a register. -/
private theorem scanIrs_first {quirks : IrQuirks} (known : quirks = ⟨0#16, 0#8⟩ ∨ quirks = ⟨1#16, 6#8⟩)
    (one : (jtagtapNext false true probe.chain).1 = true) :
    scanIrs (more + 1) ⟨prescan, device, BitVec.ofNat 8 0, quirks⟩ probe
      = scanIrs more ⟨prescan, device, BitVec.ofNat 8 1, quirks⟩
        { probe with chain := (jtagtapNext false true probe.chain).2 } := by
  obtain rfl | rfl := known
  · rw [scanIrs_usual (by omega)]
    simp
  · rw [scanIrs_six (by omega)]
    simp [one]

private theorem scanIrs_device_rest (prescan : Nat) (probe : Probe σ) {part : ChainPart σ} (regular : Regular part)
    (known : (probe.jtagDevs device).jdIdcode = part.idcode)
    (ahead : Ahead ((part.irCapture ++ after).drop 1) total devices probe.chain) (edge : after.headD true = true) :
    ∃ read chain, read ≤ 1 ∧ Ahead (after.drop read) total devices chain ∧
      ∀ more, scanIrs (part.irLength - 1 + read + more) (startIr prescan device 1 probe) probe
        = scanIrs more (startIr (prescan + part.irLength) (device + 1) read (afterDevice probe chain device part.irLength prescan))
          (afterDevice probe chain device part.irLength prescan) := by
  obtain ⟨low, high, captured, usual | ⟨special, six⟩⟩ := regular.shape
  · rw [captured, List.cons_append, List.drop_succ_cons, List.drop_zero] at ahead
    obtain ⟨chain, there, scanned⟩ := scanIrs_usual_rest (part.irLength - 1) 1 probe (Nat.le_refl 1) (by omega)
      (by omega) ahead edge
    refine ⟨1, chain, Nat.le_refl 1, by rwa [List.drop_one], ?_⟩
    rw [startIr, known, usual]
    simp only [show 1 + (part.irLength - 1) = part.irLength by omega] at scanned
    exact scanned
  · rw [captured, six, List.cons_append, List.drop_succ_cons, List.drop_zero] at ahead
    obtain ⟨chain, there, scanned⟩ := scanIrs_six_rest 4 1 probe (Nat.le_refl 1) rfl ahead
    refine ⟨0, chain, Nat.zero_le 1, there, ?_⟩
    rw [startIr, known, special, six]
    exact scanned

/-- One device: its length is found, and the loop goes on at the next one. -/
private theorem scanIrs_device (prescan : Nat) (probe : Probe σ) {part : ChainPart σ} (regular : Regular part) {read : Nat} (past : read ≤ 1)
    (known : (probe.jtagDevs device).jdIdcode = part.idcode)
    (ahead : Ahead ((part.irCapture ++ after).drop read) total devices probe.chain) (edge : after.headD true = true) :
    ∃ next chain, next ≤ 1 ∧ Ahead (after.drop next) total devices chain ∧
      ∀ more, scanIrs (part.irLength - read + next + more) (startIr prescan device read probe) probe
        = scanIrs more (startIr (prescan + part.irLength) (device + 1) next (afterDevice probe chain device part.irLength prescan))
          (afterDevice probe chain device part.irLength prescan) := by
  obtain rfl | rfl : read = 0 ∨ read = 1 := by omega
  · obtain ⟨low, _, captured, _⟩ := regular.shape
    obtain ⟨bit, tail⟩ := next_ahead ahead
    have one : (jtagtapNext false true probe.chain).1 = true := by
      rw [bit, captured]
      rfl
    have rest : Ahead ((part.irCapture ++ after).drop 1) total devices (jtagtapNext false true probe.chain).2 := by
      rw [List.drop_one]
      exact tail
    obtain ⟨next, chain, once, there, scanned⟩ := scanIrs_device_rest prescan
      { probe with chain := (jtagtapNext false true probe.chain).2 } regular known rest edge
    refine ⟨next, chain, once, there, fun more => Eq.trans ?_ (scanned more)⟩
    rw [show part.irLength - 0 + next + more = part.irLength - 1 + next + more + 1 by omega]
    exact scanIrs_first (quirks_cases _) one
  · exact scanIrs_device_rest prescan probe regular known ahead edge

/-- How the scan ends that has come to a device: if the memory behind the last one does not look like
a device of the table it succeeds, and then everything is written down. -/
private def Scans (total : Nat) (devices : List (Device σ)) (f : Nat → JtagDev → JtagDev) (first last : Nat)
    (probe : Probe σ) (result : Option (Bool × Probe σ)) : Prop :=
  ∃ found final, result = some (found, final) ∧
    (jtagDeviceGetQuirks (probe.jtagDevs last).jdIdcode = ⟨0#16, 0#8⟩ → found = true) ∧
    (found = true → Ahead [] total devices final.chain ∧ final.jtagDevCount = probe.jtagDevCount ∧
      Filled f first last probe.jtagDevs final.jtagDevs)

variable {f : Nat → JtagDev → JtagDev}

private theorem scanIrs_second (more : Nat) (probe : Probe σ) (ahead : Ahead [] total devices probe.chain) :
    Scans total devices f device device probe (scanIrs (more + 1) (startIr prescan device 1 probe) probe) := by
  obtain ⟨bit, next⟩ := next_ahead ahead
  have one : (jtagtapNext false true probe.chain).1 = true := bit
  obtain usual | special := quirks_cases (probe.jtagDevs device).jdIdcode
  · refine ⟨true, { probe with chain := (jtagtapNext false true probe.chain).2 }, ?_, fun _ => rfl,
      fun _ => ⟨next, rfl, filled_none _⟩⟩
    rw [startIr, usual, scanIrs_usual (by omega)]
    simp [one]
  · refine ⟨false, { probe with chain := (jtagtapNext false true probe.chain).2, jtagDevCount := 0 }, ?_, ?_, ?_⟩
    · rw [startIr, special, scanIrs_six (by omega)]
      simp [one, Probe.failed]
    · rw [special]
      exact fun never => by cases never
    · exact fun never => by cases never

/-- Past the last device only ones come out, and two of them end the scan. -/
private theorem scanIrs_end (fuel : Nat) (probe : Probe σ) {read : Nat} (past : read ≤ 1) (enough : 2 ≤ fuel + read)
    (ahead : Ahead [] total devices probe.chain) :
    Scans total devices f device device probe (scanIrs fuel (startIr prescan device read probe) probe) := by
  obtain rfl | rfl : read = 0 ∨ read = 1 := by omega
  · obtain ⟨more, rfl⟩ : ∃ more, fuel = more + 1 + 1 := ⟨fuel - 2, by omega⟩
    obtain ⟨bit, next⟩ := next_ahead ahead
    have first : scanIrs (more + 1 + 1) (startIr prescan device 0 probe) probe = _ := scanIrs_first (quirks_cases _) bit
    rw [first]
    exact scanIrs_second more { probe with chain := (jtagtapNext false true probe.chain).2 } next
  · obtain ⟨more, rfl⟩ : ∃ more, fuel = more + 1 := ⟨fuel - 1, by omega⟩
    exact scanIrs_second more probe ahead

/-- What the scan writes down for each device of the chain. -/
private def describe (parts : List (ChainPart σ)) (i : Nat) : JtagDev → JtagDev :=
  describeIr (((parts[i]?).map ChainPart.irLength).getD 0) (irBits (parts.take i))

private theorem irCaptures_head {parts : List (ChainPart σ)} (regular : ∀ part ∈ parts, Regular part) :
    (parts.flatMap ChainPart.irCapture).headD true = true := by
  cases parts with
  | nil => rfl
  | cons part rest =>
    obtain ⟨_, _, captured, _⟩ := (regular part List.mem_cons_self).shape
    rw [List.flatMap_cons, captured]
    rfl

theorem irBits_succ {parts : List (ChainPart σ)} {device : Nat} (inside : device < parts.length) :
    irBits (parts.take (device + 1)) = irBits (parts.take device) + parts[device].irLength ∧
      irBits (parts.drop device) = parts[device].irLength + irBits (parts.drop (device + 1)) := by
  constructor
  · rw [List.take_succ_eq_append_getElem inside, irBits, List.map_append, List.sum_append]
    rfl
  · rw [List.drop_eq_getElem_cons inside, irBits, List.map_cons, List.sum_cons]
    rfl

private theorem scanIrs_chain {parts : List (ChainPart σ)} (regular : ∀ part ∈ parts, Regular part)
    (left device read fuel : Nat) (probe : Probe σ) (place : device + left = parts.length) (past : read ≤ 1)
    (enough : irBits (parts.drop device) + 2 ≤ fuel + read)
    (known : ∀ i part, parts[i]? = some part → (probe.jtagDevs i).jdIdcode = part.idcode)
    (ahead : Ahead (((parts.drop device).flatMap ChainPart.irCapture).drop read) total devices probe.chain) :
    Scans total devices (describe parts) device parts.length probe
      (scanIrs fuel (startIr (irBits (parts.take device)) device read probe) probe) := by
  induction left generalizing device read fuel probe with
  | zero =>
    obtain rfl : device = parts.length := by omega
    rw [List.drop_length] at ahead enough
    apply scanIrs_end fuel probe past
    · exact enough
    · simpa using ahead
  | succ left ih =>
    have inside : device < parts.length := by omega
    have listed : parts[device]? = some parts[device] := List.getElem?_eq_getElem inside
    have later : ∀ part ∈ parts.drop (device + 1), Regular part := fun part behind => regular part (List.mem_of_mem_drop behind)
    obtain ⟨taken, dropped⟩ := irBits_succ inside
    rw [List.drop_eq_getElem_cons inside, List.flatMap_cons] at ahead
    obtain ⟨next, chain, once, there, scanned⟩ := scanIrs_device
      (irBits (parts.take device)) probe (regular _ (List.getElem_mem inside)) past (known device _ listed) ahead
      (irCaptures_head later)
    have described : describe parts device = describeIr parts[device].irLength (irBits (parts.take device)) := by
      rw [describe, listed]
      rfl
    have low : 2 ≤ parts[device].irLength := (regular _ (List.getElem_mem inside)).shape.1
    obtain ⟨more, rfl⟩ : ∃ more, fuel = parts[device].irLength - read + next + more :=
      ⟨fuel - (parts[device].irLength - read + next), by omega⟩
    let following : Probe σ := { probe with chain := chain }.setDev device (describe parts device)
    have elsewhere : ∀ i, (following.jtagDevs i).jdIdcode = (probe.jtagDevs i).jdIdcode :=
      fun i => setDev_field JtagDev.jdIdcode (describe parts device) { probe with chain := chain } device i fun _ => rfl
    obtain ⟨found, final, ended, usual, filled⟩ := ih (device + 1) next more following (by omega) once (by omega)
      (fun i part at_ => (elsewhere i).trans (known i part at_)) there
    refine ⟨found, final, ?_, fun behind => usual ?_, fun success => ?_⟩
    · rw [scanned, ← ended, taken]
      simp only [following, described]
      rfl
    · rw [elsewhere]
      exact behind
    · obtain ⟨there, count, rest⟩ := filled success
      exact ⟨there, count, Filled.step inside rest⟩

private theorem jtagReadIrs_spec {fuel : Nat} {bits : List Bool} (regular : ∀ part ∈ devices.map Device.part, Regular part)
    (idle : probe.chain = ⟨.runTestIdle, devices, bits⟩) (enough : irBits (devices.map Device.part) + 2 ≤ fuel)
    (known : ∀ i part, (devices.map Device.part)[i]? = some part → (probe.jtagDevs i).jdIdcode = part.idcode) :
    Scans (irBits (devices.map Device.part)) devices (describe (devices.map Device.part)) 0 devices.length probe
      (jtagReadIrs fuel probe) := by
  have started : jtagtapShiftIr probe.chain
      = ⟨.shiftIr, devices, (devices.map Device.part).flatMap ChainPart.irCapture⟩ := by
    rw [idle, shiftIr_idle, List.flatMap_map]
  have length : ((devices.map Device.part).flatMap ChainPart.irCapture).length = irBits (devices.map Device.part) := by
    rw [List.length_flatMap]
    rfl
  have ahead : Ahead (((devices.map Device.part).drop 0 |>.flatMap ChainPart.irCapture).drop 0)
      (irBits (devices.map Device.part)) devices (probe.pins jtagtapShiftIr).chain := by
    refine ⟨congrArg Chain.tap started, congrArg Chain.devices started, 0, ?_, by simpa using length⟩
    rw [List.drop_zero, List.drop_zero, List.replicate_zero, List.append_nil]
    exact congrArg Chain.bits started
  have scanned := scanIrs_chain regular devices.length 0 0 fuel (probe.pins jtagtapShiftIr) (by simp) (Nat.zero_le 1)
    (by simpa using enough) known ahead
  rw [List.length_map] at scanned
  exact scanned

end Registers

section Places

/-- What the sanity check writes down. -/
private def placed (count i : Nat) (dev : JtagDev) : JtagDev :=
  { dev with drPrescan := BitVec.ofNat 8 i, drPostscan := BitVec.ofNat 8 count - BitVec.ofNat 8 i - 1#8 }

private theorem next_dr {chain : Chain σ} (shifting : chain.tap = .shiftDr) :
    jtagtapNext false true chain = (chain.bits.headD true, { chain with bits := (chain.bits ++ [true]).tail }) := by
  apply Chain.clock_shift
  rw [shifting]
  rfl

private theorem countBypassed_spec (left device ones : Nat) (probe : Probe σ)
    (place : device + left = probe.jtagDevCount) (shifting : probe.chain.tap = .shiftDr)
    (ahead : probe.chain.bits = List.replicate left false ++ List.replicate ones true) :
    ∃ after, countBypassed (left + 1) device probe = (probe.jtagDevCount, after) ∧ after.chain.tap = .shiftDr ∧
      after.chain.devices = probe.chain.devices ∧ after.jtagDevCount = probe.jtagDevCount ∧
      Filled (placed probe.jtagDevCount) device probe.jtagDevCount probe.jtagDevs after.jtagDevs := by
  induction left generalizing device ones probe with
  | zero =>
    have bit : (jtagtapNext false true probe.chain).1 = true := by
      rw [next_dr shifting, ahead]
      cases ones <;> rfl
    obtain rfl : device = probe.jtagDevCount := place
    refine ⟨{ probe with chain := (jtagtapNext false true probe.chain).2 }, ?_, ?_, ?_, rfl, filled_none _⟩
    · rw [countBypassed, bit, if_pos rfl]
    · rw [next_dr shifting]
      exact shifting
    · rw [next_dr shifting]
  | succ left ih =>
    have bit : (jtagtapNext false true probe.chain).1 = false := by
      rw [next_dr shifting, ahead]
      rfl
    have chain : (jtagtapNext false true probe.chain).2
        = { probe.chain with bits := List.replicate left false ++ List.replicate (ones + 1) true } := by
      rw [next_dr shifting, ahead, List.replicate_succ, List.append_assoc, ← List.replicate_succ']
      rfl
    let next : Probe σ :=
      { probe with chain := { probe.chain with bits := List.replicate left false ++ List.replicate (ones + 1) true } }
    obtain ⟨after, counted, tap, same, count, filled⟩ := ih (device + 1) (ones + 1)
      (next.setDev device (placed probe.jtagDevCount device)) (by simp only [Probe.setDev, next]; omega) shifting rfl
    refine ⟨after, ?_, tap, same, count, Filled.step (by omega) filled⟩
    rw [countBypassed, bit, chain]
    exact counted

/-- The instruction of a device in bypass. -/
def InBypass (device : Device σ) : Prop := device.ir = some (List.replicate device.part.irLength true)

theorem InBypass.selected {device : Device σ} (bypass : InBypass device) : device.selected = [false] := by
  rw [InBypass] at bypass
  simp [Device.selected, bypass, bypassed]

theorem InBypass.latchDr {device : Device σ} (bypass : InBypass device) (bits : List Bool) :
    device.latchDr bits = device := by
  rw [InBypass] at bypass
  simp [Device.latchDr, bypass, bypassed]

theorem selected_bypass {devices : List (Device σ)} (bypass : ∀ device ∈ devices, InBypass device) :
    devices.flatMap Device.selected = List.replicate devices.length false := by
  induction devices with
  | nil => rfl
  | cons device rest ih =>
    have rest := ih fun other listed => bypass other (List.mem_cons_of_mem device listed)
    rw [List.flatMap_cons, (bypass device List.mem_cons_self).selected, rest]
    rfl

private theorem jtagSanityCheck_spec {probe : Probe σ} {devices : List (Device σ)} {bits : List Bool}
    (idle : probe.chain = ⟨.runTestIdle, devices, bits⟩) (bypass : ∀ device ∈ devices, InBypass device)
    (count : probe.jtagDevCount = devices.length) :
    ∃ after last, jtagSanityCheck probe = (decide (devices.length ≠ 0), after) ∧
      after.chain = ⟨.runTestIdle, devices, last⟩ ∧ after.jtagDevCount = devices.length ∧
      Filled (placed devices.length) 0 devices.length probe.jtagDevs after.jtagDevs := by
  have started : jtagtapShiftDr probe.chain = ⟨.shiftDr, devices, List.replicate devices.length false⟩ := by
    rw [idle, shiftDr_idle, selected_bypass bypass]
  obtain ⟨after, counted, tap, same, still, filled⟩ := countBypassed_spec devices.length 0 0
    (probe.pins jtagtapShiftDr) (by simp [Probe.pins, count]) (congrArg Chain.tap started)
    (by simpa [Probe.pins] using congrArg Chain.bits started)
  have there : after.chain.devices = devices := same.trans (congrArg Chain.devices started)
  have kept : ∀ device ∈ after.chain.devices, ∀ bits, device.latchDr bits = device := by
    rw [there]
    exact fun device listed => (bypass device listed).latchDr
  have total : (probe.pins jtagtapShiftDr).jtagDevCount = devices.length := count
  obtain ⟨last, left⟩ := leave_dr tap kept
  rw [there] at left
  rw [total] at still filled counted
  refine ⟨(after.pins fun chain => (jtagtapNext true true chain).2).pins (jtagtapReturnIdle 1), last, ?_, left, still,
    filled⟩
  rw [jtagSanityCheck]
  simp only [total, counted, still]
  simp [Probe.pins, still]

/-- What the last loop writes down, from the back. -/
private def behind (parts : List (ChainPart σ)) (i : Nat) (dev : JtagDev) : JtagDev :=
  { dev with irPostscan := BitVec.ofNat 8 (irBits (parts.drop (i + 1))) }

private theorem fillPostscan_spec (parts : List (ChainPart σ)) (idx : Nat) (probe : Probe σ) (inside : idx ≤ parts.length)
    (lengths : ∀ i part, parts[i]? = some part → (probe.jtagDevs i).irLen = BitVec.ofNat 8 part.irLength) :
    let after := fillPostscan idx (BitVec.ofNat 8 (irBits (parts.drop idx))) probe
    after.chain = probe.chain ∧ after.jtagDevCount = probe.jtagDevCount ∧
      Filled (behind parts) 0 idx probe.jtagDevs after.jtagDevs := by
  induction idx generalizing probe with
  | zero => exact ⟨rfl, rfl, filled_none _⟩
  | succ idx ih =>
    obtain ⟨_, dropped⟩ := irBits_succ inside
    have listed : parts[idx]? = some parts[idx] := List.getElem?_eq_getElem inside
    have length := lengths idx _ listed
    have more : BitVec.ofNat 8 (irBits (parts.drop (idx + 1))) + (probe.jtagDevs idx).irLen
        = BitVec.ofNat 8 (irBits (parts.drop idx)) := by
      rw [length, dropped, BitVec.ofNat_add]
      exact BitVec.add_comm _ _
    have elsewhere : ∀ i part, parts[i]? = some part →
        ((probe.setDev idx (behind parts idx)).jtagDevs i).irLen = BitVec.ofNat 8 part.irLength :=
      fun i part found => (setDev_field JtagDev.irLen (behind parts idx) probe idx i fun _ => rfl).trans (lengths i part found)
    obtain ⟨chain, count, filled⟩ := ih (probe.setDev idx (behind parts idx)) (by omega) elsewhere
    rw [fillPostscan, more]
    exact ⟨chain, count, filled.back⟩

end Places

/-- A probe that has scanned the parts: the chain idle and in bypass, and in the table what there is to
know of each part, as far as the fields hold it. -/
structure Scanned (parts : List (ChainPart σ)) (probe : Probe σ) : Prop where
  idle : probe.chain.tap = .runTestIdle
  same : probe.chain.parts = parts
  bypass : ∀ device ∈ probe.chain.devices, InBypass device
  count : probe.jtagDevCount = parts.length
  devs : ∀ i part, parts[i]? = some part → probe.jtagDevs i =
    { jdIdcode := part.idcode, currentIr := 0xffffffff#32, drPrescan := BitVec.ofNat 8 i
      drPostscan := BitVec.ofNat 8 parts.length - BitVec.ofNat 8 i - 1#8, irLen := BitVec.ofNat 8 part.irLength
      irPrescan := BitVec.ofNat 8 (irBits (parts.take i)), irPostscan := BitVec.ofNat 8 (irBits (parts.drop (i + 1))) }

private theorem leave_ir_ones {chain : Chain σ} {devices : List (Device σ)} {total : Nat}
    (ahead : Ahead [] total devices chain) (enough : (devices.map fun device => device.part.irLength).sum ≤ total) :
    ∃ bits, jtagtapReturnIdle 1 (jtagtapNext true true chain).2
      = ⟨.runTestIdle, devices.map fun device => device.latchIr (List.replicate device.part.irLength true), bits⟩ := by
  obtain ⟨tap, there, bits⟩ := chain
  obtain ⟨shifting, same, ones, shown, length⟩ := ahead
  cases shifting
  cases same
  have all : (bits ++ [true]).tail = List.replicate total true := by
    obtain rfl : ones = total := by simpa using length
    rw [show bits = _ from shown, List.nil_append, ← List.replicate_succ', List.replicate_succ, List.tail_cons]
  have left := leave_ir there bits
  rw [all, deal_replicate _ _ _ _ enough] at left
  exact ⟨_, left⟩

private theorem cleared_parts (probe : Probe σ) :
    (({ probe with jtagDevCount := 0, jtagDevs := clearedDevs probe } : Probe σ).pins jtagtapInit).chain.parts
      = probe.chain.parts := by
  rw [Probe.pins, jtagtapInit, jtagtapTmsSeq, Chain.drive_parts, Chain.drive_parts]

/-- What is left to do when the instruction registers are known. -/
private theorem describe_rest {probe : Probe σ} {devices : List (Device σ)} {devs : Nat → JtagDev}
    (ahead : Ahead [] (irBits (devices.map Device.part)) devices probe.chain) (count : probe.jtagDevCount = devices.length)
    (filled : Filled (describe (devices.map Device.part)) 0 devices.length devs probe.jtagDevs)
    (known : ∀ i part, (devices.map Device.part)[i]? = some part → (devs i).jdIdcode = part.idcode) :
    let left := (probe.pins fun chain => (jtagtapNext true true chain).2).pins (jtagtapReturnIdle 1)
    ∃ after, jtagSanityCheck left = (decide (devices.length ≠ 0), after) ∧
      Scanned (devices.map Device.part) (fillPostscan after.jtagDevCount 0#8 after) := by
  intro left
  have lengths : (devices.map fun device => device.part.irLength).sum = irBits (devices.map Device.part) := by
    rw [irBits, List.map_map]
    rfl
  obtain ⟨bits, idle⟩ := leave_ir_ones ahead lengths.le
  have bypass : ∀ device ∈ devices.map fun device => device.latchIr (List.replicate device.part.irLength true),
      InBypass device := by
    intro device listed
    obtain ⟨original, _, rfl⟩ := List.mem_map.mp listed
    rfl
  have parts : (devices.map fun device => device.latchIr (List.replicate device.part.irLength true)).map Device.part
      = devices.map Device.part := by
    rw [List.map_map]
    rfl
  obtain ⟨after, last, checked, chain, number, places⟩ := jtagSanityCheck_spec (show left.chain = _ from idle) bypass
    (by rw [List.length_map]; exact count)
  rw [List.length_map] at checked number places
  refine ⟨after, checked, ?_⟩
  have scanned : ∀ i part, (devices.map Device.part)[i]? = some part → after.jtagDevs i =
      placed devices.length i (describeIr part.irLength (irBits ((devices.map Device.part).take i)) (devs i)) := by
    intro i part found
    have inside : i < devices.length := by simpa using (List.getElem?_eq_some_iff.mp found).1
    rw [places.at (Nat.zero_le i) inside]
    show placed devices.length i (probe.jtagDevs i) = _
    rw [filled.at (Nat.zero_le i) inside, describe, found]
    rfl
  obtain ⟨same, still, backs⟩ := fillPostscan_spec (devices.map Device.part) devices.length after (by simp)
    fun i part found => by rw [scanned i part found]; rfl
  rw [show (devices.map Device.part).drop devices.length = [] by simp] at same still backs
  rw [number]
  refine ⟨?_, ?_, ?_, ?_, ?_⟩
  · rw [show (fillPostscan devices.length 0#8 after).chain = _ from same, chain]
  · rw [show (fillPostscan devices.length 0#8 after).chain = _ from same, chain]
    exact parts
  · rw [show (fillPostscan devices.length 0#8 after).chain = _ from same, chain]
    exact bypass
  · rw [show (fillPostscan devices.length 0#8 after).jtagDevCount = _ from still, number, List.length_map]
  · intro i part found
    have inside : i < devices.length := by simpa using (List.getElem?_eq_some_iff.mp found).1
    rw [show (fillPostscan devices.length 0#8 after).jtagDevs i = _ from backs.at (Nat.zero_le i) inside,
      scanned i part found, List.length_map, ← known i part found]
    rfl

/-- A chain of regular parts is scanned to its end. The scan succeeds if there is a part, and no memory past a
full table that looks like a device of the table. -/
theorem describeChain_spec (probe : Probe σ) (regular : ∀ part ∈ probe.chain.parts, Regular part)
    (fits : probe.chain.parts.length ≤ jtagMaxDevs) {fuel : Nat} (enough : irBits probe.chain.parts + 2 ≤ fuel) :
    ∃ found final, describeChain fuel probe = some (found, final) ∧
      (found = true → Scanned probe.chain.parts final) ∧
      (probe.chain.parts ≠ [] → jtagDeviceGetQuirks (clearedDevs probe probe.chain.parts.length).jdIdcode = ⟨0#16, 0#8⟩ →
        found = true) := by
  have same := cleared_parts probe
  have devs : (({ probe with jtagDevCount := 0, jtagDevs := clearedDevs probe } : Probe σ).pins jtagtapInit).jtagDevs
    = clearedDevs probe := rfl
  rw [describeChain]
  generalize ({ probe with jtagDevCount := 0, jtagDevs := clearedDevs probe } : Probe σ).pins jtagtapInit = cleared
    at same devs
  obtain ⟨after, devices, bits, read, idle, parts, count, identified⟩ :=
    jtagReadIdcodes_spec cleared (by rwa [same]) (by rwa [same])
  rw [same] at parts
  rw [← parts] at regular enough
  have known : ∀ i part, (devices.map Device.part)[i]? = some part → (after.jtagDevs i).jdIdcode = part.idcode := by
    intro i part found
    obtain ⟨device, at_, rfl⟩ : ∃ device, devices[i]? = some device ∧ device.part = part := by
      simpa using found
    have inside : i < devices.length := (List.getElem?_eq_some_iff.mp at_).1
    rw [identified.at (Nat.zero_le i) inside, identify, at_]
    rfl
  obtain ⟨found, scanned, result, usual, filled⟩ := jtagReadIrs_spec regular idle enough known
  rw [identified.past (Nat.le_refl _), devs] at usual
  simp only [read, result, ← parts, List.length_map]
  cases found with
  | false =>
    exact ⟨false, scanned, rfl, (fun never => by cases never), fun _ quirks => usual quirks⟩
  | true =>
    obtain ⟨ahead, still, written⟩ := filled rfl
    obtain ⟨last, checked, done⟩ := describe_rest ahead (still.trans count) written known
    simp only [checked]
    by_cases empty : devices = []
    · subst empty
      exact ⟨false, last, rfl, (fun never => by cases never), fun some _ => absurd rfl some⟩
    · have some : decide (devices.length ≠ 0) = true := by simpa using empty
      rw [some]
      exact ⟨true, _, rfl, fun _ => done, fun _ _ => rfl⟩

section Handlers

/-- Accesses change nothing in the table but the cached instructions. -/
structure SameTable (before after : Probe σ) : Prop where
  count : after.jtagDevCount = before.jtagDevCount
  devs : ∀ i, { after.jtagDevs i with currentIr := 0#32 } = { before.jtagDevs i with currentIr := 0#32 }

theorem SameTable.refl (probe : Probe σ) : SameTable probe probe := ⟨rfl, fun _ => rfl⟩

theorem SameTable.trans {first second third : Probe σ} (one : SameTable first second) (two : SameTable second third) :
    SameTable first third :=
  ⟨two.count.trans one.count, fun i => (two.devs i).trans (one.devs i)⟩

theorem writeIr_table (devIndex : Nat) (ir : BitVec 32) (probe : Probe σ) :
    SameTable probe (jtagDevWriteIr devIndex ir probe) := by
  unfold jtagDevWriteIr
  split
  · exact SameTable.refl probe
  · constructor
    · rfl
    · intro i
      simp only [Probe.pins, Probe.setDev, bypassOthers]
      split
      next here =>
        subst here
        split <;> rfl
      next => split <;> rfl

theorem shiftDr_table (devIndex : Nat) (dataOut : Option Buffer) (dataIn : Buffer) (clockCycles : Nat) (probe : Probe σ) :
    SameTable probe (jtagDevShiftDr devIndex dataOut dataIn clockCycles probe).2 := by
  cases dataOut <;> exact ⟨rfl, fun _ => rfl⟩

private theorem access_table (probe : Probe σ) (request : Access) : SameTable probe (access probe request) := by
  cases request with
  | writeIr devIndex ir => exact writeIr_table devIndex ir probe
  | shiftDr devIndex dataOut dataIn clockCycles => exact shiftDr_table devIndex dataOut dataIn clockCycles probe

private theorem accesses_table (requests : List Access) (probe : Probe σ) :
    SameTable probe (requests.foldl access probe) := by
  induction requests generalizing probe with
  | nil => exact SameTable.refl probe
  | cons request rest ih => exact (access_table probe request).trans (ih _)

private theorem callHandlers_table (handler : Nat → List Access) (more device : Nat) (probe : Probe σ) :
    SameTable probe (callHandlers handler more device probe) := by
  induction more generalizing device probe with
  | zero => exact SameTable.refl probe
  | succ more ih =>
    rw [callHandlers]
    apply SameTable.trans _ (ih _ _)
    split
    · exact accesses_table _ probe
    · exact SameTable.refl probe

end Handlers

/-- The table has every part, with its true length and with the bits and the devices before and behind it. -/
structure ExactlyDescribed (parts : List (ChainPart σ)) (probe : Probe σ) : Prop where
  count : probe.jtagDevCount = parts.length
  irLen : ∀ i part, parts[i]? = some part → (probe.jtagDevs i).irLen.toNat = part.irLength
  irPrescan : ∀ i < parts.length, (probe.jtagDevs i).irPrescan.toNat = irBits (parts.take i)
  irPostscan : ∀ i < parts.length, (probe.jtagDevs i).irPostscan.toNat = irBits (parts.drop (i + 1))
  drPrescan : ∀ i < parts.length, (probe.jtagDevs i).drPrescan.toNat = i
  drPostscan : ∀ i < parts.length, (probe.jtagDevs i).drPostscan.toNat = parts.length - 1 - i

theorem SameTable.exactly {parts : List (ChainPart σ)} {before after : Probe σ} (same : SameTable before after)
    (exactly : ExactlyDescribed parts before) : ExactlyDescribed parts after := by
  have field : ∀ {α : Type} (field : JtagDev → α), (∀ dev ir, field { dev with currentIr := ir } = field dev) →
      ∀ i, field (after.jtagDevs i) = field (before.jtagDevs i) := by
    intro α field blind i
    rw [← blind (after.jtagDevs i) 0#32, same.devs i, blind]
  constructor
  · exact same.count.trans exactly.count
  · intro i part found
    rw [field JtagDev.irLen (fun _ _ => rfl)]
    exact exactly.irLen i part found
  · intro i inside
    rw [field JtagDev.irPrescan (fun _ _ => rfl)]
    exact exactly.irPrescan i inside
  · intro i inside
    rw [field JtagDev.irPostscan (fun _ _ => rfl)]
    exact exactly.irPostscan i inside
  · intro i inside
    rw [field JtagDev.drPrescan (fun _ _ => rfl)]
    exact exactly.drPrescan i inside
  · intro i inside
    rw [field JtagDev.drPostscan (fun _ _ => rfl)]
    exact exactly.drPostscan i inside

private theorem SameTable.symm {before after : Probe σ} (same : SameTable before after) : SameTable after before :=
  ⟨same.count.symm, fun i => (same.devs i).symm⟩

section Limits

variable {parts : List (ChainPart σ)}

theorem irBits_take_le (parts : List (ChainPart σ)) {i j : Nat} (before : i ≤ j) : irBits (parts.take i) ≤ irBits (parts.take j) := by
  have split : irBits (parts.take j) = irBits (parts.take i) + irBits ((parts.take j).drop i) := by
    rw [irBits, irBits, irBits, ← List.sum_append, ← List.map_append]
    congr 2
    conv_lhs => rw [← List.take_append_drop i (parts.take j), List.take_take, Nat.min_eq_left before]
  omega

theorem irBits_drop_le (parts : List (ChainPart σ)) {i j : Nat} (before : i ≤ j) : irBits (parts.drop j) ≤ irBits (parts.drop i) := by
  have split : irBits (parts.drop i) = irBits ((parts.drop i).take (j - i)) + irBits (parts.drop j) := by
    rw [irBits, irBits, irBits, ← List.sum_append, ← List.map_append]
    congr 2
    conv_lhs => rw [← List.take_append_drop (j - i) (parts.drop i), List.drop_drop, Nat.add_sub_cancel' before]
  omega

/-- What the scan has written down is exact if the bits before the last part and those behind the first one
can be counted in a byte. -/
theorem Scanned.exactly_iff {probe : Probe σ} (scanned : Scanned parts probe) (regular : ∀ part ∈ parts, Regular part)
    (fits : parts.length ≤ jtagMaxDevs) (some : parts ≠ []) :
    ExactlyDescribed parts probe ↔ irBits parts.dropLast < 2 ^ 8 ∧ irBits parts.tail < 2 ^ 8 := by
  have positive : 0 < parts.length := List.length_pos_of_ne_nil some
  have known : ∀ i (inside : i < parts.length), _ := fun i inside =>
    scanned.devs i parts[i] (List.getElem?_eq_getElem inside)
  rw [List.dropLast_eq_take, ← List.drop_one]
  constructor
  · intro exactly
    have before := exactly.irPrescan (parts.length - 1) (by omega)
    have behind := exactly.irPostscan 0 positive
    rw [known _ (by omega)] at before behind
    constructor
    · rw [← before]
      exact BitVec.isLt _
    · rw [← behind]
      exact BitVec.isLt _
  · rintro ⟨before, behind⟩
    have bound : ∀ i < parts.length, irBits (parts.take i) < 2 ^ 8 ∧ irBits (parts.drop (i + 1)) < 2 ^ 8 := by
      intro i inside
      have one := irBits_take_le parts (show i ≤ parts.length - 1 by omega)
      have two := irBits_drop_le parts (show 1 ≤ i + 1 by omega)
      omega
    have size : parts.length ≤ 32 := fits
    constructor
    · exact scanned.count
    · intro i part found
      have short := (regular part (List.mem_of_getElem? found)).shape.2.1
      rw [scanned.devs i part found]
      exact Nat.mod_eq_of_lt (by omega)
    · intro i inside
      rw [known i inside]
      exact Nat.mod_eq_of_lt (bound i inside).1
    · intro i inside
      rw [known i inside]
      exact Nat.mod_eq_of_lt (bound i inside).2
    · intro i inside
      rw [known i inside]
      exact Nat.mod_eq_of_lt (by omega)
    · intro i inside
      rw [known i inside]
      simp [BitVec.toNat_sub]
      omega

end Limits

/-- Every regular chain is scanned to its end, whatever the handlers do, and a scan that reports success has
described it exactly if the bits before the last part and those behind the first one can be counted in a byte. -/
theorem chain_described_exactly (probe : Probe σ) (handler : Nat → List Access) (fuel : Nat)
    (regular : ∀ part ∈ probe.chain.parts, Regular part) (fits : probe.chain.parts.length ≤ jtagMaxDevs)
    (enough : irBits probe.chain.parts + 2 ≤ fuel) :
    ∃ reported final, jtagScan fuel handler probe = some (reported, final) ∧
      (reported = true → (ExactlyDescribed probe.chain.parts final ↔
        irBits probe.chain.parts.dropLast < 2 ^ 8 ∧ irBits probe.chain.parts.tail < 2 ^ 8)) := by
  obtain ⟨found, described, result, scanned, _⟩ := describeChain_spec probe regular fits enough
  rw [jtagScan, result]
  cases found with
  | false => exact ⟨false, described, rfl, fun never => by cases never⟩
  | true =>
    have called := callHandlers_table handler described.jtagDevCount 0 described
    refine ⟨_, _, rfl, fun success => ?_⟩
    have some : probe.chain.parts ≠ [] := by
      intro none
      have count := called.count.trans (scanned rfl).count
      rw [none] at count
      simp [count] at success
    rw [← (scanned rfl).exactly_iff regular fits some]
    exact ⟨called.symm.exactly, called.exactly⟩

/-- A part with an instruction register of this length and with one data bit. -/
def plainPart (idcode : BitVec 32) (length : Nat) : ChainPart Unit :=
  ⟨idcode, true :: List.replicate (length - 1) false, fun _ _ => [true], fun _ _ _ => ()⟩

/-- A probe on a chain of such parts, with nothing known yet. -/
def freshProbe (parts : List (ChainPart Unit)) : Probe Unit :=
  { chain := ⟨.testLogicReset, parts.map fun part => ⟨part, none, ()⟩, []⟩
    jtagDevs := fun _ => ⟨0#32, 0#32, 0#8, 0#8, 0#8, 0#8, 0#8⟩
    jtagDevCount := 0
    beyondOnes := fun _ => 0#8 }

/-- An ARM debug port, a part of the table and one more. -/
def mixedParts : List (ChainPart Unit) := [plainPart 0x4ba00477#32 4, plainPart 0x0362d093#32 6, plainPart 0x10000563#32 5]

private theorem mixedParts_regular : ∀ part ∈ (freshProbe mixedParts).chain.parts, Regular part := by
  intro part listed
  have known : part = plainPart 0x4ba00477#32 4 ∨ part = plainPart 0x0362d093#32 6 ∨ part = plainPart 0x10000563#32 5 := by
    simpa [freshProbe, mixedParts, Chain.parts] using listed
  obtain rfl | rfl | rfl := known
  · exact ⟨by decide, by decide, .inl ⟨4, by decide, by decide, by decide, rfl⟩⟩
  · exact ⟨by decide, by decide, .inr ⟨by decide, by decide⟩⟩
  · exact ⟨by decide, by decide, .inl ⟨5, by decide, by decide, by decide, rfl⟩⟩

theorem mixed_chain_exact :
    ∃ final, jtagScan 17 (fun _ => [.writeIr 0 0xe#32]) (freshProbe mixedParts) = some (true, final) ∧
      ExactlyDescribed mixedParts final := by
  obtain ⟨reported, final, result, exactly⟩ := chain_described_exactly (freshProbe mixedParts)
    (fun _ => [.writeIr 0 0xe#32]) 17 mixedParts_regular (by decide) (by decide)
  have success : (jtagScan 17 (fun _ => [.writeIr 0 0xe#32]) (freshProbe mixedParts)).map Prod.fst = some true := by
    decide +kernel
  rw [result] at success
  cases success
  exact ⟨final, result, (exactly rfl).mpr (by decide)⟩

/-- Eighteen parts of sixteen bits: the bits before the last one do not fit its field. -/
def longParts : List (ChainPart Unit) := List.replicate 18 (plainPart 0x10000563#32 16)

theorem long_chain_inexact :
    (∀ part ∈ (freshProbe longParts).chain.parts, Regular part) ∧ (freshProbe longParts).chain.parts.length ≤ jtagMaxDevs ∧
      ∃ final, jtagScan 290 (fun _ => []) (freshProbe longParts) = some (true, final) ∧
        ¬ ExactlyDescribed longParts final := by
  have regular : ∀ part ∈ (freshProbe longParts).chain.parts, Regular part := by
    intro part listed
    have known : part = plainPart 0x10000563#32 16 := by
      simpa [freshProbe, longParts, Chain.parts] using listed
    subst known
    exact ⟨by decide, by decide, .inl ⟨16, by decide, by decide, by decide, rfl⟩⟩
  obtain ⟨found, described, result, scanned, succeeds⟩ :=
    describeChain_spec (freshProbe longParts) regular (by decide) (show _ ≤ 290 by decide)
  obtain rfl := succeeds (by decide) (by decide)
  have called := callHandlers_table (fun _ => []) described.jtagDevCount 0 described
  refine ⟨regular, by decide, callHandlers (fun _ => []) described.jtagDevCount 0 described, ?_, ?_⟩
  · have count : (callHandlers (fun _ => []) described.jtagDevCount 0 described).jtagDevCount = 18 :=
      called.count.trans (scanned rfl).count
    rw [jtagScan, result]
    simp [count]
  · intro exactly
    have inside := ((scanned rfl).exactly_iff regular (by decide) (by decide)).mp (called.symm.exactly exactly)
    revert inside
    decide

end BlackMagic.Proofs.JtagScan

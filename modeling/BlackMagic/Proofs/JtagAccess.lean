import BlackMagic.Proofs.JtagScan

/-! The access to one device of a scanned chain: what arrives in its instruction register and in its data
register, and what the other devices see of it. -/

namespace BlackMagic.Proofs.JtagAccess
open Lib.Tap Lib.Words Jtag JtagPins JtagScan

variable {σ : Type}

/-- The bits of an instruction register of this length that holds the value. -/
def irBitsOf (ir : BitVec 32) (length : Nat) : List Bool := (List.range length).map ir.getLsbD

/-- A chain of regular parts that is described exactly and has just been scanned. -/
structure CorrectlyScanned (parts : List (ChainPart σ)) (probe : Probe σ) : Prop where
  regular : ∀ part ∈ parts, Regular part
  fits : parts.length ≤ jtagMaxDevs
  exactly : ExactlyDescribed parts probe
  idle : probe.chain.tap = .runTestIdle
  same : probe.chain.parts = parts
  bypass : ∀ device ∈ probe.chain.devices, InBypass device
  cached : ∀ i < parts.length, (probe.jtagDevs i).currentIr = 0xffffffff#32

/-- A scan that succeeds on a chain it can describe leaves it so. -/
theorem describeChain_correct {probe scanned : Probe σ} {fuel : Nat} (regular : ∀ part ∈ probe.chain.parts, Regular part)
    (fits : probe.chain.parts.length ≤ jtagMaxDevs) (enough : irBits probe.chain.parts + 2 ≤ fuel)
    (result : describeChain fuel probe = some (true, scanned)) (exactly : ExactlyDescribed probe.chain.parts scanned) :
    CorrectlyScanned probe.chain.parts scanned := by
  obtain ⟨found, final, same, known, _⟩ := describeChain_spec probe regular fits enough
  rw [result] at same
  cases same
  have state := known rfl
  refine ⟨regular, fits, exactly, state.idle, state.same, state.bypass, fun i inside => ?_⟩
  rw [state.devs i _ (List.getElem?_eq_getElem inside)]

/-- Every cached instruction is the one in the device. -/
def CachesAgree (probe : Probe σ) : Prop :=
  ∀ i device, probe.chain.devices[i]? = some device →
    device.ir = some (irBitsOf (probe.jtagDevs i).currentIr device.part.irLength)

/-- After a write of an instruction: the addressed device has it, every other one is in bypass. -/
def Written (devIndex : Nat) (ir : BitVec 32) (probe : Probe σ) : Prop :=
  (∀ device, probe.chain.devices[devIndex]? = some device → device.ir = some (irBitsOf ir device.part.irLength)) ∧
  (∀ i device, i ≠ devIndex → probe.chain.devices[i]? = some device → InBypass device) ∧
  CachesAgree probe

/-- An exchange with a data register: the bits that came out are those it held, the bits that went in are those
it has been given; nothing else changes. -/
def Exchanged (devIndex : Nat) (dataOut : Option Buffer) (dataIn : Buffer) (clockCycles : Nat) (before : Probe σ)
    (result : Option Buffer × Probe σ) : Prop :=
  ∃ device bits, before.chain.devices[devIndex]? = some device ∧ bits.length = device.selected.length ∧
    result.2.chain.devices = before.chain.devices.set devIndex (device.latchDr bits) ∧
    bits.drop (device.selected.length - clockCycles)
      = (tdiBits dataIn clockCycles).drop (clockCycles - device.selected.length) ∧
    (dataOut.isSome = true → ∃ stored, result.1 = some stored ∧
      (tdiBits stored clockCycles).take device.selected.length = device.selected.take clockCycles)

/-- What an access is to do. -/
def Performed (probe : Probe σ) : Access → Prop
  | .writeIr devIndex ir => Written devIndex ir (jtagDevWriteIr devIndex ir probe)
  | .shiftDr devIndex dataOut dataIn clockCycles =>
    Exchanged devIndex dataOut dataIn clockCycles probe (jtagDevShiftDr devIndex dataOut dataIn clockCycles probe) ∧
      CachesAgree (jtagDevShiftDr devIndex dataOut dataIn clockCycles probe).2

section Segments

/-- Three sequences in a row, of which the last one that has a bit leaves the shift state. -/
private theorem three_segments (chain : Chain σ) (shifting : chain.tap.shifting = true) (first second third : Buffer)
    (one two three : Nat) (leaves : three = 0 → 0 < two) :
    let middle := (jtagtapTdiSeq false first one chain).drive (tdiCycles (decide (three = 0)) second two)
    middle.1 = ((chain.bits ++ tdiBits first one).drop one ++ tdiBits second two).take two ∧
      jtagtapTdiSeq true third three middle.2
        = { chain with
            tap := chain.tap.next true
            bits := (chain.bits ++ (tdiBits first one ++ tdiBits second two ++ tdiBits third three)).drop (one + two + three) } := by
  have before : jtagtapTdiSeq false first one chain = { chain with bits := (chain.bits ++ tdiBits first one).drop one } := by
    rw [jtagtapTdiSeq, drive_through shifting]
  have enough : one ≤ (chain.bits ++ tdiBits first one).length := by simp
  have more : one + two ≤ (chain.bits ++ tdiBits first one ++ tdiBits second two).length := by
    simp
  have joined : ((chain.bits ++ tdiBits first one).drop one ++ tdiBits second two).drop two
      = (chain.bits ++ tdiBits first one ++ tdiBits second two).drop (one + two) := by
    rw [← List.drop_append_of_le_length enough, List.drop_drop]
  have still : ({ chain with bits := (chain.bits ++ tdiBits first one).drop one } : Chain σ).tap.shifting = true := shifting
  simp only [before]
  by_cases last : three = 0
  · subst last
    rw [decide_eq_true rfl, drive_leaving still second (leaves rfl)]
    refine ⟨rfl, ?_⟩
    simp only [jtagtapTdiSeq, show tdiCycles true third 0 = [] from rfl, Chain.drive]
    rw [joined, Nat.add_zero, show tdiBits third 0 = [] from rfl, List.append_nil, List.append_assoc]
  · have third_some : 0 < three := Nat.pos_of_ne_zero last
    have there : ({ chain with
        bits := ((chain.bits ++ tdiBits first one).drop one ++ tdiBits second two).drop two } : Chain σ).tap.shifting = true :=
      shifting
    rw [decide_eq_false last, drive_through still, jtagtapTdiSeq, drive_leaving there third third_some]
    refine ⟨rfl, ?_⟩
    simp only
    rw [joined, ← List.drop_append_of_le_length more, List.drop_drop]
    simp only [List.append_assoc]

end Segments

/-- The state between accesses: the description is exact, the chain is idle, the cache is true and at most one
device is not in bypass. -/
structure Ready (parts : List (ChainPart σ)) (probe : Probe σ) : Prop where
  exactly : ExactlyDescribed parts probe
  idle : probe.chain.tap = .runTestIdle
  same : probe.chain.parts = parts
  caches : CachesAgree probe
  single : ∀ i < parts.length, ∀ j < parts.length, (probe.jtagDevs i).currentIr ≠ 0xffffffff#32 →
    (probe.jtagDevs j).currentIr ≠ 0xffffffff#32 → i = j

/-- The condition for an access: a write that is not skipped has at most 64 bits of other instruction registers on
either side, a skipped one leaves no other device selected, and an exchange is for the only device that may be out of
bypass and has a bit to leave the shift state with. -/
def Allowed (probe : Probe σ) : Access → Prop
  | .writeIr devIndex ir =>
    devIndex < probe.jtagDevCount ∧
      if ir = (probe.jtagDevs devIndex).currentIr then
        ir = 0xffffffff#32 → ∀ i < probe.jtagDevCount, (probe.jtagDevs i).currentIr = 0xffffffff#32
      else (probe.jtagDevs devIndex).irPrescan.toNat ≤ 64 ∧ (probe.jtagDevs devIndex).irPostscan.toNat ≤ 64
  | .shiftDr devIndex _ _ clockCycles =>
    devIndex < probe.jtagDevCount ∧
      (∀ i < probe.jtagDevCount, i ≠ devIndex → (probe.jtagDevs i).currentIr = 0xffffffff#32) ∧
      ((probe.jtagDevs devIndex).drPostscan = 0#8 → 0 < clockCycles)

section Bits

theorem irBitsOf_ones {length : Nat} (fits : length ≤ 32) : irBitsOf 0xffffffff#32 length = List.replicate length true := by
  have set : ∀ bit < 32, (0xffffffff#32).getLsbD bit = true := by decide
  apply List.ext_getElem (by simp [irBitsOf])
  intro bit inside _
  simp only [irBitsOf, List.getElem_map, List.getElem_range, List.getElem_replicate]
  apply set
  simp [irBitsOf] at inside
  omega

/-- The bits of an instruction as a sequence takes them from memory. -/
private theorem byteOf_tdiBits (ir : BitVec 32) {length : Nat} : tdiBits (byteOf ir) length = irBitsOf ir length := by
  apply List.map_congr_left
  intro cycle _
  rw [tdiBit, byteOf_getLsbD _ _ _ (by omega), Nat.div_add_mod]

variable {before after : Nat} {bits : List Bool}

private theorem slice_before {offset length : Nat} (inside : offset + length ≤ before) (rest : List Bool) :
    ((List.replicate before true ++ rest).drop offset).take length = List.replicate length true := by
  rw [List.drop_append_of_le_length (by simp; omega), List.take_append_of_le_length (by simp; omega), List.drop_replicate,
    List.take_replicate, Nat.min_eq_left (by omega)]

private theorem slice_behind {offset length : Nat} (above : before + bits.length ≤ offset)
    (inside : offset + length ≤ before + bits.length + after) :
    ((List.replicate before true ++ bits ++ List.replicate after true).drop offset).take length
      = List.replicate length true := by
  have split : (List.replicate before true ++ bits).length = before + bits.length := by simp
  rw [List.drop_append, List.drop_of_length_le (by omega), List.nil_append, split, List.drop_replicate, List.take_replicate,
    Nat.min_eq_left (by omega)]

private theorem slice_middle (before after : Nat) (bits : List Bool) :
    ((List.replicate before true ++ bits ++ List.replicate after true).drop before).take bits.length = bits := by
  rw [List.append_assoc, List.drop_append, List.drop_of_length_le (by simp), List.nil_append]
  simp

end Bits

private theorem zero_byte : ∀ byte : BitVec 8, decide (byte = 0#8) = decide (byte.toNat = 0) := by decide

section Writing

variable {parts : List (ChainPart σ)} {probe : Probe σ} {devIndex : Nat} {ir : BitVec 32} {part : ChainPart σ}

/-- The bits that a write leaves in the chain. -/
def writtenBits (parts : List (ChainPart σ)) (devIndex : Nat) (ir : BitVec 32) (length : Nat) : List Bool :=
  List.replicate (irBits (parts.take devIndex)) true ++ irBitsOf ir length ++
    List.replicate (irBits (parts.drop (devIndex + 1))) true

/-- A write that is not skipped, in terms of the table before it. -/
private theorem writeIr_fresh (fresh : ir ≠ (probe.jtagDevs devIndex).currentIr) :
    let device := probe.jtagDevs devIndex
    (jtagDevWriteIr devIndex ir probe).chain =
      jtagtapReturnIdle 1 (jtagtapTdiSeq true probe.ones device.irPostscan.toNat
        ((jtagtapTdiSeq false probe.ones device.irPrescan.toNat (jtagtapShiftIr probe.chain)).drive
          (tdiCycles (decide (device.irPostscan.toNat = 0)) (byteOf ir) device.irLen.toNat)).2) := by
  have same : ((bypassOthers probe).setDev devIndex fun dev => { dev with currentIr := ir }).jtagDevs devIndex
      = { probe.jtagDevs devIndex with currentIr := ir } := by
    simp only [Probe.setDev, bypassOthers, if_true]
    split <;> rfl
  rw [jtagDevWriteIr, if_neg fresh]
  simp only [same, zero_byte]
  rfl

private theorem irBits_split (parts : List (ChainPart σ)) {devIndex : Nat} (inside : devIndex < parts.length) :
    irBits parts = irBits (parts.take devIndex) + parts[devIndex].irLength + irBits (parts.drop (devIndex + 1)) := by
  obtain ⟨_, dropped⟩ := irBits_succ inside
  have split : irBits parts = irBits (parts.take devIndex) + irBits (parts.drop devIndex) := by
    rw [irBits, irBits, irBits, ← List.sum_append, ← List.map_append, List.take_append_drop]
  omega

theorem length_irBitsOf (ir : BitVec 32) (length : Nat) : (irBitsOf ir length).length = length := by
  simp [irBitsOf]

theorem writeIr_chain (ready : Ready parts probe) (regular : ∀ part ∈ parts, Regular part)
    (found : parts[devIndex]? = some part) (fresh : ir ≠ (probe.jtagDevs devIndex).currentIr)
    (before : (probe.jtagDevs devIndex).irPrescan.toNat ≤ 64) (behind : (probe.jtagDevs devIndex).irPostscan.toNat ≤ 64) :
    (jtagDevWriteIr devIndex ir probe).chain.tap = .runTestIdle ∧
      (jtagDevWriteIr devIndex ir probe).chain.devices = deal (fun device => device.part.irLength) Device.latchIr
        probe.chain.devices (writtenBits parts devIndex ir part.irLength) := by
  obtain ⟨inside, rfl⟩ := List.getElem?_eq_some_iff.mp found
  have low := (regular _ (List.getElem_mem inside)).shape.1
  have length := ready.exactly.irLen devIndex _ found
  have prescan := ready.exactly.irPrescan devIndex inside
  have postscan := ready.exactly.irPostscan devIndex inside
  have captured : (probe.chain.devices.flatMap fun device => device.part.irCapture).length = irBits parts := by
    rw [← ready.same, List.length_flatMap, irBits, Chain.parts, List.map_map]
    rfl
  have idle : probe.chain = ⟨.runTestIdle, probe.chain.devices, probe.chain.bits⟩ := by rw [← ready.idle]
  have shift : jtagtapShiftIr probe.chain
      = ⟨.shiftIr, probe.chain.devices, probe.chain.devices.flatMap fun device => device.part.irCapture⟩ := by
    rw [idle, shiftIr_idle]
  have segments := (three_segments (jtagtapShiftIr probe.chain) (by rw [shift]; rfl) probe.ones (byteOf ir) probe.ones
    (probe.jtagDevs devIndex).irPrescan.toNat (probe.jtagDevs devIndex).irLen.toNat
    (probe.jtagDevs devIndex).irPostscan.toNat (fun _ => by omega)).2
  have bits : ((jtagtapShiftIr probe.chain).bits ++ (tdiBits probe.ones (probe.jtagDevs devIndex).irPrescan.toNat ++
      tdiBits (byteOf ir) (probe.jtagDevs devIndex).irLen.toNat ++
      tdiBits probe.ones (probe.jtagDevs devIndex).irPostscan.toNat)).drop ((probe.jtagDevs devIndex).irPrescan.toNat +
        (probe.jtagDevs devIndex).irLen.toNat + (probe.jtagDevs devIndex).irPostscan.toNat)
      = writtenBits parts devIndex ir parts[devIndex].irLength := by
    rw [ones_tdiBits probe before, ones_tdiBits probe behind, byteOf_tdiBits, length, prescan, postscan, shift,
      ← irBits_split parts inside, List.drop_append, ← captured, Nat.sub_self, List.drop_of_length_le (Nat.le_refl _)]
    rfl
  rw [bits] at segments
  rw [writeIr_fresh fresh]
  simp only [segments]
  rw [shift]
  exact ⟨rfl, rfl⟩

private theorem irBits_devices (devices : List (Device σ)) (count : Nat) :
    ((devices.take count).map fun device => device.part.irLength).sum
      = irBits ((devices.map Device.part).take count) := by
  rw [irBits, ← List.map_take, List.map_map]
  rfl

/-- A part of the written bits: the instruction for the addressed device, ones for the others. -/
private theorem writtenBits_slice (found : parts[devIndex]? = some part) {i : Nat} {other : ChainPart σ}
    (listed : parts[i]? = some other) :
    ((writtenBits parts devIndex ir part.irLength).drop (irBits (parts.take i))).take other.irLength
      = if i = devIndex then irBitsOf ir other.irLength else List.replicate other.irLength true := by
  obtain ⟨inside, rfl⟩ := List.getElem?_eq_some_iff.mp found
  obtain ⟨within, rfl⟩ := List.getElem?_eq_some_iff.mp listed
  have length := length_irBitsOf ir parts[devIndex].irLength
  have whole := irBits_split parts inside
  split
  next here =>
    subst here
    have middle := slice_middle (irBits (parts.take i)) (irBits (parts.drop (i + 1))) (irBitsOf ir parts[i].irLength)
    rw [length] at middle
    exact middle
  next elsewhere =>
    obtain ⟨taken, _⟩ := irBits_succ within
    obtain ⟨reached, _⟩ := irBits_succ inside
    obtain before | behind : i < devIndex ∨ devIndex < i := by omega
    · have below := irBits_take_le parts (show i + 1 ≤ devIndex by omega)
      rw [writtenBits, List.append_assoc]
      exact slice_before (by omega) _
    · have above := irBits_take_le parts (show devIndex + 1 ≤ i by omega)
      have total := irBits_split parts within
      exact slice_behind (by omega) (by omega)

theorem Ready.part_at (ready : Ready parts probe) {i : Nat} {device : Device σ}
    (listed : probe.chain.devices[i]? = some device) : parts[i]? = some device.part := by
  rw [← ready.same, Chain.parts, List.getElem?_map, listed]
  rfl

theorem Ready.length (ready : Ready parts probe) : probe.chain.devices.length = parts.length := by
  rw [← ready.same, Chain.parts, List.length_map]

/-- The cache after a write that is not skipped. -/
theorem writeIr_cached (fresh : ir ≠ (probe.jtagDevs devIndex).currentIr) {i : Nat} (inside : i < probe.jtagDevCount) :
    ((jtagDevWriteIr devIndex ir probe).jtagDevs i).currentIr = if i = devIndex then ir else 0xffffffff#32 := by
  rw [jtagDevWriteIr, if_neg fresh]
  simp only [Probe.pins, Probe.setDev, bypassOthers]
  split
  · rfl
  · rfl

private theorem writeIr_devices (ready : Ready parts probe) (regular : ∀ part ∈ parts, Regular part)
    (found : parts[devIndex]? = some part) (fresh : ir ≠ (probe.jtagDevs devIndex).currentIr)
    (before : (probe.jtagDevs devIndex).irPrescan.toNat ≤ 64) (behind : (probe.jtagDevs devIndex).irPostscan.toNat ≤ 64)
    {i : Nat} {device : Device σ} (listed : (jtagDevWriteIr devIndex ir probe).chain.devices[i]? = some device) :
    i < parts.length ∧ device.ir = some (if i = devIndex then irBitsOf ir device.part.irLength
      else List.replicate device.part.irLength true) := by
  rw [(writeIr_chain ready regular found fresh before behind).2, deal_getElem?] at listed
  obtain ⟨original, at_, rfl⟩ := Option.map_eq_some_iff.mp listed
  have within := ready.part_at at_
  refine ⟨(List.getElem?_eq_some_iff.mp within).1, ?_⟩
  rw [irBits_devices, show probe.chain.devices.map Device.part = parts from ready.same]
  exact congrArg some (writtenBits_slice found within)

theorem irLength_le {part : ChainPart σ} (regular : Regular part) : part.irLength ≤ 32 := by
  have high := regular.shape.2.1
  omega

private theorem writeIr_parts (devIndex : Nat) (ir : BitVec 32) (probe : Probe σ) :
    (jtagDevWriteIr devIndex ir probe).chain.parts = probe.chain.parts := by
  by_cases fresh : ir = (probe.jtagDevs devIndex).currentIr
  · rw [jtagDevWriteIr, if_pos fresh]
  · rw [writeIr_fresh fresh]
    simp only [jtagtapReturnIdle, jtagtapShiftIr, jtagtapTmsSeq, jtagtapTdiSeq, Chain.drive_parts]

/-- A write of an instruction that meets the condition does what it is to do. -/
theorem writeIr_spec (ready : Ready parts probe) (regular : ∀ part ∈ parts, Regular part)
    (allowed : Allowed probe (.writeIr devIndex ir)) :
    Written devIndex ir (jtagDevWriteIr devIndex ir probe) ∧ Ready parts (jtagDevWriteIr devIndex ir probe) := by
  obtain ⟨inside, condition⟩ := allowed
  rw [ready.exactly.count] at inside
  have found : parts[devIndex]? = some parts[devIndex] := List.getElem?_eq_getElem inside
  by_cases fresh : ir = (probe.jtagDevs devIndex).currentIr
  · rw [if_pos fresh] at condition
    have skipped : jtagDevWriteIr devIndex ir probe = probe := by rw [jtagDevWriteIr, if_pos fresh]
    rw [skipped]
    refine ⟨⟨?_, ?_, ready.caches⟩, ready⟩
    · intro device listed
      rw [fresh]
      exact ready.caches devIndex device listed
    · intro i device other listed
      have within := ready.part_at listed
      have bound := (List.getElem?_eq_some_iff.mp within).1
      have idle : (probe.jtagDevs i).currentIr = 0xffffffff#32 := by
        by_cases marker : ir = 0xffffffff#32
        · exact condition marker i (by rw [ready.exactly.count]; exact bound)
        · by_contra busy
          exact other (ready.single i bound devIndex inside busy (by rwa [← fresh]))
      rw [InBypass, ready.caches i device listed, idle,
        irBitsOf_ones (irLength_le (regular _ (List.mem_of_getElem? within)))]
  · rw [if_neg fresh] at condition
    have written : ∀ i device, (jtagDevWriteIr devIndex ir probe).chain.devices[i]? = some device → _ :=
      fun i device => writeIr_devices ready regular found fresh condition.1 condition.2
    have cached : ∀ i < parts.length, _ := fun i bound =>
      writeIr_cached fresh (show i < probe.jtagDevCount by rw [ready.exactly.count]; exact bound)
    have same := (writeIr_parts devIndex ir probe).trans ready.same
    have agree : CachesAgree (jtagDevWriteIr devIndex ir probe) := by
      intro i device listed
      obtain ⟨bound, holds⟩ := written i device listed
      have member : device.part ∈ parts := by
        rw [← same]
        exact List.mem_map_of_mem (List.mem_of_getElem? listed)
      rw [holds, cached i bound]
      split
      · rfl
      · rw [irBitsOf_ones (irLength_le (regular _ member))]
    constructor
    · refine ⟨fun device listed => ?_, fun i device other listed => ?_, agree⟩
      · rw [(written devIndex device listed).2, if_pos rfl]
      · rw [InBypass, (written i device listed).2, if_neg other]
    · refine ⟨(writeIr_table devIndex ir probe).exactly ready.exactly,
        (writeIr_chain ready regular found fresh condition.1 condition.2).1, same, agree, ?_⟩
      intro i bound j within busy also
      rw [cached i bound] at busy
      rw [cached j within] at also
      have first : i = devIndex := by
        by_contra other
        exact busy (if_neg other)
      have second : j = devIndex := by
        by_contra other
        exact also (if_neg other)
      rw [first, second]

end Writing

section Exchange

/-- The bits that end up in a register when a stream with the data at its end is pushed past it. -/
private theorem exchanged_bits (before data behind : List Bool) (held skipped : Nat)
    (length : before.length + data.length = skipped + held) :
    (((before ++ data ++ behind).drop skipped).take held).length = held ∧
      (((before ++ data ++ behind).drop skipped).take held).drop (held - data.length)
        = data.drop (data.length - held) := by
  have whole : ((before ++ data ++ behind).drop skipped).take held = (before ++ data).drop skipped := by
    rw [List.drop_append_of_le_length (by simp; omega), List.take_append_of_le_length (by simp; omega),
      List.take_of_length_le (by simp; omega)]
  constructor
  · rw [whole]
    simp
    omega
  · rw [whole, List.drop_drop, List.drop_append, List.drop_of_length_le (by omega), List.nil_append]
    congr 1
    omega

private theorem held_bits (held rest : List Bool) (count : Nat) :
    ((held ++ rest).take count).take held.length = held.take count := by
  rw [List.take_take, List.take_append_of_le_length (Nat.min_le_left _ _)]
  apply List.take_eq_take_iff.mpr
  omega

variable {parts : List (ChainPart σ)} {probe : Probe σ} {devIndex : Nat} {device : Device σ}

private theorem bypass_before {devices : List (Device σ)}
    (others : ∀ i other, i ≠ devIndex → devices[i]? = some other → InBypass other) :
    ∀ other ∈ devices.take devIndex, InBypass other := by
  intro other listed
  obtain ⟨i, within, rfl⟩ := List.mem_take_iff_getElem.mp listed
  exact others i _ (by omega) (List.getElem?_eq_getElem (by omega))

/-- The chain as the exchange finds it: one bit for each other device. -/
private theorem selected_around {devices : List (Device σ)} (found : devices[devIndex]? = some device)
    (others : ∀ i other, i ≠ devIndex → devices[i]? = some other → InBypass other) :
    devices.flatMap Device.selected = List.replicate devIndex false ++ device.selected ++
      List.replicate (devices.length - 1 - devIndex) false := by
  obtain ⟨inside, rfl⟩ := List.getElem?_eq_some_iff.mp found
  have before := bypass_before others
  have behind : ∀ other ∈ devices.drop (devIndex + 1), InBypass other := by
    intro other listed
    obtain ⟨i, within, rfl⟩ := List.mem_drop_iff_getElem.mp listed
    exact others (devIndex + 1 + i) _ (by omega) (List.getElem?_eq_getElem (by omega))
  have split : devices = devices.take devIndex ++ devices[devIndex] :: devices.drop (devIndex + 1) := by
    rw [← List.drop_eq_getElem_cons inside, List.take_append_drop]
  have sizes : (devices.take devIndex).length = devIndex ∧
      (devices.drop (devIndex + 1)).length = devices.length - 1 - devIndex := by
    constructor
    · rw [List.length_take]
      omega
    · rw [List.length_drop]
      omega
  conv_lhs => rw [split]
  rw [List.flatMap_append, List.flatMap_cons, selected_bypass before, selected_bypass behind, sizes.1, sizes.2,
    List.append_assoc]

/-- An update reaches only the device that is not in bypass. -/
private theorem deal_around {devices : List (Device σ)} (found : devices[devIndex]? = some device)
    (others : ∀ i other, i ≠ devIndex → devices[i]? = some other → InBypass other) (bits : List Bool) :
    deal (fun device => device.selected.length) Device.latchDr devices bits
      = devices.set devIndex (device.latchDr ((bits.drop devIndex).take device.selected.length)) := by
  obtain ⟨inside, rfl⟩ := List.getElem?_eq_some_iff.mp found
  have widths : ((devices.take devIndex).map fun device => device.selected.length).sum = devIndex := by
    rw [← List.length_flatMap, selected_bypass (bypass_before others), List.length_replicate, List.length_take]
    omega
  apply List.ext_getElem?
  intro i
  rw [deal_getElem?, List.getElem?_set]
  by_cases here : devIndex = i
  · subst here
    rw [if_pos rfl, if_pos inside, found, widths]
    rfl
  · rw [if_neg here]
    cases listed : devices[i]? with
    | none => rfl
    | some other => exact congrArg some ((others i other (Ne.symm here) listed).latchDr _)

/-- The cycles of an exchange that carry the data. -/
private def dataCycles (probe : Probe σ) (devIndex : Nat) (dataIn : Buffer) (clockCycles : Nat) : List Bool × Chain σ :=
  (jtagtapTdiSeq false probe.ones (probe.jtagDevs devIndex).drPrescan.toNat (jtagtapShiftDr probe.chain)).drive
    (tdiCycles (decide ((probe.jtagDevs devIndex).drPostscan.toNat = 0)) dataIn clockCycles)

private theorem shiftDr_result (dataOut : Option Buffer) (dataIn : Buffer) (clockCycles : Nat) :
    jtagDevShiftDr devIndex dataOut dataIn clockCycles probe
      = (dataOut.map fun buffer => storeTdo (dataCycles probe devIndex dataIn clockCycles).1 0 0#8 buffer,
        { probe with
          chain := jtagtapReturnIdle 1 (jtagtapTdiSeq true probe.ones (probe.jtagDevs devIndex).drPostscan.toNat
            (dataCycles probe devIndex dataIn clockCycles).2) }) := by
  cases dataOut with
  | none =>
    simp only [jtagDevShiftDr, dataCycles, zero_byte, Probe.pins, jtagtapTdiSeq]
    rfl
  | some buffer =>
    simp only [jtagDevShiftDr, dataCycles, zero_byte, Probe.pins, jtagtapTdiTdoSeq]
    rfl

/-- The devices that are in bypass beside the addressed one. -/
private theorem others_bypass (ready : Ready parts probe) (regular : ∀ part ∈ parts, Regular part)
    (only : ∀ i < probe.jtagDevCount, i ≠ devIndex → (probe.jtagDevs i).currentIr = 0xffffffff#32) :
    ∀ i other, i ≠ devIndex → probe.chain.devices[i]? = some other → InBypass other := by
  intro i other elsewhere listed
  have within := ready.part_at listed
  have bound := (List.getElem?_eq_some_iff.mp within).1
  rw [InBypass, ready.caches i other listed, only i (by rw [ready.exactly.count]; exact bound) elsewhere,
    irBitsOf_ones (irLength_le (regular _ (List.mem_of_getElem? within)))]

private theorem shiftDr_parts (dataOut : Option Buffer) (dataIn : Buffer) (clockCycles : Nat) :
    (jtagDevShiftDr devIndex dataOut dataIn clockCycles probe).2.chain.parts = probe.chain.parts := by
  rw [shiftDr_result]
  simp only [dataCycles, jtagtapReturnIdle, jtagtapShiftDr, jtagtapTmsSeq, jtagtapTdiSeq, Chain.drive_parts]

private theorem latchDr_keeps (device : Device σ) (bits : List Bool) :
    (device.latchDr bits).ir = device.ir ∧ (device.latchDr bits).part = device.part := by
  unfold Device.latchDr
  split
  · exact ⟨rfl, rfl⟩
  · split <;> exact ⟨rfl, rfl⟩

/-- What the chain and the padding before the data hold. -/
private def paddedBits (devIndex behind : Nat) (held : List Bool) : List Bool :=
  List.replicate devIndex false ++ (held ++ (List.replicate behind false ++ List.replicate devIndex true))

/-- The data cycles of an exchange, and the chain after the padding behind them. -/
private theorem dataCycles_eq (ready : Ready parts probe) (fits : parts.length ≤ jtagMaxDevs)
    (found : probe.chain.devices[devIndex]? = some device)
    (others : ∀ i other, i ≠ devIndex → probe.chain.devices[i]? = some other → InBypass other) (dataIn : Buffer)
    {clockCycles : Nat} (leaves : (probe.jtagDevs devIndex).drPostscan = 0#8 → 0 < clockCycles) :
    let behind := parts.length - 1 - devIndex
    let padded := paddedBits devIndex behind device.selected
    (dataCycles probe devIndex dataIn clockCycles).1
        = (padded.drop devIndex ++ tdiBits dataIn clockCycles).take clockCycles ∧
      jtagtapTdiSeq true probe.ones (probe.jtagDevs devIndex).drPostscan.toNat
          (dataCycles probe devIndex dataIn clockCycles).2
        = ⟨.exit1Dr, probe.chain.devices, (padded ++ tdiBits dataIn clockCycles ++ List.replicate behind true).drop
            (devIndex + clockCycles + behind)⟩ := by
  have inside : devIndex < parts.length := by
    rw [← ready.length]
    exact (List.getElem?_eq_some_iff.mp found).1
  have size : parts.length ≤ 32 := fits
  have prescan := ready.exactly.drPrescan devIndex inside
  have postscan := ready.exactly.drPostscan devIndex inside
  have around := selected_around found others
  rw [ready.length] at around
  have idle : probe.chain = ⟨.runTestIdle, probe.chain.devices, probe.chain.bits⟩ := by rw [← ready.idle]
  have shift : jtagtapShiftDr probe.chain = ⟨.shiftDr, probe.chain.devices, probe.chain.devices.flatMap Device.selected⟩ := by
    rw [idle, shiftDr_idle]
  have segments := three_segments (jtagtapShiftDr probe.chain) (by rw [shift]; rfl) probe.ones dataIn probe.ones
    (probe.jtagDevs devIndex).drPrescan.toNat clockCycles (probe.jtagDevs devIndex).drPostscan.toNat
    (fun none => leaves (BitVec.eq_of_toNat_eq none))
  have out : (dataCycles probe devIndex dataIn clockCycles).1 = _ := segments.1
  have after : jtagtapTdiSeq true probe.ones (probe.jtagDevs devIndex).drPostscan.toNat
      (dataCycles probe devIndex dataIn clockCycles).2 = _ := segments.2
  rw [ones_tdiBits probe (by omega), prescan, shift, around] at out
  rw [ones_tdiBits probe (by omega), ones_tdiBits probe (by omega), prescan, postscan, shift, around] at after
  constructor
  · rw [out, paddedBits]
    simp only [List.append_assoc]
  · rw [postscan, after, paddedBits]
    simp only [List.append_assoc, TapState.next, if_true]

/-- An exchange that meets the condition does what it is to do. -/
theorem shiftDr_spec (ready : Ready parts probe) (regular : ∀ part ∈ parts, Regular part)
    (fits : parts.length ≤ jtagMaxDevs) {dataOut : Option Buffer} {dataIn : Buffer} {clockCycles : Nat}
    (allowed : Allowed probe (.shiftDr devIndex dataOut dataIn clockCycles)) :
    Exchanged devIndex dataOut dataIn clockCycles probe (jtagDevShiftDr devIndex dataOut dataIn clockCycles probe) ∧
      Ready parts (jtagDevShiftDr devIndex dataOut dataIn clockCycles probe).2 := by
  obtain ⟨inside, only, leaves⟩ := allowed
  rw [ready.exactly.count, ← ready.length] at inside
  have others := others_bypass ready regular only
  have found := List.getElem?_eq_getElem inside
  generalize probe.chain.devices[devIndex] = device at found
  obtain ⟨out, after⟩ := dataCycles_eq ready fits found others dataIn leaves
  let behind := parts.length - 1 - devIndex
  have place : devIndex + behind + 1 = parts.length := by
    have size := ready.length
    simp only [behind]
    omega
  let skipped := devIndex + clockCycles + behind
  let stream := paddedBits devIndex behind device.selected ++ tdiBits dataIn clockCycles ++ List.replicate behind true
  obtain ⟨length, given⟩ := exchanged_bits (paddedBits devIndex behind device.selected) (tdiBits dataIn clockCycles)
    (List.replicate behind true) device.selected.length (skipped + devIndex) (by simp [paddedBits, skipped]; omega)
  rw [tdiBits_length] at given
  have chain : (jtagDevShiftDr devIndex dataOut dataIn clockCycles probe).2.chain = ⟨.runTestIdle,
      probe.chain.devices.set devIndex
        (device.latchDr ((stream.drop (skipped + devIndex)).take device.selected.length)), stream.drop skipped⟩ := by
    rw [shiftDr_result]
    simp only [after]
    rw [returnIdle_dr, deal_around found others, List.drop_drop]
  have held : (paddedBits devIndex behind device.selected).drop devIndex
      = device.selected ++ (List.replicate behind false ++ List.replicate devIndex true) := by
    rw [paddedBits, List.drop_left' (by simp)]
  constructor
  · refine ⟨device, (stream.drop (skipped + devIndex)).take device.selected.length, found, length, ?_, given, ?_⟩
    · rw [chain]
    · intro stored
      obtain ⟨buffer, rfl⟩ := Option.isSome_iff_exists.mp stored
      have count : (dataCycles probe devIndex dataIn clockCycles).1.length = clockCycles := by
        rw [out]
        simp
      have bits := storeTdo_tdiBits (dataCycles probe devIndex dataIn clockCycles).1 buffer
      rw [count] at bits
      refine ⟨storeTdo (dataCycles probe devIndex dataIn clockCycles).1 0 0#8 buffer, by rw [shiftDr_result]; rfl, ?_⟩
      rw [bits, out, held, List.append_assoc, held_bits]
  · refine ⟨(shiftDr_table devIndex dataOut dataIn clockCycles probe).exactly ready.exactly, by rw [chain],
      (shiftDr_parts dataOut dataIn clockCycles).trans ready.same, ?_, ?_⟩
    · intro i current listed
      rw [chain, List.getElem?_set] at listed
      rw [shiftDr_result]
      split at listed
      next here =>
        subst here
        cases listed
        rw [(latchDr_keeps device _).1, (latchDr_keeps device _).2]
        exact ready.caches devIndex device found
      next => exact ready.caches i current listed
    · rw [shiftDr_result]
      exact ready.single

end Exchange

/-- Every access meets the condition in the state that the accesses before it have left. -/
def AllAllowed : Probe σ → List Access → Prop
  | _, [] => True
  | probe, request :: rest => Allowed probe request ∧ AllAllowed (access probe request) rest

section Runs

variable {parts : List (ChainPart σ)} {probe : Probe σ}

private theorem access_spec (ready : Ready parts probe) (regular : ∀ part ∈ parts, Regular part)
    (fits : parts.length ≤ jtagMaxDevs) {request : Access} (allowed : Allowed probe request) :
    Performed probe request ∧ Ready parts (access probe request) := by
  cases request with
  | writeIr devIndex ir => exact writeIr_spec ready regular allowed
  | shiftDr devIndex dataOut dataIn clockCycles =>
    obtain ⟨exchanged, after⟩ := shiftDr_spec ready regular fits allowed
    exact ⟨⟨exchanged, after.caches⟩, after⟩

private theorem run_performed (regular : ∀ part ∈ parts, Regular part) (fits : parts.length ≤ jtagMaxDevs)
    (earlier : List Access) {request : Access} {later : List Access} (probe : Probe σ) (ready : Ready parts probe)
    (allowed : AllAllowed probe (earlier ++ request :: later)) : Performed (earlier.foldl access probe) request := by
  induction earlier generalizing probe with
  | nil => exact (access_spec ready regular fits allowed.1).1
  | cons first rest ih => exact ih _ (access_spec ready regular fits allowed.1).2 allowed.2

theorem CorrectlyScanned.ready (scanned : CorrectlyScanned parts probe) : Ready parts probe := by
  refine ⟨scanned.exactly, scanned.idle, scanned.same, ?_, ?_⟩
  · intro i device listed
    have member := List.mem_of_getElem? listed
    have part : device.part ∈ parts := by
      rw [← scanned.same]
      exact List.mem_map_of_mem member
    have inside : i < parts.length := by
      rw [← scanned.same, Chain.parts, List.length_map]
      exact (List.getElem?_eq_some_iff.mp listed).1
    rw [scanned.cached i inside, irBitsOf_ones (irLength_le (scanned.regular _ part))]
    exact scanned.bypass device member
  · intro i inside _ _ busy
    exact absurd (scanned.cached i inside) busy

end Runs

/-- From every correctly scanned chain, in every sequence of accesses that all meet the condition, every access does
what it is to do. -/
theorem accesses_isolate_device (parts : List (ChainPart σ)) (probe : Probe σ) (requests : List Access)
    (scanned : CorrectlyScanned parts probe) (allowed : AllAllowed probe requests) :
    ∀ earlier request later, requests = earlier ++ request :: later →
      Performed (earlier.foldl access probe) request := by
  rintro earlier request later rfl
  exact run_performed scanned.regular scanned.fits earlier probe scanned.ready allowed

/-- A part with a data register of eight bits behind every instruction. -/
def bytePart (idcode : BitVec 32) (length : Nat) : ChainPart (List Bool) :=
  ⟨idcode, true :: List.replicate (length - 1) false, fun state _ => state, fun _ _ bits => bits⟩

/-- A probe on a chain of such parts, with nothing known yet. -/
def byteProbe (parts : List (ChainPart (List Bool))) : Probe (List Bool) :=
  { chain := ⟨.testLogicReset, parts.map fun part => ⟨part, none, List.replicate 8 false⟩, []⟩
    jtagDevs := fun _ => ⟨0#32, 0#32, 0#8, 0#8, 0#8, 0#8, 0#8⟩
    jtagDevCount := 0
    beyondOnes := fun _ => 0#8 }

/-- As many parts with the same instruction register. -/
def byteParts (count length : Nat) : List (ChainPart (List Bool)) := List.replicate count (bytePart 0x10000563#32 length)

theorem byteParts_scanned (count length : Nat) (low : 2 ≤ length) (high : length ≤ 16) (positive : 0 < count)
    (fits : count < jtagMaxDevs) (few : irBits (byteParts count length) < 2 ^ 8) :
    ∃ scanned, describeChain (irBits (byteParts count length) + 2) (byteProbe (byteParts count length)) = some (true, scanned) ∧
      CorrectlyScanned (byteParts count length) scanned := by
  have parts : (byteProbe (byteParts count length)).chain.parts = byteParts count length := by
    simp [byteProbe, Chain.parts, Function.comp_def]
  have size : (byteParts count length).length = count := List.length_replicate
  have regular : ∀ part ∈ (byteProbe (byteParts count length)).chain.parts, Regular part := by
    intro part listed
    rw [parts] at listed
    obtain rfl := List.eq_of_mem_replicate listed
    have usual : jtagDeviceGetQuirks 0x10000563#32 = ⟨0#16, 0#8⟩ := by decide
    exact ⟨(by decide : (0x10000563#32).getLsbD 0 = true), (by decide : 0x10000563#32 ≠ 0xffffffff#32), .inl ⟨length, low, high, by rw [bytePart, usual], rfl⟩⟩
  obtain ⟨found, scanned, result, known, succeeds⟩ := describeChain_spec (byteProbe (byteParts count length)) regular
    (by rw [parts, size]; exact fits.le) (show _ ≤ irBits (byteParts count length) + 2 by rw [parts])
  have cleared : clearedDevs (byteProbe (byteParts count length)) count = ⟨0#32, 0#32, 0#8, 0#8, 0#8, 0#8, 0#8⟩ :=
    if_pos fits
  have filled : byteParts count length ≠ [] := List.ne_nil_of_length_pos (by omega)
  obtain rfl := succeeds (by rw [parts]; exact filled) (by rw [parts, size, cleared]; decide)
  have described := known rfl
  have exactly : ExactlyDescribed (byteProbe (byteParts count length)).chain.parts scanned := by
    rw [described.exactly_iff regular (by rw [parts, size]; exact fits.le) (by rw [parts]; exact filled), parts]
    have before := irBits_take_le (byteParts count length) (Nat.sub_le (byteParts count length).length 1)
    have behind := irBits_drop_le (byteParts count length) (Nat.zero_le 1)
    rw [List.take_length] at before
    rw [List.drop_zero, List.drop_one] at behind
    rw [List.dropLast_eq_take]
    omega
  refine ⟨scanned, result, ?_⟩
  rw [← parts]
  exact describeChain_correct regular (by rw [parts, size]; exact fits.le) (by rw [parts]) result exactly

/-- The second of three devices is given an instruction and exchanges a byte. -/
theorem second_device_isolated :
    ∃ scanned, CorrectlyScanned (byteParts 3 5) scanned ∧ Performed scanned (.writeIr 1 0x0a#32) ∧
      Performed (access scanned (.writeIr 1 0x0a#32)) (.shiftDr 1 (some fun _ => 0#8) (fun _ => 0xa5#8) 8) := by
  obtain ⟨scanned, _, correct⟩ := byteParts_scanned 3 5 (by decide) (by decide) (by decide)
    (by decide) (by decide)
  have count : scanned.jtagDevCount = 3 := correct.exactly.count
  have fresh : 0x0a#32 ≠ (scanned.jtagDevs 1).currentIr := by
    rw [correct.cached 1 (by decide)]
    decide
  have allowed : AllAllowed scanned
      [.writeIr 1 0x0a#32, .shiftDr 1 (some fun _ => 0#8) (fun _ => 0xa5#8) 8] := by
    refine ⟨⟨by rw [count]; decide, ?_⟩, ⟨?_, ?_, fun _ => by decide⟩, trivial⟩
    · rw [if_neg fresh, correct.exactly.irPrescan 1 (by decide), correct.exactly.irPostscan 1 (by decide)]
      decide
    · rw [access, (writeIr_table 1 0x0a#32 scanned).count, count]
      decide
    · intro i inside other
      rw [access, (writeIr_table 1 0x0a#32 scanned).count] at inside
      rw [access, writeIr_cached fresh inside, if_neg other]
  have performed := accesses_isolate_device (byteParts 3 5) scanned _ correct allowed
  exact ⟨scanned, correct, performed [] _ _ rfl, performed [_] _ _ rfl⟩

/-- Six devices of sixteen bits: the ones for the devices before the last run out of their eight bytes, and what
lies behind them arrives in the fifth. -/
theorem ones_run_out :
    ∃ scanned, CorrectlyScanned (byteParts 6 16) scanned ∧ ¬ Performed scanned (.writeIr 5 0x000a#32) := by
  obtain ⟨scanned, result, correct⟩ := byteParts_scanned 6 16 (by decide) (by decide) (by decide)
    (by decide) (by decide)
  refine ⟨scanned, correct, ?_⟩
  rintro ⟨_, others, _⟩
  have fifth : (describeChain 98 (byteProbe (byteParts 6 16))).map (fun found =>
      (((jtagDevWriteIr 5 0x000a#32 found.2).chain.devices[4]?).map Device.ir)) = some (some (some (List.replicate 16 false))) := by
    decide +kernel
  have same : describeChain 98 (byteProbe (byteParts 6 16)) = some (true, scanned) := result
  rw [same] at fifth
  cases listed : (jtagDevWriteIr 5 0x000a#32 scanned).chain.devices[4]? with
  | none =>
    rw [Option.map_some, listed] at fifth
    cases fifth
  | some device =>
    have bypass := others 4 device (by decide) listed
    have zeros : device.ir = some (List.replicate 16 false) := by
      rw [Option.map_some, listed] at fifth
      exact Option.some.inj (Option.some.inj fifth)
    rw [InBypass, zeros, Option.some.injEq] at bypass
    have length := congrArg List.length bypass
    rw [List.length_replicate, List.length_replicate] at length
    rw [← length] at bypass
    revert bypass
    decide

end BlackMagic.Proofs.JtagAccess

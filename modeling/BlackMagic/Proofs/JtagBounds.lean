import BlackMagic.Proofs.JtagWire

/-! The scan of a chain stays inside the array of devices and comes to an end, whatever bits the
wire gives, exactly if they are not those of `JTAG_MAX_DEVS` complete instruction registers and, with
as many identifications, not those of a chain in bypass without an end. -/

namespace BlackMagic.Proofs.JtagBounds
open BlackMagic.JtagWire
open Jtag (JtagDev IrQuirks IrScan Access jtagMaxDevs jtagMaxIrLen jtagDeviceGetQuirks wordAt storeTdo)
open Proofs.JtagScan

section Bits

/-- The word that comes in the place of the identification of a device. -/
def idcode (bits : Stream' Bool) (device : Nat) : BitVec 32 :=
  (BitVec.ofBoolListLE ((bits.drop (32 * device)).take 32)).setWidth 32

/-- So many identifications and then ones. -/
structure Identified (bits : Stream' Bool) (count : Nat) : Prop where
  fits : count ≤ jtagMaxDevs
  real : ∀ device < count, idcode bits device ≠ 0xffffffff#32
  last : idcode bits count = 0xffffffff#32

/-- The quirks of a device. Those of a device without an identification are those of a cleared
entry. -/
def quirks (bits : Stream' Bool) (count device : Nat) : IrQuirks :=
  jtagDeviceGetQuirks (if device < count then idcode bits device else 0#32)

/-- The bits begin with a complete instruction register: the bits that the quirks ask for, or a
bit, zeros and the one that is the next register's. -/
def Captured (quirks : IrQuirks) (bits : Stream' Bool) (length : Nat) : Prop :=
  if quirks.irLength = 0#8 then
    2 ≤ length ∧ length ≤ jtagMaxIrLen ∧ (∀ i, 1 ≤ i → i < length → bits.get i = false) ∧ bits.get length = true
  else length = quirks.irLength.toNat ∧ ∀ i < length, quirks.irValue.getLsbD i = bits.get i

/-- The bits begin with the instruction registers of devices, from one on. -/
def Captures (quirks : Nat → IrQuirks) : Nat → Stream' Bool → List Nat → Prop
  | _, _, [] => True
  | device, bits, length :: rest =>
    Captured (quirks device) bits length ∧ Captures quirks (device + 1) (bits.drop length) rest

/-- The second bit is a one: there is no further device. -/
def Ends (quirks : IrQuirks) (bits : Stream' Bool) : Prop := quirks.irLength = 0#8 ∧ bits.get 1 = true

/-- What comes after the reset. -/
def identBits (tdo : Stream' Bool) : Stream' Bool := tdo.drop (51 + 16 + 6 + 3)

/-- What comes after the identifications. -/
def irBits (tdo : Stream' Bool) (count : Nat) : Stream' Bool := (identBits tdo).drop (32 * (count + 1) + 1 + 2 + 4)

/-- What comes after the instruction registers. -/
def bypassBits (tdo : Stream' Bool) (count read : Nat) : Stream' Bool := (irBits tdo count).drop (read + 1 + 2 + 3)

/-- The bits are such that the array suffices. -/
structure Bounded (tdo : Stream' Bool) : Prop where
  few : ∀ count lengths, Identified (identBits tdo) count →
    Captures (quirks (identBits tdo) count) 0 (irBits tdo count) lengths → lengths.length ≠ jtagMaxDevs
  counted : ∀ lengths, Identified (identBits tdo) jtagMaxDevs →
    Captures (quirks (identBits tdo) jtagMaxDevs) 0 (irBits tdo jtagMaxDevs) lengths →
    Ends (quirks (identBits tdo) jtagMaxDevs lengths.length) ((irBits tdo jtagMaxDevs).drop lengths.sum) →
    ∃ device ≤ jtagMaxDevs, (bypassBits tdo jtagMaxDevs (lengths.sum + 2)).get device = true

end Bits

section Wires

theorem drive_stream (tdo : Stream' Bool) (cycles : List (Bool × Bool)) :
    drive tdo cycles = (tdo.take cycles.length, tdo.drop cycles.length) := by
  induction cycles generalizing tdo with
  | nil => rfl
  | cons cycle rest ih =>
    simp only [drive, ih]
    rfl

theorem tmsSeq_stream (tmsStates : BitVec 32) (clockCycles : Nat) (tdo : Stream' Bool) :
    jtagtapTmsSeq tmsStates clockCycles tdo = tdo.drop clockCycles := by
  rw [jtagtapTmsSeq, drive_stream, List.length_map, List.length_range]

theorem tdiTdoSeq_stream (dataOut : Buffer) (finalTms : Bool) (dataIn : Buffer) (clockCycles : Nat) (tdo : Stream' Bool) :
    jtagtapTdiTdoSeq dataOut finalTms dataIn clockCycles tdo
      = (storeTdo (tdo.take clockCycles) 0 0#8 dataOut, tdo.drop clockCycles) := by
  rw [jtagtapTdiTdoSeq, drive_stream, Jtag.tdiCycles, List.length_map, List.length_range]

theorem next_stream (tms tdi : Bool) (tdo : Stream' Bool) : jtagtapNext tms tdi tdo = (tdo.head, tdo.tail) := rfl

theorem init_stream (tdo : Stream' Bool) : jtagtapInit tdo = tdo.drop (51 + 16) := by
  rw [jtagtapInit, drive_stream, tmsSeq_stream, Stream'.drop_drop, List.length_replicate]

theorem leave_stream (scanner : Scanner (Stream' Bool)) :
    (scanner.pins fun wire => (jtagtapNext true true wire).2).pins (jtagtapReturnIdle 1)
      = { scanner with wire := scanner.wire.drop (1 + 2) } := by
  simp only [Scanner.pins, next_stream, jtagtapReturnIdle, tmsSeq_stream, Stream'.tail_eq_drop, Stream'.drop_drop]

theorem wordAt_taken (bits : Stream' Bool) (dataOut : Buffer) :
    wordAt (storeTdo (bits.take 32) 0 0#8 dataOut) = (BitVec.ofBoolListLE (bits.take 32)).setWidth 32 := by
  have listed : bits.take 32 = (List.range 32).map ((BitVec.ofBoolListLE (bits.take 32)).setWidth 32).getLsbD := by
    apply List.ext_getElem (by simp)
    intro i inside there
    have bound : i < 32 := by simpa using inside
    rw [List.getElem_map, List.getElem_range, BitVec.getLsbD_setWidth, BitVec.getLsbD_ofBoolListLE,
      List.getD_eq_getElem _ _ inside]
    simp [bound]
  conv_lhs => rw [listed]
  exact wordAt_stored _ dataOut

end Wires

section Registers
variable {quirks : Nat → IrQuirks} {device : Nat} {bits : Stream' Bool}

theorem Captured.unique {quirks : IrQuirks} {first second : Nat} (one : Captured quirks bits first)
    (other : Captured quirks bits second) : first = second := by
  unfold Captured at one other
  split at one
  next usual =>
    rw [if_pos usual] at other
    obtain ⟨low, -, zeros, edge⟩ := one
    obtain ⟨low', -, zeros', edge'⟩ := other
    apply Nat.le_antisymm
    · by_contra long
      rw [zeros second (by omega) (by omega)] at edge'
      cases edge'
    · by_contra long
      rw [zeros' first (by omega) (by omega)] at edge
      cases edge
  next special =>
    rw [if_neg special] at other
    exact one.1.trans other.1.symm

theorem Captured.continues {quirks : IrQuirks} {length : Nat} (captured : Captured quirks bits length) :
    ¬ Ends quirks bits := by
  rintro ⟨usual, edge⟩
  unfold Captured at captured
  rw [if_pos usual] at captured
  obtain ⟨low, -, zeros, -⟩ := captured
  rw [zeros 1 (Nat.le_refl 1) low] at edge
  cases edge

theorem Captures.snoc {lengths : List Nat} {length : Nat} (captures : Captures quirks device bits lengths)
    (next : Captured (quirks (device + lengths.length)) (bits.drop lengths.sum) length) :
    Captures quirks device bits (lengths ++ [length]) := by
  induction lengths generalizing device bits with
  | nil => exact ⟨next, trivial⟩
  | cons first rest ih =>
    refine ⟨captures.1, ih captures.2 ?_⟩
    rw [Stream'.drop_drop, show device + 1 + rest.length = device + (rest.length + 1) by omega]
    exact next

/-- Of two sequences of registers the shorter one is followed by a register. -/
theorem Captures.next {lengths others : List Nat} (captures : Captures quirks device bits lengths)
    (longer : Captures quirks device bits others) (more : lengths.length < others.length) :
    ∃ length, Captured (quirks (device + lengths.length)) (bits.drop lengths.sum) length := by
  induction lengths generalizing device bits others with
  | nil =>
    cases others with
    | nil => cases more
    | cons first rest => exact ⟨first, longer.1⟩
  | cons length lengths ih =>
    cases others with
    | nil => cases more
    | cons first rest =>
      obtain rfl : length = first := captures.1.unique longer.1
      obtain ⟨next, captured⟩ := ih captures.2 longer.2 (Nat.lt_of_succ_lt_succ more)
      refine ⟨next, ?_⟩
      rw [Stream'.drop_drop, show device + 1 + lengths.length = device + (lengths.length + 1) by omega] at captured
      exact captured

/-- Where no further register fits, there is no longer sequence. -/
theorem Captures.longest {lengths others : List Nat} (captures : Captures quirks 0 bits lengths)
    (last : ∀ length, ¬ Captured (quirks lengths.length) (bits.drop lengths.sum) length)
    (other : Captures quirks 0 bits others) : others.length ≤ lengths.length := by
  by_contra more
  obtain ⟨length, captured⟩ := captures.next other (by omega)
  rw [Nat.zero_add] at captured
  exact last length captured

theorem Captures.unique {lengths others : List Nat} (captures : Captures quirks device bits lengths)
    (other : Captures quirks device bits others) (same : lengths.length = others.length) : lengths = others := by
  induction lengths generalizing device bits others with
  | nil => exact (List.length_eq_zero_iff.mp same.symm).symm
  | cons length lengths ih =>
    cases others with
    | nil => cases same
    | cons first rest =>
      obtain rfl : length = first := captures.1.unique other.1
      rw [ih captures.2 other.2 (Nat.succ.inj same)]

theorem Captures.take {lengths : List Nat} (captures : Captures quirks device bits lengths) (count : Nat) :
    Captures quirks device bits (lengths.take count) := by
  induction lengths generalizing device bits count with
  | nil => rw [List.take_nil]; trivial
  | cons length rest ih =>
    cases count with
    | zero => trivial
    | succ count => exact ⟨captures.1, ih captures.2 count⟩

end Registers

section Idcodes

/-- The indices used are those of the array. -/
def Inside (scanner : Scanner (Stream' Bool)) : Prop := ∀ index ∈ scanner.indices, index < jtagMaxDevs

theorem Inside.visit {scanner : Scanner (Stream' Bool)} (inside : Inside scanner) {devices : List Nat}
    (fit : ∀ index ∈ devices, index < jtagMaxDevs) : Inside (scanner.visit devices) := by
  intro index used
  cases List.mem_append.mp used with
  | inl before => exact inside index before
  | inr now => exact fit index now

theorem Inside.visit_one {scanner : Scanner (Stream' Bool)} (inside : Inside scanner) {device : Nat}
    (fits : device < jtagMaxDevs) : Inside (scanner.visit [device]) :=
  inside.visit fun _ listed => (List.mem_singleton.mp listed).symm ▸ fits

/-- The entries hold the identifications of the devices before one. -/
def Listed (bits : Stream' Bool) (count : Nat) (scanner : Scanner (Stream' Bool)) : Prop :=
  ∀ device < jtagMaxDevs, (scanner.jtagDevs device).jdIdcode = if device < count then idcode bits device else 0#32

theorem Identified.unique {bits : Stream' Bool} {count other : Nat} (one : Identified bits count)
    (two : Identified bits other) : count = other := by
  apply Nat.le_antisymm
  · by_contra more
    exact one.real other (by omega) two.last
  · by_contra more
    exact two.real count (by omega) one.last

private theorem scanIdcodes_stream (bits : Stream' Bool) {more device : Nat} {scanner : Scanner (Stream' Bool)}
    (left : more + device = jtagMaxDevs + 1) (wire : scanner.wire = bits.drop (32 * device))
    (real : ∀ earlier < device, idcode bits earlier ≠ 0xffffffff#32) (listed : Listed bits device scanner)
    (inside : Inside scanner) :
    (∃ after, scanIdcodes more device scanner = (none, after) ∧ Inside after ∧ ∀ count, ¬ Identified bits count) ∨
      ∃ count after, scanIdcodes more device scanner = (some count, after) ∧ Inside after ∧ Identified bits count ∧
        Listed bits count after ∧ after.wire = bits.drop (32 * (count + 1)) := by
  induction more generalizing device scanner with
  | zero =>
    refine .inl ⟨scanner, rfl, inside, ?_⟩
    intro count identified
    exact real count (by have := identified.fits; omega) identified.last
  | succ more ih =>
    have word : wordAt (jtagtapTdiTdoSeq (fun _ => 0#8) false scanner.ones 32 scanner.wire).1 = idcode bits device := by
      rw [tdiTdoSeq_stream, wordAt_taken, wire]
      rfl
    have rest : (jtagtapTdiTdoSeq (fun _ => 0#8) false scanner.ones 32 scanner.wire).2 = bits.drop (32 * (device + 1)) := by
      rw [tdiTdoSeq_stream, wire, Stream'.drop_drop, Nat.mul_succ]
    rw [scanIdcodes]
    simp only [word, rest]
    by_cases last : idcode bits device = 0xffffffff#32
    · rw [if_pos last]
      exact .inr ⟨device, _, rfl, inside, ⟨by omega, real, last⟩, listed, rfl⟩
    · rw [if_neg last]
      have still : ∀ earlier < device + 1, idcode bits earlier ≠ 0xffffffff#32 := by
        intro earlier below
        by_cases here : earlier = device
        · exact here ▸ last
        · exact real earlier (by omega)
      by_cases many : device = jtagMaxDevs
      · rw [if_pos many]
        refine .inl ⟨_, rfl, inside, ?_⟩
        intro count identified
        exact still count (by have := identified.fits; omega) identified.last
      · rw [if_neg many]
        apply ih (by omega) rfl still
        · intro other below
          simp only [Scanner.setDev]
          by_cases here : other = device
          · rw [if_pos here, if_pos (by omega), here]
          · rw [if_neg here]
            apply (listed other below).trans
            by_cases before : other < device
            · rw [if_pos before, if_pos (by omega)]
            · rw [if_neg before, if_neg (by omega)]
        · exact Inside.visit_one inside (by omega)

/-- The identifications: none if there are too many, else what the entries hold. -/
theorem readIdcodes_stream {tdo : Stream' Bool} {scanner : Scanner (Stream' Bool)}
    (wire : scanner.wire = tdo.drop (51 + 16)) (listed : Listed (identBits tdo) 0 scanner) (inside : Inside scanner) :
    (∃ after, jtagReadIdcodes scanner = (false, after) ∧ Inside after ∧ after.jtagDevCount = 0 ∧
        ∀ count, ¬ Identified (identBits tdo) count) ∨
      ∃ count after, jtagReadIdcodes scanner = (true, after) ∧ Inside after ∧ after.jtagDevCount = count ∧
        Identified (identBits tdo) count ∧ Listed (identBits tdo) count after ∧
        after.wire = (identBits tdo).drop (32 * (count + 1) + 1 + 2) := by
  have started : ((scanner.pins jtagtapReset).pins jtagtapShiftDr).wire = (identBits tdo).drop (32 * 0) := by
    simp only [Scanner.pins, jtagtapReset, jtagtapSoftReset, jtagtapShiftDr, tmsSeq_stream, wire, Stream'.drop_drop]
    rfl
  have all : jtagMaxDevs + 1 + 0 = jtagMaxDevs + 1 := rfl
  have scanned := scanIdcodes_stream (identBits tdo) all started (by simp) listed inside
  rw [jtagReadIdcodes]
  obtain ⟨after, result, inside, none⟩ | ⟨count, after, result, inside, identified, listed, rest⟩ := scanned
  · simp only [result]
    exact .inl ⟨_, rfl, inside, rfl, none⟩
  · simp only [result, leave_stream]
    refine .inr ⟨count, _, rfl, inside, rfl, identified, listed, ?_⟩
    rw [rest, Stream'.drop_drop]

end Idcodes

section Registers
variable {ω : Type} [Wire ω]

/-- Every index used before is in the record after. -/
def Recorded (before after : Scanner ω) : Prop := before.indices <+: after.indices

private theorem scanIrs_recorded (fuel : Nat) (scan : IrScan) (scanner : Scanner ω) :
    Recorded scanner (scanIrs fuel scan scanner).2 := by
  induction fuel generalizing scan scanner with
  | zero => exact List.prefix_rfl
  | succ fuel ih =>
    rw [scanIrs]
    split
    · simp only
      split
      · exact List.prefix_rfl
      · split
        · split
          · exact List.prefix_rfl
          · apply List.IsPrefix.trans _ (ih _ _)
            exact (List.prefix_append _ _).trans (List.prefix_append _ _)
        · apply List.IsPrefix.trans _ (ih _ _)
          exact List.prefix_rfl
    · exact List.prefix_rfl

/-- The bits of a register so far. -/
def Seen (quirks : IrQuirks) (bits : Stream' Bool) (read : Nat) : Prop :=
  if quirks.irLength = 0#8 then ∀ i, 1 ≤ i → i < read → bits.get i = false
  else read < quirks.irLength.toNat ∧ ∀ i < read, quirks.irValue.getLsbD i = bits.get i

/-- The loop behind the registers of some devices, with a few bits of the next one read. -/
structure Walking (quirks : Nat → IrQuirks) (bits : Stream' Bool) (lengths : List Nat) (read : Nat) (scan : IrScan)
    (scanner : Scanner (Stream' Bool)) : Prop where
  captures : Captures quirks 0 bits lengths
  few : lengths.length < jtagMaxDevs
  device : scan.device = lengths.length
  irLen : scan.irLen = BitVec.ofNat 8 read
  irQuirks : scan.irQuirks = quirks lengths.length
  short : read ≤ 17
  wire : scanner.wire = bits.drop (lengths.sum + read)
  seen : Seen (quirks lengths.length) (bits.drop lengths.sum) read
  known : ∀ device < jtagMaxDevs, quirksOf scanner device = quirks device
  inside : Inside scanner

/-- How the loop ends: no register fits the bits, the end of the chain, or too many registers. -/
inductive Walked (quirks : Nat → IrQuirks) (bits : Stream' Bool) (count : Nat) :
    Option Bool × Scanner (Stream' Bool) → Prop
  | stuck {lengths scanner} : Captures quirks 0 bits lengths → lengths.length < jtagMaxDevs →
      (∀ length, ¬ Captured (quirks lengths.length) (bits.drop lengths.sum) length) →
      ¬ Ends (quirks lengths.length) (bits.drop lengths.sum) → Inside scanner →
      Walked quirks bits count (some false, { scanner with jtagDevCount := 0 })
  | ended {lengths scanner} : Captures quirks 0 bits lengths → lengths.length < jtagMaxDevs →
      Ends (quirks lengths.length) (bits.drop lengths.sum) → Inside scanner → scanner.jtagDevCount = count →
      scanner.wire = bits.drop (lengths.sum + 2) → Walked quirks bits count (some true, scanner)
  | beyond {lengths result} : Captures quirks 0 bits lengths → lengths.length = jtagMaxDevs →
      jtagMaxDevs ∈ result.2.indices → Walked quirks bits count result

/-- What the scan writes down for a device. -/
private def describeIr (length prescan : Nat) (dev : JtagDev) : JtagDev :=
  { dev with irLen := BitVec.ofNat 8 length, irPrescan := BitVec.ofNat 8 prescan, currentIr := 0xffffffff#32 }

/-- The loop goes on with the next device. -/
private def nextDevice (more prescan device length read : Nat) (scanner : Scanner ω) : Option Bool × Scanner ω :=
  let described := scanner.setDev device (describeIr length prescan)
  scanIrs more ⟨prescan + length, device + 1, BitVec.ofNat 8 read, quirksOf described (device + 1)⟩
    (described.visit [device + 1])

variable {more prescan device : Nat} {scanner : Scanner ω}

private theorem scanIrs_usual {read : Nat} (fits : read ≤ 16) :
    scanIrs (more + 1) ⟨prescan, device, BitVec.ofNat 8 read, ⟨0#16, 0#8⟩⟩ scanner
      = let next : Scanner ω := { scanner with wire := (jtagtapNext false true scanner.wire).2 }
        if (jtagtapNext false true scanner.wire).1 = true ∧ 0 < read then
          if read = 1 then (some true, next) else nextDevice more prescan device read 1 next
        else scanIrs more ⟨prescan, device, BitVec.ofNat 8 (read + 1), ⟨0#16, 0#8⟩⟩ next := by
  obtain ⟨size, succ, edge, two, _, nonzero, back, _⟩ := irLen_facts read fits
  have described : describeIr read prescan = fun dev =>
      { dev with irLen := BitVec.ofNat 8 read, irPrescan := BitVec.ofNat 8 prescan, currentIr := 0xffffffff#32 } := rfl
  rw [scanIrs]
  simp only [size, jtagMaxIrLen, fits, if_true, ne_eq, not_true_eq_false, false_and, true_and, if_false, succ, edge,
    two, nonzero, or_false, back, nextDevice, described]

private theorem scanIrs_six {read : Nat} (fits : read ≤ 16) :
    scanIrs (more + 1) ⟨prescan, device, BitVec.ofNat 8 read, ⟨1#16, 6#8⟩⟩ scanner
      = let next : Scanner ω := { scanner with wire := (jtagtapNext false true scanner.wire).2 }
        if decide (read = 0) ≠ (jtagtapNext false true scanner.wire).1 then next.failed.map some id
        else if read = 5 then nextDevice more prescan device 6 0 next
        else scanIrs more ⟨prescan, device, BitVec.ofNat 8 (read + 1), ⟨1#16, 6#8⟩⟩ next := by
  obtain ⟨size, succ, _, _, six, _, _, expected⟩ := irLen_facts read fits
  have some : ¬ (6#8 = 0#8) := by decide
  rw [scanIrs]
  simp only [size, jtagMaxIrLen, fits, if_true, succ, expected, ne_eq, some, not_false_eq_true, true_and, false_and,
    false_or, six, if_false]
  by_cases last : read = 5
  · subst last
    rfl
  · simp only [last, if_false]

end Registers

section Walks
variable {quirks : Nat → IrQuirks} {bits : Stream' Bool} {count : Nat}

/-- What the loop does with the fuel it has: it has not ended yet, which takes only so many bits,
or it ends in one of the ways there are. -/
def Goes (quirks : Nat → IrQuirks) (bits : Stream' Bool) (count : Nat) (lengths : List Nat) (read fuel : Nat)
    (result : Option Bool × Scanner (Stream' Bool)) : Prop :=
  (result.1 = none ∧ Inside result.2 ∧ fuel + read ≤ 18 * (jtagMaxDevs - lengths.length)) ∨ Walked quirks bits count result

/-- The loop does so from every place that it reaches. -/
def GoesOn (quirks : Nat → IrQuirks) (bits : Stream' Bool) (count fuel : Nat) : Prop :=
  ∀ {lengths : List Nat} {read : Nat} {scan : IrScan} {scanner : Scanner (Stream' Bool)},
    Walking quirks bits lengths read scan scanner → scanner.jtagDevCount = count →
      Goes quirks bits count lengths read fuel (scanIrs fuel scan scanner)

theorem Goes.weaken {lengths others : List Nat} {read more fuel fewer : Nat} {result : Option Bool × Scanner (Stream' Bool)}
    (goes : Goes quirks bits count lengths read fewer result)
    (less : fewer + read ≤ 18 * (jtagMaxDevs - lengths.length) → fuel + more ≤ 18 * (jtagMaxDevs - others.length)) :
    Goes quirks bits count others more fuel result := by
  cases goes with
  | inl short => exact .inl ⟨short.1, short.2.1, less short.2.2⟩
  | inr walked => exact .inr walked

private theorem nextDevice_goes {fuel : Nat} (on : GoesOn quirks bits count fuel) {lengths : List Nat}
    {prescan length read later : Nat} (scanner : Scanner (Stream' Bool)) (few : lengths.length < jtagMaxDevs)
    (captures : Captures quirks 0 bits (lengths ++ [length])) (past : later ≤ 1) (short : read ≤ 17)
    (seen : ∀ special, Seen (quirks special) (bits.drop (lengths.sum + length)) later)
    (wire : scanner.wire = bits.drop (lengths.sum + length + later))
    (known : ∀ device < jtagMaxDevs, quirksOf scanner device = quirks device) (inside : Inside scanner)
    (counted : scanner.jtagDevCount = count) :
    Goes quirks bits count lengths read (fuel + 1) (nextDevice fuel prescan lengths.length length later scanner) := by
  have size : (lengths ++ [length]).length = lengths.length + 1 := List.length_append
  have sum : (lengths ++ [length]).sum = lengths.sum + length := by simp
  rw [nextDevice]
  by_cases full : lengths.length + 1 = jtagMaxDevs
  · refine .inr (.beyond captures (size.trans full) ((scanIrs_recorded _ _ _).mem ?_))
    rw [full]
    exact List.mem_append_right _ (List.mem_singleton_self _)
  · have same : ∀ device, quirksOf (scanner.setDev lengths.length (describeIr length prescan)) device
        = quirksOf scanner device := by
      intro device
      simp only [quirksOf, Scanner.setDev]
      split
      next here => rw [here, describeIr]
      next => rfl
    have walking : Walking quirks bits (lengths ++ [length]) later
        ⟨prescan + length, lengths.length + 1, BitVec.ofNat 8 later,
          quirksOf (scanner.setDev lengths.length (describeIr length prescan)) (lengths.length + 1)⟩
        ((scanner.setDev lengths.length (describeIr length prescan)).visit [lengths.length + 1]) :=
      { captures := captures
        few := by omega
        device := size.symm
        irLen := rfl
        irQuirks := by rw [same, known _ (by omega), size]
        short := by omega
        wire := by rw [sum]; exact wire
        seen := by rw [sum]; exact seen _
        known := fun device below => (same device).trans (known device below)
        inside := (inside.visit_one few).visit_one (by omega) }
    exact (on walking counted).weaken (by omega)

/-- Before its second bit nothing is known of a register. -/
private theorem seen_start (known : IrQuirks) (table : known = ⟨0#16, 0#8⟩ ∨ known = ⟨1#16, 6#8⟩) (bits : Stream' Bool)
    {read : Nat} (past : read ≤ 1) (edge : read = 1 → bits.get 0 = true) : Seen known bits read := by
  obtain rfl | rfl := table
  · intro i low high
    omega
  · refine ⟨Nat.lt_of_le_of_lt past (by decide), ?_⟩
    intro i below
    obtain rfl : i = 0 := by omega
    rw [edge (by omega)]
    decide

variable {lengths : List Nat} {read fuel : Nat} {scan : IrScan} {scanner : Scanner (Stream' Bool)}

theorem Walking.bit (walking : Walking quirks bits lengths read scan scanner) :
    (jtagtapNext false true scanner.wire).1 = (bits.drop lengths.sum).get read := by
  rw [next_stream, walking.wire, Stream'.head_drop, Stream'.get_drop]

theorem Walking.rest (walking : Walking quirks bits lengths read scan scanner) :
    (jtagtapNext false true scanner.wire).2 = bits.drop (lengths.sum + read + 1) := by
  rw [next_stream, walking.wire, Stream'.tail_drop']

private theorem usual_goes (table : ∀ device, quirks device = ⟨0#16, 0#8⟩ ∨ quirks device = ⟨1#16, 6#8⟩)
    (on : GoesOn quirks bits count fuel) (walking : Walking quirks bits lengths read scan scanner)
    (counted : scanner.jtagDevCount = count) (usual : quirks lengths.length = ⟨0#16, 0#8⟩) (fits : read ≤ 16) :
    Goes quirks bits count lengths read (fuel + 1) (scanIrs (fuel + 1) scan scanner) := by
  obtain ⟨prescan, device, irLen, irQuirks⟩ := scan
  obtain rfl : device = lengths.length := walking.device
  obtain rfl : irLen = BitVec.ofNat 8 read := walking.irLen
  obtain rfl : irQuirks = ⟨0#16, 0#8⟩ := walking.irQuirks.trans usual
  have seen := walking.seen
  rw [usual] at seen
  rw [scanIrs_usual fits]
  simp only [walking.bit, walking.rest]
  split
  next edge =>
    obtain ⟨one, started⟩ := edge
    split
    next ends =>
      subst ends
      refine .inr (.ended walking.captures walking.few ⟨by rw [usual], one⟩ walking.inside counted rfl)
    next long =>
      have captured : Captured (quirks (0 + lengths.length)) (bits.drop lengths.sum) read := by
        rw [Nat.zero_add, usual]
        exact ⟨by omega, fits, seen, one⟩
      apply nextDevice_goes on { scanner with wire := bits.drop (lengths.sum + read + 1) } walking.few
        (walking.captures.snoc captured) (Nat.le_refl 1) walking.short _ rfl walking.known walking.inside counted
      intro special
      apply seen_start _ (table special) _ (Nat.le_refl 1)
      intro _
      rw [Stream'.get_drop] at one
      rw [Stream'.get_drop]
      exact one
  next zero =>
    have later : Walking quirks bits lengths (read + 1)
        ⟨prescan, lengths.length, BitVec.ofNat 8 (read + 1), ⟨0#16, 0#8⟩⟩
        { scanner with wire := bits.drop (lengths.sum + read + 1) } :=
      { walking with
        irLen := rfl
        irQuirks := usual.symm
        short := by omega
        wire := rfl
        seen := by
          rw [usual]
          intro i low high
          by_cases here : i = read
          · subst here
            cases known : (bits.drop lengths.sum).get i with
            | false => rfl
            | true => exact absurd ⟨known, low⟩ zero
          · exact seen i low (by omega) }
    exact (on later counted).weaken (by omega)

private theorem six_goes (table : ∀ device, quirks device = ⟨0#16, 0#8⟩ ∨ quirks device = ⟨1#16, 6#8⟩)
    (on : GoesOn quirks bits count fuel) (walking : Walking quirks bits lengths read scan scanner)
    (counted : scanner.jtagDevCount = count) (six : quirks lengths.length = ⟨1#16, 6#8⟩) :
    Goes quirks bits count lengths read (fuel + 1) (scanIrs (fuel + 1) scan scanner) := by
  obtain ⟨prescan, device, irLen, irQuirks⟩ := scan
  obtain rfl : device = lengths.length := walking.device
  obtain rfl : irLen = BitVec.ofNat 8 read := walking.irLen
  obtain rfl : irQuirks = ⟨1#16, 6#8⟩ := walking.irQuirks.trans six
  have seen := walking.seen
  rw [six] at seen
  obtain ⟨short, matching⟩ : read < 6 ∧ _ := seen
  have value : (1#16).getLsbD read = decide (read = 0) := (irLen_facts read (by omega)).2.2.2.2.2.2.2
  rw [scanIrs_six (by omega)]
  simp only [walking.bit, walking.rest]
  split
  next differs =>
    refine .inr (.stuck walking.captures walking.few ?_ ?_ walking.inside)
    · rw [six]
      rintro length ⟨rfl, equal⟩
      exact differs (value.symm.trans (equal read short))
    · rw [six]
      rintro ⟨usual, -⟩
      cases usual
  next equal =>
    have agree : ∀ i < read + 1, (1#16).getLsbD i = (bits.drop lengths.sum).get i := by
      intro i below
      by_cases here : i = read
      · rw [here, value]
        exact not_not.mp equal
      · exact matching i (by omega)
    split
    next last =>
      subst last
      have captured : Captured (quirks (0 + lengths.length)) (bits.drop lengths.sum) 6 := by
        rw [Nat.zero_add, six]
        exact ⟨rfl, agree⟩
      apply nextDevice_goes on { scanner with wire := bits.drop (lengths.sum + 5 + 1) } walking.few
        (walking.captures.snoc captured) (Nat.zero_le 1) walking.short _ rfl walking.known walking.inside counted
      intro special
      apply seen_start _ (table special) _ (Nat.zero_le 1)
      intro never
      cases never
    next inner =>
      have later : Walking quirks bits lengths (read + 1)
          ⟨prescan, lengths.length, BitVec.ofNat 8 (read + 1), ⟨1#16, 6#8⟩⟩
          { scanner with wire := bits.drop (lengths.sum + read + 1) } :=
        { walking with
          irLen := rfl
          irQuirks := six.symm
          short := by omega
          wire := rfl
          seen := by
            rw [six]
            exact ⟨show read + 1 < 6 by omega, agree⟩ }
      exact (on later counted).weaken (by omega)

/-- Seventeen bits without an end: no register is that long. -/
private theorem long_goes (walking : Walking quirks bits lengths 17 scan scanner)
    (table : ∀ device, quirks device = ⟨0#16, 0#8⟩ ∨ quirks device = ⟨1#16, 6#8⟩) :
    Walked quirks bits count (scanIrs (fuel + 1) scan scanner) := by
  have seen := walking.seen
  have tooLong : ¬ scan.irLen.toNat ≤ jtagMaxIrLen := by
    rw [walking.irLen]
    decide
  rw [scanIrs, if_neg tooLong]
  cases table lengths.length with
  | inl usual =>
    rw [usual] at seen
    refine .stuck walking.captures walking.few ?_ ?_ walking.inside
    · rw [usual]
      rintro length ⟨low, high, -, edge⟩
      rw [seen length (by omega) (Nat.lt_succ_of_le high)] at edge
      cases edge
    · rintro ⟨-, edge⟩
      rw [seen 1 (Nat.le_refl 1) (by omega)] at edge
      cases edge
  | inr six =>
    rw [six] at seen
    exact absurd seen.1 (by decide)

/-- The loop over the instruction registers, from wherever it stands. -/
theorem scanIrs_goes (table : ∀ device, quirks device = ⟨0#16, 0#8⟩ ∨ quirks device = ⟨1#16, 6#8⟩) (fuel : Nat) :
    GoesOn quirks bits count fuel := by
  induction fuel with
  | zero =>
    intro lengths read scan scanner walking counted
    have few := walking.few
    have short := walking.short
    exact .inl ⟨rfl, walking.inside, by omega⟩
  | succ fuel ih =>
    intro lengths read scan scanner walking counted
    by_cases long : read = 17
    · subst long
      exact .inr (long_goes walking table)
    · have fits : read ≤ 16 := by have := walking.short; omega
      cases table lengths.length with
      | inl usual => exact usual_goes table ih walking counted usual fits
      | inr six => exact six_goes table ih walking counted six

end Walks

section Phases
variable {ω : Type} [Wire ω]

private theorem countBypassed_recorded (more device : Nat) (scanner : Scanner ω) :
    Recorded scanner (countBypassed more device scanner).2 := by
  induction more generalizing device scanner with
  | zero => exact List.prefix_rfl
  | succ more ih =>
    rw [countBypassed]
    simp only
    split
    · exact List.prefix_rfl
    · apply List.IsPrefix.trans _ (ih _ _)
      exact List.prefix_append _ _

private theorem sanityCheck_recorded (scanner : Scanner ω) : Recorded scanner (jtagSanityCheck scanner).2 := by
  have counted := countBypassed_recorded ((scanner.pins jtagtapShiftDr).jtagDevCount + 1) 0 (scanner.pins jtagtapShiftDr)
  rw [jtagSanityCheck]
  simp only
  split
  · exact counted
  · exact counted

private theorem fillPostscan_recorded (idx : Nat) (postscan : BitVec 8) (scanner : Scanner ω) :
    Recorded scanner (fillPostscan idx postscan scanner) := by
  induction idx generalizing postscan scanner with
  | zero => exact List.prefix_rfl
  | succ idx ih =>
    apply List.IsPrefix.trans _ (ih _ _)
    exact List.prefix_append _ _

private theorem shiftDr_indices (devIndex : Nat) (dataOut : Option Buffer) (dataIn : Buffer) (clockCycles : Nat)
    (scanner : Scanner ω) :
    (jtagDevShiftDr devIndex dataOut dataIn clockCycles scanner).2.indices = scanner.indices ++ [devIndex] ∧
      (jtagDevShiftDr devIndex dataOut dataIn clockCycles scanner).2.jtagDevCount = scanner.jtagDevCount := by
  cases dataOut with
  | none => exact ⟨rfl, rfl⟩
  | some dataOut => exact ⟨rfl, rfl⟩

private theorem writeIr_indices (devIndex : Nat) (ir : BitVec 32) (scanner : Scanner ω) :
    ((jtagDevWriteIr devIndex ir scanner).indices = scanner.indices ++ [devIndex] ∨
        (jtagDevWriteIr devIndex ir scanner).indices
          = scanner.indices ++ [devIndex] ++ List.range scanner.jtagDevCount ++ [devIndex]) ∧
      (jtagDevWriteIr devIndex ir scanner).jtagDevCount = scanner.jtagDevCount := by
  rw [jtagDevWriteIr]
  simp only
  split
  · exact ⟨.inl rfl, rfl⟩
  · exact ⟨.inr rfl, rfl⟩

/-- An access uses the entry of its device and, where others are put in bypass, those of all
devices. -/
theorem access_indices (request : Access) (scanner : Scanner ω) :
    (∃ devices, (access scanner request).indices = scanner.indices ++ devices ∧
        ∀ index ∈ devices, index = devIndex request ∨ index < scanner.jtagDevCount) ∧
      (access scanner request).jtagDevCount = scanner.jtagDevCount := by
  cases request with
  | writeIr devIndex ir =>
    obtain ⟨indices, counted⟩ := writeIr_indices devIndex ir scanner
    refine ⟨?_, counted⟩
    cases indices with
    | inl same => exact ⟨_, same, fun index listed => .inl (List.mem_singleton.mp listed)⟩
    | inr fresh =>
      refine ⟨[devIndex] ++ List.range scanner.jtagDevCount ++ [devIndex], ?_, ?_⟩
      · apply fresh.trans
        simp
      · intro index listed
        simp only [List.mem_append, List.mem_singleton, List.mem_range] at listed
        obtain (here | other) | here := listed
        · exact .inl here
        · exact .inr other
        · exact .inl here
  | shiftDr devIndex dataOut dataIn clockCycles =>
    obtain ⟨indices, counted⟩ := shiftDr_indices devIndex dataOut dataIn clockCycles scanner
    exact ⟨⟨_, indices, fun index listed => .inl (List.mem_singleton.mp listed)⟩, counted⟩

/-- The handlers use entries of devices only. -/
private theorem accesses_indices (requests : List Access) (scanner : Scanner ω)
    (own : ∀ request ∈ requests, devIndex request < scanner.jtagDevCount) :
    (∃ devices, (requests.foldl access scanner).indices = scanner.indices ++ devices ∧
        ∀ index ∈ devices, index < scanner.jtagDevCount) ∧
      (requests.foldl access scanner).jtagDevCount = scanner.jtagDevCount := by
  induction requests generalizing scanner with
  | nil => exact ⟨⟨[], (List.append_nil _).symm, fun _ never => by cases never⟩, rfl⟩
  | cons request rest ih =>
    obtain ⟨⟨devices, first, listed⟩, counted⟩ := access_indices request scanner
    have others : ∀ other ∈ rest, devIndex other < (access scanner request).jtagDevCount := by
      intro other later
      rw [counted]
      exact own other (List.mem_cons_of_mem _ later)
    obtain ⟨⟨more, second, under⟩, same⟩ := ih _ others
    refine ⟨⟨devices ++ more, ?_, ?_⟩, same.trans counted⟩
    · rw [List.foldl_cons, second, first, List.append_assoc]
    · intro index used
      cases List.mem_append.mp used with
      | inl here =>
        cases listed index here with
        | inl same => rw [same]; exact own request List.mem_cons_self
        | inr below => exact below
      | inr there => rw [← counted]; exact under index there

private theorem callHandlers_indices (handler : Handlers) (more device : Nat) (scanner : Scanner ω)
    (left : device + more = scanner.jtagDevCount) :
    (∃ devices, (callHandlers handler more device scanner).indices = scanner.indices ++ devices ∧
        ∀ index ∈ devices, index < scanner.jtagDevCount) ∧
      (callHandlers handler more device scanner).jtagDevCount = scanner.jtagDevCount := by
  induction more generalizing device scanner with
  | zero => exact ⟨⟨[], (List.append_nil _).symm, fun _ never => by cases never⟩, rfl⟩
  | succ more ih =>
    have own : ∀ request ∈ (handler device).map Subtype.val,
        devIndex request < (scanner.visit [device]).jtagDevCount := by
      intro request listed
      obtain ⟨given, -, rfl⟩ := List.mem_map.mp listed
      rw [given.2]
      exact show device < scanner.jtagDevCount by omega
    obtain ⟨⟨devices, handled, below⟩, counted⟩ := accesses_indices _ _ own
    rw [callHandlers]
    split
    · obtain ⟨⟨others, rest, under⟩, same⟩ := ih (device + 1) _ (by rw [counted]; show _ = scanner.jtagDevCount; omega)
      refine ⟨⟨device :: (devices ++ others), ?_, ?_⟩, same.trans counted⟩
      · rw [rest, handled]
        simp [Scanner.visit]
      · intro index used
        rw [counted] at under
        simp only [List.mem_cons, List.mem_append] at used
        obtain rfl | here | there := used
        · omega
        · exact below index here
        · exact under index there
    · obtain ⟨⟨others, rest, under⟩, same⟩ := ih (device + 1) (scanner.visit [device])
        (show _ = scanner.jtagDevCount by omega)
      refine ⟨⟨device :: others, ?_, ?_⟩, same⟩
      · rw [rest]
        simp [Scanner.visit]
      · intro index used
        cases List.mem_cons.mp used with
        | inl here =>
          rw [here]
          exact show device < scanner.jtagDevCount by omega
        | inr there => exact under index there

theorem jtagScan_recorded (fuel : Nat) (handler : Handlers) (scanner : Scanner ω) :
    Recorded (describeChain fuel scanner).2 (jtagScan fuel handler scanner).2 := by
  rw [jtagScan]
  cases describeChain fuel scanner with
  | mk described scanner =>
    rcases described with - | (- | -)
    · exact List.prefix_rfl
    · exact List.prefix_rfl
    · obtain ⟨⟨devices, handled, -⟩, -⟩ := callHandlers_indices handler scanner.jtagDevCount 0 scanner (Nat.zero_add _)
      exact ⟨devices, handled.symm⟩

private theorem scanIrs_cleared (fuel : Nat) (scan : IrScan) (scanner : Scanner ω)
    (failed : (scanIrs fuel scan scanner).1 = some false) : (scanIrs fuel scan scanner).2.jtagDevCount = 0 := by
  induction fuel generalizing scan scanner with
  | zero => cases failed
  | succ fuel ih =>
    rw [scanIrs] at failed ⊢
    split at failed
    next short =>
      rw [if_pos short]
      simp only at failed ⊢
      split at failed
      next differs =>
        rw [if_pos differs]
        rfl
      next fits =>
        rw [if_neg fits]
        split at failed
        next complete =>
          rw [if_pos complete]
          split at failed
          next => cases failed
          next more =>
            rw [if_neg more]
            exact ih _ _ failed
        next inner =>
          rw [if_neg inner]
          exact ih _ _ failed
    next long =>
      rw [if_neg long]
      rfl

private theorem sanityCheck_cleared (scanner : Scanner ω) (failed : (jtagSanityCheck scanner).1 = false) :
    (jtagSanityCheck scanner).2.jtagDevCount = 0 := by
  rw [jtagSanityCheck] at failed ⊢
  simp only at failed ⊢
  split at failed
  next differs =>
    rw [if_pos differs]
    rfl
  next equal =>
    rw [if_neg equal]
    exact not_not.mp (of_decide_eq_false failed)

private theorem readIdcodes_cleared (scanner : Scanner ω) (failed : (jtagReadIdcodes scanner).1 = false) :
    (jtagReadIdcodes scanner).2.jtagDevCount = 0 := by
  rw [jtagReadIdcodes] at failed ⊢
  cases scanned : scanIdcodes (jtagMaxDevs + 1) 0 ((scanner.pins jtagtapReset).pins jtagtapShiftDr) with
  | mk device after =>
    cases device with
    | none => rfl
    | some device =>
      simp only [scanned] at failed
      cases failed

private theorem describeChain_cleared (fuel : Nat) (scanner : Scanner ω)
    (failed : (describeChain fuel scanner).1 = some false) : (describeChain fuel scanner).2.jtagDevCount = 0 := by
  have identified := readIdcodes_cleared
    ({ scanner with jtagDevCount := 0, jtagDevs := clearedDevs scanner.jtagDevs }.pins jtagtapInit)
  rw [describeChain] at failed ⊢
  cases first : jtagReadIdcodes
      ({ scanner with jtagDevCount := 0, jtagDevs := clearedDevs scanner.jtagDevs }.pins jtagtapInit) with
  | mk found after =>
    rw [first] at identified
    simp only [first] at failed ⊢
    cases found with
    | false => exact identified rfl
    | true =>
      have measured := scanIrs_cleared fuel ⟨0, 0, 0#8, quirksOf (after.pins jtagtapShiftIr) 0⟩
        ((after.pins jtagtapShiftIr).visit [0])
      change (jtagReadIrs fuel after).1 = _ → (jtagReadIrs fuel after).2.jtagDevCount = 0 at measured
      simp only at failed ⊢
      cases second : jtagReadIrs fuel after with
      | mk answer scanned =>
        rw [second] at measured
        simp only [second] at failed ⊢
        rcases answer with - | (- | -)
        · cases failed
        · exact measured rfl
        · have counted := sanityCheck_cleared
            ((scanned.pins fun wire => (jtagtapNext true true wire).2).pins (jtagtapReturnIdle 1))
          simp only at failed ⊢
          cases third : jtagSanityCheck
              ((scanned.pins fun wire => (jtagtapNext true true wire).2).pins (jtagtapReturnIdle 1)) with
          | mk sane last =>
            rw [third] at counted
            simp only [third] at failed ⊢
            cases sane with
            | false => exact counted rfl
            | true => cases failed

/-- A scan that fails leaves no devices. -/
theorem jtagScan_cleared (fuel : Nat) (handler : Handlers) (scanner : Scanner ω)
    (failed : (jtagScan fuel handler scanner).1 = some false) : (jtagScan fuel handler scanner).2.jtagDevCount = 0 := by
  have described := describeChain_cleared fuel scanner
  rw [jtagScan] at failed ⊢
  cases first : describeChain fuel scanner with
  | mk found after =>
    rw [first] at described
    simp only [first] at failed ⊢
    rcases found with - | (- | -)
    · cases failed
    · exact described rfl
    · exact Nat.eq_zero_of_not_pos (of_decide_eq_false (Option.some.inj failed))

end Phases

section Bypass

private theorem countBypassed_next (more device : Nat) (scanner : Scanner (Stream' Bool)) :
    countBypassed (more + 1) device scanner
      = if scanner.wire.head = true then (device, { scanner with wire := scanner.wire.tail })
        else
          countBypassed more (device + 1) (({ scanner with wire := scanner.wire.tail }).setDev device fun dev =>
            { dev with
              drPrescan := BitVec.ofNat 8 device
              drPostscan := BitVec.ofNat 8 scanner.jtagDevCount - BitVec.ofNat 8 device - 1#8 }) := rfl

/-- The loop stops at the first one among the bits, and uses the entries before. -/
private theorem countBypassed_stream (more device : Nat) (scanner : Scanner (Stream' Bool)) :
    ∃ zeros ≤ more, (countBypassed more device scanner).1 = device + zeros ∧
      (countBypassed more device scanner).2.indices = scanner.indices ++ List.range' device zeros ∧
      (countBypassed more device scanner).2.jtagDevCount = scanner.jtagDevCount ∧
      (∀ earlier < zeros, scanner.wire.get earlier = false) ∧ (zeros < more → scanner.wire.get zeros = true) := by
  induction more generalizing device scanner with
  | zero =>
    exact ⟨0, Nat.le_refl 0, rfl, (List.append_nil _).symm, rfl, (fun _ never => by cases never), (fun never => by cases never)⟩
  | succ more ih =>
    rw [countBypassed_next]
    by_cases bit : scanner.wire.head = true
    · rw [if_pos bit]
      exact ⟨0, Nat.zero_le _, rfl, (List.append_nil _).symm, rfl, (fun _ never => by cases never), fun _ => bit⟩
    · rw [if_neg bit]
      obtain ⟨zeros, fits, stop, indices, counted, before, edge⟩ :=
        ih (device + 1) (({ scanner with wire := scanner.wire.tail }).setDev device fun dev =>
          { dev with
            drPrescan := BitVec.ofNat 8 device
            drPostscan := BitVec.ofNat 8 scanner.jtagDevCount - BitVec.ofNat 8 device - 1#8 })
      refine ⟨zeros + 1, Nat.succ_le_succ fits, ?_, ?_, counted, ?_, ?_⟩
      · apply stop.trans
        omega
      · apply indices.trans
        simp [Scanner.setDev, Scanner.visit, List.range'_succ]
      · intro earlier below
        cases earlier with
        | zero => exact Bool.eq_false_of_not_eq_true bit
        | succ earlier => exact before earlier (Nat.lt_of_succ_lt_succ below)
      · intro below
        exact edge (Nat.lt_of_succ_lt_succ below)

private theorem sanityCheck_indices (scanner : Scanner (Stream' Bool)) :
    (jtagSanityCheck scanner).2.indices
      = (countBypassed (scanner.jtagDevCount + 1) 0 (scanner.pins jtagtapShiftDr)).2.indices := by
  rw [jtagSanityCheck]
  simp only
  split
  · rfl
  · rfl

private theorem sanityCheck_counted (scanner : Scanner (Stream' Bool)) (sane : (jtagSanityCheck scanner).1 = true) :
    (jtagSanityCheck scanner).2.jtagDevCount = scanner.jtagDevCount := by
  obtain ⟨-, -, -, -, counted, -⟩ := countBypassed_stream (scanner.jtagDevCount + 1) 0 (scanner.pins jtagtapShiftDr)
  rw [jtagSanityCheck] at sane ⊢
  simp only at sane ⊢
  split at sane
  next => cases sane
  next equal =>
    rw [if_neg equal]
    exact counted

/-- The bits in bypass, for the devices counted before. -/
private theorem shiftDr_wire (scanner : Scanner (Stream' Bool)) :
    (scanner.pins jtagtapShiftDr).wire = scanner.wire.drop 3 := by
  simp only [Scanner.pins, jtagtapShiftDr, tmsSeq_stream]

private theorem sanityCheck_inside (scanner : Scanner (Stream' Bool)) (inside : Inside scanner)
    (few : scanner.jtagDevCount ≤ jtagMaxDevs)
    (ends : scanner.jtagDevCount = jtagMaxDevs → ∃ device ≤ jtagMaxDevs, (scanner.wire.drop 3).get device = true) :
    Inside (jtagSanityCheck scanner).2 := by
  obtain ⟨zeros, fits, -, indices, -, before, -⟩ :=
    countBypassed_stream (scanner.jtagDevCount + 1) 0 (scanner.pins jtagtapShiftDr)
  rw [shiftDr_wire] at before
  have bound : zeros ≤ jtagMaxDevs := by
    by_cases full : scanner.jtagDevCount = jtagMaxDevs
    · obtain ⟨device, below, one⟩ := ends full
      by_contra more
      rw [before device (by omega)] at one
      cases one
    · omega
  intro index used
  rw [sanityCheck_indices, indices] at used
  cases List.mem_append.mp used with
  | inl earlier => exact inside index earlier
  | inr now =>
    rw [List.mem_range'_1] at now
    omega

/-- With a full array and no end in bypass, the entry behind the array is used. -/
private theorem sanityCheck_beyond (scanner : Scanner (Stream' Bool)) (full : scanner.jtagDevCount = jtagMaxDevs)
    (zero : ∀ device ≤ jtagMaxDevs, (scanner.wire.drop 3).get device = false) :
    jtagMaxDevs ∈ (jtagSanityCheck scanner).2.indices := by
  obtain ⟨zeros, fits, -, indices, -, -, edge⟩ :=
    countBypassed_stream (scanner.jtagDevCount + 1) 0 (scanner.pins jtagtapShiftDr)
  rw [shiftDr_wire] at edge
  have all : zeros = jtagMaxDevs + 1 := by
    by_contra fewer
    have one := edge (by omega)
    rw [zero zeros (by omega)] at one
    cases one
  rw [sanityCheck_indices, indices, all]
  apply List.mem_append_right
  rw [List.mem_range'_1]
  omega

private theorem fillPostscan_inside (idx : Nat) (postscan : BitVec 8) {scanner : Scanner (Stream' Bool)}
    (inside : Inside scanner) (few : idx ≤ jtagMaxDevs) :
    Inside (fillPostscan idx postscan scanner) ∧
      (fillPostscan idx postscan scanner).jtagDevCount = scanner.jtagDevCount := by
  induction idx generalizing postscan scanner with
  | zero => exact ⟨inside, rfl⟩
  | succ idx ih => exact ih _ (inside.visit_one few) (Nat.le_of_succ_le few)

private theorem callHandlers_inside (handler : Handlers) {scanner : Scanner (Stream' Bool)} (inside : Inside scanner)
    (few : scanner.jtagDevCount ≤ jtagMaxDevs) : Inside (callHandlers handler scanner.jtagDevCount 0 scanner) := by
  obtain ⟨⟨devices, indices, below⟩, -⟩ :=
    callHandlers_indices handler scanner.jtagDevCount 0 scanner (Nat.zero_add _)
  intro index used
  rw [indices] at used
  cases List.mem_append.mp used with
  | inl earlier => exact inside index earlier
  | inr now => exact Nat.lt_of_lt_of_le (below index now) few

end Bypass

section Runs

/-- A scan that comes to an end, whose indices are those of the array, and that leaves no devices
when it fails. -/
structure Safe (handler : Handlers) (scanner : Scanner (Stream' Bool)) : Prop where
  terminates : ∃ fuel, (jtagScan fuel handler scanner).1.isSome
  inside : ∀ fuel, ∀ index ∈ (jtagScan fuel handler scanner).2.indices, index < jtagMaxDevs
  cleared : ∀ fuel, (jtagScan fuel handler scanner).1 = some false → (jtagScan fuel handler scanner).2.jtagDevCount = 0

variable {tdo : Stream' Bool} {scanner : Scanner (Stream' Bool)}

private theorem quirks_table (bits : Stream' Bool) (count device : Nat) :
    quirks bits count device = ⟨0#16, 0#8⟩ ∨ quirks bits count device = ⟨1#16, 6#8⟩ :=
  quirks_cases _

private theorem readIrs_goes (fuel : Nat) {count : Nat} (listed : Listed (identBits tdo) count scanner)
    (wire : scanner.wire = (identBits tdo).drop (32 * (count + 1) + 1 + 2)) (inside : Inside scanner)
    (counted : scanner.jtagDevCount = count) :
    Goes (quirks (identBits tdo) count) (irBits tdo count) count [] 0 fuel (jtagReadIrs fuel scanner) := by
  have known : ∀ device < jtagMaxDevs, quirksOf scanner device = quirks (identBits tdo) count device := by
    intro device below
    rw [quirksOf, listed device below]
    rfl
  have walking : Walking (quirks (identBits tdo) count) (irBits tdo count) [] 0
      ⟨0, 0, 0#8, quirksOf (scanner.pins jtagtapShiftIr) 0⟩ ((scanner.pins jtagtapShiftIr).visit [0]) :=
    { captures := trivial
      few := by decide
      device := rfl
      irLen := rfl
      irQuirks := known 0 (by decide)
      short := by decide
      wire := by
        simp only [Scanner.pins, Scanner.visit, jtagtapShiftIr, tmsSeq_stream, wire, Stream'.drop_drop]
        rfl
      seen := seen_start _ (quirks_table _ _ _) _ (Nat.zero_le 1) (fun never => by cases never)
      known := known
      inside := inside.visit_one (by decide) }
  exact scanIrs_goes (quirks_table _ _) fuel walking counted

/-- The probe at the start of a scan. -/
private def cleared (scanner : Scanner (Stream' Bool)) : Scanner (Stream' Bool) :=
  { scanner with jtagDevCount := 0, jtagDevs := clearedDevs scanner.jtagDevs }.pins jtagtapInit

private theorem cleared_spec (scanner : Scanner (Stream' Bool)) (bits : Stream' Bool) :
    (cleared scanner).wire = scanner.wire.drop (51 + 16) ∧ Listed bits 0 (cleared scanner) ∧
      (cleared scanner).indices = scanner.indices := by
  refine ⟨by simp only [cleared, Scanner.pins, init_stream], ?_, rfl⟩
  intro device below
  simp only [cleared, Scanner.pins, clearedDevs, if_pos below, Nat.not_lt_zero, if_false]

/-- What is left of the scan behind the instruction registers. -/
private def finish : Option Bool × Scanner (Stream' Bool) → Option Bool × Scanner (Stream' Bool)
  | (some true, scanner) =>
    match jtagSanityCheck { scanner with wire := scanner.wire.drop (1 + 2) } with
    | (false, scanner) => (some false, scanner)
    | (true, scanner) => (some true, fillPostscan scanner.jtagDevCount 0#8 scanner)
  | other => other

/-- The scan up to the point where the identifications are there. -/
private theorem describeChain_started (fuel : Nat) (wire : scanner.wire = tdo) (unused : scanner.indices = []) :
    (∃ after, describeChain fuel scanner = (some false, after) ∧ Inside after ∧
        ∀ count, ¬ Identified (identBits tdo) count) ∨
      ∃ count after, Identified (identBits tdo) count ∧ after.jtagDevCount = count ∧
        Goes (quirks (identBits tdo) count) (irBits tdo count) count [] 0 fuel (jtagReadIrs fuel after) ∧
        describeChain fuel scanner = finish (jtagReadIrs fuel after) := by
  have nothing : Inside (cleared scanner) := by
    intro index used
    rw [(cleared_spec scanner (identBits tdo)).2.2, unused] at used
    cases used
  have started : (cleared scanner).wire = tdo.drop (51 + 16) := wire ▸ (cleared_spec scanner (identBits tdo)).1
  obtain ⟨after, result, inside, -, never⟩ | ⟨count, after, result, inside, counted, identified, listed, rest⟩ :=
    readIdcodes_stream started (cleared_spec scanner (identBits tdo)).2.1 nothing
  · refine .inl ⟨after, ?_, inside, never⟩
    rw [describeChain, ← cleared]
    simp only [result]
  · refine .inr ⟨count, after, identified, counted, readIrs_goes fuel listed rest inside counted, ?_⟩
    rw [describeChain, ← cleared]
    simp only [result]
    cases jtagReadIrs fuel after with
    | mk answer scanned =>
      rcases answer with - | (- | -)
      · rfl
      · rfl
      · simp only [leave_stream, finish]
        rcases jtagSanityCheck { scanned with wire := scanned.wire.drop (1 + 2) } with ⟨- | -, last⟩
        · rfl
        · rfl

private theorem describeChain_inside (bounded : Bounded tdo) (fuel : Nat) (wire : scanner.wire = tdo)
    (unused : scanner.indices = []) :
    Inside (describeChain fuel scanner).2 ∧
      ((describeChain fuel scanner).1 = some true → (describeChain fuel scanner).2.jtagDevCount ≤ jtagMaxDevs) ∧
      ((describeChain fuel scanner).1 = none → fuel ≤ 18 * jtagMaxDevs) := by
  obtain ⟨after, failed, inside, -⟩ | ⟨count, after, identified, counted, goes, described⟩ :=
    describeChain_started fuel wire unused
  · rw [failed]
    exact ⟨inside, (fun never => by cases never), (fun never => by cases never)⟩
  · rw [described]
    cases read : jtagReadIrs fuel after with
    | mk answer scanned =>
      rw [read] at goes
      obtain ⟨short, inside, spent⟩ | walked := goes
      · obtain rfl : answer = none := short
        exact ⟨inside, (fun never => by cases never), fun _ => by simpa using spent⟩
      · cases walked with
        | stuck _ _ _ _ inside => exact ⟨inside, (fun never => by cases never), (fun never => by cases never)⟩
        | beyond captures full => exact absurd full (bounded.few count _ identified captures)
        | @ended lengths _ captures few ends inside same rest =>
          have ending : scanned.jtagDevCount = jtagMaxDevs →
              ∃ device ≤ jtagMaxDevs, ((scanned.wire.drop (1 + 2)).drop 3).get device = true := by
            intro full
            obtain rfl : count = jtagMaxDevs := same.symm.trans full
            have counted := bounded.counted lengths identified captures ends
            rw [bypassBits] at counted
            rw [rest, Stream'.drop_drop, Stream'.drop_drop]
            exact counted
          have few : scanned.jtagDevCount ≤ jtagMaxDevs := same ▸ identified.fits
          have sane := sanityCheck_inside { scanned with wire := scanned.wire.drop (1 + 2) } inside few ending
          have counted := sanityCheck_counted { scanned with wire := scanned.wire.drop (1 + 2) }
          rw [finish]
          cases checked : jtagSanityCheck { scanned with wire := scanned.wire.drop (1 + 2) } with
          | mk passed last =>
            rw [checked] at sane counted
            cases passed with
            | false => exact ⟨sane, (fun never => by cases never), (fun never => by cases never)⟩
            | true =>
              have fits : last.jtagDevCount ≤ jtagMaxDevs := (counted rfl).trans_le few
              obtain ⟨filled, same⟩ := fillPostscan_inside last.jtagDevCount 0#8 sane fits
              exact ⟨filled, fun _ => same.trans_le fits, (fun never => by cases never)⟩

private theorem safe_of_bounded (bounded : Bounded tdo) (handler : Handlers) (wire : scanner.wire = tdo)
    (unused : scanner.indices = []) : Safe handler scanner := by
  have described := fun fuel => describeChain_inside bounded fuel wire unused
  refine ⟨⟨18 * jtagMaxDevs + 1, ?_⟩, ?_, fun fuel => jtagScan_cleared fuel handler scanner⟩
  · obtain ⟨-, -, spent⟩ := described (18 * jtagMaxDevs + 1)
    rw [jtagScan]
    cases first : describeChain (18 * jtagMaxDevs + 1) scanner with
    | mk answer after =>
      rw [first] at spent
      rcases answer with - | (- | -)
      · exact absurd (spent rfl) (by omega)
      · rfl
      · rfl
  · intro fuel
    obtain ⟨inside, few, -⟩ := described fuel
    rw [jtagScan]
    cases first : describeChain fuel scanner with
    | mk answer after =>
      rw [first] at inside few
      rcases answer with - | (- | -)
      · exact inside
      · exact inside
      · exact callHandlers_inside handler inside (few rfl)

private theorem finish_recorded (result : Option Bool × Scanner (Stream' Bool)) : Recorded result.2 (finish result).2 := by
  obtain ⟨answer, scanner⟩ := result
  rcases answer with - | (- | -)
  · exact List.prefix_rfl
  · exact List.prefix_rfl
  · have counted := sanityCheck_recorded { scanner with wire := scanner.wire.drop (1 + 2) }
    rw [finish]
    cases checked : jtagSanityCheck { scanner with wire := scanner.wire.drop (1 + 2) } with
    | mk passed last =>
      rw [checked] at counted
      cases passed with
      | false => exact counted
      | true => exact counted.trans (fillPostscan_recorded _ _ _)

/-- A safe scan uses no entry behind the array at any time. -/
private theorem Safe.never {handler : Handlers} (safe : Safe handler scanner) (fuel : Nat) :
    jtagMaxDevs ∉ (describeChain fuel scanner).2.indices := by
  intro used
  exact Nat.lt_irrefl _ (safe.inside fuel _ ((jtagScan_recorded fuel handler scanner).mem used))

private theorem bounded_of_safe {handler : Handlers} (safe : Safe handler scanner) (wire : scanner.wire = tdo)
    (unused : scanner.indices = []) : Bounded tdo := by
  have never := safe.never (18 * jtagMaxDevs + 1)
  obtain ⟨-, -, -, none⟩ | ⟨count, after, identified, counted, goes, described⟩ :=
    describeChain_started (18 * jtagMaxDevs + 1) wire unused
  · exact ⟨fun count _ identified => absurd identified (none count), fun _ identified => absurd identified (none _)⟩
  · rw [described] at never
    have scanned : jtagMaxDevs ∉ (jtagReadIrs (18 * jtagMaxDevs + 1) after).2.indices :=
      fun used => never ((finish_recorded _).mem used)
    cases read : jtagReadIrs (18 * jtagMaxDevs + 1) after with
    | mk answer scanner =>
      rw [read] at goes scanned never
      obtain ⟨-, -, spent⟩ | walked := goes
      · exact absurd spent (by decide)
      · cases walked with
        | beyond _ _ used => exact absurd used scanned
        | @stuck lengths scanner captures few unfit endless =>
          refine ⟨?_, ?_⟩
          · intro other others same another full
            obtain rfl := identified.unique same
            exact absurd (captures.longest unfit another) (by omega)
          · intro others full another ends
            obtain rfl := identified.unique full
            have last := fun length (captured : Captured _ _ length) => captured.continues ends
            have equal := Nat.le_antisymm (captures.longest unfit another) (another.longest last captures)
            obtain rfl := another.unique captures equal
            exact absurd ends endless
        | @ended lengths _ captures few ends inside same rest =>
          have last := fun length (captured : Captured _ _ length) => captured.continues ends
          refine ⟨?_, ?_⟩
          · intro other others same another full
            obtain rfl := identified.unique same
            exact absurd (captures.longest last another) (by omega)
          · intro others full another ending
            obtain rfl := identified.unique full
            have behind := fun length (captured : Captured _ _ length) => captured.continues ending
            have equal := Nat.le_antisymm (captures.longest last another) (another.longest behind captures)
            obtain rfl := another.unique captures equal
            by_contra endless
            have zero : ∀ device ≤ jtagMaxDevs, ((scanner.wire.drop (1 + 2)).drop 3).get device = false := by
              intro device below
              rw [rest, Stream'.drop_drop, Stream'.drop_drop]
              apply Bool.eq_false_of_not_eq_true
              intro one
              exact endless ⟨device, below, one⟩
            have used := sanityCheck_beyond { scanner with wire := scanner.wire.drop (1 + 2) } same zero
            apply never
            rw [finish]
            cases checked : jtagSanityCheck { scanner with wire := scanner.wire.drop (1 + 2) } with
            | mk passed last =>
              rw [checked] at used
              cases passed with
              | false => exact used
              | true => exact (fillPostscan_recorded _ _ _).mem used

/-- On every stream of bits: the scan is safe exactly if the array suffices for them. -/
theorem scan_safe_iff (tdo : Stream' Bool) (devs : Nat → JtagDev) (count : Nat) (beyond : Nat → Byte) (handler : Handlers) :
    Safe handler ⟨tdo, devs, count, beyond, []⟩ ↔ Bounded tdo :=
  ⟨fun safe => bounded_of_safe safe rfl rfl, fun bounded => safe_of_bounded bounded handler rfl rfl⟩

end Runs

section Noise

/-- Ones up to the end of the identifications, and then ones and zeros in turn. -/
def alternating : Stream' Bool := fun i => decide (i < 115) || i % 2 == 1

private theorem alternating_ir (i : Nat) : (irBits alternating 0).get i = (i % 2 == 0) := by
  rw [irBits, identBits, Stream'.get_drop, Stream'.get_drop]
  show (decide _ || _) = _
  rw [decide_eq_false (by omega), Bool.false_or, Bool.eq_iff_iff, beq_iff_eq, beq_iff_eq]
  omega

private theorem alternating_captures (count device pair : Nat) :
    Captures (quirks (identBits alternating) 0) device ((irBits alternating 0).drop (2 * pair)) (List.replicate count 2) := by
  induction count generalizing device pair with
  | zero => trivial
  | succ count ih =>
    have usual : quirks (identBits alternating) 0 device = ⟨0#16, 0#8⟩ := by
      rw [quirks, if_neg (Nat.not_lt_zero device)]
      decide
    refine ⟨?_, ?_⟩
    · rw [usual]
      refine ⟨Nat.le_refl 2, by decide, ?_, ?_⟩
      · intro i low high
        rw [Stream'.get_drop, alternating_ir, beq_eq_false_iff_ne]
        omega
      · rw [Stream'.get_drop, alternating_ir, beq_iff_eq]
        omega
    · rw [Stream'.drop_drop, ← Nat.mul_succ]
      exact ih (device + 1) (pair + 1)

private theorem alternating_identified : Identified (identBits alternating) 0 := by
  have ones : ((identBits alternating).drop (32 * 0)).take 32 = List.replicate 32 true := by
    decide
  refine ⟨by decide, (fun _ never => by cases never), ?_⟩
  rw [idcode, ones]
  decide

/-- No device is there, and each pair of bits looks like the instruction register of one. -/
theorem alternating_bits_overrun :
    ¬ Safe (fun _ => []) ⟨alternating, fun _ => ⟨0#32, 0#32, 0#8, 0#8, 0#8, 0#8, 0#8⟩, 0, fun _ => 0#8, []⟩ := by
  intro safe
  have bounded : Bounded alternating := bounded_of_safe safe rfl rfl
  have captures : Captures (quirks (identBits alternating) 0) 0 (irBits alternating 0) (List.replicate jtagMaxDevs 2) :=
    alternating_captures jtagMaxDevs 0 0
  exact bounded.few 0 _ alternating_identified captures List.length_replicate

end Noise

end BlackMagic.Proofs.JtagBounds

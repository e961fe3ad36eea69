import BlackMagic.JtagWire
import BlackMagic.Proofs.JtagScan

/-! The scan on any wire. On the wire of a chain of parts it is the scan of that chain. On every
wire, whatever its bits, the indices stay inside the array of devices exactly if the instruction
registers of fewer than `JTAG_MAX_DEVS` devices are seen and the devices in bypass are counted to
an end. -/

namespace BlackMagic.Proofs.JtagWire
open BlackMagic.JtagWire
open Lib.Tap Lib.Words
open Jtag (JtagDev IrQuirks IrScan Access jtagMaxDevs jtagMaxIrLen jtagDeviceGetQuirks)

section Chains
variable {σ : Type}

/-- The probe without the record of the indices. -/
def probe (scanner : Scanner (Chain σ)) : Jtag.Probe σ :=
  ⟨scanner.wire, scanner.jtagDevs, scanner.jtagDevCount, scanner.beyondOnes⟩

private theorem drive_chain (chain : Chain σ) (cycles : List (Bool × Bool)) : drive chain cycles = chain.drive cycles := by
  induction cycles generalizing chain with
  | nil => rfl
  | cons cycle rest ih =>
    simp only [drive, Chain.drive, ih]
    rfl

private theorem tmsSeq_chain (tmsStates : BitVec 32) (clockCycles : Nat) :
    (jtagtapTmsSeq tmsStates clockCycles : Chain σ → Chain σ) = Jtag.jtagtapTmsSeq tmsStates clockCycles := by
  funext chain
  rw [jtagtapTmsSeq, drive_chain]
  rfl

private theorem tdiSeq_chain (finalTms : Bool) (dataIn : Buffer) (clockCycles : Nat) :
    (jtagtapTdiSeq finalTms dataIn clockCycles : Chain σ → Chain σ) = Jtag.jtagtapTdiSeq finalTms dataIn clockCycles := by
  funext chain
  rw [jtagtapTdiSeq, drive_chain]
  rfl

private theorem tdiTdoSeq_chain (dataOut : Buffer) (finalTms : Bool) (dataIn : Buffer) (clockCycles : Nat) (chain : Chain σ) :
    jtagtapTdiTdoSeq dataOut finalTms dataIn clockCycles chain
      = Jtag.jtagtapTdiTdoSeq dataOut finalTms dataIn clockCycles chain := by
  rw [jtagtapTdiTdoSeq, drive_chain]
  rfl

private theorem init_chain : (jtagtapInit : Chain σ → Chain σ) = Jtag.jtagtapInit := by
  funext chain
  rw [jtagtapInit, tmsSeq_chain, drive_chain]
  rfl

private theorem probe_wire (scanner : Scanner (Chain σ)) : (probe scanner).chain = scanner.wire := (rfl)

private theorem probe_devs (scanner : Scanner (Chain σ)) : (probe scanner).jtagDevs = scanner.jtagDevs := (rfl)

private theorem probe_count (scanner : Scanner (Chain σ)) : (probe scanner).jtagDevCount = scanner.jtagDevCount := (rfl)

private theorem probe_ones (scanner : Scanner (Chain σ)) : (probe scanner).ones = scanner.ones := (rfl)

private theorem probe_visit (scanner : Scanner (Chain σ)) (devices : List Nat) :
    probe (scanner.visit devices) = probe scanner := (rfl)

private theorem probe_setDev (scanner : Scanner (Chain σ)) (device : Nat) (f : JtagDev → JtagDev) :
    probe (scanner.setDev device f) = (probe scanner).setDev device f := (rfl)

private theorem probe_pins (scanner : Scanner (Chain σ)) (sequence : Chain σ → Chain σ) :
    probe (scanner.pins sequence) = (probe scanner).pins sequence := (rfl)

private theorem probe_failed (scanner : Scanner (Chain σ)) : scanner.failed.map id probe = (probe scanner).failed := (rfl)

private theorem probe_read (scanner : Scanner (Chain σ)) (wire : Chain σ) :
    probe { scanner with wire := wire } = { probe scanner with chain := wire } := (rfl)

private theorem scanIdcodes_chain (more device : Nat) (scanner : Scanner (Chain σ)) :
    (scanIdcodes more device scanner).map id probe = Jtag.scanIdcodes more device (probe scanner) := by
  induction more generalizing device scanner with
  | zero => rfl
  | succ more ih =>
    rw [scanIdcodes, Jtag.scanIdcodes]
    simp only [tdiTdoSeq_chain, probe_ones, probe_wire, ← probe_read, ← probe_setDev, ← ih]
    split
    · rfl
    · split
      · rfl
      · rfl

private theorem leave_chain (scanner : Scanner (Chain σ)) :
    probe ((scanner.pins fun wire => (jtagtapNext true true wire).2).pins (jtagtapReturnIdle 1))
      = ((probe scanner).pins fun chain => (Jtag.jtagtapNext true true chain).2).pins (Jtag.jtagtapReturnIdle 1) := by
  rw [probe_pins, probe_pins, jtagtapReturnIdle, tmsSeq_chain]
  rfl

private theorem readIdcodes_chain (scanner : Scanner (Chain σ)) :
    (jtagReadIdcodes scanner).map id probe = Jtag.jtagReadIdcodes (probe scanner) := by
  have started : probe ((scanner.pins jtagtapReset).pins jtagtapShiftDr)
      = ((probe scanner).pins Jtag.jtagtapReset).pins Jtag.jtagtapShiftDr := by
    rw [probe_pins, probe_pins, jtagtapReset, jtagtapSoftReset, jtagtapShiftDr, tmsSeq_chain, tmsSeq_chain]
    rfl
  rw [jtagReadIdcodes, Jtag.jtagReadIdcodes, ← started, ← scanIdcodes_chain]
  cases scanIdcodes (jtagMaxDevs + 1) 0 ((scanner.pins jtagtapReset).pins jtagtapShiftDr) with
  | mk device scanner =>
    cases device with
    | none => rfl
    | some device =>
      simp only [Prod.map, id, ← leave_chain]
      rfl

/-- The answer of a scan and the probe it leaves, if it ended. -/
def answer (result : Option Bool × Scanner (Chain σ)) : Option (Bool × Jtag.Probe σ) :=
  result.1.map fun found => (found, probe result.2)

private theorem answer_ended (found : Bool) (scanner : Scanner (Chain σ)) :
    answer (some found, scanner) = some (found, probe scanner) := rfl

private theorem scanIrs_chain (more : Nat) (scan : IrScan) (scanner : Scanner (Chain σ)) :
    answer (scanIrs more scan scanner) = Jtag.scanIrs more scan (probe scanner) := by
  induction more generalizing scan scanner with
  | zero => rfl
  | succ more ih =>
    have next (wire : Chain σ) : Jtag.jtagtapNext false true wire = jtagtapNext false true wire := (rfl)
    rw [scanIrs, Jtag.scanIrs]
    simp only [probe_wire, next, ← probe_read, ← probe_setDev, ← probe_failed]
    split
    · split
      · rfl
      · split
        · split
          · rfl
          · exact ih _ _
        · exact ih _ _
    · rfl

private theorem readIrs_chain (fuel : Nat) (scanner : Scanner (Chain σ)) :
    answer (jtagReadIrs fuel scanner) = Jtag.jtagReadIrs fuel (probe scanner) := by
  rw [jtagReadIrs, scanIrs_chain, probe_visit, probe_pins, jtagtapShiftIr, tmsSeq_chain]
  rfl

private theorem countBypassed_chain (more device : Nat) (scanner : Scanner (Chain σ)) :
    (countBypassed more device scanner).map id probe = Jtag.countBypassed more device (probe scanner) := by
  induction more generalizing device scanner with
  | zero => rfl
  | succ more ih =>
    have next (wire : Chain σ) : Jtag.jtagtapNext false true wire = jtagtapNext false true wire := (rfl)
    rw [countBypassed, Jtag.countBypassed]
    simp only [probe_wire, next]
    split
    · rfl
    · exact ih _ _

private theorem sanityCheck_chain (scanner : Scanner (Chain σ)) :
    (jtagSanityCheck scanner).map id probe = Jtag.jtagSanityCheck (probe scanner) := by
  have started : probe (scanner.pins jtagtapShiftDr) = (probe scanner).pins Jtag.jtagtapShiftDr := by
    rw [probe_pins, jtagtapShiftDr, tmsSeq_chain]
    rfl
  rw [jtagSanityCheck, Jtag.jtagSanityCheck, ← started]
  simp only [probe_count, ← countBypassed_chain]
  cases countBypassed ((scanner.pins jtagtapShiftDr).jtagDevCount + 1) 0 (scanner.pins jtagtapShiftDr) with
  | mk device scanner =>
    simp only [Prod.map, id, probe_count]
    split
    · rfl
    · simp only [← leave_chain, probe_count]

private theorem fillPostscan_chain (idx : Nat) (postscan : BitVec 8) (scanner : Scanner (Chain σ)) :
    probe (fillPostscan idx postscan scanner) = Jtag.fillPostscan idx postscan (probe scanner) := by
  induction idx generalizing postscan scanner with
  | zero => rfl
  | succ idx ih => exact ih _ _

private theorem describeChain_chain (fuel : Nat) (scanner : Scanner (Chain σ)) :
    answer (describeChain fuel scanner) = Jtag.describeChain fuel (probe scanner) := by
  have started : probe ({ scanner with jtagDevCount := 0, jtagDevs := clearedDevs scanner.jtagDevs }.pins jtagtapInit)
      = { probe scanner with jtagDevCount := 0, jtagDevs := Jtag.clearedDevs (probe scanner) }.pins Jtag.jtagtapInit := by
    rw [probe_pins, init_chain]
    rfl
  rw [describeChain, Jtag.describeChain, ← started]
  simp only [← readIdcodes_chain]
  cases jtagReadIdcodes ({ scanner with jtagDevCount := 0, jtagDevs := clearedDevs scanner.jtagDevs }.pins jtagtapInit) with
  | mk identified scanner =>
    cases identified with
    | false => rfl
    | true =>
      simp only [Prod.map, id, ← readIrs_chain]
      cases jtagReadIrs fuel scanner with
      | mk measured scanner =>
        rcases measured with - | (- | -)
        · rfl
        · rfl
        · simp only [answer_ended, ← leave_chain, ← sanityCheck_chain]
          cases jtagSanityCheck
              ((scanner.pins fun wire => (jtagtapNext true true wire).2).pins (jtagtapReturnIdle 1)) with
          | mk counted scanner =>
            cases counted with
            | false => rfl
            | true =>
              simp only [Prod.map, id, answer_ended, probe_count, ← fillPostscan_chain]

private theorem writeIr_chain (devIndex : Nat) (ir : BitVec 32) (scanner : Scanner (Chain σ)) :
    probe (jtagDevWriteIr devIndex ir scanner) = Jtag.jtagDevWriteIr devIndex ir (probe scanner) := by
  have others : probe (bypassOthers (scanner.visit [devIndex])) = Jtag.bypassOthers (probe scanner) := rfl
  rw [jtagDevWriteIr, Jtag.jtagDevWriteIr, ← others]
  have same : (scanner.visit [devIndex]).jtagDevs = scanner.jtagDevs := rfl
  simp only [jtagtapShiftIr, jtagtapReturnIdle, tmsSeq_chain, tdiSeq_chain, ← probe_setDev, probe_devs, same]
  split
  · rfl
  · rfl

private theorem shiftDr_chain (devIndex : Nat) (dataOut : Option Buffer) (dataIn : Buffer) (clockCycles : Nat)
    (scanner : Scanner (Chain σ)) :
    (jtagDevShiftDr devIndex dataOut dataIn clockCycles scanner).map id probe
      = Jtag.jtagDevShiftDr devIndex dataOut dataIn clockCycles (probe scanner) := by
  simp only [jtagDevShiftDr, jtagtapShiftDr, jtagtapReturnIdle, tmsSeq_chain, tdiSeq_chain, tdiTdoSeq_chain]
  cases dataOut with
  | none => rfl
  | some dataOut => rfl

private theorem access_chain (request : Access) (scanner : Scanner (Chain σ)) :
    probe (access scanner request) = Jtag.access (probe scanner) request := by
  cases request with
  | writeIr devIndex ir => exact writeIr_chain devIndex ir scanner
  | shiftDr devIndex dataOut dataIn clockCycles =>
    exact congrArg Prod.snd (shiftDr_chain devIndex dataOut dataIn clockCycles scanner)

private theorem accesses_chain (requests : List Access) (scanner : Scanner (Chain σ)) :
    probe (requests.foldl access scanner) = requests.foldl Jtag.access (probe scanner) := by
  induction requests generalizing scanner with
  | nil => rfl
  | cons request rest ih =>
    rw [List.foldl_cons, List.foldl_cons, ih, access_chain]

/-- The accesses of the handlers. -/
def accesses (handler : Handlers) (device : Nat) : List Access := (handler device).map Subtype.val

private theorem callHandlers_chain (handler : Handlers) (more device : Nat) (scanner : Scanner (Chain σ)) :
    probe (callHandlers handler more device scanner) = Jtag.callHandlers (accesses handler) more device (probe scanner) := by
  induction more generalizing device scanner with
  | zero => rfl
  | succ more ih =>
    rw [callHandlers, Jtag.callHandlers, ih]
    congr 1
    rw [probe_devs]
    apply Eq.trans (apply_ite probe _ _ _)
    rw [accesses_chain]
    rfl

/-- On the wire of a chain of parts the scan is the scan of the chain. -/
theorem scan_of_chain (fuel : Nat) (handler : Handlers) (scanner : Scanner (Chain σ)) :
    answer (jtagScan fuel handler scanner) = Jtag.jtagScan fuel (accesses handler) (probe scanner) := by
  rw [jtagScan, Jtag.jtagScan, ← describeChain_chain]
  cases describeChain fuel scanner with
  | mk described scanner =>
    rcases described with - | (- | -)
    · rfl
    · rfl
    · simp only [answer_ended, ← callHandlers_chain, probe_count]

end Chains
end BlackMagic.Proofs.JtagWire

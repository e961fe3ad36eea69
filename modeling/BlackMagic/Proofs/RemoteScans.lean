import BlackMagic.Proofs.RemoteAccesses

/-! The accesses of a debug port: which scans fit the records of the JTAG devices, and how an access ends through either
port. -/

namespace BlackMagic.Proofs.RemoteScans
open RemotePacket Lib Lib.Program RemoteAccesses
open Jtag (JtagDev jtagMaxDevs)

section Jtag

/-- Two records with the same scans. -/
structure SameScans (dev other : JtagDev) : Prop where
  drPrescan : dev.drPrescan = other.drPrescan
  drPostscan : dev.drPostscan = other.drPostscan
  irLen : dev.irLen = other.irLen
  irPrescan : dev.irPrescan = other.irPrescan
  irPostscan : dev.irPostscan = other.irPostscan

/-- What a packet for the debug port leaves as it is until it is answered. -/
structure Proceeds (before after : Firmware) : Prop where
  functions : after.remoteDp.functions = before.remoteDp.functions
  devIndex : after.remoteDp.devIndex = before.remoteDp.devIndex
  fault : before.remoteDp.fault ≠ 0 → after.remoteDp.fault ≠ 0
  scans : ∀ device, SameScans (after.jtagDevs device) (before.jtagDevs device)
  count : after.jtagDevCount = before.jtagDevCount
  sent : after.sent = before.sent

/-- The scans of the instruction register of a device stay inside the bits that are shifted in. -/
structure IrFits (firmware : Firmware) (device : Nat) : Prop where
  count : firmware.jtagDevCount ≤ jtagMaxDevs
  prescan : (firmware.jtagDevs device).irPrescan.toNat ≤ 64
  length : (firmware.jtagDevs device).irLen.toNat ≤ 32
  postscan : (firmware.jtagDevs device).irPostscan.toNat ≤ 64

structure Fits (firmware : Firmware) (device : Nat) : Prop where
  listed : device < jtagMaxDevs
  ir : IrFits firmware device
  prescan : (firmware.jtagDevs device).drPrescan.toNat ≤ 64
  postscan : (firmware.jtagDevs device).drPostscan.toNat ≤ 64

variable {origin : Firmware} {device : Nat} {kept : Firmware → Prop}

/-- The end of a run that does not fit. -/
def Overrun (origin : Firmware) (device : Nat) (halt : Halt) (firmware : Firmware) : Prop :=
  (∃ place, halt = .outOfBounds place) ∧ ¬ Fits origin device ∧ Proceeds origin firmware

def putIr (device : Nat) (ir : BitVec 32) (firmware : Firmware) : Firmware :=
  { firmware with
    jtagDevs := fun other =>
      if other = device then { firmware.jtagDevs device with currentIr := ir } else firmware.jtagDevs other }

/-- An assertion that survives what a scan changes. -/
structure Lasting (origin : Firmware) (kept : Firmware → Prop) : Prop where
  proceeds : ∀ firmware, kept firmware → Proceeds origin firmware
  ir : ∀ firmware device ir, kept firmware → kept (putIr device ir firmware)
  transactions : ∀ firmware count, kept firmware → kept { firmware with transactions := count }

theorem checks_overrun {condition : Prop} {program : Action Unit} (checks : Checks condition program)
    (fits : Fits origin device → condition) (proceeds : ∀ firmware, kept firmware → Proceeds origin firmware) :
    Meets kept program (fun _ firmware => condition ∧ kept firmware) (Overrun origin device) := by
  intro firmware holds
  by_cases met : condition
  · rw [checks.passes met]
    exact ⟨met, holds⟩
  · obtain ⟨place, stopped⟩ := checks.fails met firmware
    rw [stopped]
    exact ⟨⟨place, rfl⟩, fun fitting => met (fits fitting), proceeds firmware holds⟩

theorem setIr_meets (lasting : Lasting origin kept) {other : Nat} (ir : BitVec 32)
    (fits : Fits origin device → other < jtagMaxDevs) :
    Meets kept (setDev other fun dev => { dev with currentIr := ir })
      (fun _ firmware => other < jtagMaxDevs ∧ (firmware.jtagDevs other).currentIr = ir ∧ kept firmware)
      (Overrun origin device) := by
  apply Meets.bind (checks_overrun (checks_touch _ _ _) fits lasting.proceeds)
  intro _
  apply meets_given
  intro listed
  apply meets_change
  intro firmware holds
  exact ⟨listed, by simp, lasting.ir firmware other ir holds⟩

theorem bypass_meets (lasting : Lasting origin kept) {count : Nat} (same : count = origin.jtagDevCount) :
    Meets kept (each (fun other => setDev other fun dev => { dev with currentIr := 0xffffffff#32 }) (List.range count))
      (fun _ firmware => count ≤ jtagMaxDevs ∧ kept firmware) (Overrun origin device) := by
  have all : Meets kept (each (fun other => setDev other fun dev => { dev with currentIr := 0xffffffff#32 })
      (List.range count))
      (fun _ firmware => (∀ other ∈ List.range count, other < jtagMaxDevs) ∧ kept firmware) (Overrun origin device) := by
    apply meets_each_all
    intro other listed
    have inside : Fits origin device → other < jtagMaxDevs := fun fits =>
      Nat.lt_of_lt_of_le (same ▸ List.mem_range.mp listed) fits.ir.count
    apply (setIr_meets lasting _ inside).returning
    exact fun _ _ result => ⟨result.1, result.2.2⟩
  apply all.returning
  rintro _ firmware ⟨inside, holds⟩
  refine ⟨?_, holds⟩
  by_contra many
  exact Nat.lt_irrefl _ (inside jtagMaxDevs (List.mem_range.mpr (Nat.lt_of_not_le many)))

section Scans
variable {current ir : BitVec 32} {env : Environment}

/-- An assertion with the instruction in the register of the device. -/
def Holding (kept : Firmware → Prop) (device : Nat) (current : BitVec 32) (firmware : Firmware) : Prop :=
  kept firmware ∧ (firmware.jtagDevs device).currentIr = current

theorem Lasting.holding (lasting : Lasting origin kept) :
    ∀ firmware, Holding kept device current firmware → Proceeds origin firmware :=
  fun firmware holds => lasting.proceeds firmware holds.1

theorem jtagDev_meets (lasting : Lasting origin kept) :
    Meets (Holding kept device current) (jtagDev device)
      (fun dev firmware => (device < jtagMaxDevs ∧ dev.currentIr = current ∧ SameScans dev (origin.jtagDevs device)) ∧
        Holding kept device current firmware) (Overrun origin device) := by
  apply Meets.bind (checks_overrun (checks_touch _ _ _) Fits.listed lasting.holding)
  intro _
  apply meets_given
  intro listed
  apply meets_reading
  intro firmware holds
  apply meets_pure
  rintro _ rfl
  exact ⟨⟨listed, holds.2, (lasting.proceeds _ holds.1).scans device⟩, holds⟩

/-- Bits that are shifted in, of as many as the record of the device says. -/
theorem tdiSeq_meets (lasting : Lasting origin kept) (data : Place) {size bits : Nat}
    (fits : Fits origin device → bits ≤ 8 * size) :
    Meets (Holding kept device current) (jtagtapTdiSeq data size bits)
      (fun _ firmware => bits ≤ 8 * size ∧ Holding kept device current firmware) (Overrun origin device) :=
  checks_overrun (jtagtapTdiSeq_checks data size bits) fits lasting.holding

/-- If the register is written, the scan fits. -/
theorem writeIr_meets (lasting : Lasting origin kept) :
    Meets (Holding kept device current) (jtagDevWriteIr device ir)
      (fun _ firmware => (current ≠ ir → IrFits origin device) ∧ Holding kept device ir firmware)
      (Overrun origin device) := by
  apply Meets.bind (jtagDev_meets lasting)
  intro dev
  apply meets_given
  rintro ⟨-, held, -⟩
  apply meets_ite
  · intro same
    apply meets_pure
    intro firmware holds
    exact ⟨fun different => absurd (held.symm.trans same.symm) different, holds.1, holds.2.trans (held.symm.trans same.symm)⟩
  · intro _
    apply meets_reading
    intro firmware holds
    apply Meets.known _ holds.1
    apply Meets.bind (bypass_meets lasting (lasting.proceeds _ holds.1).count)
    intro _
    apply meets_given
    intro count
    rw [(lasting.proceeds _ holds.1).count] at count
    apply Meets.bind (setIr_meets lasting ir Fits.listed)
    intro _
    apply meets_given
    intro _
    have entered : ∀ firmware, (firmware.jtagDevs device).currentIr = ir ∧ kept firmware → Holding kept device ir firmware :=
      fun firmware held => ⟨held.2, held.1⟩
    apply Meets.starting _ entered
    apply Meets.bind (jtagDev_meets lasting)
    intro dev
    apply meets_given
    rintro ⟨-, -, same⟩
    rw [same.irPrescan, same.irLen, same.irPostscan]
    apply Meets.bind (tdiSeq_meets lasting .ones fun fits => fits.ir.prescan)
    intro _
    apply meets_given
    intro before
    apply Meets.bind (tdiSeq_meets lasting .ir fun fits => fits.ir.length)
    intro _
    apply meets_given
    intro between
    apply (tdiSeq_meets lasting .ones fun fits => fits.ir.postscan).returning
    exact fun _ _ result => ⟨fun _ => ⟨count, before, between, result.1⟩, result.2⟩

/-- The bits of a scan of the width of a debug port register. -/
def scanned (env : Environment) (transaction : Nat) : BitVec 64 := env.tdo transaction &&& (1#64 <<< 35 - 1)

theorem tdiTdoSeq_meets (lasting : Lasting origin kept) :
    Meets (Holding kept device current) (jtagtapTdiTdoSeq env 35)
      (fun response firmware => (∃ transaction, response = scanned env transaction) ∧ Holding kept device current firmware)
      (Overrun origin device) := by
  apply Meets.bind ((scanBytes_checks 35).meets (by decide))
  intro _
  apply meets_reading
  intro firmware holds
  apply Meets.known _ holds
  have counted : Meets (Holding kept device current)
      (change fun firmware => { firmware with transactions := firmware.transactions + 1 })
      (fun _ => Holding kept device current) (Overrun origin device) :=
    meets_change fun firmware held => ⟨lasting.transactions firmware _ held.1, held.2⟩
  apply Meets.bind counted
  intro _
  apply meets_pure
  intro final held
  exact ⟨⟨firmware.transactions, rfl⟩, held⟩

theorem shiftData_meets (lasting : Lasting origin kept) {stored : Bool} :
    Meets (Holding kept device current) (shiftData env stored 35)
      (fun response firmware => (stored = true → ∃ transaction, response = scanned env transaction) ∧
        Holding kept device current firmware) (Overrun origin device) := by
  apply meets_ite
  · intro _
    exact (tdiTdoSeq_meets lasting).returning fun _ _ result => ⟨fun _ => result.1, result.2⟩
  · intro unstored
    apply Meets.bind ((jtagtapTdiSeq_checks .dataIn 8 35).meets (by decide))
    intro _
    exact meets_pure fun _ holds => ⟨fun stores => absurd stores unstored, holds⟩

theorem shiftDr_meets (lasting : Lasting origin kept) {stored : Bool} :
    Meets (Holding kept device current) (jtagDevShiftDr env device stored 35)
      (fun response firmware => (Fits origin device ∨ ¬ IrFits origin device) ∧
        (stored = true → ∃ transaction, response = scanned env transaction) ∧ Holding kept device current firmware)
      (Overrun origin device) := by
  apply Meets.bind (jtagDev_meets lasting)
  intro dev
  apply meets_given
  rintro ⟨listed, -, same⟩
  rw [same.drPrescan, same.drPostscan]
  apply Meets.bind (tdiSeq_meets lasting .ones fun fits => fits.prescan)
  intro _
  apply meets_given
  intro before
  apply Meets.bind (shiftData_meets lasting)
  intro response
  apply meets_given
  intro read
  apply Meets.bind (tdiSeq_meets lasting .ones fun fits => fits.postscan)
  intro _
  apply meets_given
  intro behind
  apply meets_pure
  intro firmware holds
  refine ⟨?_, read, holds⟩
  by_cases ir : IrFits origin device
  · exact .inl ⟨listed, ir, before, behind⟩
  · exact .inr ir

end Scans

end Jtag

section Access
variable {origin : Firmware} {env : Environment} {rounds : Nat} {addr : BitVec 16} {kept : Firmware → Prop}

/-- A stop that is only out of bounds if something is not allowed. -/
structure Excused (allowed : Prop) (origin : Firmware) (halt : Halt) (firmware : Firmware) : Prop where
  excuse : (∃ place, halt = .outOfBounds place) → ¬ allowed
  proceeds : Proceeds origin firmware

theorem Overrun.excused {device : Nat} :
    ∀ halt firmware, Overrun origin device halt firmware → Excused (Fits origin device) origin halt firmware :=
  fun _ _ overrun => ⟨fun _ => overrun.2.1, overrun.2.2⟩

theorem excused_inside {allowed : Prop} {halt : Halt} {firmware : Firmware} (inside : ∀ place, halt ≠ .outOfBounds place)
    (proceeds : Proceeds origin firmware) : Excused allowed origin halt firmware :=
  ⟨fun ⟨place, outside⟩ => absurd outside (inside place), proceeds⟩

theorem Excused.narrowed {allowed narrower : Prop} (narrows : narrower → allowed) :
    ∀ halt firmware, Excused allowed origin halt firmware → Excused narrower origin halt firmware :=
  fun _ _ excused => ⟨fun outside allowed => excused.excuse outside (narrows allowed), excused.proceeds⟩

theorem Proceeds.refl (firmware : Firmware) : Proceeds firmware firmware :=
  ⟨rfl, rfl, id, fun _ => ⟨rfl, rfl, rfl, rfl, rfl⟩, rfl, rfl⟩

theorem lasting_proceeds : Lasting origin (Proceeds origin) := by
  constructor
  · exact fun _ holds => holds
  · intro firmware device ir holds
    refine ⟨holds.functions, holds.devIndex, holds.fault, fun other => ?_, holds.count, holds.sent⟩
    have same := holds.scans other
    by_cases here : other = device
    · subst here
      simp only [putIr, if_true]
      exact ⟨same.1, same.2, same.3, same.4, same.5⟩
    · simp only [putIr, here, if_false]
      exact same
  · exact fun _ _ holds => ⟨holds.functions, holds.devIndex, holds.fault, holds.scans, holds.count, holds.sent⟩

/-- The debug port has no fault that is still to be told. -/
def Faultless (origin firmware : Firmware) : Prop := Proceeds origin firmware ∧ firmware.remoteDp.fault = 0

theorem lasting_faultless : Lasting origin (Faultless origin) :=
  ⟨fun _ holds => holds.1, fun firmware device ir holds => ⟨lasting_proceeds.ir firmware device ir holds.1, holds.2⟩,
    fun firmware count holds => ⟨lasting_proceeds.transactions firmware count holds.1, holds.2⟩⟩

theorem Proceeds.faulted {firmware : Firmware} (holds : Proceeds origin firmware) {fault : Byte}
    (told : origin.remoteDp.fault ≠ 0 → fault ≠ 0) :
    Proceeds origin { firmware with remoteDp := { firmware.remoteDp with fault := fault } } :=
  ⟨holds.functions, holds.devIndex, told, holds.scans, holds.count, holds.sent⟩

section Jtag
variable {device : Nat} {current : BitVec 32}

theorem transfer_meets :
    Meets (Holding (Proceeds origin) device current) (jtagTransfer env device rounds)
      (fun _ => Holding (Proceeds origin) device current) (Excused (Fits origin device) origin) := by
  induction rounds with
  | zero => exact meets_stop fun _ holds => excused_inside nofun holds.1
  | succ rounds ih =>
    apply Meets.bind ((shiftDr_meets lasting_proceeds).weaken (fun _ holds => holds) (fun _ _ result => result.2.2)
      Overrun.excused)
    intro response
    apply meets_reading
    intro firmware holds
    apply Meets.known _ holds
    apply meets_ite
    · exact fun _ => ih
    · exact fun _ => meets_pure fun _ holds => holds

/-- Where the first answer is taken. -/
theorem transfer_once (lasting : Lasting origin kept)
    (taken : ∀ count transaction, ¬ (!env.expired count ∧ (scanned env transaction).setWidth 3 = jtagdpAckWait)) :
    Meets (Holding kept device current) (jtagTransfer env device (rounds + 1))
      (fun response firmware => ((Fits origin device ∨ ¬ IrFits origin device) ∧
        ∃ transaction, response = scanned env transaction) ∧ Holding kept device current firmware)
      (Overrun origin device) := by
  apply Meets.bind (shiftDr_meets lasting)
  intro response
  apply meets_given
  intro fits
  apply meets_given
  intro read
  obtain ⟨transaction, rfl⟩ := read rfl
  apply meets_reading
  intro firmware holds
  rw [if_neg (taken _ _)]
  apply meets_pure
  rintro _ rfl
  exact ⟨⟨fits, transaction, rfl⟩, holds⟩

theorem abort_meets (lasting : Lasting origin kept) :
    Meets (Holding kept device current) (adiv5JtagdpAbort env device)
      (fun _ firmware => ((current ≠ irAbort → IrFits origin device) ∧ (Fits origin device ∨ ¬ IrFits origin device)) ∧
        kept firmware) (Overrun origin device) := by
  apply Meets.bind (writeIr_meets lasting)
  intro _
  apply meets_given
  intro written
  apply Meets.bind (shiftDr_meets lasting)
  intro _
  apply meets_given
  intro shifted
  exact meets_pure fun _ holds => ⟨⟨written, shifted⟩, holds.2.1⟩

theorem faulted_meets {stopped : Halt → Firmware → Prop} :
    Meets (Proceeds origin) (setFault 1) (fun _ => Proceeds origin) stopped :=
  meets_change fun _ holds => holds.faulted fun _ => by decide

theorem jtagdpAccess_meets :
    Meets (Holding (Proceeds origin) device current) (jtagdpAccess env rounds device addr) (fun _ => Proceeds origin)
      (Excused (Fits origin device) origin) := by
  have entered : ∀ ir current, Meets (Holding (Proceeds origin) device current) (jtagDevWriteIr device ir)
      (fun _ => Holding (Proceeds origin) device ir) (Excused (Fits origin device) origin) := fun ir current =>
    (writeIr_meets lasting_proceeds).weaken (fun _ holds => holds) (fun _ _ result => result.2) Overrun.excused
  apply Meets.bind (entered _ _)
  intro _
  apply Meets.bind transfer_meets
  intro response
  apply meets_ite
  · intro _
    apply Meets.bind ((abort_meets lasting_proceeds).weaken (fun _ holds => holds) (fun _ _ result => result.2)
      Overrun.excused)
    intro _
    apply Meets.bind faulted_meets
    intro _
    exact meets_pure fun _ holds => holds
  · intro _
    apply meets_ite
    · intro _
      exact meets_stop fun _ holds => excused_inside nofun holds.1
    · intro _
      exact meets_pure fun _ holds => holds.1

/-- Where every answer is to wait and the time is over at once. -/
theorem jtagdpAccess_waits (lasting : Lasting origin kept) (expired : ∀ count, env.expired count = true)
    (waits : ∀ transaction, (scanned env transaction).setWidth 3 = jtagdpAckWait) :
    Meets (Holding kept device current) (jtagdpAccess env (rounds + 1) device addr) (fun _ _ => Fits origin device)
      (Overrun origin device) := by
  have differs : ∀ addr : BitVec 16, (if addr &&& adiv5ApnDp ≠ 0 then irApacc else irDpacc) ≠ irAbort := by
    intro addr
    split <;> decide
  apply Meets.bind (writeIr_meets lasting)
  intro _
  apply meets_given
  intro _
  apply Meets.bind (transfer_once lasting fun count _ waiting => by simp [expired count] at waiting)
  intro response
  apply meets_given
  rintro ⟨fits, transaction, rfl⟩
  rw [if_pos (waits transaction)]
  apply Meets.bind (abort_meets lasting)
  intro _
  apply meets_given
  rintro ⟨written, -⟩
  have whole : Fits origin device := fits.resolve_right fun misfit => misfit (written (differs addr))
  have marked : Meets kept (setFault 1) (fun _ _ => Fits origin device) (Overrun origin device) :=
    meets_change fun _ _ => whole
  apply Meets.bind marked
  intro _
  exact meets_pure fun _ fits => fits

/-- Where every access is acknowledged. -/
theorem jtagdpAccess_acknowledged (lasting : Lasting origin kept) (fits : Fits origin device)
    (acknowledged : ∀ transaction, (scanned env transaction).setWidth 3 = jtagdpAckOk) {stopped : Halt → Firmware → Prop} :
    Meets (Holding kept device current) (jtagdpAccess env (rounds + 1) device addr) (fun _ => kept) stopped := by
  have none : ∀ halt firmware, Overrun origin device halt firmware → stopped halt firmware :=
    fun _ _ overrun => absurd fits overrun.2.1
  apply Meets.bind ((writeIr_meets lasting).weaken (fun _ holds => holds) (fun _ _ result => result.2) none)
  intro _
  have taken : ∀ count transaction,
      ¬ (!env.expired count ∧ (scanned env transaction).setWidth 3 = jtagdpAckWait) := by
    intro count transaction waiting
    rw [acknowledged] at waiting
    exact absurd waiting.2 (by decide)
  apply Meets.bind ((transfer_once lasting taken).halting none)
  intro response
  apply meets_given
  rintro ⟨-, transaction, rfl⟩
  rw [acknowledged]
  exact meets_pure fun _ holds => holds.1

end Jtag

section Swd
open SwdAccess (DebugPort)

/-- A fault is told. -/
def Told (dp : DebugPort) : Prop := dp.fault ≠ 0

theorem setFault_keeps {fault : Byte} (told : fault ≠ 0) : Keeps Told (SwdAccess.setFault fault) :=
  keeps_change fun _ _ => told

theorem conclude_keeps (env : SwdAccess.Environment) {lowAccess : SwdAccess.LowAccess} (rnw : Bool) (value : BitVec 32)
    (ack : BitVec 3) (cleared : ∀ value, Keeps Told (SwdAccess.firmwareSwdpAbort lowAccess value)) :
    Keeps Told (SwdAccess.conclude env lowAccess rnw value ack) := by
  have ended : ∀ {fault : Byte}, fault ≠ 0 → Keeps Told (do SwdAccess.setFault fault; pure (0 : BitVec 32)) :=
    fun told => (setFault_keeps told).bind fun _ => keeps_pure 0
  apply meets_ite
  · rintro rfl
    exact (cleared _).bind fun _ => ended (by decide)
  · intro _
    apply meets_ite
    · rintro rfl
      exact ended (by decide)
    · intro _
      apply meets_ite
      · rintro rfl
        exact ended (by decide)
      · intro _
        apply keeps_ite (keeps_stop _)
        apply keeps_ite
        · apply (keeps_read.bind fun _ => keeps_pure _).bind
          rintro ⟨response, parityError⟩
          exact keeps_ite ((setFault_keeps (by decide)).bind fun _ => keeps_stop _) (keeps_pure response)
        · have sends : ∀ sent, Keeps Told (SwdAccess.seqOut sent) := fun sent => keeps_change fun _ holds => holds
          exact (sends _).bind fun _ => (sends _).bind fun _ => keeps_pure 0

theorem swd_keeps (env : SwdAccess.Environment) (rounds : Nat) :
    (∀ rnw addr value, Keeps Told (SwdAccess.firmwareSwdpLowAccess env rounds rnw addr value)) ∧
      ∀ rnw addr value timeout, Keeps Told (SwdAccess.transact env rounds rnw addr value timeout) := by
  induction rounds with
  | zero => exact ⟨fun _ _ _ => keeps_stop _, fun _ _ _ _ => keeps_stop _⟩
  | succ rounds ih =>
    have written : ∀ value, Keeps Told
        (SwdAccess.adiv5DpWrite (SwdAccess.firmwareSwdpLowAccess env rounds) SwdAccess.adiv5DpAbort value) :=
      fun value => Keeps.bind (ih.1 _ _ _) fun _ => keeps_pure ()
    constructor
    · intro rnw addr value
      rw [SwdAccess.firmwareSwdpLowAccess]
      apply Keeps.bind keeps_read
      intro dp
      apply keeps_ite (keeps_pure 0)
      have timed : Keeps Told (SwdAccess.platformTimeoutSet env 250) := keeps_read.bind fun _ => keeps_pure _
      exact timed.bind fun timeout => ih.2 rnw addr value timeout
    · intro rnw addr value timeout
      rw [SwdAccess.transact]
      have exchanged : Keeps Told (SwdAccess.exchange env (SwdAccess.makePacketRequest rnw addr)) :=
        keeps_read.bind fun _ => Keeps.bind (keeps_change fun _ holds => holds) fun _ => keeps_pure _
      have timed : Keeps Told (SwdAccess.platformTimeoutIsExpired env timeout) := keeps_read.bind fun _ => keeps_pure _
      apply exchanged.bind
      intro ack
      apply Keeps.bind (keeps_onlyIf (written _))
      intro _
      apply timed.bind
      intro expired
      exact keeps_ite (ih.2 rnw addr value timeout) (conclude_keeps env rnw value ack written)

/-- The target acknowledges everything. -/
def acknowledging : Environment where
  swdio _ := false
  tdo _ := 2
  expired _ := true
  swd := ⟨fun _ => SwdAccess.swdpAckOk, fun _ => 0, fun _ => false, fun _ => 0⟩
  nrst := false

theorem acknowledging_scans (transaction : Nat) : (scanned acknowledging transaction).setWidth 3 = jtagdpAckOk := by
  show (2#64 &&& (1#64 <<< 35 - 1)).setWidth 3 = jtagdpAckOk
  decide

theorem swd_acknowledged (rounds : Nat) (rnw : Bool) (addr : BitVec 16) (value : BitVec 32) {dp : DebugPort}
    (faultless : dp.fault = 0) :
    ∃ result after, SwdAccess.firmwareSwdpLowAccess acknowledging.swd (rounds + 2) rnw addr value dp = (.ok result, after) ∧
      after.fault = 0 := by
  rw [SwdAccess.firmwareSwdpLowAccess, read_bind, if_neg fun refused => refused.2 faultless]
  cases rnw <;>
    simp [SwdAccess.transact, Bind.bind, SwdAccess.exchange, Lib.Program.read, change, Pure.pure, onlyIf,
      SwdAccess.platformTimeoutSet, SwdAccess.platformTimeoutIsExpired, SwdAccess.swdpAckWait, SwdAccess.swdpAckFault,
      SwdAccess.swdpAckNoResponse, SwdAccess.swdpAckOk, SwdAccess.conclude, SwdAccess.seqOut, SwdAccess.seqInParity,
      acknowledging, faultless]

theorem swdAccessed_meets {allowed : Prop} {ending : Except SwdAccess.Halt (BitVec 32)} {dp : DebugPort}
    (told : origin.remoteDp.fault ≠ 0 → dp.fault ≠ 0) :
    Meets (Proceeds origin) (swdAccessed ending dp) (fun _ => Proceeds origin) (Excused allowed origin) := by
  have counted : Meets (Proceeds origin) (change fun firmware => { firmware with transactions := dp.transactions })
      (fun _ => Proceeds origin) (Excused allowed origin) :=
    meets_change fun firmware holds => lasting_proceeds.transactions firmware _ holds
  apply Meets.bind counted
  intro _
  have faulted : Meets (Proceeds origin) (setFault dp.fault) (fun _ => Proceeds origin) (Excused allowed origin) :=
    meets_change fun firmware holds => holds.faulted told
  apply Meets.bind faulted
  intro _
  cases ending with
  | ok result => exact meets_pure fun _ holds => holds
  | error halt => cases halt <;> exact meets_stop fun _ holds => excused_inside nofun holds

theorem swdAccess_meets {allowed : Prop} {rnw : Bool} {value : BitVec 32} :
    Meets (Proceeds origin) (firmwareSwdpLowAccess env rounds rnw addr value) (fun _ => Proceeds origin)
      (Excused allowed origin) := by
  apply meets_reading
  intro firmware holds
  apply Meets.known _ holds
  apply meets_ite
  · exact fun _ => meets_pure fun _ holds => holds
  · intro _
    apply swdAccessed_meets
    intro pending
    exact ((swd_keeps env.swd rounds).1 rnw addr value).final (holds.fault pending)

theorem swdAccess_acknowledged {rnw : Bool} {value : BitVec 32} {stopped : Halt → Firmware → Prop} :
    Meets (Faultless origin) (firmwareSwdpLowAccess acknowledging (rounds + 2) rnw addr value) (fun _ => Faultless origin)
      stopped := by
  apply meets_reading
  intro firmware holds
  have clear : (⟨firmware.remoteDp.fault, firmware.transactions, []⟩ : DebugPort).fault = 0 := holds.2
  obtain ⟨result, dp, running, faultless⟩ := swd_acknowledged rounds rnw addr value clear
  rw [if_neg fun refused => refused.2 holds.2, running]
  apply Meets.known _ holds
  intro before held
  exact ⟨(lasting_proceeds.transactions _ _ held.1).faulted fun pending => absurd held.2 (held.1.fault pending), faultless⟩

end Swd

/-- The device that the packet names can be accessed where the debug port is on the JTAG port. -/
def Accessible (firmware : Firmware) : Prop :=
  firmware.remoteDp.functions = some .jtag → Fits firmware firmware.remoteDp.devIndex.toNat

theorem jtagdp_meets (lasting : Lasting origin kept) {after : BitVec 32 → Firmware → Prop}
    {stopped : Halt → Firmware → Prop}
    (made : ∀ current, Meets (Holding kept origin.remoteDp.devIndex.toNat current)
      (jtagdpAccess env rounds origin.remoteDp.devIndex.toNat addr) after stopped) :
    Meets kept (fwAdiv5JtagdpLowAccess env rounds addr) after stopped := by
  apply meets_reading
  intro firmware holds
  rw [(lasting.proceeds firmware holds).devIndex]
  exact (made _).known ⟨holds, rfl⟩

theorem supports_proceeds (origin : Firmware) (env : Environment) (rounds : Nat) :
    Supports env rounds origin.remoteDp.functions (Proceeds origin) (Excused (Accessible origin) origin) := by
  constructor
  · intro rnw addr value
    apply meets_reading
    intro firmware holds
    rw [holds.functions]
    apply Meets.known _ holds
    cases selected : origin.remoteDp.functions with
    | none => exact meets_stop fun _ holds => excused_inside nofun holds
    | some functions =>
      cases functions with
      | swd => exact swdAccess_meets
      | jtag =>
        apply (jtagdp_meets lasting_proceeds fun _ => jtagdpAccess_meets).halting
        exact Excused.narrowed fun accessible => accessible selected
  · exact fun firmware holds => holds.functions
  · exact fun firmware holds _ => excused_inside nofun holds
  · exact fun _ _ holds => ⟨holds.functions, holds.devIndex, holds.fault, holds.scans, holds.count, holds.sent⟩

/-- Where everything is acknowledged and fits, every access returns. -/
theorem supports_faultless {origin : Firmware} {functions : DpFunctions}
    (selected : origin.remoteDp.functions = some functions) (accessible : Accessible origin) (rounds : Nat) :
    Supports acknowledging (rounds + 2) (some functions) (Faultless origin) fun _ _ => False := by
  constructor
  · intro rnw addr value
    apply meets_reading
    intro firmware holds
    rw [holds.1.functions, selected]
    apply Meets.known _ holds
    cases functions with
    | swd => exact swdAccess_acknowledged
    | jtag =>
      apply jtagdp_meets lasting_faultless
      intro current
      exact jtagdpAccess_acknowledged lasting_faultless (accessible selected) acknowledging_scans
  · exact fun firmware holds => holds.1.functions.trans selected
  · intro firmware holds crashed
    cases crashed with
    | inl none => cases none
    | inr lost =>
      rw [holds.2] at lost
      exact absurd lost (by decide)
  · exact fun firmware dest holds =>
      ⟨(supports_proceeds origin acknowledging 0).stored firmware dest holds.1, holds.2⟩

/-- The target answers everything with wait, and the time is always over. -/
def waiting : Environment where
  swdio _ := true
  tdo _ := 1
  expired _ := true
  swd := ⟨fun _ => SwdAccess.swdpAckWait, fun _ => 0, fun _ => false, fun _ => 0⟩
  nrst := false

theorem waiting_scans (transaction : Nat) : (scanned waiting transaction).setWidth 3 = jtagdpAckWait := by
  show (1#64 &&& (1#64 <<< 35 - 1)).setWidth 3 = jtagdpAckWait
  decide

/-- Where nothing is acknowledged, the first access shows that the device does not fit. -/
theorem access_blocked {origin : Firmware} (blocked : ¬ Accessible origin) (rounds : Nat) {rnw : Bool} {addr : BitVec 16}
    {value : BitVec 32} :
    Meets (Proceeds origin) (adiv5DpLowAccess waiting (rounds + 1) rnw addr value) (fun _ _ => False)
      fun halt _ => ∃ place, halt = .outOfBounds place := by
  obtain ⟨selected, misfit⟩ := Classical.not_imp.mp blocked
  apply meets_reading
  intro firmware holds
  rw [holds.functions, selected]
  apply Meets.known _ holds
  apply Meets.weaken
    (jtagdp_meets lasting_proceeds fun _ => jtagdpAccess_waits lasting_proceeds (fun _ => rfl) waiting_scans)
    (fun _ holds => holds) (fun _ _ fits => misfit fits)
  exact fun _ _ overrun => overrun.1

end Access

end BlackMagic.Proofs.RemoteScans

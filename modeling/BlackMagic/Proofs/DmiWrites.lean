import BlackMagic.Proofs.DmiRetries

/-! What a debug module has received once a write through its interface has returned true. Each attempt at the write whose end is
not seen in time is made again, although it has been carried out. -/

namespace BlackMagic.Proofs.DmiWrites
open Dmi DmiRetries

variable {busy : Nat → Bool}

section Transfers

/-- A scan came too soon. -/
def Early (busy : Nat → Bool) (debug : Module) : Prop := (debug.sticky || debug.started && busy debug.scans) = true

theorem transfer_early (operation : BitVec 2) (address dataIn : BitVec 32) {dmi : Dmi Module} (early : Early busy dmi.target) :
    (riscvDmiTransfer (slowDtm busy) operation address dataIn dmi).1 = false ∧
      (riscvDmiTransfer (slowDtm busy) operation address dataIn dmi).2.2.target =
        { dmi.target with
          sticky := false
          scans := dmi.target.scans + 1
          busyNoops := dmi.target.busyNoops + if operation = rvDmiNoop then 1 else 0 } := by
  have answer : (slowDtm busy).scan operation address dataIn dmi.idleCycles dmi.target = (rvDmiTooSoon, dmi.target.result,
      { dmi.target with
        sticky := true
        scans := dmi.target.scans + 1
        busyNoops := dmi.target.busyNoops + if operation = rvDmiNoop then 1 else 0 }) := if_pos early
  rw [riscvDmiTransfer, riscvShiftDmi, answer]
  by_cases room : dmi.idleCycles < 8
  · simp [room, rvDmiTooSoon, rvDmiSuccess, slowDtm]
  · simp [room, rvDmiTooSoon, rvDmiFailure, rvDmiSuccess, slowDtm]

/-- A scan in time is carried out. -/
theorem transfer_done {operation : BitVec 2} {address dataIn : BitVec 32} {dmi : Dmi Module}
    (timely : ¬ Early busy dmi.target) {dataOut : BitVec 32} {after : Module}
    (scanned : dmi.target.scan busy operation address dataIn = (rvDmiSuccess, dataOut, after)) :
    (riscvDmiTransfer (slowDtm busy) operation address dataIn dmi).1 = true ∧
      (riscvDmiTransfer (slowDtm busy) operation address dataIn dmi).2.1 = dataOut ∧
      (riscvDmiTransfer (slowDtm busy) operation address dataIn dmi).2.2.target = after := by
  have answer : (slowDtm busy).scan operation address dataIn dmi.idleCycles dmi.target = (rvDmiSuccess, dataOut, after) := scanned
  rw [riscvDmiTransfer, riscvShiftDmi, answer]
  simp [rvDmiSuccess, rvDmiTooSoon, rvDmiFailure]

theorem scan_read {address dataIn : BitVec 32} {debug : Module} (timely : ¬ Early busy debug) :
    debug.scan busy rvDmiRead address dataIn = (rvDmiSuccess, debug.result,
      { debug with result := debug.registers address, started := true, scans := debug.scans + 1 }) := if_neg timely

theorem scan_write {address dataIn : BitVec 32} {debug : Module} (timely : ¬ Early busy debug) :
    debug.scan busy rvDmiWrite address dataIn = (rvDmiSuccess, debug.result,
      { debug with
        registers := fun a => if a = address then dataIn else debug.registers a
        writes := debug.writes ++ [(address, dataIn)]
        started := true
        scans := debug.scans + 1 }) := if_neg timely

theorem scan_noop {address dataIn : BitVec 32} {debug : Module} (timely : ¬ Early busy debug) :
    debug.scan busy rvDmiNoop address dataIn =
      (rvDmiSuccess, debug.result, { debug with started := false, scans := debug.scans + 1 }) := if_neg timely

end Transfers

section Writes

/-- The module has received a write so often, and scans for no operation came too soon so often. -/
structure Received (address value : BitVec 32) (times early : Nat) (before after : Module) : Prop where
  writes : after.writes = before.writes ++ List.replicate times (address, value)
  busyNoops : after.busyNoops = before.busyNoops + early
  here : times ≠ 0 → after.registers address = value
  registers : ∀ a, a ≠ address ∨ times = 0 → after.registers a = before.registers a

theorem Received.and {address value : BitVec 32} {first second early late : Nat} {before middle after : Module}
    (one : Received address value first early before middle) (two : Received address value second late middle after) :
    Received address value (first + second) (early + late) before after where
  writes := by rw [two.writes, one.writes, List.append_assoc, List.replicate_append_replicate]
  busyNoops := by rw [two.busyNoops, one.busyNoops, Nat.add_assoc]
  here some := by
    by_cases later : second = 0
    · rw [two.registers address (.inr later)]
      exact one.here (by omega)
    · exact two.here later
  registers a other := by
    rw [two.registers a (other.imp_right fun none => by omega), one.registers a (other.imp_right fun none => by omega)]

/-- One attempt: where it succeeds the module has received the write once, where it fails as often as the scan for the end of
it came too soon. -/
theorem attempt_received (address value : BitVec 32) (dmi : Dmi Module) :
    ((riscvJtagDmiWrite (slowDtm busy) address value dmi).1 = true →
      Received address value 1 0 dmi.target (riscvJtagDmiWrite (slowDtm busy) address value dmi).2.target) ∧
    ((riscvJtagDmiWrite (slowDtm busy) address value dmi).1 = false → ∃ times,
      Received address value times times dmi.target (riscvJtagDmiWrite (slowDtm busy) address value dmi).2.target) := by
  rw [riscvJtagDmiWrite_eq]
  dsimp only
  by_cases early : Early busy dmi.target
  · obtain ⟨failed, left⟩ := transfer_early rvDmiWrite address value early
    simp only [failed, Bool.false_eq_true, if_false, false_implies, true_implies, true_and, left]
    exact ⟨0, by simp, by simp [rvDmiWrite, rvDmiNoop], fun some => absurd rfl some, fun _ _ => rfl⟩
  · obtain ⟨started, -, left⟩ := transfer_done early (scan_write early)
    have once : Received address value 1 0 dmi.target (riscvDmiTransfer (slowDtm busy) rvDmiWrite address value dmi).2.2.target := by
      rw [left]
      refine ⟨by simp, rfl, fun _ => if_pos rfl, fun a other => if_neg (other.resolve_right (by decide))⟩
    simp only [started, if_true]
    generalize (riscvDmiTransfer (slowDtm busy) rvDmiWrite address value dmi).2.2 = middle at once
    by_cases late : Early busy middle.target
    · obtain ⟨failed, ended⟩ := transfer_early rvDmiNoop 0 0 late
      rw [failed, ended]
      refine ⟨(fun never => by cases never), fun _ => ⟨1, once.writes, ?_, once.here, once.registers⟩⟩
      simp [once.busyNoops]
    · obtain ⟨succeeded, -, ended⟩ := transfer_done late (scan_noop late)
      rw [succeeded, ended]
      exact ⟨fun _ => ⟨once.writes, once.busyNoops, once.here, once.registers⟩, (fun never => by cases never)⟩

theorem retries_received {address value : BitVec 32} {fuel : Nat} {dmi : Dmi Module} {result : Bool} {after : Dmi Module}
    (ended : riscvDmiWrite (slowDtm busy) fuel address value dmi = some (result, after)) :
    ∃ early, Received address value (early + if result then 1 else 0) early dmi.target after.target := by
  induction fuel generalizing dmi with
  | zero => cases ended
  | succ fuel ih =>
    obtain ⟨succeeds, fails⟩ := @attempt_received busy address value dmi
    rw [riscvDmiWrite, retry_succ] at ended
    split at ended
    next soon =>
      have failed : (riscvJtagDmiWrite (slowDtm busy) address value dmi).1 = false := by
        by_contra succeeded
        exact riscvJtagDmiWrite_timely (by simpa using succeeded) soon
      obtain ⟨times, first⟩ := fails failed
      obtain ⟨early, rest⟩ := ih ended
      refine ⟨times + early, ?_⟩
      rw [Nat.add_assoc]
      exact first.and rest
    next =>
      cases result with
      | true =>
        have both := Option.some.inj ended
        rw [both] at succeeds
        exact ⟨0, succeeds rfl⟩
      | false =>
        have both := Option.some.inj ended
        rw [both] at fails
        exact fails rfl

end Writes

section Reads

/-- The module has been read only. -/
structure Unwritten (before after : Module) : Prop where
  registers : after.registers = before.registers
  writes : after.writes = before.writes

theorem Unwritten.and {first second third : Module} (one : Unwritten first second) (two : Unwritten second third) :
    Unwritten first third :=
  ⟨two.registers.trans one.registers, two.writes.trans one.writes⟩

theorem attempt_read (address : BitVec 32) (dmi : Dmi Module) :
    Unwritten dmi.target (riscvJtagDmiRead (slowDtm busy) address dmi).2.target ∧
    ((riscvJtagDmiRead (slowDtm busy) address dmi).1.1 = true →
      (riscvJtagDmiRead (slowDtm busy) address dmi).1.2 = dmi.target.registers address) := by
  rw [riscvJtagDmiRead_eq]
  dsimp only
  by_cases early : Early busy dmi.target
  · obtain ⟨failed, left⟩ := transfer_early rvDmiRead address 0 early
    simp only [failed, Bool.false_eq_true, if_false, false_implies, and_true, left]
    exact ⟨rfl, rfl⟩
  · obtain ⟨started, -, left⟩ := transfer_done early (scan_read early)
    have found : (riscvDmiTransfer (slowDtm busy) rvDmiRead address 0 dmi).2.2.target.result = dmi.target.registers address := by
      rw [left]
    have first : Unwritten dmi.target (riscvDmiTransfer (slowDtm busy) rvDmiRead address 0 dmi).2.2.target := by
      rw [left]
      exact ⟨rfl, rfl⟩
    simp only [started, if_true]
    generalize (riscvDmiTransfer (slowDtm busy) rvDmiRead address 0 dmi).2.2 = middle at found first
    by_cases late : Early busy middle.target
    · obtain ⟨failed, ended⟩ := transfer_early rvDmiNoop 0 0 late
      rw [failed, ended]
      exact ⟨first.and ⟨rfl, rfl⟩, (fun never => by cases never)⟩
    · obtain ⟨-, answered, ended⟩ := transfer_done late (scan_noop late)
      rw [answered, ended]
      exact ⟨first.and ⟨rfl, rfl⟩, fun _ => found⟩

theorem retries_read {address : BitVec 32} {fuel : Nat} {dmi : Dmi Module} {result : Bool} {value : BitVec 32}
    {after : Dmi Module} (ended : riscvDmiRead (slowDtm busy) fuel address dmi = some ((result, value), after)) :
    Unwritten dmi.target after.target ∧ (result = true → value = dmi.target.registers address) := by
  induction fuel generalizing dmi with
  | zero => cases ended
  | succ fuel ih =>
    obtain ⟨first, observed⟩ := @attempt_read busy address dmi
    rw [riscvDmiRead, retry_succ] at ended
    split at ended
    next =>
      obtain ⟨rest, later⟩ := ih ended
      rw [first.registers] at later
      exact ⟨first.and rest, later⟩
    next =>
      have both := Option.some.inj ended
      rw [both] at first observed
      exact ⟨first, observed⟩

end Reads

section Observed

/-- An interface after any reads, and any writes of other registers, each with any end. -/
inductive Later (busy : Nat → Bool) (address : BitVec 32) (before : Dmi Module) : Dmi Module → Prop where
  | refl : Later busy address before before
  | read {dmi after : Dmi Module} {fuel : Nat} {other : BitVec 32} {answer : Bool × BitVec 32}
      (earlier : Later busy address before dmi)
      (ended : riscvDmiRead (slowDtm busy) fuel other dmi = some (answer, after)) : Later busy address before after
  | write {dmi after : Dmi Module} {fuel : Nat} {other value : BitVec 32} {result : Bool}
      (earlier : Later busy address before dmi) (apart : other ≠ address)
      (ended : riscvDmiWrite (slowDtm busy) fuel other value dmi = some (result, after)) : Later busy address before after

theorem Later.kept {address : BitVec 32} {before after : Dmi Module} (later : Later busy address before after) :
    after.target.registers address = before.target.registers address := by
  induction later with
  | refl => rfl
  | read earlier ended ih =>
    obtain ⟨unwritten, -⟩ := retries_read ended
    rw [unwritten.registers]
    exact ih
  | write earlier apart ended ih =>
    obtain ⟨early, received⟩ := retries_received ended
    rw [received.registers address (.inl apart.symm)]
    exact ih

/-- What the return of true says about a write. -/
structure Written (busy : Nat → Bool) (address value : BitVec 32) (before after : Dmi Module) : Prop where
  received : ∃ early, after.target.writes = before.target.writes ++ List.replicate (early + 1) (address, value) ∧
    after.target.busyNoops = before.target.busyNoops + early
  once : after.target.writes = before.target.writes ++ [(address, value)] ↔
    after.target.busyNoops = before.target.busyNoops
  untouched : ∀ other, other ≠ address → after.target.registers other = before.target.registers other
  observed : ∀ {dmi next fuel found}, Later busy address after dmi →
    riscvDmiRead (slowDtm busy) fuel address dmi = some ((true, found), next) → found = value

theorem write_received {address value : BitVec 32} {fuel : Nat} {dmi after : Dmi Module}
    (ended : riscvDmiWrite (slowDtm busy) fuel address value dmi = some (true, after)) :
    Written busy address value dmi after := by
  obtain ⟨early, received⟩ := retries_received ended
  refine ⟨⟨early, received.writes, received.busyNoops⟩, ?_, fun other apart => received.registers other (.inl apart), ?_⟩
  · have length : after.target.writes.length = dmi.target.writes.length + (early + 1) := by
      simp [received.writes]
    constructor
    · intro once
      have single := congrArg List.length once
      simp only [List.length_append, List.length_singleton] at single
      rw [received.busyNoops]
      omega
    · intro same
      have none : early = 0 := by
        have counted := received.busyNoops
        omega
      rw [received.writes, none]
      rfl
  · intro last next fuel found later read
    obtain ⟨-, value⟩ := retries_read read
    rw [value rfl, later.kept]
    exact received.here (by simp)

/-- A module whose operations take until the second scan after them. -/
def slowModule : Dmi Module := riscvJtagDtmInit 0 (Dmi.Module.mk (fun _ => 0) [] 0 false false 0 0)

theorem slow_write_received : ∃ after, riscvDmiWrite (slowDtm (· == 1)) 9 0x17 5 slowModule = some (true, after) ∧
    Written (· == 1) 0x17 5 slowModule after := by
  have ended : ∃ after, riscvDmiWrite (slowDtm (· == 1)) 9 0x17 5 slowModule = some (true, after) := ⟨_, rfl⟩
  obtain ⟨after, ended⟩ := ended
  exact ⟨after, ended, write_received ended⟩

/-- The first of two scans for the end of the write comes too soon, and the write is made again. -/
theorem write_repeated : ∃ after, riscvDmiWrite (slowDtm (· == 1)) 9 0x17 5 slowModule = some (true, after) ∧
    after.target.writes = slowModule.target.writes ++ [(0x17, 5), (0x17, 5)] :=
  ⟨_, rfl, rfl⟩

end Observed

end BlackMagic.Proofs.DmiWrites

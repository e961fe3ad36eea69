import BlackMagic.Dmi

/-! The retries of an access to the debug module interface are bounded by the idle cycles, whatever the target answers. -/

namespace BlackMagic.Proofs.DmiRetries
open Dmi

variable {σ α : Type} {dtm : Dtm σ}

/-- An interface after any transfers since it has been set up. -/
inductive Reached (dtm : Dtm σ) : Dmi σ → Prop where
  | init (dtmcs : BitVec 32) (target : σ) : Reached dtm (riscvJtagDtmInit dtmcs target)
  | transfer {dmi : Dmi σ} (reached : Reached dtm dmi) (operation : BitVec 2) (address dataIn : BitVec 32) :
      Reached dtm (riscvDmiTransfer dtm operation address dataIn dmi).2.2

/-- What a transfer leaves. -/
structure Transferred (before : Dmi σ) (busy : Prop) (result : Bool) (after : Dmi σ) : Prop where
  answered : ¬ busy → after.idleCycles = before.idleCycles ∧ after.fault ≠ rvDmiTooSoon
  early : busy → before.idleCycles < 8 →
    after.idleCycles = before.idleCycles + 1 ∧ after.fault = rvDmiTooSoon ∧ result = false
  late : busy → 8 ≤ before.idleCycles →
    after.idleCycles = before.idleCycles ∧ after.fault = rvDmiFailure ∧ result = false

theorem riscvDmiTransfer_spec (operation : BitVec 2) (address dataIn : BitVec 32) (dmi : Dmi σ) :
    Transferred dmi ((dtm.scan operation address dataIn dmi.idleCycles dmi.target).1 = rvDmiTooSoon)
      (riscvDmiTransfer dtm operation address dataIn dmi).1 (riscvDmiTransfer dtm operation address dataIn dmi).2.2 := by
  rw [riscvDmiTransfer, riscvShiftDmi]
  generalize dtm.scan operation address dataIn dmi.idleCycles dmi.target = scanned
  obtain ⟨status, dataOut, target⟩ := scanned
  constructor
  · intro quiet
    by_cases failed : status = 1
    · simp [failed, rvDmiFailure, rvDmiTooSoon]
    · have other : status ≠ rvDmiTooSoon := quiet
      simp only [if_neg failed, if_neg other]
      split <;> exact ⟨rfl, other⟩
  · rintro rfl room
    simp [room, rvDmiFailure, rvDmiTooSoon, rvDmiSuccess]
  · rintro rfl full
    simp [Nat.not_lt.mpr full, rvDmiFailure, rvDmiTooSoon, rvDmiSuccess]

theorem transfer_timely {operation : BitVec 2} {address dataIn : BitVec 32} {dmi : Dmi σ}
    (succeeded : (riscvDmiTransfer dtm operation address dataIn dmi).1 = true) :
    (riscvDmiTransfer dtm operation address dataIn dmi).2.2.fault ≠ rvDmiTooSoon := by
  have spec := @riscvDmiTransfer_spec σ dtm operation address dataIn dmi
  by_cases busy : (dtm.scan operation address dataIn dmi.idleCycles dmi.target).1 = rvDmiTooSoon
  · have failed : (riscvDmiTransfer dtm operation address dataIn dmi).1 = false := by
      by_cases room : dmi.idleCycles < 8
      · exact (spec.early busy room).2.2
      · exact (spec.late busy (Nat.not_lt.mp room)).2.2
    rw [failed] at succeeded
    cases succeeded
  · exact (spec.answered busy).2

/-- A step in which the idle cycles grow wherever it has come too soon. -/
structure Advances (before after : Dmi σ) : Prop where
  kept : before.idleCycles ≤ after.idleCycles
  limit : after.idleCycles ≤ 8
  busy : after.fault = rvDmiTooSoon → before.idleCycles < after.idleCycles

theorem Advances.after {first second third : Dmi σ} (one : Advances first second) (two : Advances second third) :
    Advances first third :=
  ⟨one.kept.trans two.kept, two.limit, fun early => one.kept.trans_lt (two.busy early)⟩

theorem transfer_advances (operation : BitVec 2) (address dataIn : BitVec 32) {dmi : Dmi σ} (bounded : dmi.idleCycles ≤ 8) :
    Advances dmi (riscvDmiTransfer dtm operation address dataIn dmi).2.2 := by
  have spec := @riscvDmiTransfer_spec σ dtm operation address dataIn dmi
  by_cases busy : (dtm.scan operation address dataIn dmi.idleCycles dmi.target).1 = rvDmiTooSoon
  · by_cases room : dmi.idleCycles < 8
    · obtain ⟨grown, -, -⟩ := spec.early busy room
      exact ⟨by omega, by omega, fun _ => by omega⟩
    · obtain ⟨same, failed, -⟩ := spec.late busy (by omega)
      refine ⟨by omega, by omega, fun early => ?_⟩
      rw [failed] at early
      cases early
  · obtain ⟨same, other⟩ := spec.answered busy
    exact ⟨by omega, by omega, fun early => absurd early other⟩

section Accesses

/-- An access that consists of transfers. -/
structure Accesses (dtm : Dtm σ) (access : Dmi σ → α × Dmi σ) : Prop where
  advances : ∀ {dmi}, dmi.idleCycles ≤ 8 → Advances dmi (access dmi).2
  reached : ∀ {dmi}, Reached dtm dmi → Reached dtm (access dmi).2

theorem riscvJtagDmiRead_eq (address : BitVec 32) (dmi : Dmi σ) :
    riscvJtagDmiRead dtm address dmi =
      let first := riscvDmiTransfer dtm rvDmiRead address 0 dmi
      let second := riscvDmiTransfer dtm rvDmiNoop 0 0 first.2.2
      if first.1 then ((second.1, second.2.1), second.2.2) else ((first.1, 0), first.2.2) := rfl

theorem riscvJtagDmiWrite_eq (address value : BitVec 32) (dmi : Dmi σ) :
    riscvJtagDmiWrite dtm address value dmi =
      let first := riscvDmiTransfer dtm rvDmiWrite address value dmi
      let second := riscvDmiTransfer dtm rvDmiNoop 0 0 first.2.2
      if first.1 then (second.1, second.2.2) else (first.1, first.2.2) := rfl

theorem riscvJtagDmiWrite_timely {address value : BitVec 32} {dmi : Dmi σ}
    (succeeded : (riscvJtagDmiWrite dtm address value dmi).1 = true) :
    (riscvJtagDmiWrite dtm address value dmi).2.fault ≠ rvDmiTooSoon := by
  rw [riscvJtagDmiWrite_eq] at succeeded ⊢
  dsimp only at succeeded ⊢
  split
  next started =>
    simp only [started, if_true] at succeeded
    exact transfer_timely succeeded
  next refused =>
    simp only [refused, Bool.false_eq_true, if_false] at succeeded

theorem riscvJtagDmiRead_accesses (address : BitVec 32) : Accesses dtm (riscvJtagDmiRead dtm address) where
  advances bounded := by
    have first := @transfer_advances σ dtm rvDmiRead address 0 _ bounded
    rw [riscvJtagDmiRead_eq]
    dsimp only
    split
    · exact first.after (transfer_advances _ _ _ first.limit)
    · exact first
  reached earlier := by
    rw [riscvJtagDmiRead_eq]
    dsimp only
    split
    · exact (earlier.transfer _ _ _).transfer _ _ _
    · exact earlier.transfer _ _ _

theorem riscvJtagDmiWrite_accesses (address value : BitVec 32) : Accesses dtm (riscvJtagDmiWrite dtm address value) where
  advances bounded := by
    have first := @transfer_advances σ dtm rvDmiWrite address value _ bounded
    rw [riscvJtagDmiWrite_eq]
    dsimp only
    split
    · exact first.after (transfer_advances _ _ _ first.limit)
    · exact first
  reached earlier := by
    rw [riscvJtagDmiWrite_eq]
    dsimp only
    split
    · exact (earlier.transfer _ _ _).transfer _ _ _
    · exact earlier.transfer _ _ _

theorem retry_succ (access : Dmi σ → α × Dmi σ) (fuel : Nat) (dmi : Dmi σ) :
    retry access (fuel + 1) dmi =
      if (access dmi).2.fault = rvDmiTooSoon then retry access fuel (access dmi).2 else some (access dmi) := rfl

theorem retry_ends {access : Dmi σ → α × Dmi σ} (accesses : Accesses dtm access) {fuel : Nat} {dmi : Dmi σ}
    (bounded : dmi.idleCycles ≤ 8) (enough : 8 < fuel + dmi.idleCycles) (reached : Reached dtm dmi) :
    ∃ outcome, retry access fuel dmi = some outcome ∧ Reached dtm outcome.2 := by
  induction fuel generalizing dmi with
  | zero => omega
  | succ fuel ih =>
    have step := accesses.advances bounded
    rw [retry_succ]
    split
    next early =>
      have grown := step.busy early
      exact ih step.limit (by omega) (accesses.reached reached)
    next => exact ⟨access dmi, rfl, accesses.reached reached⟩

end Accesses

theorem Reached.limit {dmi : Dmi σ} (reached : Reached dtm dmi) : dmi.idleCycles ≤ 8 := by
  induction reached with
  | init dtmcs target =>
    have masked : dtmcs.toNat &&& rvDtmcsIdleCyclesMask.toNat ≤ 0x7000 := Nat.and_le_right
    simp only [riscvJtagDtmInit, BitVec.toNat_ushiftRight, BitVec.toNat_and, Nat.shiftRight_eq_div_pow]
    omega
  | transfer earlier operation address dataIn ih => exact (transfer_advances operation address dataIn ih).limit

/-- What bounds the retries from here on. -/
structure BoundedRetries (dtm : Dtm σ) (dmi : Dmi σ) : Prop where
  limit : dmi.idleCycles ≤ 8
  busy : ∀ operation address dataIn, (dtm.scan operation address dataIn dmi.idleCycles dmi.target).1 = rvDmiTooSoon →
    dmi.idleCycles < 8 →
      (riscvDmiTransfer dtm operation address dataIn dmi).2.2.idleCycles = dmi.idleCycles + 1
  failure : ∀ operation address dataIn, (dtm.scan operation address dataIn dmi.idleCycles dmi.target).1 = rvDmiTooSoon →
    dmi.idleCycles = 8 →
      (riscvDmiTransfer dtm operation address dataIn dmi).2.2.idleCycles = 8 ∧
        (riscvDmiTransfer dtm operation address dataIn dmi).2.2.fault = rvDmiFailure
  read : ∀ address, ∃ outcome, riscvDmiRead dtm 9 address dmi = some outcome ∧ Reached dtm outcome.2
  write : ∀ address value, ∃ outcome, riscvDmiWrite dtm 9 address value dmi = some outcome ∧ Reached dtm outcome.2

theorem retries_bounded {dmi : Dmi σ} (reached : Reached dtm dmi) : BoundedRetries dtm dmi where
  limit := reached.limit
  busy operation address dataIn early room := ((riscvDmiTransfer_spec operation address dataIn dmi).early early room).1
  failure operation address dataIn early full := by
    obtain ⟨same, failed, -⟩ := (riscvDmiTransfer_spec operation address dataIn dmi).late early full.ge
    exact ⟨same.trans full, failed⟩
  read address := retry_ends (riscvJtagDmiRead_accesses address) reached.limit (by omega) reached
  write address value := retry_ends (riscvJtagDmiWrite_accesses address value) reached.limit (by omega) reached

/-- A module that is never ready. -/
theorem busy_module_bounded : BoundedRetries (slowDtm fun _ => true)
    (riscvJtagDtmInit 0x7000 (Dmi.Module.mk (fun _ => 0) [] 0 true false 0 0)) :=
  retries_bounded (.init _ _)

end BlackMagic.Proofs.DmiRetries

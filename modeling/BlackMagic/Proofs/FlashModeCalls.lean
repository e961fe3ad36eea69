import BlackMagic.Flash

/-! Which calls change the flash mode of a target: whatever the requests to the flash layer return, they enter it once, do
their work inside, and only the completion leaves it. -/

namespace BlackMagic.Proofs.FlashModeCalls
open BlackMagic.Flash Lib.Words

variable {layout : Regions} {env : Environment} {target next : Target} {i : Nat}

/-- A call that does not change the mode. -/
def Working : Call → Prop
  | .enterFlashMode | .exitFlashMode | .reset => False
  | _ => True

/-- Work inside or outside flash mode. -/
structure Quiet (target next : Target) : Prop where
  mode : next.flashMode = target.flashMode
  calls : ∃ more, next.calls = target.calls ++ more ∧ ∀ call ∈ more, Working call

theorem Quiet.refl (target : Target) : Quiet target target := ⟨rfl, [], (List.append_nil _).symm, by simp⟩

theorem Quiet.trans {last : Target} (first : Quiet target next) (second : Quiet next last) : Quiet target last := by
  obtain ⟨one, oneCalls, oneWorking⟩ := first.calls
  obtain ⟨two, twoCalls, twoWorking⟩ := second.calls
  refine ⟨second.mode.trans first.mode, one ++ two, by rw [twoCalls, oneCalls, List.append_assoc], ?_⟩
  intro call member
  exact (List.mem_append.mp member).elim (oneWorking call) (twoWorking call)

theorem Quiet.put (quiet : Quiet target next) (i : Nat) (state : FlashState) : Quiet target (next.put i state) :=
  ⟨quiet.mode, quiet.calls⟩

theorem Quiet.fault (quiet : Quiet target next) : Quiet target { next with fault := true } := ⟨quiet.mode, quiet.calls⟩

theorem ask_quiet (target : Target) (call : Call) (working : Working call) : Quiet target (target.ask env call).2 :=
  ⟨rfl, [call], rfl, fun made member => by rwa [List.mem_singleton.mp member]⟩

theorem optional_quiet (target : Target) (present : Bool) (call : Call) (working : Working call) :
    Quiet target (if present = true then target.ask env call else (true, target)).2 := by
  split
  · exact ask_quiet target call working
  · exact .refl target

/-- What a call returns beside the target does not matter. -/
theorem Quiet.returned (quiet : Quiet target next) (result : Bool) : Quiet target (result, next).2 := quiet

/-- Two ways on from the same point. -/
theorem quiet_ite {condition : Prop} [Decidable condition] {one two : Bool × Target} (first : Quiet target one.2)
    (second : Quiet target two.2) : Quiet target (if condition then one else two).2 := by
  split
  · exact first
  · exact second

theorem flashDone_quiet (target : Target) : Quiet target (flashDone layout env i target).2 := by
  rw [flashDone]
  apply quiet_ite
  · exact .refl target
  · exact (optional_quiet target _ (.done i) trivial).put _ _

theorem flashPrepare_quiet (target : Target) (operation : FlashOperation) :
    Quiet target (flashPrepare layout env i operation target).2 := by
  rw [flashPrepare]
  apply quiet_ite
  · exact .refl target
  · dsimp only
    generalize ending : (if (target.state i).operation ≠ .none then flashDone layout env i target else (true, target)) = ended
    have first : Quiet target ended.2 := by
      rw [← ending]
      exact quiet_ite (flashDone_quiet target) (.refl target)
    apply quiet_ite
    · generalize asking : (if (layout.flash i).prepare = true then _ else _ : Bool × Target) = asked
      have second : Quiet target asked.2 := by
        rw [← asking]
        exact (first.put _ _).trans (optional_quiet _ _ (.prepare _ _ _) trivial)
      exact quiet_ite second (second.put _ _)
    · exact first

theorem flashBufferAlloc_quiet (target : Target) : Quiet target (flashBufferAlloc layout env i target).2 := by
  rw [flashBufferAlloc]
  have asked : Quiet target (target.ask env (.malloc (layout.flash i).writebufsize)).2 := ask_quiet target _ trivial
  exact quiet_ite (asked.put _ _) (asked.put _ _)

theorem flushWrites_quiet (alignedAddr source : Nat) (src : Buffer) (more done : Nat) (result : Bool) (target : Target) :
    Quiet target (flushWrites layout env i alignedAddr source src more done result target).2 := by
  induction more generalizing done result target with
  | zero => exact .refl target
  | succ more ih => exact (ask_quiet target (.write _ _ _ _) trivial).trans (ih _ _ _)

theorem flashBufferedFlush_quiet (target : Target) : Quiet target (flashBufferedFlush layout env i target).2 := by
  rw [flashBufferedFlush]
  apply quiet_ite
  · have prepared : Quiet target (flashPrepare layout env i .write target).2 := flashPrepare_quiet target .write
    apply quiet_ite
    · exact prepared
    · split
      · exact prepared.fault
      · exact (prepared.trans (flushWrites_quiet _ _ _ _ _ _ _)).put _ _
  · exact .refl target

theorem setupBuffer_quiet (baseAddr : Nat) (target : Target) : Quiet target (setupBuffer layout env i baseAddr target).2 := by
  rw [setupBuffer]
  apply quiet_ite
  · have flushed : Quiet target (flashBufferedFlush layout env i target).2 := flashBufferedFlush_quiet target
    dsimp only
    split
    · exact flushed.fault
    · exact flushed.put _ _
  · exact .refl target

theorem copyChunk_quiet (dest : Nat) (chunk : List Byte) (target : Target) :
    Quiet target (copyChunk layout i dest chunk target) := by
  rw [copyChunk]
  dsimp only
  split
  · exact (Quiet.refl target).fault
  · refine ⟨rfl, [.memcpy i (dest % (layout.flash i).writebufsize) chunk.length], rfl, fun call member => ?_⟩
    rw [List.mem_singleton.mp member]
    trivial

theorem bufferedWrites_quiet (fuel dest : Nat) (src : List Byte) (result : Bool) (target : Target) :
    Quiet target (bufferedWrites layout env i fuel dest src result target).2 := by
  induction fuel generalizing dest src result target with
  | zero => exact .refl target
  | succ fuel ih =>
    rw [bufferedWrites]
    apply quiet_ite
    · exact .refl target
    · exact ((setupBuffer_quiet _ target).trans (copyChunk_quiet _ _ _)).trans (ih _ _ _ _)

theorem flushDone_quiet (target : Target) : Quiet target (flushDone layout env i target).2 :=
  (flashBufferedFlush_quiet target).trans (flashDone_quiet _)

theorem evictOthers_quiet (dest : Nat) (indices : List Nat) (result : Bool) (active : Option Nat) (target : Target) :
    Quiet target (evictOthers layout env dest indices result active target).2.2 := by
  induction indices generalizing result active target with
  | nil => exact .refl target
  | cons j rest ih =>
    rw [evictOthers]
    split
    · exact ih _ _ _
    · split
      · exact (flushDone_quiet target).trans (ih _ _ _)
      · exact ih _ _ _

theorem writeRegions_quiet (fuel active dest : Nat) (src : List Byte) (target : Target) :
    Quiet target (writeRegions layout env fuel active dest src target).2 := by
  induction fuel generalizing active dest src target with
  | zero => exact .refl target
  | succ fuel ih =>
    rw [writeRegions]
    apply quiet_ite
    · exact .refl target
    · split
      · exact .refl target
      next j found =>
        dsimp only
        generalize leaving : (if j ≠ active then flushDone layout env active target else (true, target)) = left
        have first : Quiet target left.2 := by
          rw [← leaving]
          exact quiet_ite (flushDone_quiet target) (.refl target)
        generalize allocating : (if (left.2.state j).buf.isNone then flashBufferAlloc layout env j left.2
          else (true, left.2)) = alloc
        have second : Quiet target alloc.2 := by
          rw [← allocating]
          exact quiet_ite (first.trans (flashBufferAlloc_quiet _)) first
        generalize min (add32 dest src.length) (add32 (layout.flash j).start (layout.flash j).length) = finish
        generalize sub32 finish dest = count
        refine quiet_ite (second.returned false) ?_
        generalize writing : flashBufferedWrite layout env j dest _ alloc.2 = written
        have third : Quiet target written.2 := by
          rw [← writing]
          exact second.trans (bufferedWrites_quiet _ _ _ _ _)
        refine quiet_ite (third.returned false) ?_
        exact third.trans (ih _ _ _ _)

theorem eraseBlocks_quiet (fuel active addr len : Nat) (result : Bool) (target : Target) :
    Quiet target (eraseBlocks layout env fuel active addr len result target).2 := by
  induction fuel generalizing active addr len result target with
  | zero =>
    rw [eraseBlocks]
    exact quiet_ite (flashDone_quiet target) (.refl target)
  | succ fuel ih =>
    rw [eraseBlocks]
    apply quiet_ite
    · exact flashDone_quiet target
    · split
      · exact .refl target
      next j found =>
        dsimp only
        generalize leaving : (if j ≠ active then flashDone layout env active target else (true, target)) = left
        have first : Quiet target left.2 := by
          rw [← leaving]
          exact quiet_ite (flashDone_quiet target) (.refl target)
        generalize preparing : flashPrepare layout env j .erase left.2 = prepared
        have second : Quiet target prepared.2 := by
          rw [← preparing]
          exact first.trans (flashPrepare_quiet left.2 .erase)
        refine quiet_ite (second.returned false) ?_
        generalize asking : prepared.2.ask env _ = asked
        have third : Quiet target asked.2 := by
          rw [← asking]
          exact second.trans (ask_quiet prepared.2 _ trivial)
        apply quiet_ite
        · exact third.trans (flashDone_quiet _)
        · exact third.trans (ih _ _ _ _ _)

theorem completeRegions_quiet (indices : List Nat) (result : Bool) (target : Target) :
    Quiet target (completeRegions layout env indices result target).2 := by
  induction indices generalizing result target with
  | nil => exact .refl target
  | cons j rest ih => exact (flushDone_quiet target).trans (ih _ _)

section Requests

/-- A request in flash mode, with the entry where it is the first one. -/
structure Session (target next : Target) : Prop where
  mode : next.flashMode = true
  calls : ∃ more, next.calls = target.calls ++ (if target.flashMode then [] else [.enterFlashMode]) ++ more ∧
    ∀ call ∈ more, Working call

variable (entering : env.enterFlashMode = true) (exiting : env.exitFlashMode = true)
  (entered : ∀ calls, env.answer (calls ++ [.enterFlashMode]) = true)

include entering entered in
theorem enter_session (target : Target) :
    (targetEnterFlashMode env target).1 = true ∧ Session target (targetEnterFlashMode env target).2 := by
  by_cases inside : target.flashMode = true
  · rw [targetEnterFlashMode, if_pos inside]
    refine ⟨rfl, inside, [], ?_, fun _ never => absurd never List.not_mem_nil⟩
    rw [if_pos inside, List.append_nil, List.append_nil]
  · have made : targetEnterFlashMode env target =
        (true, { (target.ask env .enterFlashMode).2 with flashMode := true }) := by
      have answered : (target.ask env .enterFlashMode).1 = true := entered target.calls
      rw [targetEnterFlashMode, if_neg inside]
      simp only [entering, if_true, answered]
    rw [made]
    refine ⟨rfl, rfl, [], ?_, fun _ never => absurd never List.not_mem_nil⟩
    rw [if_neg inside, List.append_nil]
    rfl

theorem Session.quiet {middle : Target} (session : Session target middle) (quiet : Quiet middle next) : Session target next := by
  obtain ⟨first, start, working⟩ := session.calls
  obtain ⟨last, rest, later⟩ := quiet.calls
  refine ⟨quiet.mode.trans session.mode, first ++ last, by rw [rest, start, List.append_assoc], fun call member => ?_⟩
  exact (List.mem_append.mp member).elim (working call) (later call)

include entering entered in
theorem targetFlashWrite_session (dest : Nat) (src : List Byte) (target : Target) :
    Session target (targetFlashWrite layout env dest src target).2 := by
  obtain ⟨success, session⟩ := enter_session entering entered target
  rw [targetFlashWrite, success, Bool.not_true, if_neg Bool.false_ne_true]
  have evicted := @evictOthers_quiet layout env dest (List.range layout.list.length) true none
    (targetEnterFlashMode env target).2
  generalize evictOthers layout env dest (List.range layout.list.length) true none (targetEnterFlashMode env target).2 =
    evicting at *
  obtain ⟨result, place, middle⟩ := evicting
  have inside := session.quiet evicted
  cases place with
  | none => exact inside
  | some active =>
    dsimp only
    split
    · exact inside.quiet (writeRegions_quiet _ _ _ _ _)
    · exact inside

include entering entered in
theorem targetFlashErase_session (addr len : Nat) (target : Target) :
    Session target (targetFlashErase layout env addr len target).2 := by
  obtain ⟨success, session⟩ := enter_session entering entered target
  rw [targetFlashErase, success, Bool.not_true, if_neg Bool.false_ne_true]
  cases targetFlashForAddr layout addr with
  | none => exact session
  | some active => exact session.quiet (eraseBlocks_quiet _ _ _ _ _ _)

include exiting in
/-- A completion leaves flash mode, and does nothing outside of it. -/
theorem targetFlashComplete_calls (target : Target) :
    (target.flashMode = false → (targetFlashComplete layout env target).2 = target) ∧
    (target.flashMode = true → (targetFlashComplete layout env target).2.flashMode = false ∧
      ∃ more, (targetFlashComplete layout env target).2.calls = target.calls ++ more ++ [.exitFlashMode] ∧
        ∀ call ∈ more, Working call) := by
  constructor
  · intro outside
    rw [targetFlashComplete, outside, Bool.not_false, if_pos rfl]
  · intro inside
    have completed := @completeRegions_quiet layout env (List.range layout.list.length) true target
    rw [targetFlashComplete, inside, Bool.not_true, if_neg Bool.false_ne_true]
    generalize completeRegions layout env (List.range layout.list.length) true target = middle at *
    obtain ⟨more, calls, working⟩ := completed.calls
    have left : (targetExitFlashMode env middle.2).2 = { (middle.2.ask env .exitFlashMode).2 with flashMode := false } := by
      rw [targetExitFlashMode, completed.mode, inside, Bool.not_true, if_neg Bool.false_ne_true]
      simp only [exiting, if_true]
    dsimp only
    rw [left]
    refine ⟨rfl, more, ?_, working⟩
    rw [← calls]
    rfl

end Requests

end BlackMagic.Proofs.FlashModeCalls

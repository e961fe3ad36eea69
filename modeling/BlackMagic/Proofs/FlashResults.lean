import BlackMagic.Proofs.FlashRuns
import BlackMagic.Proofs.FlashSteps

/-! What the results of the flash layer are worth. If every call of a session returns
true, every callback of a driver has succeeded, and the completion leaves every region
idle and without a buffer. A write that reaches the end of the address space is the
exception: its buffer may look empty and is then never released. -/

namespace BlackMagic.Proofs.FlashResults
open BlackMagic.Flash Lib.Words FlashFaithful FlashRuns FlashSteps
open FlashWrite (Resting)

variable {layout : Regions} {env : Environment} {target : Target} {i : Nat}

section Callbacks

/-- The callbacks of a driver that report success. -/
def Reported : Call → Bool
  | .enterFlashMode => true
  | .prepare .. => true
  | .erase .. => true
  | .write .. => true
  | .done .. => true
  | _ => false

/-- Every callback after the calls of the past has succeeded. -/
def Succeeded (env : Environment) (past calls : List Call) : Prop :=
  ∀ before call after, calls = before ++ call :: after → past.length ≤ before.length → Reported call = true →
    env.answer (before ++ [call]) = true

theorem Succeeded.start (past : List Call) : Succeeded env past past := by
  intro before call after same later
  have shorter := congrArg List.length same
  simp only [List.length_append, List.length_cons] at shorter
  omega

theorem Succeeded.snoc {past calls : List Call} {call : Call} (succeeded : Succeeded env past calls)
    (answered : Reported call = true → env.answer (calls ++ [call]) = true) : Succeeded env past (calls ++ [call]) := by
  intro before other after same later reported
  rcases List.eq_nil_or_concat after with rfl | ⟨rest, last, rfl⟩
  · obtain ⟨rfl, rfl⟩ : calls = before ∧ call = other := by simpa using List.append_inj' same rfl
    exact answered reported
  · have split : calls ++ [call] = (before ++ other :: rest) ++ [last] := by simpa using same
    exact succeeded before other rest (List.append_inj' split rfl).1 later reported

/-- At most one more call, which has succeeded if it is a callback. -/
def Adds (env : Environment) (calls next : List Call) : Prop :=
  next = calls ∨ ∃ call, next = calls ++ [call] ∧ (Reported call = true → env.answer (calls ++ [call]) = true)

theorem Succeeded.adds {past calls next : List Call} (succeeded : Succeeded env past calls) (adds : Adds env calls next) :
    Succeeded env past next := by
  rcases adds with rfl | ⟨call, rfl, answered⟩
  · exact succeeded
  · exact succeeded.snoc answered

theorem noted_adds {present : Bool} {call : Call} (agreed : Agreed env target present call) :
    Adds env target.calls (noted target present call).calls := by
  cases present with
  | true => exact .inr ⟨call, rfl, fun _ => agreed rfl⟩
  | false => exact .inl rfl

theorem enter_adds (outside : target.flashMode = false) (entered : (targetEnterFlashMode env target).1 = true) :
    Adds env target.calls (targetEnterFlashMode env target).2.calls := by
  simp only [targetEnterFlashMode, outside, Bool.false_eq_true, if_false] at entered ⊢
  by_cases driver : env.enterFlashMode = true
  · simp only [driver, if_true] at entered ⊢
    by_cases answer : (target.ask env .enterFlashMode).1 = true
    · simp only [answer, if_true]
      exact .inr ⟨.enterFlashMode, rfl, fun _ => answer⟩
    · simp [answer] at entered
  · simp only [driver, if_false, Bool.false_eq_true]
    by_cases reset : env.reset = true
    · simp only [reset, if_true]
      exact .inr ⟨.reset, rfl, (fun never => by cases never)⟩
    · simp only [reset, if_false, if_true, Bool.false_eq_true]
      exact .inl rfl

theorem exit_adds (inside : target.flashMode = true) :
    Adds env target.calls (targetExitFlashMode env target).2.calls := by
  simp only [targetExitFlashMode, inside, Bool.not_true, Bool.false_eq_true, if_false]
  split
  · exact .inr ⟨.exitFlashMode, rfl, (fun never => by cases never)⟩
  · split
    · exact .inr ⟨.reset, rfl, (fun never => by cases never)⟩
    · exact .inl rfl

/-- A successful step makes at most one call, and a callback among them has succeeded. -/
theorem step_adds {write : Nat × List Byte} {next : Target} (step : Step layout env write target next) :
    Adds env target.calls next.calls := by
  cases step with
  | enter outside entered => exact enter_adds outside entered
  | exit inside => exact exit_adds inside
  | done listed busy agreed => exact noted_adds agreed
  | prepare listed idle other filled agreed => exact noted_adds agreed
  | erase listed place erasing agreed => exact noted_adds agreed
  | malloc listed free fresh => exact .inr ⟨_, rfl, (fun never => by cases never)⟩
  | write listed writing held filled multiple more agreed => exact noted_adds agreed
  | emptied listed writing held => exact .inl rfl
  | setup listed held unfilled => exact .inl rfl
  | copy listed held block piece =>
    obtain ⟨buf, present⟩ := Option.isSome_iff_exists.mp held
    simp only [copyChunk, present]
    exact .inr ⟨_, rfl, (fun never => by cases never)⟩

theorem Succeeded.steps {past : List Call} {write : Nat × List Byte} {next : Target}
    (succeeded : Succeeded env past target.calls) (steps : Steps layout env write target next) :
    Succeeded env past next.calls := by
  induction steps with
  | refl => exact succeeded
  | tail _ step ih => exact ih.adds (step_adds step)

end Callbacks

section Regions

/-- What work on the buffer of region `i` keeps, however it ends: no other region changes, the region does not begin to
erase, and the buffer stays allocated. -/
structure Tends (i : Nat) (target next : Target) : Prop where
  others : ∀ j, j ≠ i → next.state j = target.state j
  resting : (next.state i).operation ≠ .erase
  allocated : (target.state i).buf.isSome → (next.state i).buf.isSome
  fault : next.fault = target.fault

theorem Tends.refl (resting : (target.state i).operation ≠ .erase) : Tends i target target :=
  ⟨fun _ _ => rfl, resting, fun held => held, rfl⟩

theorem Tends.trans {first second third : Target} (one : Tends i first second) (two : Tends i second third) :
    Tends i first third :=
  ⟨fun j other => (two.others j other).trans (one.others j other), two.resting,
    fun held => two.allocated (one.allocated held), two.fault.trans one.fault⟩

theorem put_tends {state : FlashState} (resting : state.operation ≠ .erase)
    (allocated : (target.state i).buf.isSome → state.buf.isSome) : Tends i target (target.put i state) :=
  ⟨fun _ other => if_neg other, by simpa [Target.put] using resting, by simpa [Target.put] using allocated, rfl⟩

theorem emptied_tends (resting : (target.state i).operation ≠ .erase) : Tends i target (target.put i
    { target.state i with bufAddrBase := uint32Max, bufAddrLow := uint32Max, bufAddrHigh := 0 }) :=
  put_tends resting fun held => held

theorem setup_tends {baseAddr : Nat} {buf : Buffer} (resting : (target.state i).operation ≠ .erase) :
    Tends i target (target.put i { target.state i with bufAddrBase := baseAddr, buf := some buf }) :=
  put_tends resting fun _ => rfl

theorem ask_tends (resting : (target.state i).operation ≠ .erase) {present : Bool} {call : Call} :
    Tends i target (if present = true then target.ask env call else (true, target)).2 := by
  split <;> exact ⟨fun _ _ => rfl, resting, fun held => held, rfl⟩

theorem flashPrepare_tends (resting : (target.state i).operation ≠ .erase) :
    Tends i target (flashPrepare layout env i .write target).2 := by
  rw [flashPrepare]
  split
  · exact .refl resting
  next different =>
    have idle : (target.state i).operation = .none := by
      cases operation : (target.state i).operation with
      | none => rfl
      | erase => exact absurd operation resting
      | write => exact absurd operation different
    simp only [idle, ne_eq, not_true_eq_false, if_false, if_true]
    generalize asking : (if (layout.flash i).prepare = true then _ else _ : Bool × Target) = asked
    have prepared : Tends i target asked.2 := by
      have switched : Tends i target (target.put i { target.state i with operation := .write }) :=
        put_tends (fun never => by cases never) fun held => held
      subst asking
      exact switched.trans (ask_tends switched.resting)
    split
    · exact prepared
    · exact prepared.trans (put_tends (fun never => by cases never) fun held => held)

theorem flashBufferedFlush_tends (resting : (target.state i).operation ≠ .erase) :
    Tends i target (flashBufferedFlush layout env i target).2 := by
  have ready : Tends i target (flashPrepare layout env i .write target).2 := flashPrepare_tends resting
  by_cases full : (target.state i).buf.isSome ∧ Filled (target.state i)
  · cases prepared : (flashPrepare layout env i .write target).1 with
    | false =>
      rw [flashBufferedFlush_unprepared full prepared]
      exact ready
    | true =>
      obtain ⟨buf, held⟩ := Option.isSome_iff_exists.mp (ready.allocated full.1)
      generalize running : flushAll layout env i (target.state i).bufAddrLow (target.state i).bufAddrHigh
        (target.state i).bufAddrBase buf (flashPrepare layout env i .write target).2 = written
      obtain ⟨state, fault⟩ := flushAll_state running
      have wrote : Tends i (flashPrepare layout env i .write target).2 written.2 :=
        ⟨fun j _ => by rw [state], by rw [state]; exact ready.resting, fun held => by rwa [state], fault⟩
      rw [(flashBufferedFlush_filled full prepared held running).2]
      exact (ready.trans wrote).trans (emptied_tends wrote.resting)
  · rw [flashBufferedFlush_unfilled full]
    exact .refl resting

theorem setupBuffer_tends {baseAddr : Nat} (resting : (target.state i).operation ≠ .erase)
    (held : (target.state i).buf.isSome) : Tends i target (setupBuffer layout env i baseAddr target).2 := by
  rw [setupBuffer]
  split
  · have flushed : Tends i target (flashBufferedFlush layout env i target).2 := flashBufferedFlush_tends resting
    have still := flushed.allocated held
    dsimp only
    split
    next gone => simp [gone] at still
    next buf _ => exact flushed.trans (setup_tends flushed.resting)
  · exact .refl resting

theorem copyChunk_tends {dest : Nat} {chunk : List Byte} (resting : (target.state i).operation ≠ .erase)
    (held : (target.state i).buf.isSome) : Tends i target (copyChunk layout i dest chunk target) := by
  rw [copyChunk]
  dsimp only
  split
  next gone => simp [gone] at held
  next buf _ =>
    exact ⟨fun _ other => if_neg other, by simpa [Target.put] using resting, fun _ => by simp [Target.put], rfl⟩

theorem bufferedWrites_tends {fuel dest : Nat} {src : List Byte} {result : Bool}
    (resting : (target.state i).operation ≠ .erase) (held : (target.state i).buf.isSome) :
    Tends i target (bufferedWrites layout env i fuel dest src result target).2 := by
  induction fuel generalizing dest src result target with
  | zero => exact .refl resting
  | succ fuel ih =>
    rw [bufferedWrites]
    split
    · exact .refl resting
    · have setup : Tends i target (setupBuffer layout env i (alignDown dest (layout.flash i).writebufsize) target).2 :=
        setupBuffer_tends resting held
      have held := setup.allocated held
      exact setup.trans ((copyChunk_tends setup.resting held).trans (ih (copyChunk_tends setup.resting held).resting
        ((copyChunk_tends setup.resting held).allocated held)))

theorem flashDone_only : (∀ j, j ≠ i → (flashDone layout env i target).2.state j = target.state j) ∧
    (flashDone layout env i target).2.fault = target.fault := by
  rw [flashDone]
  split
  · exact ⟨fun _ _ => rfl, rfl⟩
  · split
    · exact ⟨fun _ other => if_neg other, rfl⟩
    · exact ⟨fun _ other => if_neg other, rfl⟩

theorem flashDone_operation : ((flashDone layout env i target).2.state i).operation = .none := by
  by_cases busy : (target.state i).operation = .none
  · rw [flashDone, if_pos busy]
    exact busy
  · rw [flashDone_state busy]

theorem flashBufferAlloc_resting (resting : Resting target) : Resting (flashBufferAlloc layout env i target).2 := by
  rw [flashBufferAlloc]
  split
  · exact resting.of_others (fun _ other => if_neg other) (by simpa [Target.put, Target.ask] using resting i)
  · exact resting.of_others (fun _ other => if_neg other) (by simpa [Target.put, Target.ask] using resting i)

theorem enterFlashMode_state : (targetEnterFlashMode env target).2.state = target.state ∧
    (targetEnterFlashMode env target).2.fault = target.fault := by
  rw [targetEnterFlashMode]
  split
  · exact ⟨rfl, rfl⟩
  · dsimp only
    generalize entering : (if env.enterFlashMode = true then target.ask env .enterFlashMode
      else if env.reset = true then (true, (target.ask env .reset).2) else (true, target)) = entered
    have same : entered.2.state = target.state ∧ entered.2.fault = target.fault := by
      subst entering
      split
      · exact ⟨rfl, rfl⟩
      · split <;> exact ⟨rfl, rfl⟩
    split
    · exact same
    · exact same

theorem exitFlashMode_state : (targetExitFlashMode env target).2.state = target.state ∧
    (targetExitFlashMode env target).2.fault = target.fault ∧ (targetExitFlashMode env target).2.flashMode = false := by
  rw [targetExitFlashMode]
  split
  next outside => exact ⟨rfl, rfl, by simpa using outside⟩
  · dsimp only
    split
    · exact ⟨rfl, rfl, rfl⟩
    · split <;> exact ⟨rfl, rfl, rfl⟩

end Regions

section Release

/-- A region between two calls: it is not in the middle of an erase, and a buffer that it has is open for writing or holds
bytes. -/
structure Tidy (state : FlashState) : Prop where
  resting : state.operation ≠ .erase
  kept : state.buf.isSome → state.operation = .write ∨ Filled state

/-- An idle region without a buffer. -/
def Released (state : FlashState) : Prop := state.operation = .none ∧ state.buf = none

theorem Released.tidy {state : FlashState} (released : Released state) : Tidy state := by
  refine ⟨?_, fun held => ?_⟩
  · rw [released.1]
    exact fun never => by cases never
  · rw [released.2] at held
    cases held

/-- A flush that succeeds and the end of the operation release a region. -/
theorem flushDone_released (tidy : Tidy (target.state i)) (listed : i < layout.list.length) {next : Bool × Target}
    (running : flushDone layout env i target = next) (answered : next.1 = true) : Released (next.2.state i) := by
  subst running
  obtain ⟨flushed, -⟩ := Bool.and_eq_true_iff.mp answered
  have tends : Tends i target (flashBufferedFlush layout env i target).2 := flashBufferedFlush_tends tidy.resting
  obtain ⟨-, -, opens⟩ : Steps layout env (0, []) target (flashBufferedFlush layout env i target).2 ∧ _ :=
    flashBufferedFlush_steps listed rfl flushed
  by_cases busy : ((flashBufferedFlush layout env i target).2.state i).operation = .none
  · have unfilled : ¬ ((target.state i).buf.isSome ∧ Filled (target.state i)) := by
      intro full
      rw [opens full] at busy
      cases busy
    have skipped : flashBufferedFlush layout env i target = (true, target) := flashBufferedFlush_unfilled unfilled
    have idle : (target.state i).operation = .none := by rwa [skipped] at busy
    have none : (target.state i).buf = none := by
      by_contra held
      have kept := tidy.kept (Option.isSome_iff_ne_none.mpr held)
      rw [idle] at kept
      exact unfilled ⟨Option.isSome_iff_ne_none.mpr held, kept.resolve_left fun never => by cases never⟩
    rw [flushDone, skipped]
    show Released ((flashDone layout env i target).2.state i)
    rw [flashDone, if_pos idle]
    exact ⟨idle, none⟩
  · show Released ((flashDone layout env i (flashBufferedFlush layout env i target).2).2.state i)
    rw [flashDone_state busy]
    exact ⟨rfl, rfl⟩

theorem copyChunk_filled {dest : Nat} {chunk : List Byte} (held : (target.state i).buf.isSome)
    (block : (target.state i).bufAddrBase = alignDown dest (layout.flash i).writebufsize) (nonempty : chunk ≠ [])
    (bounded : dest + chunk.length < 2 ^ 32) : Filled ((copyChunk layout i dest chunk target).state i) := by
  obtain ⟨buf, present⟩ := Option.isSome_iff_exists.mp held
  have positive := List.length_pos_iff.mpr nonempty
  have below : alignDown dest (layout.flash i).writebufsize ≤ dest := Nat.and_le_left
  have exact : add32 dest chunk.length = dest + chunk.length := add32_of_lt bounded
  simp only [copyChunk, present, Target.put, if_true, Filled, block, exact, uint32Max]
  omega

theorem bufferedWrites_filled {fuel dest : Nat} {src : List Byte} {result : Bool} (listed : i < layout.list.length)
    (resting : (target.state i).operation ≠ .erase) (held : (target.state i).buf.isSome) (nonempty : src ≠ [])
    (bounded : dest + src.length < 2 ^ 32) {next : Bool × Target}
    (running : bufferedWrites layout env i fuel dest src result target = next) (answered : next.1 = true) :
    Filled (next.2.state i) := by
  induction fuel generalizing dest src result target with
  | zero =>
    subst running
    have empty := (Bool.and_eq_true_iff.mp answered).2
    exact absurd (List.isEmpty_iff.mp empty) nonempty
  | succ fuel ih =>
    rw [bufferedWrites, if_neg nonempty] at running
    dsimp only at running
    generalize preparing : setupBuffer layout env i (alignDown dest (layout.flash i).writebufsize) target = setup at running
    have ready : setup.1 = true := by
      rw [← running] at answered
      exact (Bool.and_eq_true_iff.mp (bufferedWrites_result answered)).2
    have tends : Tends i target setup.2 := by
      rw [← preparing]
      exact setupBuffer_tends resting held
    obtain ⟨-, kept, block⟩ : Steps layout env (0, []) target setup.2 ∧ _ := setupBuffer_steps listed held preparing ready
    generalize localLen : min ((layout.flash i).writebufsize - dest % (layout.flash i).writebufsize) src.length = len at running
    have shorter : (src.take len).length = min len src.length := List.length_take
    have copied : Tends i setup.2 (copyChunk layout i dest (src.take len) setup.2) := copyChunk_tends tends.resting kept
    have left : (src.drop len).length = src.length - len := List.length_drop
    by_cases last : src.drop len = []
    · have some : src.take len ≠ [] := by
        intro none
        have whole := List.take_append_drop len src
        rw [none, last] at whole
        exact nonempty whole.symm
      have filled := copyChunk_filled kept block some (by omega)
      have ended : next.2 = copyChunk layout i dest (src.take len) setup.2 := by
        rw [← running, last]
        cases fuel with
        | zero => rfl
        | succ fuel => rfl
      rwa [ended]
    · have exact : add32 dest len = dest + len := add32_of_lt (by omega)
      exact ih copied.resting (copied.allocated kept) last (by rw [exact]; omega) running

/-- All regions are as they are between two calls. -/
def Orderly (target : Target) : Prop := ∀ i, Tidy (target.state i)

theorem Orderly.resting (orderly : Orderly target) : Resting target := fun i => (orderly i).resting

theorem Orderly.replace {next : Target} (orderly : Orderly target) (others : ∀ j, j ≠ i → next.state j = target.state j)
    (tidy : Tidy (next.state i)) : Orderly next := by
  intro j
  by_cases same : j = i
  · rwa [same]
  · rw [others j same]
    exact orderly j

theorem flushDone_others (resting : (target.state i).operation ≠ .erase) :
    ∀ j, j ≠ i → (flushDone layout env i target).2.state j = target.state j := by
  intro j other
  have flushed : Tends i target (flashBufferedFlush layout env i target).2 := flashBufferedFlush_tends resting
  exact (flashDone_only.1 j other).trans (flushed.others j other)

theorem flushDone_orderly (orderly : Orderly target) (listed : i < layout.list.length) {next : Bool × Target}
    (running : flushDone layout env i target = next) (answered : next.1 = true) : Orderly next.2 := by
  have others : ∀ j, j ≠ i → next.2.state j = target.state j := by
    rw [← running]
    exact flushDone_others (orderly i).resting
  exact orderly.replace others (flushDone_released (orderly i) listed running answered).tidy

theorem evictOthers_orderly {dest : Nat} {indices : List Nat} {result : Bool} {active : Option Nat}
    (listed : ∀ j ∈ indices, j < layout.list.length) (orderly : Orderly target) {next : Bool × Option Nat × Target}
    (running : evictOthers layout env dest indices result active target = next) (answered : next.1 = true) :
    Orderly next.2.2 := by
  induction indices generalizing result active target with
  | nil =>
    subst running
    exact orderly
  | cons j rest ih =>
    have later : ∀ k ∈ rest, k < layout.list.length := fun k member => listed k (List.mem_cons_of_mem j member)
    rw [evictOthers] at running
    split at running
    next => exact ih later orderly running
    next =>
      split at running
      next =>
        dsimp only at running
        generalize flushing : flushDone layout env j target = flushed at running
        have settled : flushed.1 = true := by
          rw [← running] at answered
          exact (Bool.and_eq_true_iff.mp (evictOthers_result answered)).2
        exact ih later (flushDone_orderly orderly (listed j List.mem_cons_self) flushing settled) running
      next => exact ih later orderly running

theorem writeRegions_orderly {fuel active dest : Nat} {src : List Byte} (listed : active < layout.list.length)
    (orderly : Orderly target) (bounded : dest + src.length < 2 ^ 32) {next : Bool × Target}
    (running : writeRegions layout env fuel active dest src target = next) (answered : next.1 = true) : Orderly next.2 := by
  induction fuel generalizing active dest src target with
  | zero =>
    subst running
    exact orderly
  | succ fuel ih =>
    rw [writeRegions] at running
    split at running
    next =>
      subst running
      exact orderly
    next nonempty =>
      split at running
      next =>
        subst running
        exact orderly
      next j found =>
        obtain ⟨inside, place⟩ := regionForAddr_some found
        dsimp only at running
        generalize leaving : (if j ≠ active then flushDone layout env active target else (true, target)) = left at running
        generalize allocating : (if (left.2.state j).buf.isNone then flashBufferAlloc layout env j left.2
          else (true, left.2)) = alloc at running
        split at running
        next =>
          subst running
          cases answered
        next ready =>
          have both : left.1 = true ∧ alloc.1 = true := by simpa using ready
          have first : Orderly left.2 := by
            split at leaving
            · exact flushDone_orderly orderly listed leaving both.1
            · subst leaving
              exact orderly
          have second : (∀ k, k ≠ j → alloc.2.state k = left.2.state k) ∧ (alloc.2.state j).operation ≠ .erase ∧
              (alloc.2.state j).buf.isSome := by
            split at allocating
            next free =>
              have made : Steps layout env (0, []) left.2 alloc.2 ∧ _ :=
                flashBufferAlloc_steps inside (Option.isNone_iff_eq_none.mp free) allocating both.2
              have resting : Resting alloc.2 := by
                rw [← allocating]
                exact flashBufferAlloc_resting first.resting
              refine ⟨fun k other => ?_, resting j, made.2⟩
              rw [← allocating, flashBufferAlloc]
              split <;> exact if_neg other
            next taken =>
              subst allocating
              exact ⟨fun _ _ => rfl, first.resting j, Option.isSome_iff_ne_none.mpr (by simpa using taken)⟩
          generalize ending : min (add32 dest src.length) (add32 (layout.flash j).start (layout.flash j).length)
            = finish at running
          generalize counting : sub32 finish dest = count at running
          obtain ⟨short, goes, within⟩ := localLength_bounds place ending counting
          generalize writing : flashBufferedWrite layout env j dest (src.take count) alloc.2 = written at running
          split at running
          next =>
            subst running
            cases answered
          next wrote =>
            have some : src.take count ≠ [] := by
              intro none
              have cut : (src.take count).length = min count src.length := List.length_take
              have size := List.length_pos_iff.mpr nonempty
              rw [none, List.length_nil] at cut
              have moved : finish = dest := by rw [goes, add32_of_lt (by omega)]; omega
              have high := (contains_bounds place).2
              rw [add32_of_lt bounded] at ending
              omega
            have length : (src.take count).length = min count src.length := List.length_take
            have tends : Tends j alloc.2 written.2 := by
              rw [← writing]
              exact bufferedWrites_tends second.2.1 second.2.2
            have filled : Filled (written.2.state j) :=
              bufferedWrites_filled inside second.2.1 second.2.2 some (by omega) writing (by simpa using wrote)
            have others : ∀ k, k ≠ j → written.2.state k = left.2.state k := fun k other =>
              (tends.others k other).trans (second.1 k other)
            have third : Orderly written.2 := first.replace others ⟨tends.resting, fun _ => .inr filled⟩
            have left : (src.drop count).length = src.length - count := List.length_drop
            rw [goes] at running
            exact ih inside third (by rw [add32_of_lt (by omega)]; omega) running

theorem enterFlashMode_orderly (orderly : Orderly target) : Orderly (targetEnterFlashMode env target).2 := by
  intro j
  rw [enterFlashMode_state.1]
  exact orderly j

theorem targetFlashWrite_orderly {dest : Nat} {src : List Byte} (orderly : Orderly target)
    (bounded : dest + src.length < 2 ^ 32) {next : Bool × Target}
    (running : targetFlashWrite layout env dest src target = next) (answered : next.1 = true) : Orderly next.2 := by
  rw [targetFlashWrite] at running
  have entered : Orderly (targetEnterFlashMode env target).2 := enterFlashMode_orderly orderly
  generalize targetEnterFlashMode env target = entry at entered running
  split at running
  next =>
    subst running
    cases answered
  next =>
    have listed : ∀ j ∈ List.range layout.list.length, j < layout.list.length := fun j member => List.mem_range.mp member
    generalize evicting : evictOthers layout env dest (List.range layout.list.length) true none entry.2 = evicted at running
    obtain ⟨result, active, middle⟩ := evicted
    cases active with
    | none =>
      subst running
      cases answered
    | some active =>
      dsimp only at running
      split at running
      next settled =>
        have evict : Orderly middle := evictOthers_orderly listed entered evicting settled
        have found := evictOthers_active listed (congrArg (fun out => out.2.1) evicting)
        exact writeRegions_orderly (found.resolve_left (by simp)).1 evict bounded running answered
      next =>
        subst running
        cases answered

/-- The regions during an erase that has reached region `active`. -/
structure Erasing (active : Nat) (target : Target) : Prop where
  others : ∀ j, j ≠ active → Tidy (target.state j)
  here : (target.state active).operation = .erase ∨ Tidy (target.state active)

theorem Orderly.erasing (orderly : Orderly target) (active : Nat) : Erasing active target :=
  ⟨fun j _ => orderly j, .inr (orderly active)⟩

theorem flashDone_closes {active : Nat} (erasing : Erasing active target) :
    Orderly (flashDone layout env active target).2 := by
  intro j
  by_cases same : j = active
  · subst same
    by_cases busy : (target.state j).operation = .none
    · rw [flashDone, if_pos busy]
      apply erasing.here.resolve_left
      rw [busy]
      exact fun never => by cases never
    · rw [flashDone_state busy]
      exact Released.tidy ⟨rfl, rfl⟩
  · rw [flashDone_only.1 j same]
    exact erasing.others j same

theorem flashPrepare_others {operation : FlashOperation} {j : Nat} (other : j ≠ i) :
    (flashPrepare layout env i operation target).2.state j = target.state j := by
  rw [flashPrepare]
  split
  · rfl
  · dsimp only
    generalize ending : (if (target.state i).operation ≠ .none then flashDone layout env i target else (true, target)) = ended
    have first : ended.2.state j = target.state j := by
      subst ending
      split
      · exact flashDone_only.1 j other
      · rfl
    have kept : ∀ {middle : Target} {state : FlashState}, (middle.put i state).state j = middle.state j := if_neg other
    split
    · generalize asking : (if (layout.flash i).prepare = true then _ else _ : Bool × Target) = asked
      have second : asked.2.state j = ended.2.state j := by
        subst asking
        split <;> exact kept
      split
      · exact second.trans first
      · exact kept.trans (second.trans first)
    · exact first

theorem eraseBlocks_orderly {fuel active addr len : Nat} {result : Bool} (erasing : Erasing active target)
    {next : Bool × Target} (running : eraseBlocks layout env fuel active addr len result target = next)
    (answered : next.1 = true) : Orderly next.2 := by
  induction fuel generalizing active addr len result target with
  | zero =>
    rw [eraseBlocks] at running
    split at running
    next =>
      subst running
      exact flashDone_closes erasing
    next =>
      subst running
      cases answered
  | succ fuel ih =>
    rw [eraseBlocks] at running
    split at running
    next =>
      subst running
      exact flashDone_closes erasing
    next =>
      split at running
      next =>
        subst running
        cases answered
      next j found =>
        dsimp only at running
        generalize leaving : (if j ≠ active then flashDone layout env active target else (true, target)) = left at running
        have first : Erasing j left.2 := by
          split at leaving
          next =>
            subst leaving
            exact (flashDone_closes erasing).erasing j
          next same =>
            subst leaving
            rwa [not_not.mp same]
        generalize preparing : flashPrepare layout env j .erase left.2 = prepared at running
        split at running
        next =>
          subst running
          cases answered
        next ready =>
          have opened : Steps layout env (0, []) left.2 prepared.2 ∧ _ :=
            flashPrepare_erase_steps (regionForAddr_some found).1 preparing (by simpa using ready)
          have second : Erasing j prepared.2 := by
            refine ⟨fun k other => ?_, .inl opened.2⟩
            rw [← preparing, flashPrepare_others other]
            exact first.others k other
          split at running
          next =>
            subst running
            cases answered
          next =>
            have third : Erasing j (prepared.2.ask env (.erase j (alignDown addr (layout.flash j).blocksize)
              (layout.flash j).blocksize)).2 := ⟨second.others, second.here⟩
            exact ih third running

theorem targetFlashErase_orderly {addr len : Nat} (orderly : Orderly target) {next : Bool × Target}
    (running : targetFlashErase layout env addr len target = next) (answered : next.1 = true) : Orderly next.2 := by
  rw [targetFlashErase] at running
  have entered : Orderly (targetEnterFlashMode env target).2 := enterFlashMode_orderly orderly
  generalize targetEnterFlashMode env target = entry at entered running
  split at running
  next =>
    subst running
    cases answered
  next =>
    split at running
    next =>
      subst running
      cases answered
    next active found => exact eraseBlocks_orderly (entered.erasing active) running answered

theorem completeRegions_released {indices : List Nat} {result : Bool} (listed : ∀ j ∈ indices, j < layout.list.length)
    (orderly : Orderly target) {next : Bool × Target} (running : completeRegions layout env indices result target = next)
    (answered : next.1 = true) :
    Orderly next.2 ∧ ∀ j, j ∈ indices ∨ Released (target.state j) → Released (next.2.state j) := by
  induction indices generalizing result target with
  | nil =>
    subst running
    exact ⟨orderly, fun j released => released.resolve_left List.not_mem_nil⟩
  | cons j rest ih =>
    rw [completeRegions] at running
    generalize flushing : flushDone layout env j target = flushed at running
    have settled : flushed.1 = true := by
      rw [← running] at answered
      exact (Bool.and_eq_true_iff.mp (completeRegions_result answered)).2
    have inside : j < layout.list.length := listed j List.mem_cons_self
    have first : Released (flushed.2.state j) := flushDone_released (orderly j) inside flushing settled
    obtain ⟨tidy, later⟩ := ih (fun k member => listed k (List.mem_cons_of_mem j member))
      (flushDone_orderly orderly inside flushing settled) running
    refine ⟨tidy, fun k which => ?_⟩
    by_cases same : k = j
    · subst same
      exact later k (.inr first)
    · have untouched : flushed.2.state k = target.state k := by
        rw [← flushing]
        exact flushDone_others (orderly j).resting k same
      apply later k
      rw [untouched]
      exact which.imp_left fun member => (List.mem_cons.mp member).resolve_left same

/-- The completion that succeeds releases every region and leaves flash mode. -/
theorem targetFlashComplete_released (orderly : Orderly target) {next : Bool × Target}
    (running : targetFlashComplete layout env target = next) (answered : next.1 = true) :
    (∀ j < layout.list.length, Released (next.2.state j)) ∧ next.2.flashMode = false := by
  rw [targetFlashComplete] at running
  split at running
  next =>
    subst running
    cases answered
  next =>
    dsimp only at running
    generalize completing : completeRegions layout env (List.range layout.list.length) true target = completed at running
    subst running
    obtain ⟨-, released⟩ :=
      completeRegions_released (fun j member => List.mem_range.mp member) orderly completing answered
    obtain ⟨state, -, mode⟩ := @exitFlashMode_state env completed.2
    refine ⟨fun j inside => ?_, mode⟩
    rw [state]
    exact released j (.inl (List.mem_range.mpr inside))

end Release

section Sessions

/-- A sequence of erases and writes that have all returned true. -/
inductive Session (layout : Regions) (env : Environment) (start : Target) : List Request → Target → Prop where
  | start : Session layout env start [] start
  | request {requests : List Request} {request : Request} {target next : Target}
      (session : Session layout env start requests target) (acknowledged : perform layout env request target = (true, next)) :
      Session layout env start (requests ++ [request]) next

/-- No write of the sequence reaches the end of the address space. -/
def Below (requests : List Request) : Prop :=
  ∀ dest data, .write dest data ∈ requests → dest + data.length < 2 ^ 32

/-- What the success of a sequence and of its completion means. -/
structure Success (layout : Regions) (env : Environment) (start final : Target) : Prop where
  succeeded : Succeeded env start.calls final.calls
  released : ∀ i < layout.list.length, Released (final.state i)
  outside : final.flashMode = false

variable {start final : Target} {requests : List Request}

theorem perform_succeeded {past : List Call} {request : Request} {next : Target}
    (acknowledged : perform layout env request target = (true, next)) (succeeded : Succeeded env past target.calls) :
    Succeeded env past next.calls := by
  cases request with
  | write dest data => exact succeeded.steps (targetFlashWrite_steps acknowledged rfl)
  | erase addr len =>
    have steps : Steps layout env (0, []) target next := targetFlashErase_steps acknowledged rfl
    exact succeeded.steps steps

theorem Session.succeeded (session : Session layout env start requests target) :
    Succeeded env start.calls target.calls := by
  induction session with
  | start => exact .start start.calls
  | request session acknowledged ih => exact perform_succeeded acknowledged ih

theorem Session.orderly (session : Session layout env start requests target) (orderly : Orderly start)
    (below : Below requests) : Orderly target := by
  induction session with
  | start => exact orderly
  | @request requests request middle next session acknowledged ih =>
    have earlier : Orderly middle := ih fun dest data member => below dest data (List.mem_append_left _ member)
    cases request with
    | write dest data =>
      have bounded := below dest data (List.mem_append_right _ (List.mem_singleton_self _))
      exact targetFlashWrite_orderly earlier bounded acknowledged rfl
    | erase addr len => exact targetFlashErase_orderly earlier acknowledged rfl

/-- A session whose writes stay below the end of the address space and that succeeds up to its completion has had no
failure. -/
theorem session_success (session : Session layout env start requests target) (orderly : Orderly start)
    (below : Below requests) (completed : targetFlashComplete layout env target = (true, final)) :
    Success layout env start final := by
  have steps : Steps layout env (0, []) target final := targetFlashComplete_steps completed rfl
  obtain ⟨released, outside⟩ := targetFlashComplete_released (session.orderly orderly below) completed rfl
  exact ⟨session.succeeded.steps steps, released, outside⟩

theorem probed_orderly : Orderly Target.probed := fun _ => Released.tidy ⟨rfl, rfl⟩

private def writtenOne : Target := (perform twoRegions willing (.write 0x08000000 [1#8]) Target.probed).2

private theorem writtenOne_acknowledged :
    perform twoRegions willing (.write 0x08000000 [1#8]) Target.probed = (true, writtenOne) :=
  Prod.ext (by decide +kernel) rfl

/-- The sequence of one write. -/
theorem one_write_success : Success twoRegions willing Target.probed (targetFlashComplete twoRegions willing writtenOne).2 := by
  have completed : (targetFlashComplete twoRegions willing writtenOne).1 = true := by decide +kernel
  apply session_success (.request .start writtenOne_acknowledged) probed_orderly _ (Prod.ext completed rfl)
  intro dest data member
  cases List.mem_singleton.mp member
  decide

/-- A region that ends just below the end of the address space. -/
def lastRegion : Regions := ⟨targetAddFlash ⟨0xfffffff0, 8, 8, 4, 0, 0xff#8, true, true⟩ []⟩

/-- A write from inside the region to the end of the address space. -/
def lastBytes : List Byte := List.replicate 12 1#8

private def writtenLast : Target := (perform lastRegion willing (.write 0xfffffff4 lastBytes) Target.probed).2

/-- All calls return true, no byte reaches the driver, and the buffer is not released. -/
theorem last_buffer_kept :
    ∃ target final, Orderly Target.probed ∧ Session lastRegion willing Target.probed [.write 0xfffffff4 lastBytes] target ∧
      targetFlashComplete lastRegion willing target = (true, final) ∧ ¬ Success lastRegion willing Target.probed final := by
  have acknowledged : perform lastRegion willing (.write 0xfffffff4 lastBytes) Target.probed = (true, writtenLast) :=
    Prod.ext (by decide +kernel) rfl
  have completed : (targetFlashComplete lastRegion willing writtenLast).1 = true := by decide +kernel
  have held : ((targetFlashComplete lastRegion willing writtenLast).2.state 0).buf.isSome = true := by decide +kernel
  refine ⟨writtenLast, (targetFlashComplete lastRegion willing writtenLast).2, probed_orderly,
    .request .start acknowledged, Prod.ext completed rfl, fun success => ?_⟩
  rw [(success.released 0 (by decide)).2] at held
  cases held

end Sessions

end BlackMagic.Proofs.FlashResults

import BlackMagic.Proofs.NvmcConfig

/-! Runs of erases, writes and completions over the regions of an nRF51 or nRF52, and the mode of their flash controller. -/

namespace BlackMagic.Proofs.NvmcRuns
open BlackMagic.Flash BlackMagic.Nrf51 Lib.Words FlashSteps NvmcConfig

variable {regions : Regions} {env : Environment} {target : Target} {i : Nat}

section Write

/-- A target after a part of a write in region `i`. -/
structure Written (target next : Target) (i : Nat) : Prop where
  keeps : Keeps target next
  others : ∀ j ≠ i, next.state j = target.state j
  held : (next.state i).buf.isSome
  erasing : (next.state i).operation = .erase → Filled (next.state i)

theorem Written.alone {next : Target} (written : Written target next i) (alone : ∀ j, Loaded (target.state j) → j = i) {j : Nat}
    (loaded : Loaded (next.state j)) : j = i := by
  by_contra other
  rw [written.others j other] at loaded
  exact other (alone j loaded)

theorem Written.ordered {next : Target} (written : Written target next i) (ordered : Ordered regions target)
    (listed : i < regions.list.length) (inside : target.flashMode = true) (alone : ∀ j, Loaded (target.state j) → j = i) :
    Ordered regions next := by
  constructor
  · exact written.keeps.sound ordered.sound
  · exact written.keeps.fault.trans ordered.faultless
  · intro j writing
    rw [written.alone alone (.inl writing)]
    exact written.held
  · intro j erasing held
    by_cases here : j = i
    · subst here
      exact written.erasing erasing
    · rw [written.others j here] at erasing held ⊢
      exact ordered.erasing j erasing held
  · intro j k first second
    exact (written.alone alone first).trans (written.alone alone second).symm
  · intro j busy
    by_cases here : j = i
    · exact here ▸ listed
    · rw [written.others j here] at busy
      exact ordered.listed j busy
  · intro outside
    cases inside.symm.trans (written.keeps.mode.symm.trans outside)

/-- What is left of a write goes on after a part in a region that can still be flushed. -/
theorem Written.flows {next : Target} (written : Written target next i) (alone : ∀ j, Loaded (target.state j) → j = i)
    (flushable : Flushable (config next.calls) (next.state i)) {parts : List (Nat × Nat × Nat)}
    (flows : Flows regions target parts) : Flows regions next parts := by
  induction parts with
  | nil => trivial
  | cons part rest ih =>
    obtain ⟨j, dest, len⟩ := part
    refine ⟨?_, ih flows.2⟩
    by_cases here : j = i
    · subst here
      exact .inl flushable
    · rw [written.others j here]
      apply flows.1.imp_left
      exact fun before => ⟨before.1, fun writing => absurd (alone j (.inl writing)) here⟩

/-- The allocation of a buffer where there is none. -/
theorem alloc_spec {alloc : Bool × Target}
    (allocating : (if (target.state i).buf.isNone then flashBufferAlloc regions env i target else (true, target)) = alloc) :
    Keeps target alloc.2 ∧ (∀ j ≠ i, alloc.2.state j = target.state j) ∧ config alloc.2.calls = config target.calls ∧
      (alloc.2.state i).operation = (target.state i).operation ∧
      (alloc.1 = true → (alloc.2.state i).buf.isSome ∧ (alloc.2 = target ∨ ¬ Pending (alloc.2.state i))) ∧
      (alloc.1 = false → (target.state i).buf = none ∧ (alloc.2.state i).buf = none) := by
  subst allocating
  split
  next free =>
    have right : Right (config target.calls) (.malloc (regions.flash i).writebufsize) := trivial
    rw [flashBufferAlloc]
    dsimp only
    split
    next granted =>
      refine ⟨(ask_keeps right).trans (put_keeps ..), fun j other => put_other _ _ other, config_snoc target.calls _, ?_,
        fun _ => ⟨?_, .inr fun pending => ?_⟩, (fun never => by cases never)⟩
      · rw [put_same]
        rfl
      · rw [put_same]
        rfl
      · rw [put_same] at pending
        exact pending.2.1 rfl
    next refused =>
      refine ⟨(ask_keeps right).trans (put_keeps ..), fun j other => put_other _ _ other, config_snoc target.calls _, ?_,
        (fun never => by cases never), fun _ => ⟨Option.isNone_iff_eq_none.mp free, ?_⟩⟩
      · rw [put_same]
        rfl
      · rw [put_same]
  next held =>
    refine ⟨.refl target, fun _ _ => rfl, rfl, rfl, fun _ => ⟨?_, .inl rfl⟩, (fun never => by cases never)⟩
    exact Option.isSome_iff_ne_none.mpr fun none => held (Option.isNone_iff_eq_none.mpr none)

/-- The copying of a part of a write in a region with a buffer. -/
theorem part_written (shared : Shared regions) (obedient : Obedient env) (listed : i < regions.list.length) {dest : Nat}
    {src : List Byte} {last : Prop} (held : (target.state i).buf.isSome)
    (safe : Flushable (config target.calls) (target.state i) ∨
      last ∧ Stays (regions.flash i) (target.state i) dest src.length) :
    Written target (flashBufferedWrite regions env i dest src target).2 i ∧
      (Flushable (config (flashBufferedWrite regions env i dest src target).2.calls)
        ((flashBufferedWrite regions env i dest src target).2.state i) ∨ last) := by
  cases safe with
  | inl flushable =>
    obtain ⟨keeps, others, kept, still⟩ :=
      @bufferedWrites_flushable regions env target i shared obedient listed src.length dest src true held flushable
    exact ⟨⟨keeps, others, kept, fun erasing => absurd erasing still.1⟩, .inl still⟩
  | inr stays =>
    obtain ⟨keeps, others, _, pending⟩ := bufferedWrites_stays shared obedient listed held stays.2
    exact ⟨⟨keeps, others, pending.1, fun _ => pending.2⟩, .inr stays.1⟩

/-- A part of a write, with what follows it. -/
theorem part_ordered (shared : Shared regions) (obedient : Obedient env) (listed : i < regions.list.length) {dest count : Nat}
    {src : List Byte} {rest : List (Nat × Nat × Nat)} {alloc : Bool × Target} (inside : target.flashMode = true)
    (ordered : Ordered regions target) (alone : ∀ j, Loaded (target.state j) → j = i)
    (flows : Flows regions target ((i, dest, min count src.length) :: rest))
    (allocating : (if (target.state i).buf.isNone then flashBufferAlloc regions env i target else (true, target)) = alloc)
    (granted : alloc.1 = true) {next : Target}
    (copying : (flashBufferedWrite regions env i dest (src.take count) alloc.2).2 = next) :
    Ordered regions next ∧ next.flashMode = true ∧ (∀ j, Loaded (next.state j) → j = i) ∧
      (rest ≠ [] → Flushable (config next.calls) (next.state i)) ∧ Flows regions next rest := by
  obtain ⟨keeps, others, mode, operation, having, _⟩ := alloc_spec allocating
  obtain ⟨held, fresh⟩ := having granted
  have length : (src.take count).length = min count src.length := List.length_take
  have safe : Flushable (config alloc.2.calls) (alloc.2.state i) ∨
      rest = [] ∧ Stays (regions.flash i) (alloc.2.state i) dest (src.take count).length := by
    rw [length]
    refine flows.1.imp (fun before => ?_) (fun last => ⟨last.1, last.2.filled, last.2.block, last.2.bounded, ?_⟩)
    · rw [Flushable, mode, operation]
      exact before
    · cases fresh with
      | inl same =>
        rw [same]
        exact last.2.same
      | inr unfilled => exact .inr unfilled
  obtain ⟨copied, after⟩ := part_written shared obedient listed held safe
  rw [copying] at copied after
  have written : Written target next i :=
    ⟨keeps.trans copied.keeps, fun j other => (copied.others j other).trans (others j other), copied.held, copied.erasing⟩
  refine ⟨written.ordered ordered listed inside alone, written.keeps.mode.trans inside, fun j => written.alone alone,
    after.resolve_right, ?_⟩
  cases after with
  | inl flushable => exact written.flows alone flushable flows.2
  | inr none =>
    rw [none]
    trivial

/-- A part for which there is no buffer to be had. -/
theorem refused_ordered (listed : i < regions.list.length) {alloc : Bool × Target} (inside : target.flashMode = true)
    (ordered : Ordered regions target)
    (allocating : (if (target.state i).buf.isNone then flashBufferAlloc regions env i target else (true, target)) = alloc)
    (refused : alloc.1 = false) : Ordered regions alloc.2 := by
  obtain ⟨keeps, others, _, operation, _, lacking⟩ := alloc_spec allocating
  obtain ⟨free, none⟩ := lacking refused
  have calms : Calms regions target alloc.2 := by
    refine ⟨keeps, fun j => ?_⟩
    by_cases same : j = i
    · subst same
      refine .inr ⟨none, fun writing => ?_, fun _ => listed⟩
      have held := ordered.buffered j (operation.symm.trans writing)
      rw [free] at held
      cases held
    · exact .inl (others j same)
  exact calms.ordered ordered inside

/-- What a call returns beside the target does not matter. -/
theorem returned (ordered : Ordered regions target) (result : Bool) : Ordered regions (result, target).2 := ordered

theorem writeRegions_ordered (shared : Shared regions) (obedient : Obedient env) {fuel active dest : Nat} {src : List Byte}
    (listed : active < regions.list.length) (inside : target.flashMode = true) (ordered : Ordered regions target)
    (alone : ∀ j, Loaded (target.state j) → j = active)
    (leaves : writtenParts regions fuel dest src.length ≠ [] →
      targetFlashForAddr regions dest = some active ∨ Flushable (config target.calls) (target.state active))
    (flows : Flows regions target (writtenParts regions fuel dest src.length)) :
    Ordered regions (writeRegions regions env fuel active dest src target).2 := by
  induction fuel generalizing active dest src target with
  | zero => exact ordered
  | succ fuel ih =>
    rw [writeRegions]
    split
    · exact ordered
    next more =>
      have nonempty : src.length ≠ 0 := fun none => more (List.length_eq_zero_iff.mp none)
      split
      · exact ordered
      next i found =>
        rw [writtenParts, if_neg nonempty] at leaves flows
        simp only [found] at leaves flows
        have here := (regionForAddr_some found).1
        obtain ⟨left, leaving, answered, eases, only⟩ : ∃ left,
            (if i ≠ active then flushDone regions env active target else (true, target)) = left ∧ left.1 = true ∧
              Eases target left.2 ∧ ∀ j, Loaded (left.2.state j) → j = i := by
          refine ⟨_, rfl, ?_⟩
          split
          next other =>
            have flushable := (leaves (List.cons_ne_nil _ _)).resolve_left fun same => other (Option.some.inj same)
            obtain ⟨ended, eases, none⟩ := flushDone_eases shared obedient listed (fun _ => flushable) alone
            exact ⟨ended, eases, fun j loaded => absurd loaded (none j)⟩
          next same =>
            rw [ne_eq, not_not] at same
            subst same
            exact ⟨rfl, .refl target, alone⟩
        have settled : Ordered regions left.2 := eases.calms.ordered ordered inside
        have within : left.2.flashMode = true := eases.keeps.mode.trans inside
        have parts := eases.flows flows
        dsimp only
        rw [leaving]
        generalize allocating : (if (left.2.state i).buf.isNone then flashBufferAlloc regions env i left.2
          else (true, left.2)) = alloc
        generalize sub32 (min (add32 dest src.length) (add32 (regions.flash i).start (regions.flash i).length)) dest = count at *
        generalize min (add32 dest src.length) (add32 (regions.flash i).start (regions.flash i).length) = finish at *
        by_cases taken : alloc.1 = false
        · rw [taken, Bool.and_false, Bool.not_false, if_pos rfl]
          exact returned (refused_ordered here within settled allocating taken) false
        · rw [Bool.not_eq_false] at taken
          rw [taken, answered, Bool.and_self, Bool.not_true, if_neg Bool.false_ne_true]
          generalize copying : flashBufferedWrite regions env i dest (src.take count) alloc.2 = written
          obtain ⟨now, going, single, flushable, rest⟩ := part_ordered shared obedient here within settled only parts allocating
            taken (congrArg Prod.snd copying)
          rw [← List.length_drop] at flushable rest
          split
          · exact returned now false
          · exact ih here going now single (fun some => .inr (flushable some)) rest

/-- What a write has to respect: data of the other regions can be flushed, and so can what it flushes itself. -/
structure WriteSafe (regions : Regions) (target : Target) (dest len : Nat) : Prop where
  others : ∀ j, (regions.flash j).contains dest = false → Pending (target.state j) →
    Flushable (config target.calls) (target.state j)
  parts : Flows regions target (writtenParts regions len dest len)

/-- An address has no region but the one that contains it. -/
theorem region_of (shared : Shared regions) (listed : i < regions.list.length) {addr : Nat}
    (covers : (regions.flash i).contains addr = true) : targetFlashForAddr regions addr = some i := by
  cases found : targetFlashForAddr regions addr with
  | none =>
    have outside := List.findIdx?_eq_none_iff.mp found (regions.flash i) ?_
    · rw [covers] at outside
      cases outside
    · rw [Regions.flash, List.getElem?_eq_getElem listed]
      exact List.getElem_mem listed
  | some j => rw [shared.apart addr j i (regionForAddr_some found).2 covers]

theorem write_ordered (shared : Shared regions) (obedient : Obedient env) {dest : Nat} {src : List Byte}
    (ordered : Ordered regions target) (safe : WriteSafe regions target dest src.length) :
    Ordered regions (targetFlashWrite regions env dest src target).2 := by
  obtain ⟨entered, started, inside, state, mode⟩ := enter_spec obedient ordered
  rw [targetFlashWrite, entered, Bool.not_true, if_neg Bool.false_ne_true]
  have parts := safe.parts.congr state mode
  have others : ∀ j, (regions.flash j).contains dest = false → Pending ((targetEnterFlashMode env target).2.state j) →
      Flushable (config (targetEnterFlashMode env target).2.calls) ((targetEnterFlashMode env target).2.state j) := by
    rw [state, mode]
    exact safe.others
  generalize (targetEnterFlashMode env target).2 = session at *
  have listed : ∀ j ∈ List.range regions.list.length, j < regions.list.length := fun j member => List.mem_range.mp member
  obtain ⟨eases, unloaded⟩ := @evictOthers_eases regions env session shared obedient dest (List.range regions.list.length) true none
    inside started listed others
  have found := @evictOthers_active regions env session dest (List.range regions.list.length) true none
  generalize evictOthers regions env dest (List.range regions.list.length) true none session = evicted at *
  obtain ⟨result, place, middle⟩ := evicted
  have settled : Ordered regions middle := eases.calms.ordered started inside
  cases place with
  | none => exact returned settled false
  | some active =>
    dsimp only
    split
    · obtain ⟨here, covers⟩ := (found listed rfl).resolve_left (fun never => by cases never)
      have alone : ∀ j, Loaded (middle.state j) → j = active := by
        intro j loaded
        cases place : (regions.flash j).contains dest with
        | true => exact shared.apart dest j active place covers
        | false =>
          have inList : j < regions.list.length := by
            apply settled.listed j
            cases loaded with
            | inl writing =>
              left
              rw [writing]
              decide
            | inr pending => exact .inr pending.1
          exact absurd loaded (unloaded j (.inl ⟨List.mem_range.mpr inList, place⟩))
      exact writeRegions_ordered shared obedient here (eases.keeps.mode.trans inside) settled alone
        (fun _ => .inl (region_of shared here covers)) (eases.flows parts)
    · exact returned settled false

end Write

section Complete

theorem flushDone_calms (shared : Shared regions) (obedient : Obedient env) (listed : i < regions.list.length)
    (flushable : Pending (target.state i) → Flushable (config target.calls) (target.state i)) :
    Calms regions target (flushDone regions env i target).2 ∧
      ((flushDone regions env i target).2.state i).operation = .none := by
  obtain ⟨_, keeps, others, done⟩ := flushDone_spec shared obedient listed flushable
  refine ⟨⟨keeps, fun j => ?_⟩, ?_⟩
  · by_cases here : j = i
    · subst here
      cases done with
      | inl idle =>
        rw [idle.2.2]
        exact .inl rfl
      | inr closed =>
        refine .inr ⟨closed.2.1, ?_, fun _ => listed⟩
        rw [closed.1]
        decide
    · exact .inl (others j here)
  · cases done with
    | inl idle =>
      rw [idle.2.2]
      exact idle.1
    | inr closed => exact closed.1

/-- Data that waits is in no region with an erase, and where its write is under way, this is the mode, and no region before
it is in an operation. -/
def Waits (target : Target) (indices : List Nat) : Prop :=
  ∀ i ∈ indices, Pending (target.state i) → (target.state i).operation ≠ .erase ∧
    ((target.state i).operation = .write → config target.calls = .wen ∧
      ∀ j ∈ indices, j < i → (target.state j).operation = .none)

theorem Waits.flushable {indices : List Nat} (waits : Waits target indices) (member : i ∈ indices)
    (pending : Pending (target.state i)) : Flushable (config target.calls) (target.state i) :=
  ⟨(waits i member pending).1, fun writing => ((waits i member pending).2 writing).1⟩

theorem Waits.next (shared : Shared regions) (obedient : Obedient env) (listed : i < regions.list.length)
    (ordered : Ordered regions target) {rest : List Nat} (waits : Waits target (i :: rest)) (sorted : ∀ j ∈ rest, i < j) :
    Waits (flushDone regions env i target).2 rest := by
  intro j member pending
  have later := List.mem_cons_of_mem i member
  have other : j ≠ i := fun same => absurd (sorted j member) (by rw [same]; exact Nat.lt_irrefl i)
  obtain ⟨_, _, others, _⟩ := @flushDone_spec regions env target i shared obedient listed (waits.flushable List.mem_cons_self)
  rw [others j other] at pending ⊢
  refine ⟨(waits j later pending).1, fun writing => ?_⟩
  obtain ⟨mode, before⟩ := (waits j later pending).2 writing
  have idle := before i List.mem_cons_self (sorted j member)
  have empty : ¬ Pending (target.state i) := fun full => other (ordered.one j i (.inl writing) (.inr full))
  rw [flushDone_idle idle empty]
  exact ⟨mode, fun k among => before k (List.mem_cons_of_mem i among)⟩

/-- The end of all operations. -/
theorem completeRegions_calms (shared : Shared regions) (obedient : Obedient env) {indices : List Nat} {result : Bool}
    (inside : target.flashMode = true) (ordered : Ordered regions target) (listed : ∀ i ∈ indices, i < regions.list.length)
    (sorted : indices.Pairwise (· < ·)) (waits : Waits target indices) :
    Calms regions target (completeRegions regions env indices result target).2 ∧
      ∀ i, i ∈ indices ∨ (target.state i).operation = .none →
        ((completeRegions regions env indices result target).2.state i).operation = .none := by
  induction indices generalizing result target with
  | nil => exact ⟨.refl target, fun i idle => idle.resolve_left List.not_mem_nil⟩
  | cons k rest ih =>
    obtain ⟨first, others⟩ := List.pairwise_cons.mp sorted
    have here := listed k List.mem_cons_self
    obtain ⟨calms, ended⟩ := @flushDone_calms regions env target k shared obedient here (waits.flushable List.mem_cons_self)
    obtain ⟨_, _, untouched, _⟩ := @flushDone_spec regions env target k shared obedient here
      (waits.flushable List.mem_cons_self)
    rw [completeRegions]
    obtain ⟨later, idle⟩ := @ih (flushDone regions env k target).2 (result && (flushDone regions env k target).1)
      (calms.keeps.mode.trans inside) (calms.ordered ordered inside) (fun i member => listed i (List.mem_cons_of_mem k member))
      others (waits.next shared obedient here ordered first)
    refine ⟨calms.trans later, fun i among => idle i ?_⟩
    by_cases same : i = k
    · exact .inr (same ▸ ended)
    · rw [untouched i same]
      exact among.imp_left fun member => (List.mem_cons.mp member).resolve_left same

theorem complete_ordered (shared : Shared regions) (obedient : Obedient env) (ordered : Ordered regions target)
    (waits : Waits target (List.range regions.list.length)) :
    Ordered regions (targetFlashComplete regions env target).2 ∧
      config (targetFlashComplete regions env target).2.calls = .ren := by
  rw [targetFlashComplete]
  by_cases inside : target.flashMode = true
  · rw [inside, Bool.not_true, if_neg Bool.false_ne_true]
    obtain ⟨calms, idle⟩ := @completeRegions_calms regions env target shared obedient (List.range regions.list.length) true
      inside ordered (fun i member => List.mem_range.mp member) List.pairwise_lt_range waits
    generalize completeRegions regions env (List.range regions.list.length) true target = completed at *
    have settled := calms.ordered ordered inside
    have ended : ∀ i, (completed.2.state i).operation = .none := by
      intro i
      by_contra busy
      exact busy (idle i (.inl (List.mem_range.mpr (settled.listed i (.inl busy)))))
    have left : (targetExitFlashMode env completed.2).2 = { (completed.2.ask env .reset).2 with flashMode := false } := by
      rw [targetExitFlashMode, calms.keeps.mode, inside, Bool.not_true, if_neg Bool.false_ne_true]
      simp only [obedient.exit, obedient.reset, Bool.false_eq_true, if_false, if_true]
    dsimp only
    rw [left]
    have reset : config (completed.2.calls ++ [.reset]) = .ren := config_snoc completed.2.calls .reset
    exact ⟨⟨sound_snoc settled.sound trivial, settled.faultless, settled.buffered, settled.erasing, settled.one,
      settled.listed, fun _ => ⟨ended, reset⟩⟩, reset⟩
  · have outside : target.flashMode = false := by simpa using inside
    rw [outside, Bool.not_false, if_pos rfl]
    exact ⟨returned ordered false, (ordered.idle outside).2⟩

end Complete

section Runs

/-- What an erase has to respect: no region it goes through is idle with a buffer, and one that is still in an erase is the
one it begins in, with erases enabled. -/
def EraseSafe (regions : Regions) (target : Target) (addr len : Nat) : Prop :=
  ∀ active, targetFlashForAddr regions addr = some active →
    ∀ i ∈ erasedRegions regions len addr len, Erasable target active i

theorem targetFlashErase_calms (shared : Shared regions) (obedient : Obedient env) (ordered : Ordered regions target)
    {addr len : Nat} (safe : EraseSafe regions target addr len) :
    Calms regions (targetEnterFlashMode env target).2 (targetFlashErase regions env addr len target).2 := by
  obtain ⟨entered, _, _, state, mode⟩ := enter_spec obedient ordered
  rw [targetFlashErase, entered, Bool.not_true, if_neg Bool.false_ne_true]
  cases found : targetFlashForAddr regions addr with
  | none => exact .refl _
  | some active =>
    have erasable : ∀ i ∈ erasedRegions regions len addr len, Erasable (targetEnterFlashMode env target).2 active i := by
      intro i member
      rw [Erasable, state, mode]
      exact safe active found i member
    exact eraseBlocks_calms shared obedient (regionForAddr_some found).1 erasable

theorem erase_ordered (shared : Shared regions) (obedient : Obedient env) (ordered : Ordered regions target) {addr len : Nat}
    (safe : EraseSafe regions target addr len) : Ordered regions (targetFlashErase regions env addr len target).2 := by
  obtain ⟨_, started, inside, _, _⟩ := enter_spec obedient ordered
  exact (targetFlashErase_calms shared obedient ordered safe).ordered started inside

/-- A region without a buffer is without one after an erase. -/
theorem erase_unbuffered (shared : Shared regions) (obedient : Obedient env) (ordered : Ordered regions target) {addr len : Nat}
    (safe : EraseSafe regions target addr len) (free : (target.state i).buf = none) :
    ((targetFlashErase regions env addr len target).2.state i).buf = none := by
  obtain ⟨_, _, _, state, _⟩ := enter_spec obedient ordered
  cases (targetFlashErase_calms shared obedient ordered safe).states i with
  | inl same => rw [same, state, free]
  | inr calm => exact calm.1

/-- What a request has to respect to be made in the right modes. -/
def Safe (regions : Regions) (target : Target) : Request → Prop
  | .erase addr len => EraseSafe regions target addr len
  | .write dest src => WriteSafe regions target dest src.length
  | .complete => Waits target (List.range regions.list.length)

theorem perform_ordered (shared : Shared regions) (obedient : Obedient env) (ordered : Ordered regions target)
    {request : Request} (safe : Safe regions target request) : Ordered regions (perform regions env target request).2 := by
  cases request with
  | erase addr len => exact erase_ordered shared obedient ordered safe
  | write dest src => exact write_ordered shared obedient ordered safe
  | complete => exact (complete_ordered shared obedient ordered safe).1

def run (regions : Regions) (env : Environment) : List Request → Target → Target
  | [], target => target
  | request :: rest, target => run regions env rest (perform regions env target request).2

def SafeRun (regions : Regions) (env : Environment) : List Request → Target → Prop
  | [], _ => True
  | request :: rest, target => Safe regions target request ∧ SafeRun regions env rest (perform regions env target request).2

theorem run_ordered (shared : Shared regions) (obedient : Obedient env) {requests : List Request}
    (ordered : Ordered regions target) (safe : SafeRun regions env requests target) :
    Ordered regions (run regions env requests target) := by
  induction requests generalizing target with
  | nil => exact ordered
  | cons request rest ih => exact ih (perform_ordered shared obedient ordered safe.1) safe.2

theorem run_append (first last : List Request) (target : Target) :
    run regions env (first ++ last) target = run regions env last (run regions env first target) := by
  induction first generalizing target with
  | nil => rfl
  | cons request rest ih => exact ih _

theorem SafeRun.split {first last : List Request} (safe : SafeRun regions env (first ++ last) target) :
    SafeRun regions env first target ∧ SafeRun regions env last (run regions env first target) := by
  induction first generalizing target with
  | nil => exact ⟨trivial, safe⟩
  | cons request rest ih =>
    obtain ⟨before, after⟩ := ih safe.2
    exact ⟨⟨safe.1, before⟩, after⟩

theorem probed_ordered (regions : Regions) : Ordered regions .probed where
  sound := sound_nil
  faultless := rfl
  buffered _ writing := by cases writing
  erasing _ erasing := by cases erasing
  one _ _ loaded := absurd loaded (not_loaded ⟨rfl, rfl⟩)
  listed _ busy := by
    cases busy with
    | inl busy => exact absurd rfl busy
    | inr held => cases held
  idle _ := ⟨fun _ => rfl, rfl⟩

end Runs

section Probe

theorem contains_unlisted (regions : Regions) {i addr : Nat} (unlisted : regions.list.length ≤ i) :
    (regions.flash i).contains addr = false := by
  rw [Regions.flash, List.getElem?_eq_none unlisted]
  simp only [TargetFlash.contains, Option.getD_none, Bool.and_eq_false_iff, decide_eq_false_iff_not]
  exact .inr (Nat.not_lt_zero addr)

theorem probe_regions {pageSize codeSize uid0 uid1 : Nat} (probed : nrf51Probe pageSize codeSize uid0 uid1 = some regions) :
    regions = ⟨nrf51AddFlash nrf51Uicr pageSize pageSize (nrf51AddFlash 0 (codeLength pageSize codeSize) pageSize [])⟩ := by
  rw [nrf51Probe] at probed
  split at probed
  · cases probed
  · split at probed
    · cases probed
    · exact (Option.some.inj probed).symm

/-- The regions of the probe are those of one controller, and no address is in both of them. -/
theorem probe_shared {pageSize codeSize uid0 uid1 : Nat} (probed : nrf51Probe pageSize codeSize uid0 uid1 = some regions)
    (below : codeLength pageSize codeSize ≤ nrf51Uicr) : Shared regions := by
  have two := probe_regions probed
  have count : regions.list.length = 2 := by
    rw [two]
    rfl
  have upper {addr : Nat} (inside : (regions.flash 0).contains addr = true) : nrf51Uicr ≤ addr := by
    rw [two] at inside
    exact (contains_bounds inside).1
  have lower {addr : Nat} (inside : (regions.flash 1).contains addr = true) : addr < nrf51Uicr := by
    rw [two] at inside
    have bound : addr < add32 0 (codeLength pageSize codeSize) := (contains_bounds inside).2
    have most : add32 0 (codeLength pageSize codeSize) ≤ codeLength pageSize codeSize := by
      rw [add32, Nat.zero_add]
      exact Nat.mod_le _ _
    omega
  have place {addr i : Nat} (inside : (regions.flash i).contains addr = true) : i < 2 := by
    by_contra unlisted
    rw [contains_unlisted regions (by omega)] at inside
    cases inside
  constructor
  · intro i listed
    rw [count] at listed
    rw [two]
    interval_cases i <;> rfl
  · intro i listed
    rw [count] at listed
    rw [two]
    interval_cases i <;> rfl
  · intro addr i j first second
    have left := place first
    have right := place second
    interval_cases i <;> interval_cases j
    · rfl
    · exact absurd (lower second) (Nat.not_lt.mpr (upper first))
    · exact absurd (lower first) (Nat.not_lt.mpr (upper second))
    · rfl

end Probe

/-- In every run over the regions of an nRF51 or nRF52 whose requests are all safe, and that ends with a completion, erases
and writes come in their modes, and the controller is read only at the end. -/
theorem nvmc_config {pageSize codeSize uid0 uid1 : Nat} (probed : nrf51Probe pageSize codeSize uid0 uid1 = some regions)
    (below : codeLength pageSize codeSize ≤ nrf51Uicr) (obedient : Obedient env) (requests : List Request)
    (safe : SafeRun regions env (requests ++ [.complete]) .probed) :
    Sound (run regions env (requests ++ [.complete]) .probed).calls ∧
      config (run regions env (requests ++ [.complete]) .probed).calls = .ren := by
  have shared := probe_shared probed below
  obtain ⟨before, last⟩ := safe.split
  have ordered := run_ordered shared obedient (probed_ordered regions) before
  rw [run_append]
  obtain ⟨completed, mode⟩ := complete_ordered shared obedient ordered last.1
  exact ⟨completed.sound, mode⟩

/-- A heap that is never exhausted, and callbacks that succeed. -/
def obedientEnvironment : Environment := ⟨false, false, true, fun _ => true, fun _ _ => 0⟩

theorem obedientEnvironment_obedient : Obedient obedientEnvironment := ⟨rfl, rfl, rfl, fun _ _ _ => rfl⟩

/-- The regions of a chip with 256 pages of 1024 bytes. -/
def smallRegions : Regions := ⟨nrf51AddFlash nrf51Uicr 1024 1024 (nrf51AddFlash 0 0x40000 1024 [])⟩

theorem smallRegions_probed : nrf51Probe 1024 256 1 1 = some smallRegions := rfl

theorem first_erase_safe (regions : Regions) (addr len : Nat) : EraseSafe regions .probed addr len :=
  fun _ _ _ _ => ⟨fun _ => rfl, (fun erasing => by cases erasing)⟩

theorem first_erase_unbuffered (i : Nat) :
    ¬ Pending ((perform smallRegions obedientEnvironment .probed (.erase 0 1024)).2.state i) := by
  intro pending
  have shared := probe_shared smallRegions_probed (by decide)
  have held := pending.1
  rw [perform, erase_unbuffered shared obedientEnvironment_obedient (probed_ordered smallRegions)
    (first_erase_safe smallRegions 0 1024) rfl] at held
  cases held

/-- The erase of a page. -/
theorem page_erased : Sound (run smallRegions obedientEnvironment [.erase 0 1024, .complete] .probed).calls ∧
    config (run smallRegions obedientEnvironment [.erase 0 1024, .complete] .probed).calls = .ren :=
  nvmc_config smallRegions_probed (by decide) obedientEnvironment_obedient [.erase 0 1024]
    ⟨first_erase_safe smallRegions 0 1024, fun i _ pending => absurd pending (first_erase_unbuffered i), trivial⟩

/-- An erase in a region whose buffer waits to be flushed comes with writes enabled. -/
theorem erase_with_writes_enabled :
    (run smallRegions obedientEnvironment [.write 0 [0], .erase 0 1024, .complete] .probed).calls =
      [.reset, .malloc 1024, .memcpy 1 0 1, .prepare 1 .erase true, .erase 1 0 1024, .done 1, .reset] ∧
    config [.reset, .malloc 1024, .memcpy 1 0 1, .prepare 1 .erase true] = .wen ∧
    ¬ Sound (run smallRegions obedientEnvironment [.write 0 [0], .erase 0 1024, .complete] .probed).calls := by
  have calls : (run smallRegions obedientEnvironment [.write 0 [0], .erase 0 1024, .complete] .probed).calls =
      [.reset, .malloc 1024, .memcpy 1 0 1, .prepare 1 .erase true, .erase 1 0 1024, .done 1, .reset] := by
    decide +kernel
  refine ⟨calls, rfl, fun sound => ?_⟩
  have right := sound [.reset, .malloc 1024, .memcpy 1 0 1, .prepare 1 .erase true] (.erase 1 0 1024) [.done 1, .reset] calls
  cases right

end BlackMagic.Proofs.NvmcRuns

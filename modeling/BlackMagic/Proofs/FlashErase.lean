import BlackMagic.Proofs.FlashResults

/-! An erase from idle regions. The blocks that it erases are those that the range
touches, and it leaves all regions idle again unless it runs off the flash after its
first block: that exit does not end the operation of the last region. -/

namespace BlackMagic.Proofs.FlashErase
open BlackMagic.Flash Lib.Words FlashFaithful FlashSteps FlashResults

variable {layout : Regions} {env : Environment} {target : Target} {past : List Call} {i : Nat}

section Idle

/-- The calls for which a region has to be ended again: a preparation that succeeds, and every erase. -/
def Opens (env : Environment) (before : List Call) (i : Nat) : Call → Prop
  | .prepare j operation buffered => j = i ∧ env.answer (before ++ [.prepare j operation buffered]) = true
  | .erase j _ _ => j = i
  | _ => False

/-- Every opening of region `i` after the calls of the past is followed by a call of its `done`. -/
def Closed (layout : Regions) (env : Environment) (past calls : List Call) (i : Nat) : Prop :=
  ∀ before call after, calls = before ++ call :: after → past.length ≤ before.length → Opens env before i call →
    (layout.flash i).done = true → .done i ∈ after

/-- A region that is idle, and was ended whenever it was opened. -/
def Ended (layout : Regions) (env : Environment) (past : List Call) (target : Target) (i : Nat) : Prop :=
  (target.state i).operation = .none ∧ Closed layout env past target.calls i

theorem Closed.start (past : List Call) (i : Nat) : Closed layout env past past i := by
  intro before call after same later
  have shorter := congrArg List.length same
  simp only [List.length_append, List.length_cons] at shorter
  omega

theorem Closed.snoc {calls : List Call} {call : Call} (closed : Closed layout env past calls i)
    (other : ¬ Opens env calls i call) : Closed layout env past (calls ++ [call]) i := by
  intro before opening after same later opens driver
  rcases List.eq_nil_or_concat after with rfl | ⟨rest, last, rfl⟩
  · obtain ⟨rfl, rfl⟩ : calls = before ∧ call = opening := by simpa using List.append_inj' same rfl
    exact absurd opens other
  · have split : calls ++ [call] = (before ++ opening :: rest) ++ [last] := by simpa using same
    have member := closed before opening rest (List.append_inj' split rfl).1 later opens driver
    rw [List.concat_eq_append]
    exact List.mem_append_left _ member

/-- A call of the region's `done` ends it. -/
theorem Closed.done (calls : List Call) : Closed layout env past (calls ++ [.done i]) i := by
  intro before opening after same later opens driver
  rcases List.eq_nil_or_concat after with rfl | ⟨rest, last, rfl⟩
  · obtain ⟨-, rfl⟩ : calls = before ∧ .done i = opening := by simpa using List.append_inj' same rfl
    exact opens.elim
  · have split : calls ++ [.done i] = (before ++ opening :: rest) ++ [last] := by simpa using same
    have lasts : [Call.done i] = [last] := (List.append_inj' split rfl).2
    rw [List.concat_eq_append, ← lasts]
    exact List.mem_append_right _ (List.mem_singleton_self _)

theorem Closed.silent {calls : List Call} (silent : (layout.flash i).done = false) :
    Closed layout env past calls i := by
  intro before call after same later opens driver
  rw [silent] at driver
  cases driver

/-- The regions while an erase has reached region `active`. -/
structure Reached (layout : Regions) (env : Environment) (past : List Call) (active : Nat) (target : Target) : Prop where
  others : ∀ j, j ≠ active → Ended layout env past target j
  here : (target.state active).operation = .erase ∨ Ended layout env past target active

theorem Reached.of_ended (ended : ∀ j, Ended layout env past target j) (active : Nat) :
    Reached layout env past active target := ⟨fun j _ => ended j, .inr (ended active)⟩

theorem flashDone_ended {active : Nat} (reached : Reached layout env past active target) :
    ∀ j, Ended layout env past (flashDone layout env active target).2 j := by
  intro j
  by_cases idle : (target.state active).operation = .none
  · rw [flashDone, if_pos idle]
    by_cases same : j = active
    · subst same
      apply reached.here.resolve_left
      rw [idle]
      exact fun never => by cases never
    · exact reached.others j same
  · have calls : (flashDone layout env active target).2.calls =
        if (layout.flash active).done then target.calls ++ [.done active] else target.calls := by
      rw [flashDone, if_neg idle]
      dsimp only
      split <;> rfl
    by_cases same : j = active
    · subst same
      refine ⟨flashDone_operation, ?_⟩
      rw [calls]
      split
      next => exact .done target.calls
      next silent => exact .silent (by simpa using silent)
    · obtain ⟨operation, closed⟩ := reached.others j same
      refine ⟨?_, ?_⟩
      · rw [flashDone_only.1 j same, operation]
      · rw [calls]
        split
        · exact closed.snoc fun never => never
        · exact closed

/-- The preparation of a region for an erase, from regions that are idle or already prepared. -/
theorem flashPrepare_reached {active : Nat} (reached : Reached layout env past active target) {next : Bool × Target}
    (running : flashPrepare layout env active .erase target = next) :
    Reached layout env past active next.2 ∧ (next.1 = true → (next.2.state active).operation = .erase) ∧
      (next.1 = false → ∀ j, Ended layout env past next.2 j) := by
  by_cases already : (target.state active).operation = .erase
  · rw [flashPrepare, if_pos already] at running
    subst running
    exact ⟨reached, fun _ => already, (fun never => by cases never)⟩
  · obtain ⟨idle, closed⟩ := reached.here.resolve_left already
    have different : ¬ (target.state active).operation = FlashOperation.erase := already
    simp only [flashPrepare, idle, ne_eq, not_true_eq_false, if_false, if_true, reduceCtorEq] at running
    by_cases driver : (layout.flash active).prepare = true
    · simp only [driver, if_true] at running
      have others : ∀ j, j ≠ active → ∀ buffered,
          Closed layout env past (target.calls ++ [.prepare active .erase buffered]) j := by
        intro j other buffered
        apply (reached.others j other).2.snoc
        exact fun opens => other opens.1.symm
      split at running
      next answered =>
        subst running
        refine ⟨⟨fun j other => ⟨?_, others j other _⟩, .inl ?_⟩, fun _ => ?_, fun failed => ?_⟩
        · simp [Target.ask, Target.put, other, (reached.others j other).1]
        · simp [Target.ask, Target.put]
        · simp [Target.ask, Target.put]
        · rw [answered] at failed
          cases failed
      next refused =>
        have all : ∀ j, Ended layout env past next.2 j := by
          subst running
          intro j
          by_cases same : j = active
          · subst same
            exact ⟨by simp [Target.put], closed.snoc fun opens => refused opens.2⟩
          · exact ⟨by simp [Target.put, Target.ask, same, (reached.others j same).1], others j same _⟩
        refine ⟨.of_ended all active, fun answered => ?_, fun _ => all⟩
        rw [← running] at answered
        cases answered
    · simp only [driver, Bool.false_eq_true, if_false, if_true] at running
      subst running
      refine ⟨⟨fun j other => ⟨?_, (reached.others j other).2⟩, .inl ?_⟩, fun _ => ?_, (fun never => by cases never)⟩
      · simp [Target.put, other, (reached.others j other).1]
      · simp [Target.put]
      · simp [Target.put]

theorem erase_reached {active addr len : Nat} (reached : Reached layout env past active target)
    (erasing : (target.state active).operation = .erase) :
    Reached layout env past active (target.ask env (.erase active addr len)).2 := by
  refine ⟨fun j other => ⟨(reached.others j other).1, ?_⟩, .inl erasing⟩
  exact (reached.others j other).2.snoc fun opens => other opens.symm

/-- Whether the addresses that an erase goes through are all flash. -/
def stays (layout : Regions) : Nat → Nat → Nat → Bool
  | 0, _, len => len == 0
  | fuel + 1, addr, len =>
    if len = 0 then true
    else
      match targetFlashForAddr layout addr with
      | none => false
      | some i =>
        let localEndAddr := add32 (alignDown addr (layout.flash i).blocksize) (layout.flash i).blocksize
        stays layout fuel localEndAddr (len - min (sub32 localEndAddr addr) len)

/-- An erase does not run off the flash behind a block that it has erased. -/
def Stays (layout : Regions) (addr len : Nat) : Prop :=
  targetFlashForAddr layout addr = none ∨ stays layout len addr len = true

theorem eraseBlocks_ended {fuel active addr len : Nat} {result : Bool} (reached : Reached layout env past active target)
    (inside : stays layout fuel addr len = true) {next : Bool × Target}
    (running : eraseBlocks layout env fuel active addr len result target = next) :
    ∀ j, Ended layout env past next.2 j := by
  induction fuel generalizing active addr len result target with
  | zero =>
    rw [eraseBlocks, if_pos (by simpa [stays] using inside)] at running
    subst running
    exact flashDone_ended reached
  | succ fuel ih =>
    rw [eraseBlocks] at running
    rw [stays] at inside
    split at running
    next =>
      subst running
      exact flashDone_ended reached
    next more =>
      rw [if_neg more] at inside
      split at running
      next missing => simp [missing] at inside
      next j found =>
        simp only [found] at inside
        dsimp only at running
        generalize leaving : (if j ≠ active then flashDone layout env active target else (true, target)) = left at running
        have first : Reached layout env past j left.2 := by
          split at leaving
          next =>
            subst leaving
            exact .of_ended (flashDone_ended reached) j
          next same =>
            subst leaving
            rwa [not_not.mp same]
        generalize preparing : flashPrepare layout env j .erase left.2 = prepared at running
        obtain ⟨second, erasing, failed⟩ := flashPrepare_reached first preparing
        split at running
        next refused =>
          subst running
          exact failed (by simpa using refused)
        next ready =>
          have third : Reached layout env past j (prepared.2.ask env (.erase j (alignDown addr (layout.flash j).blocksize)
            (layout.flash j).blocksize)).2 := erase_reached second (erasing (by simpa using ready))
          split at running
          next =>
            subst running
            exact flashDone_ended third
          next => exact ih third inside running

/-- All regions are idle. -/
def Idle (target : Target) : Prop := ∀ i, (target.state i).operation = .none

theorem Idle.ended (idle : Idle target) (i : Nat) : Ended layout env target.calls target i :=
  ⟨idle i, .start target.calls i⟩

theorem entered_ended {i : Nat} (ended : Ended layout env past target i) :
    Ended layout env past (targetEnterFlashMode env target).2 i := by
  obtain ⟨operation, closed⟩ := ended
  refine ⟨by rwa [enterFlashMode_state.1], ?_⟩
  rw [targetEnterFlashMode]
  split
  · exact closed
  · dsimp only
    generalize entering : (if env.enterFlashMode = true then _ else _ : Bool × Target) = entered
    have same : Closed layout env past entered.2.calls i := by
      subst entering
      split
      · exact closed.snoc fun never => never
      · split
        · exact closed.snoc fun never => never
        · exact closed
    split
    · exact same
    · exact same

/-- An erase leaves the regions idle and ends every region that it opened, whatever the drivers answer. -/
def LeavesIdle (layout : Regions) (addr len : Nat) : Prop :=
  ∀ env target, Idle target → ∀ i, Ended layout env target.calls (targetFlashErase layout env addr len target).2 i

theorem stays_leavesIdle {addr len : Nat} (inside : Stays layout addr len) : LeavesIdle layout addr len := by
  intro env target idle i
  have entered : ∀ j, Ended layout env target.calls (targetEnterFlashMode env target).2 j := fun j =>
    entered_ended (idle.ended j)
  generalize running : targetFlashErase layout env addr len target = next
  rw [targetFlashErase] at running
  generalize targetEnterFlashMode env target = entry at entered running
  split at running
  next =>
    subst running
    exact entered i
  next =>
    split at running
    next =>
      subst running
      exact entered i
    next active found =>
      have walk := inside.resolve_left (by simp [found])
      exact eraseBlocks_ended (.of_ended entered active) walk running i

/-- With drivers that succeed, an erase that runs off the flash leaves a region that still erases. -/
theorem eraseBlocks_open {fuel active addr len : Nat} (outside : stays layout fuel addr len = false)
    (reached : Reached layout willing past active target)
    (erasing : (target.state active).operation = .erase ∨ 0 < fuel ∧ (targetFlashForAddr layout addr).isSome)
    {next : Bool × Target} (running : eraseBlocks layout willing fuel active addr len true target = next) :
    ∃ j, (next.2.state j).operation = .erase := by
  induction fuel generalizing active addr len target with
  | zero =>
    rw [eraseBlocks, if_neg (by simpa [stays] using outside)] at running
    subst running
    exact ⟨active, erasing.resolve_right fun never => Nat.lt_irrefl 0 never.1⟩
  | succ fuel ih =>
    rw [eraseBlocks] at running
    rw [stays] at outside
    split at running
    next none => simp [none] at outside
    next more =>
      rw [if_neg more] at outside
      split at running
      next missing =>
        subst running
        exact ⟨active, erasing.resolve_right fun never => by simp [missing] at never⟩
      next j found =>
        simp only [found] at outside
        dsimp only at running
        generalize leaving : (if j ≠ active then flashDone layout willing active target else (true, target)) = left at running
        have first : Reached layout willing past j left.2 ∧ left.1 = true := by
          split at leaving
          next =>
            subst leaving
            refine ⟨.of_ended (flashDone_ended reached) j, ?_⟩
            rw [flashDone]
            split
            · rfl
            · dsimp only
              split <;> rfl
          next same =>
            subst leaving
            refine ⟨?_, rfl⟩
            rwa [not_not.mp same]
        generalize preparing : flashPrepare layout willing j .erase left.2 = prepared at running
        obtain ⟨second, opened, -⟩ := flashPrepare_reached first.1 preparing
        have ready : prepared.1 = true := by
          rw [← preparing, flashPrepare]
          split
          · rfl
          next busy =>
            have idle := (first.1.here.resolve_left busy).1
            simp only [idle, ne_eq, not_true_eq_false, if_false, if_true]
            generalize asking : (if (layout.flash j).prepare = true then _ else _ : Bool × Target) = asked
            have agreed : asked.1 = true := by
              subst asking
              split <;> rfl
            rw [if_pos agreed, agreed]
        have answered : (prepared.2.ask willing (.erase j (alignDown addr (layout.flash j).blocksize)
          (layout.flash j).blocksize)).1 = true := rfl
        simp only [ready, first.2, answered, Bool.not_true, Bool.false_eq_true, if_false, Bool.and_self] at running
        have third : Reached layout willing past j (prepared.2.ask willing (.erase j (alignDown addr
          (layout.flash j).blocksize) (layout.flash j).blocksize)).2 := erase_reached second (opened ready)
        exact ih outside third (.inl (opened ready)) running

/-- An erase leaves the regions idle for all drivers exactly if it does not run off the flash behind a block. -/
theorem erase_leavesIdle_iff (layout : Regions) (addr len : Nat) : LeavesIdle layout addr len ↔ Stays layout addr len := by
  refine ⟨fun leaves => ?_, stays_leavesIdle⟩
  by_contra runs
  obtain ⟨mapped, outside⟩ := not_or.mp runs
  have some : (targetFlashForAddr layout addr).isSome := Option.isSome_iff_ne_none.mpr mapped
  obtain ⟨active, found⟩ := Option.isSome_iff_exists.mp some
  have positive : 0 < len := by
    by_contra zero
    rw [Nat.eq_zero_of_not_pos zero] at outside
    exact outside rfl
  have entered : ∀ j, Ended layout willing [] (targetEnterFlashMode willing Target.probed).2 j := fun j =>
    entered_ended ⟨rfl, .start [] j⟩
  obtain ⟨j, erasing⟩ := eraseBlocks_open (by simpa using outside) (.of_ended entered active) (.inr ⟨positive, some⟩) rfl
  have shape : targetFlashErase layout willing addr len Target.probed =
      eraseBlocks layout willing len active addr len true (targetEnterFlashMode willing Target.probed).2 := by
    rw [targetFlashErase]
    simp only [found]
    rfl
  have idle := (leaves willing Target.probed (fun _ => rfl) j).1
  rw [shape, erasing] at idle
  cases idle

/-- An erase of two kilobytes that starts in the last kilobyte of the flash. -/
theorem erase_past_end_open :
    Idle Target.probed ∧ ¬ ∀ i, Ended twoRegions willing [] (targetFlashErase twoRegions willing 0x08001c00 0x800 Target.probed).2 i := by
  refine ⟨fun _ => rfl, fun ended => ?_⟩
  have busy : ((targetFlashErase twoRegions willing 0x08001c00 0x800 Target.probed).2.state 0).operation = .erase := by
    decide +kernel
  rw [(ended 0).1] at busy
  cases busy

end Idle

section Coverage

/-- The blocks among some calls that are erased, with the length that the driver is given. -/
def erasures (calls : List Call) : List (Nat × Nat × Nat) :=
  calls.filterMap fun
    | .erase i addr len => some (i, addr, len)
    | _ => none

@[simp] theorem erasures_append (first second : List Call) :
    erasures (first ++ second) = erasures first ++ erasures second := List.filterMap_append

/-- Regions made of whole blocks, below the end of the address space. -/
structure Blocked (layout : Regions) : Prop where
  power : ∀ i < layout.list.length, ∃ k < 32, (layout.flash i).blocksize = 2 ^ k
  start : ∀ i < layout.list.length, (layout.flash i).blocksize ∣ (layout.flash i).start
  length : ∀ i < layout.list.length, (layout.flash i).blocksize ∣ (layout.flash i).length
  bounded : ∀ i < layout.list.length, (layout.flash i).start + (layout.flash i).length < 2 ^ 32
  apart : ∀ i < layout.list.length, ∀ j < layout.list.length, i ≠ j →
    ∀ addr, ¬ ((layout.flash i).contains addr = true ∧ (layout.flash j).contains addr = true)

/-- A block of a region. -/
structure Block (layout : Regions) (i block : Nat) : Prop where
  listed : i < layout.list.length
  aligned : (layout.flash i).blocksize ∣ block
  low : (layout.flash i).start ≤ block
  high : block + (layout.flash i).blocksize ≤ (layout.flash i).start + (layout.flash i).length

/-- A block of a region that has addresses from `addr` on in common with the range up to `finish`. -/
structure Touched (layout : Regions) (addr finish : Nat) (erasure : Nat × Nat × Nat) : Prop where
  block : Block layout erasure.1 erasure.2.1
  size : erasure.2.2 = (layout.flash erasure.1).blocksize
  before : erasure.2.1 < finish
  after : addr < erasure.2.1 + erasure.2.2

/-- The blocks that a range touches, each once and in increasing order. -/
structure Covers (layout : Regions) (addr finish : Nat) (blocks : List (Nat × Nat × Nat)) : Prop where
  touched : ∀ erasure, erasure ∈ blocks ↔ Touched layout addr finish erasure
  increasing : blocks.Pairwise fun first second => first.2.1 < second.2.1

theorem Blocked.contains_iff (blocked : Blocked layout) (listed : i < layout.list.length) {addr : Nat} :
    (layout.flash i).contains addr = true ↔
      (layout.flash i).start ≤ addr ∧ addr < (layout.flash i).start + (layout.flash i).length := by
  rw [TargetFlash.contains, add32_of_lt (blocked.bounded i listed)]
  simp

/-- The block that an address is in. -/
theorem Blocked.block_of (blocked : Blocked layout) (listed : i < layout.list.length) {addr : Nat}
    (place : (layout.flash i).contains addr = true) {first size : Nat}
    (rounded : alignDown addr (layout.flash i).blocksize = first) (sized : (layout.flash i).blocksize = size) :
    Block layout i first ∧ first ≤ addr ∧ addr < first + size ∧ add32 first size = first + size := by
  obtain ⟨k, word, power⟩ := blocked.power i listed
  obtain ⟨low, high⟩ := (blocked.contains_iff listed).mp place
  have bounded := blocked.bounded i listed
  have start := blocked.start i listed
  obtain ⟨blocks, whole⟩ := Nat.dvd_add start (blocked.length i listed)
  rw [power] at rounded sized start whole
  rw [alignDown_two_pow (by omega) word] at rounded
  have positive : 0 < 2 ^ k := Nat.two_pow_pos k
  have split := Nat.div_add_mod addr (2 ^ k)
  have rest := Nat.mod_lt addr positive
  have above : (layout.flash i).start ≤ first := by
    rw [← rounded]
    exact le_round_down start low
  have below : first + 2 ^ k ≤ (layout.flash i).start + (layout.flash i).length := by
    have fewer : addr / 2 ^ k < blocks := by
      rw [Nat.div_lt_iff_lt_mul positive, Nat.mul_comm, ← whole]
      exact high
    calc first + 2 ^ k = 2 ^ k * (addr / 2 ^ k + 1) := by rw [← rounded, Nat.mul_succ]
      _ ≤ 2 ^ k * blocks := Nat.mul_le_mul_left _ fewer
      _ = _ := whole.symm
  refine ⟨⟨listed, ?_, above, by rw [power]; exact below⟩, by omega, by omega, add32_of_lt (by omega)⟩
  rw [power, ← rounded]
  exact Nat.dvd_mul_right _ _

/-- Two blocks that have an address in common are one block. -/
theorem Blocked.block_unique (blocked : Blocked layout) {j first second a : Nat} (one : Block layout i first)
    (two : Block layout j second) (inFirst : first ≤ a ∧ a < first + (layout.flash i).blocksize)
    (inSecond : second ≤ a ∧ a < second + (layout.flash j).blocksize) : i = j ∧ first = second := by
  have low := one.low
  have high := one.high
  have low' := two.low
  have high' := two.high
  have same : i = j := by
    by_contra different
    apply blocked.apart i one.listed j two.listed different a
    exact ⟨(blocked.contains_iff one.listed).mpr (by omega), (blocked.contains_iff two.listed).mpr (by omega)⟩
  subst same
  obtain ⟨p, rfl⟩ := one.aligned
  obtain ⟨q, rfl⟩ := two.aligned
  refine ⟨rfl, ?_⟩
  generalize (layout.flash i).blocksize = size at *
  have positive : 0 < size := by omega
  have quotient : ∀ {k : Nat}, size * k ≤ a ∧ a < size * k + size → a / size = k := by
    rintro k ⟨below, above⟩
    apply Nat.div_eq_of_lt_le
    · rwa [Nat.mul_comm]
    · rwa [Nat.succ_mul, Nat.mul_comm]
  rw [← quotient inFirst, ← quotient inSecond]

/-- The first block of a range, and those of the rest of it. -/
theorem Covers.cons (blocked : Blocked layout) {first addr finish : Nat} {rest : List (Nat × Nat × Nat)}
    (block : Block layout i first) (inside : first ≤ addr ∧ addr < first + (layout.flash i).blocksize)
    (more : addr < finish) (covers : Covers layout (first + (layout.flash i).blocksize) finish rest) :
    Covers layout addr finish ((i, first, (layout.flash i).blocksize) :: rest) := by
  have later : ∀ erasure, Touched layout (first + (layout.flash i).blocksize) finish erasure →
      first + (layout.flash i).blocksize ≤ erasure.2.1 := by
    intro erasure touched
    by_contra overlaps
    have reaches := touched.after
    rw [touched.size] at reaches
    have common := blocked.block_unique (i := i) block touched.block (a := max first erasure.2.1)
    obtain ⟨same, begins⟩ := common (by omega) (by omega)
    rw [← same] at reaches
    omega
  refine ⟨fun erasure => ?_, List.pairwise_cons.mpr ⟨fun erasure member => ?_, covers.increasing⟩⟩
  · rw [List.mem_cons, covers.touched]
    constructor
    · rintro (rfl | touched)
      · exact ⟨block, rfl, Nat.lt_of_le_of_lt inside.1 more, inside.2⟩
      · exact ⟨touched.block, touched.size, touched.before, by have := touched.after; omega⟩
    · intro touched
      by_cases beyond : first + (layout.flash i).blocksize < erasure.2.1 + erasure.2.2
      · exact .inr ⟨touched.block, touched.size, touched.before, beyond⟩
      · left
        obtain ⟨j, second, size⟩ := erasure
        obtain ⟨k, -, power⟩ := blocked.power j touched.block.listed
        have positive : 0 < (layout.flash j).blocksize := by
          rw [power]
          exact Nat.two_pow_pos k
        have reaches : addr < second + size := touched.after
        have ends : second + size ≤ first + (layout.flash i).blocksize := Nat.le_of_not_lt beyond
        have sized : size = (layout.flash j).blocksize := touched.size
        obtain ⟨rfl, rfl⟩ :=
          blocked.block_unique (a := max addr second) block touched.block (by omega) (by dsimp only; omega)
        rw [sized]
  · have after := later erasure ((covers.touched erasure).mp member)
    dsimp only
    omega

/-- Nothing is left of a range that ends with a block. -/
theorem Covers.nil (blocked : Blocked layout) {first finish : Nat} (block : Block layout i first)
    (positive : 0 < (layout.flash i).blocksize) (short : finish ≤ first + (layout.flash i).blocksize) :
    Covers layout (first + (layout.flash i).blocksize) finish [] := by
  refine ⟨fun erasure => ⟨fun never => absurd never List.not_mem_nil, fun touched => ?_⟩, .nil⟩
  have before := touched.before
  have after := touched.after
  rw [touched.size] at after
  have common := blocked.block_unique (a := first + (layout.flash i).blocksize - 1) block touched.block
  obtain ⟨same, begins⟩ := common (by omega) (by omega)
  rw [← same] at after
  omega

/-- Calls that erase nothing. -/
def Spared (target next : Target) : Prop := ∃ calls, next.calls = target.calls ++ calls ∧ erasures calls = []

theorem Spared.refl (target : Target) : Spared target target := ⟨[], (List.append_nil _).symm, rfl⟩

theorem Spared.trans {first second third : Target} (one : Spared first second) (two : Spared second third) :
    Spared first third := by
  obtain ⟨early, same, none⟩ := one
  obtain ⟨late, same', none'⟩ := two
  exact ⟨early ++ late, by rw [same', same, List.append_assoc], by rw [erasures_append, none, none']; rfl⟩

theorem flashDone_spared : Spared target (flashDone layout env i target).2 := by
  rw [flashDone]
  split
  · exact .refl target
  · dsimp only
    split
    · exact ⟨[.done i], rfl, rfl⟩
    · exact .refl _

theorem flashPrepare_spared {operation : FlashOperation} : Spared target (flashPrepare layout env i operation target).2 := by
  rw [flashPrepare]
  split
  · exact .refl target
  · dsimp only
    generalize ending : (if (target.state i).operation ≠ .none then flashDone layout env i target else (true, target)) = ended
    have first : Spared target ended.2 := by
      subst ending
      split
      · exact flashDone_spared
      · exact .refl target
    split
    · generalize asking : (if (layout.flash i).prepare = true then _ else _ : Bool × Target) = asked
      have second : Spared ended.2 asked.2 := by
        subst asking
        split
        · exact ⟨[.prepare i operation _], rfl, rfl⟩
        · exact .refl _
      split
      · exact first.trans second
      · exact first.trans second
    · exact first

theorem enterFlashMode_spared : Spared target (targetEnterFlashMode env target).2 := by
  rw [targetEnterFlashMode]
  split
  · exact .refl target
  · dsimp only
    generalize entering : (if env.enterFlashMode = true then _ else _ : Bool × Target) = entered
    have same : Spared target entered.2 := by
      subst entering
      split
      · exact ⟨[.enterFlashMode], rfl, rfl⟩
      · split
        · exact ⟨[.reset], rfl, rfl⟩
        · exact .refl target
    split
    · exact same
    · exact same

theorem eraseBlocks_covers (blocked : Blocked layout) {fuel active addr len : Nat} {result : Bool} (more : 0 < len)
    {next : Bool × Target} (running : eraseBlocks layout env fuel active addr len result target = next)
    (answered : next.1 = true) :
    ∃ calls, next.2.calls = target.calls ++ calls ∧ Covers layout addr (addr + len) (erasures calls) := by
  induction fuel generalizing active addr len result target with
  | zero =>
    rw [eraseBlocks, if_neg (by omega)] at running
    subst running
    cases answered
  | succ fuel ih =>
    rw [eraseBlocks, if_neg (by omega)] at running
    split at running
    next =>
      subst running
      cases answered
    next j found =>
      obtain ⟨listed, place⟩ := regionForAddr_some found
      dsimp only at running
      generalize leaving : (if j ≠ active then flashDone layout env active target else (true, target)) = left at running
      have first : Spared target left.2 := by
        subst leaving
        split
        · exact flashDone_spared
        · exact .refl target
      have second : Spared left.2 (flashPrepare layout env j .erase left.2).2 := flashPrepare_spared
      generalize flashPrepare layout env j .erase left.2 = prepared at second running
      generalize rounded : alignDown addr (layout.flash j).blocksize = start at running
      obtain ⟨block, below, above, finish⟩ := blocked.block_of listed place rounded rfl
      split at running
      next =>
        subst running
        cases answered
      next =>
        split at running
        next =>
          subst running
          cases answered
        next =>
          have high := block.high
          have bounded := blocked.bounded j listed
          rw [finish, sub32_of_le (by omega) (by omega)] at running
          obtain ⟨quiet, same, none⟩ := first.trans second
          have rest : ∃ calls, next.2.calls = (prepared.2.ask env (.erase j start (layout.flash j).blocksize)).2.calls ++ calls ∧
              Covers layout (start + (layout.flash j).blocksize) (addr + len) (erasures calls) := by
            by_cases last : len ≤ start + (layout.flash j).blocksize - addr
            · have ended : len - min (start + (layout.flash j).blocksize - addr) len = 0 := by omega
              rw [ended] at running
              have quiet : Spared (prepared.2.ask env (.erase j start (layout.flash j).blocksize)).2 next.2 := by
                subst running
                cases fuel with
                | zero => exact flashDone_spared
                | succ fuel => exact flashDone_spared
              obtain ⟨calls, same, none⟩ := quiet
              refine ⟨calls, same, ?_⟩
              rw [none]
              exact .nil blocked block (by omega) (by omega)
            · obtain ⟨calls, same, covers⟩ := ih (by omega) running
              have end_ : start + (layout.flash j).blocksize + (len - min (start + (layout.flash j).blocksize - addr) len)
                  = addr + len := by omega
              rw [end_] at covers
              exact ⟨calls, same, covers⟩
          obtain ⟨calls, later, covers⟩ := rest
          refine ⟨quiet ++ .erase j start (layout.flash j).blocksize :: calls, ?_, ?_⟩
          · rw [later]
            simp only [Target.ask, same, List.append_assoc, List.singleton_append]
          · rw [erasures_append, none, List.nil_append]
            exact covers.cons blocked block ⟨below, above⟩ (by omega)

/-- Each pass takes at least one byte, so that more passes than bytes change nothing. -/
theorem eraseBlocks_enough (blocked : Blocked layout) {fuel more active addr len : Nat} {result : Bool}
    (enough : len ≤ fuel) (too : len ≤ more) :
    eraseBlocks layout env fuel active addr len result target = eraseBlocks layout env more active addr len result target := by
  induction fuel generalizing more active addr len result target with
  | zero =>
    obtain rfl := Nat.le_zero.mp enough
    cases more with
    | zero => rfl
    | succ more => simp [eraseBlocks]
  | succ fuel ih =>
    cases more with
    | zero =>
      obtain rfl := Nat.le_zero.mp too
      simp [eraseBlocks]
    | succ more =>
      rw [eraseBlocks, eraseBlocks]
      split
      · rfl
      next left =>
        cases found : targetFlashForAddr layout addr with
        | none => rfl
        | some j =>
          obtain ⟨listed, place⟩ := regionForAddr_some found
          obtain ⟨block, below, above, finish⟩ := blocked.block_of listed place rfl rfl
          have high := block.high
          have bounded := blocked.bounded j listed
          have taken : 1 ≤ alignDown addr (layout.flash j).blocksize + (layout.flash j).blocksize - addr := by omega
          dsimp only
          rw [finish, sub32_of_le (by omega) (by omega)]
          generalize alignDown addr (layout.flash j).blocksize + (layout.flash j).blocksize = next at taken ⊢
          have rest : ∀ middle : Target, eraseBlocks layout env fuel j next (len - min (next - addr) len) true middle =
              eraseBlocks layout env more j next (len - min (next - addr) len) true middle :=
            fun middle => ih (by omega) (by omega)
          simp only [rest]

/-- An erase that succeeds erases the blocks that its range touches, each once, and its loop ends within as many passes as
it has bytes. -/
theorem targetFlashErase_covers (blocked : Blocked layout) (env : Environment) (target : Target) (addr len : Nat) :
    (0 < len → ∀ next, targetFlashErase layout env addr len target = (true, next) →
      ∃ calls, next.calls = target.calls ++ calls ∧ Covers layout addr (addr + len) (erasures calls)) ∧
    ∀ fuel ≥ len, ∀ active result target, eraseBlocks layout env fuel active addr len result target =
      eraseBlocks layout env len active addr len result target := by
  refine ⟨fun more next running => ?_, fun fuel enough active result target =>
    eraseBlocks_enough blocked enough (Nat.le_refl len)⟩
  rw [targetFlashErase] at running
  have entered : Spared target (targetEnterFlashMode env target).2 := enterFlashMode_spared
  generalize targetEnterFlashMode env target = entry at entered running
  split at running
  next => cases running
  next =>
    split at running
    next => cases running
    next active found =>
      obtain ⟨quiet, same, none⟩ := entered
      obtain ⟨calls, later, covers⟩ := eraseBlocks_covers blocked more running rfl
      refine ⟨quiet ++ calls, ?_, ?_⟩
      · rw [later, same, List.append_assoc]
      · rwa [erasures_append, none]

private theorem twoRegions_blocked : Blocked twoRegions where
  power := by decide
  start := by decide
  length := by decide
  bounded := by decide
  apart i first j second different a := FlashBuffer.regions_apart twoRegions first second different a

/-- An erase across the border of two regions. -/
theorem crossing_erase_covers :
    ∃ calls, (targetFlashErase twoRegions willing 0x08000c10 0x800 Target.probed).2.calls = [] ++ calls ∧
      Covers twoRegions 0x08000c10 (0x08000c10 + 0x800) (erasures calls) :=
  (targetFlashErase_covers twoRegions_blocked willing Target.probed 0x08000c10 0x800).1 (by decide) _
    (Prod.ext (by decide +kernel) rfl)

end Coverage

end BlackMagic.Proofs.FlashErase

import BlackMagic.Flash
import Mathlib.Logic.Relation

/-! The steps that the flash layer is made of. A call that returns true is a chain of
successful steps, whatever the regions and the drivers are, so that what holds along
every run is shown step by step. -/

namespace BlackMagic.Proofs.FlashSteps
open BlackMagic.Flash Lib.Words

/-- The buffer has bytes to be flushed. -/
def Filled (state : FlashState) : Prop :=
  state.bufAddrBase ≠ uint32Max ∧ state.bufAddrLow ≠ uint32Max ∧ state.bufAddrLow < state.bufAddrHigh

/-- The data for `dest` is a part of a write. -/
def Part (write : Nat × List Byte) (dest : Nat) (data : List Byte) : Prop :=
  ∃ skipped, skipped + data.length ≤ write.2.length ∧ dest = add32 write.1 skipped ∧
    data = (write.2.drop skipped).take data.length

/-- A part of a write that is for region `i`. Only a write that reaches the end of the
address space leaves its region. -/
structure Share (layout : Regions) (write : Nat × List Byte) (i dest : Nat) (data : List Byte) : Prop where
  part : Part write dest data
  within : write.1 + write.2.length < 2 ^ 32 → (layout.flash i).start ≤ dest ∧
    dest + data.length ≤ add32 (layout.flash i).start (layout.flash i).length

/-- A part of a write that fits into one block of the buffer. -/
structure Piece (layout : Regions) (write : Nat × List Byte) (i dest : Nat) (chunk : List Byte) : Prop
    extends Share layout write i dest chunk where
  block : chunk.length ≤ (layout.flash i).writebufsize - dest % (layout.flash i).writebufsize
  nonempty : 0 < (layout.flash i).writebufsize → chunk ≠ []

/-- The record of an optional call. -/
def noted (target : Target) (present : Bool) (call : Call) : Target :=
  if present then { target with calls := target.calls ++ [call] } else target

/-- An optional call that succeeds. -/
def Agreed (env : Environment) (target : Target) (present : Bool) (call : Call) : Prop :=
  present = true → env.answer (target.calls ++ [call]) = true

/-- The data of the write at `offset` of a flush. -/
def flushed (layout : Regions) (i : Nat) (state : FlashState) (buf : Buffer) (offset : Nat) : Call :=
  let writesize := (layout.flash i).writesize
  let alignedAddr := alignDown state.bufAddrLow writesize
  let source := sub32 alignedAddr state.bufAddrBase
  .write i (add32 alignedAddr offset) (source + offset) ((List.range writesize).map fun j => buf (source + (offset + j)))

/-- What one successful step does, in a call that writes `write` if it writes at all. -/
inductive Step (layout : Regions) (env : Environment) (write : Nat × List Byte) : Target → Target → Prop where
  | enter {target : Target} (outside : target.flashMode = false) (entered : (targetEnterFlashMode env target).1 = true) :
      Step layout env write target (targetEnterFlashMode env target).2
  | exit {target : Target} (inside : target.flashMode = true) :
      Step layout env write target (targetExitFlashMode env target).2
  | done {target : Target} {i : Nat} (listed : i < layout.list.length) (busy : (target.state i).operation ≠ .none)
      (agreed : Agreed env target (layout.flash i).done (.done i)) :
      Step layout env write target
        ((noted target (layout.flash i).done (.done i)).put i { target.state i with buf := none, operation := .none })
  | prepare {target : Target} {i : Nat} {operation : FlashOperation} (listed : i < layout.list.length)
      (idle : (target.state i).operation = .none) (other : operation ≠ .none)
      (filled : operation = .write → (target.state i).buf.isSome ∧ Filled (target.state i))
      (agreed : Agreed env target (layout.flash i).prepare (.prepare i operation (target.state i).buf.isSome)) :
      Step layout env write target
        ((noted target (layout.flash i).prepare (.prepare i operation (target.state i).buf.isSome)).put i
          { target.state i with operation := operation })
  | erase {target : Target} {i addr : Nat} (listed : i < layout.list.length)
      (place : (layout.flash i).contains addr = true) (erasing : (target.state i).operation = .erase)
      (agreed : Agreed env target true
        (.erase i (alignDown addr (layout.flash i).blocksize) (layout.flash i).blocksize)) :
      Step layout env write target
        (noted target true (.erase i (alignDown addr (layout.flash i).blocksize) (layout.flash i).blocksize))
  | malloc {target : Target} {i : Nat} (listed : i < layout.list.length) (free : (target.state i).buf = none)
      (fresh : Buffer) :
      Step layout env write target ((noted target true (.malloc (layout.flash i).writebufsize)).put i
        { target.state i with
          buf := some fresh, bufAddrBase := uint32Max, bufAddrLow := uint32Max, bufAddrHigh := 0 })
  | write {target : Target} {i offset : Nat} {buf : Buffer} (listed : i < layout.list.length)
      (writing : (target.state i).operation = .write) (held : (target.state i).buf = some buf)
      (filled : Filled (target.state i)) (multiple : (layout.flash i).writesize ∣ offset)
      (more : offset < sub32 (target.state i).bufAddrHigh
        (alignDown (target.state i).bufAddrLow (layout.flash i).writesize))
      (agreed : Agreed env target true (flushed layout i (target.state i) buf offset)) :
      Step layout env write target (noted target true (flushed layout i (target.state i) buf offset))
  | emptied {target : Target} {i : Nat} (listed : i < layout.list.length)
      (writing : (target.state i).operation = .write) (held : (target.state i).buf.isSome) :
      Step layout env write target (target.put i
        { target.state i with bufAddrBase := uint32Max, bufAddrLow := uint32Max, bufAddrHigh := 0 })
  | setup {target : Target} {i dest : Nat} {buf : Buffer} (listed : i < layout.list.length)
      (held : (target.state i).buf = some buf) (unfilled : ¬ Filled (target.state i)) :
      Step layout env write target (target.put i
        { target.state i with
          bufAddrBase := alignDown dest (layout.flash i).writebufsize
          buf := some fun j => if j < (layout.flash i).writebufsize then (layout.flash i).erased else buf j })
  | copy {target : Target} {i dest : Nat} {chunk : List Byte} (listed : i < layout.list.length)
      (held : (target.state i).buf.isSome)
      (block : (target.state i).bufAddrBase = alignDown dest (layout.flash i).writebufsize)
      (piece : Piece layout write i dest chunk) :
      Step layout env write target (copyChunk layout i dest chunk target)

abbrev Steps (layout : Regions) (env : Environment) (write : Nat × List Byte) : Target → Target → Prop :=
  Relation.ReflTransGen (Step layout env write)

variable {layout : Regions} {env : Environment} {write : Nat × List Byte} {target : Target} {i : Nat}

section Operations

theorem ask_when_true {present : Bool} {call : Call} {asked : Bool × Target}
    (asking : (if present then target.ask env call else (true, target)) = asked) (answered : asked.1 = true) :
    Agreed env target present call ∧ asked.2 = noted target present call := by
  subst asking
  cases present with
  | true => exact ⟨fun _ => answered, rfl⟩
  | false => exact ⟨(fun never => by cases never), rfl⟩

@[simp] theorem noted_state (present : Bool) (call : Call) : (noted target present call).state = target.state := by
  rw [noted]
  split <;> rfl

theorem flashDone_steps (listed : i < layout.list.length) (ended : (flashDone layout env i target).1 = true) :
    Steps layout env write target (flashDone layout env i target).2 := by
  rw [flashDone] at ended ⊢
  split at ended
  next idle =>
    rw [if_pos idle]
  next busy =>
    rw [if_neg busy]
    obtain ⟨agreed, same⟩ := ask_when_true rfl ended
    simp only [same, noted_state]
    exact .single (.done listed busy agreed)

/-- The second half of a preparation, from the idle state. -/
private def prepareIdle (layout : Regions) (env : Environment) (i : Nat) (operation : FlashOperation) (target : Target) :
    Bool × Target :=
  let switched := target.put i { target.state i with operation := operation }
  let prepared :=
    if (layout.flash i).prepare then switched.ask env (.prepare i operation (switched.state i).buf.isSome)
    else (true, switched)
  if prepared.1 then prepared else (false, prepared.2.put i { prepared.2.state i with operation := .none })

private theorem prepareIdle_step {operation : FlashOperation} (listed : i < layout.list.length)
    (idle : (target.state i).operation = .none) (other : operation ≠ .none)
    (filled : operation = .write → (target.state i).buf.isSome ∧ Filled (target.state i))
    (answered : (prepareIdle layout env i operation target).1 = true) :
    Step layout env write target (prepareIdle layout env i operation target).2 ∧
      ((prepareIdle layout env i operation target).2.state i) = { target.state i with operation := operation } := by
  rw [prepareIdle] at answered ⊢
  generalize asking : (if (layout.flash i).prepare then _ else _ : Bool × Target) = asked at answered ⊢
  cases taken : asked.1 with
  | false => simp [taken] at answered
  | true =>
    simp only [if_true]
    obtain ⟨agreed, same⟩ := ask_when_true asking taken
    have buffered : ((target.put i { target.state i with operation := operation }).state i).buf = (target.state i).buf := by
      simp [Target.put]
    rw [buffered] at agreed same
    have shape : asked.2 = (noted target (layout.flash i).prepare
        (.prepare i operation (target.state i).buf.isSome)).put i { target.state i with operation := operation } := by
      rw [same, noted, noted]
      split <;> rfl
    rw [shape]
    exact ⟨.prepare listed idle other filled agreed, by simp [Target.put]⟩

private theorem flashPrepare_idle {operation : FlashOperation} (idle : (target.state i).operation = .none)
    (other : operation ≠ .none) : flashPrepare layout env i operation target = prepareIdle layout env i operation target := by
  rw [flashPrepare, if_neg (fun same => other (same.symm.trans idle)), prepareIdle]
  simp only [idle, ne_eq, not_true_eq_false, if_false, if_true]

private theorem flashPrepare_busy {operation : FlashOperation} (busy : (target.state i).operation ≠ .none)
    (different : (target.state i).operation ≠ operation) : flashPrepare layout env i operation target =
      if (flashDone layout env i target).1 then prepareIdle layout env i operation (flashDone layout env i target).2
      else flashDone layout env i target := by
  rw [flashPrepare, if_neg different]
  simp only [if_pos busy]
  rfl

theorem flashDone_state (busy : (target.state i).operation ≠ .none) :
    (flashDone layout env i target).2.state i = { target.state i with buf := none, operation := .none } := by
  rw [flashDone, if_neg busy]
  split <;> simp [Target.put, Target.ask]

theorem flashPrepare_steps {operation : FlashOperation} (listed : i < layout.list.length) (other : operation ≠ .none)
    (filled : operation = .write →
      (target.state i).operation ≠ .erase ∧ (target.state i).buf.isSome ∧ Filled (target.state i))
    (prepared : (flashPrepare layout env i operation target).1 = true) :
    Steps layout env write target (flashPrepare layout env i operation target).2 ∧
      ((flashPrepare layout env i operation target).2.state i).operation = operation ∧
      (operation = .write → (flashPrepare layout env i operation target).2.state i
        = { target.state i with operation := .write }) := by
  by_cases already : (target.state i).operation = operation
  · rw [flashPrepare, if_pos already]
    refine ⟨.refl, already, ?_⟩
    rintro rfl
    rw [← already]
  by_cases idle : (target.state i).operation = .none
  · rw [flashPrepare_idle idle other] at prepared ⊢
    obtain ⟨step, state⟩ := prepareIdle_step listed idle other (fun writing => (filled writing).2) prepared
    refine ⟨.single step, by rw [state], ?_⟩
    rintro rfl
    exact state
  · rw [flashPrepare_busy idle already] at prepared ⊢
    cases ended : (flashDone layout env i target).1 with
    | false => simp [ended] at prepared
    | true =>
      simp only [ended, if_true] at prepared ⊢
      have erasing : operation ≠ .write := by
        rintro rfl
        have busy := (filled rfl).1
        cases operation : (target.state i).operation with
        | none => exact idle operation
        | erase => exact busy operation
        | write => exact already operation
      have closed : ((flashDone layout env i target).2.state i).operation = .none := by rw [flashDone_state idle]
      obtain ⟨step, state⟩ := prepareIdle_step listed closed other (fun writing => absurd writing erasing) prepared
      exact ⟨(flashDone_steps listed ended).tail step, by rw [state], fun writing => absurd writing erasing⟩

theorem flashPrepare_erase_steps (listed : i < layout.list.length) {next : Bool × Target}
    (running : flashPrepare layout env i .erase target = next) (prepared : next.1 = true) :
    Steps layout env write target next.2 ∧ (next.2.state i).operation = .erase := by
  subst running
  have opening : Steps layout env write target (flashPrepare layout env i .erase target).2 ∧ _ :=
    flashPrepare_steps listed (by decide) (fun never => by cases never) prepared
  exact ⟨opening.1, opening.2.1⟩

theorem flushWrites_result {alignedAddr source more done : Nat} {src : Buffer} {result : Bool}
    (written : (flushWrites layout env i alignedAddr source src more done result target).1 = true) : result = true := by
  induction more generalizing done result target with
  | zero => exact written
  | succ more ih =>
    have both := ih written
    rw [Bool.and_eq_true] at both
    exact both.1

theorem flushWrites_state {alignedAddr source more done : Nat} {src : Buffer} {result : Bool} :
    (flushWrites layout env i alignedAddr source src more done result target).2.state = target.state := by
  induction more generalizing done result target with
  | zero => rfl
  | succ more ih => exact ih

theorem flushWrites_fault {alignedAddr source more done : Nat} {src : Buffer} {result : Bool} :
    (flushWrites layout env i alignedAddr source src more done result target).2.fault = target.fault := by
  induction more generalizing done result target with
  | zero => rfl
  | succ more ih => exact ih

theorem count_short {length writesize k : Nat} (below : k < (length + writesize - 1) / writesize) :
    k * writesize < length := by
  have positive : 0 < writesize := by
    by_contra zero
    simp [Nat.eq_zero_of_not_pos zero] at below
  have room := (Nat.le_div_iff_mul_le positive).mp (Nat.succ_le_of_lt below)
  rw [Nat.succ_mul] at room
  omega

/-- All writes of a flush of the bytes from `low` to `high`. -/
def flushAll (layout : Regions) (env : Environment) (i low high base : Nat) (buf : Buffer) (target : Target) :
    Bool × Target :=
  let writesize := (layout.flash i).writesize
  let alignedAddr := alignDown low writesize
  let source := sub32 alignedAddr base
  flushWrites layout env i alignedAddr source (fun j => buf (source + j))
    ((sub32 high alignedAddr + writesize - 1) / writesize) 0 true target

/-- The writes of a flush, as many as start below the end of the buffered bytes. -/
private theorem flushWrites_steps {more done low high base : Nat} {result : Bool} {buf : Buffer}
    (listed : i < layout.list.length) (sameLow : (target.state i).bufAddrLow = low)
    (sameHigh : (target.state i).bufAddrHigh = high) (sameBase : (target.state i).bufAddrBase = base)
    (writing : (target.state i).operation = .write) (held : (target.state i).buf = some buf)
    (filled : Filled (target.state i))
    (short : ∀ k, done ≤ k → k < done + more →
      k * (layout.flash i).writesize < sub32 high (alignDown low (layout.flash i).writesize)) {next : Bool × Target}
    (running : flushWrites layout env i (alignDown low (layout.flash i).writesize)
      (sub32 (alignDown low (layout.flash i).writesize) base)
      (fun j => buf (sub32 (alignDown low (layout.flash i).writesize) base + j)) more done result target = next)
    (written : next.1 = true) : Steps layout env write target next.2 := by
  induction more generalizing done result target with
  | zero =>
    subst running
    exact .refl
  | succ more ih =>
    subst sameLow sameHigh sameBase
    let call := flushed layout i (target.state i) buf (done * (layout.flash i).writesize)
    have answered : result = true ∧ (target.ask env call).1 = true := by
      rw [← running, flushWrites] at written
      exact Bool.and_eq_true_iff.mp (flushWrites_result written)
    have rest : Steps layout env write (target.ask env call).2 next.2 :=
      ih rfl rfl rfl writing held filled (fun k low high => short k (by omega) (by omega)) running
    apply Relation.ReflTransGen.head _ rest
    exact .write listed writing held filled (Nat.dvd_mul_left _ _) (short done (Nat.le_refl _) (by omega))
      fun _ => answered.2

private theorem flushAll_steps {low high base : Nat} {buf : Buffer} (listed : i < layout.list.length)
    (sameLow : (target.state i).bufAddrLow = low) (sameHigh : (target.state i).bufAddrHigh = high)
    (sameBase : (target.state i).bufAddrBase = base) (writing : (target.state i).operation = .write)
    (held : (target.state i).buf = some buf) (filled : Filled (target.state i)) {next : Bool × Target}
    (running : flushAll layout env i low high base buf target = next) (written : next.1 = true) :
    Steps layout env write target next.2 :=
  flushWrites_steps listed sameLow sameHigh sameBase writing held filled
    (fun k _ below => count_short (by rwa [Nat.zero_add] at below)) running written

theorem flushAll_state {low high base : Nat} {buf : Buffer} {next : Bool × Target}
    (running : flushAll layout env i low high base buf target = next) :
    next.2.state = target.state ∧ next.2.fault = target.fault := by
  rw [← running, flushAll, flushWrites_state, flushWrites_fault]
  exact ⟨rfl, rfl⟩

/-- A preparation for a write that ends an erase has freed the buffer. -/
private theorem flashPrepare_erasing (erasing : (target.state i).operation = .erase)
    (prepared : (flashPrepare layout env i .write target).1 = true) :
    ((flashPrepare layout env i .write target).2.state i).buf = none := by
  have busy : (target.state i).operation ≠ .none := by simp [erasing]
  rw [flashPrepare_busy busy (by simp [erasing])] at prepared ⊢
  cases ended : (flashDone layout env i target).1 with
  | false => simp [ended] at prepared
  | true =>
    simp only [ended, if_true] at prepared ⊢
    rw [prepareIdle] at prepared ⊢
    generalize asking : (if (layout.flash i).prepare then _ else _ : Bool × Target) = asked at prepared ⊢
    cases taken : asked.1 with
    | false => simp [taken] at prepared
    | true =>
      simp only [if_true]
      rw [(ask_when_true asking taken).2, noted_state]
      simp [Target.put, flashDone_state busy]

theorem flashBufferedFlush_unfilled (unfilled : ¬ ((target.state i).buf.isSome ∧ Filled (target.state i))) :
    flashBufferedFlush layout env i target = (true, target) := if_neg unfilled

/-- The flush of a filled buffer in a prepared region. -/
theorem flashBufferedFlush_filled {buf : Buffer} (full : (target.state i).buf.isSome ∧ Filled (target.state i))
    (prepared : (flashPrepare layout env i .write target).1 = true)
    (held : ((flashPrepare layout env i .write target).2.state i).buf = some buf) {written : Bool × Target}
    (running : flushAll layout env i (target.state i).bufAddrLow (target.state i).bufAddrHigh
      (target.state i).bufAddrBase buf (flashPrepare layout env i .write target).2 = written) :
    (flashBufferedFlush layout env i target).1 = written.1 ∧ (flashBufferedFlush layout env i target).2 = written.2.put i
      { written.2.state i with bufAddrBase := uint32Max, bufAddrLow := uint32Max, bufAddrHigh := 0 } := by
  have whole : (target.state i).buf.isSome ∧ (target.state i).bufAddrBase ≠ uint32Max ∧
      (target.state i).bufAddrLow ≠ uint32Max ∧ (target.state i).bufAddrLow < (target.state i).bufAddrHigh := full
  rw [flushAll] at running
  rw [flashBufferedFlush, if_pos whole]
  simp only [prepared, held, Bool.not_true, Bool.false_eq_true, if_false, running, and_self]

theorem flashBufferedFlush_unprepared (full : (target.state i).buf.isSome ∧ Filled (target.state i))
    (failed : (flashPrepare layout env i .write target).1 = false) :
    flashBufferedFlush layout env i target = (false, (flashPrepare layout env i .write target).2) := by
  have whole : (target.state i).buf.isSome ∧ (target.state i).bufAddrBase ≠ uint32Max ∧
      (target.state i).bufAddrLow ≠ uint32Max ∧ (target.state i).bufAddrLow < (target.state i).bufAddrHigh := full
  rw [flashBufferedFlush, if_pos whole]
  simp only [failed, Bool.not_false, if_true]

/-- A flush of a filled buffer succeeds only in a region that could be prepared and still has its buffer. -/
theorem flashBufferedFlush_prepared (full : (target.state i).buf.isSome ∧ Filled (target.state i))
    (answered : (flashBufferedFlush layout env i target).1 = true) :
    (flashPrepare layout env i .write target).1 = true ∧ (target.state i).operation ≠ .erase := by
  have whole : (target.state i).buf.isSome ∧ (target.state i).bufAddrBase ≠ uint32Max ∧
      (target.state i).bufAddrLow ≠ uint32Max ∧ (target.state i).bufAddrLow < (target.state i).bufAddrHigh := full
  rw [flashBufferedFlush, if_pos whole] at answered
  cases prepared : (flashPrepare layout env i .write target).1 with
  | false => simp [prepared] at answered
  | true =>
    refine ⟨rfl, fun erasing => ?_⟩
    simp [prepared, flashPrepare_erasing erasing prepared] at answered

/-- The flush of a filled buffer, from its preparation on. -/
private theorem flushAll_flushed {low high base : Nat} {buf : Buffer} (listed : i < layout.list.length)
    (sameLow : (target.state i).bufAddrLow = low) (sameHigh : (target.state i).bufAddrHigh = high)
    (sameBase : (target.state i).bufAddrBase = base) (writing : (target.state i).operation = .write)
    (held : (target.state i).buf = some buf) (filled : Filled (target.state i)) {written : Bool × Target}
    (running : flushAll layout env i low high base buf target = written) (answered : written.1 = true)
    {final : Target} (shape : final = written.2.put i
      { written.2.state i with bufAddrBase := uint32Max, bufAddrLow := uint32Max, bufAddrHigh := 0 }) :
    Steps layout env write target final ∧ ¬ Filled (final.state i) ∧ (final.state i).operation = .write := by
  have wrote : Steps layout env write target written.2 :=
    flushAll_steps listed sameLow sameHigh sameBase writing held filled running answered
  have unchanged := (flushAll_state running).1
  rw [shape]
  refine ⟨wrote.tail (.emptied listed ?_ ?_), ?_, ?_⟩
  · rw [unchanged, writing]
  · rw [unchanged, held]
    rfl
  · simp [Target.put, Filled]
  · simp [Target.put, unchanged, writing]

/-- A flush that succeeds leaves nothing to be flushed, and the buffer where it was. -/
theorem flashBufferedFlush_steps (listed : i < layout.list.length) {next : Bool × Target}
    (running : flashBufferedFlush layout env i target = next) (answered : next.1 = true) :
    Steps layout env write target next.2 ∧ ¬ ((target.state i).buf.isSome ∧ Filled (next.2.state i)) ∧
      ((target.state i).buf.isSome ∧ Filled (target.state i) → (next.2.state i).operation = .write) := by
  subst running
  by_cases full : (target.state i).buf.isSome ∧ Filled (target.state i)
  · obtain ⟨prepared, erasing⟩ := flashBufferedFlush_prepared full answered
    obtain ⟨steps, writing, known⟩ : Steps layout env write target _ ∧ _ :=
      flashPrepare_steps listed (by decide) (fun _ => ⟨erasing, full⟩) prepared
    obtain ⟨buf, held⟩ := Option.isSome_iff_exists.mp full.1
    have state := known rfl
    have same : ((flashPrepare layout env i .write target).2.state i).buf = some buf := by rw [state, ← held]
    have still : Filled ((flashPrepare layout env i .write target).2.state i) := by
      rw [state]
      exact full.2
    obtain ⟨first, second⟩ := flashBufferedFlush_filled full prepared same rfl
    obtain ⟨wrote, empty, opened⟩ : Steps layout env write _ _ ∧ _ :=
      flushAll_flushed listed (by rw [state]) (by rw [state]) (by rw [state]) writing same still rfl
        (first.symm.trans answered) second
    exact ⟨steps.trans wrote, fun filled => empty filled.2, fun _ => opened⟩
  · rw [flashBufferedFlush_unfilled full]
    exact ⟨.refl, full, fun filled => absurd filled full⟩

end Operations

section Writes

variable {dest : Nat} {data : List Byte}

theorem Part.take (part : Part write dest data) (n : Nat) : Part write dest (data.take n) := by
  obtain ⟨skipped, inside, place, same⟩ := part
  have length : (data.take n).length = min n data.length := List.length_take
  refine ⟨skipped, by omega, place, ?_⟩
  conv_lhs => rw [same]
  rw [List.take_take, length]

theorem Part.drop (part : Part write dest data) {n : Nat} (short : n ≤ data.length) :
    Part write (add32 dest n) (data.drop n) := by
  obtain ⟨skipped, inside, place, same⟩ := part
  have length : (data.drop n).length = data.length - n := List.length_drop
  refine ⟨skipped + n, by omega, ?_, ?_⟩
  · rw [place, add32, add32, add32, Nat.mod_add_mod, Nat.add_assoc]
  · conv_lhs => rw [same]
    rw [List.drop_take, List.drop_drop, length]

theorem Part.unwrapped (part : Part write dest data) (fits : write.1 + write.2.length < 2 ^ 32) :
    dest + data.length < 2 ^ 32 := by
  obtain ⟨skipped, inside, place, -⟩ := part
  rw [place, add32_of_lt (by omega)]
  omega

theorem Share.take (share : Share layout write i dest data) (n : Nat) : Share layout write i dest (data.take n) := by
  have length : (data.take n).length = min n data.length := List.length_take
  refine ⟨share.part.take n, fun fits => ?_⟩
  have within := share.within fits
  omega

theorem Share.drop (share : Share layout write i dest data) {n : Nat} (short : n ≤ data.length) :
    Share layout write i (add32 dest n) (data.drop n) := by
  have length : (data.drop n).length = data.length - n := List.length_drop
  refine ⟨share.part.drop short, fun fits => ?_⟩
  have within := share.within fits
  have room := share.part.unwrapped fits
  rw [add32_of_lt (by omega)]
  omega

theorem setupBuffer_steps (listed : i < layout.list.length) (held : (target.state i).buf.isSome) {next : Bool × Target}
    (running : setupBuffer layout env i (alignDown dest (layout.flash i).writebufsize) target = next)
    (answered : next.1 = true) :
    Steps layout env write target next.2 ∧ (next.2.state i).buf.isSome ∧
      (next.2.state i).bufAddrBase = alignDown dest (layout.flash i).writebufsize := by
  rw [setupBuffer] at running
  split at running
  next other =>
    dsimp only at running
    generalize flushing : flashBufferedFlush layout env i target = flushed at running
    split at running
    next =>
      subst running
      cases answered
    next buf present =>
      subst running
      obtain ⟨steps, unfilled, -⟩ : Steps layout env write target flushed.2 ∧ _ :=
        flashBufferedFlush_steps listed flushing answered
      refine ⟨steps.tail (.setup listed present fun filled => unfilled ⟨held, filled⟩), ?_, ?_⟩
      · simp [Target.put]
      · simp [Target.put]
  next same =>
    subst running
    exact ⟨.refl, held, (not_not.mp same).symm⟩

theorem copyChunk_state {chunk : List Byte} (held : (target.state i).buf.isSome) :
    ((copyChunk layout i dest chunk target).state i).buf.isSome := by
  obtain ⟨buf, present⟩ := Option.isSome_iff_exists.mp held
  simp [copyChunk, present, Target.put]

theorem bufferedWrites_result {fuel : Nat} {src : List Byte} {result : Bool}
    (answered : (bufferedWrites layout env i fuel dest src result target).1 = true) : result = true := by
  induction fuel generalizing dest src result target with
  | zero => exact (Bool.and_eq_true_iff.mp answered).1
  | succ fuel ih =>
    rw [bufferedWrites] at answered
    split at answered
    · exact answered
    · exact (Bool.and_eq_true_iff.mp (ih answered)).1

theorem bufferedWrites_steps {fuel : Nat} {src : List Byte} {result : Bool} (listed : i < layout.list.length)
    (held : (target.state i).buf.isSome) (share : Share layout write i dest src) {next : Bool × Target}
    (running : bufferedWrites layout env i fuel dest src result target = next) (answered : next.1 = true) :
    Steps layout env write target next.2 ∧ (next.2.state i).buf.isSome := by
  induction fuel generalizing dest src result target with
  | zero =>
    subst running
    exact ⟨.refl, held⟩
  | succ fuel ih =>
    rw [bufferedWrites] at running
    split at running
    next =>
      subst running
      exact ⟨.refl, held⟩
    next nonempty =>
      dsimp only at running
      generalize preparing : setupBuffer layout env i (alignDown dest (layout.flash i).writebufsize) target = setup at running
      have ready : setup.1 = true := by
        rw [← running] at answered
        exact (Bool.and_eq_true_iff.mp (bufferedWrites_result answered)).2
      obtain ⟨steps, kept, block⟩ : Steps layout env write target setup.2 ∧ _ := setupBuffer_steps listed held preparing ready
      generalize localLen : min ((layout.flash i).writebufsize - dest % (layout.flash i).writebufsize) src.length = len at running
      have piece : Piece layout write i dest (src.take len) := by
        refine ⟨share.take len, by rw [List.length_take]; omega, fun buffered none => ?_⟩
        have length : (src.take len).length = min len src.length := List.length_take
        have size := List.length_pos_iff.mpr nonempty
        have rest := Nat.mod_lt dest buffered
        rw [none, List.length_nil] at length
        omega
      obtain ⟨rest, last⟩ := ih (copyChunk_state kept) (share.drop (by omega)) running
      exact ⟨(steps.tail (.copy listed kept block piece)).trans rest, last⟩

theorem flashBufferAlloc_steps (listed : i < layout.list.length) (free : (target.state i).buf = none)
    {next : Bool × Target} (running : flashBufferAlloc layout env i target = next) (answered : next.1 = true) :
    Steps layout env write target next.2 ∧ (next.2.state i).buf.isSome := by
  rw [flashBufferAlloc] at running
  split at running
  next =>
    subst running
    exact ⟨.single (.malloc listed free _), by simp [Target.put]⟩
  next =>
    subst running
    cases answered

theorem flushDone_steps (listed : i < layout.list.length) {next : Bool × Target}
    (running : flushDone layout env i target = next) (answered : next.1 = true) : Steps layout env write target next.2 := by
  subst running
  obtain ⟨flushed, ended⟩ := Bool.and_eq_true_iff.mp answered
  exact (flashBufferedFlush_steps listed rfl flushed).1.trans (flashDone_steps listed ended)

theorem evictOthers_result {indices : List Nat} {result : Bool} {active : Option Nat}
    (answered : (evictOthers layout env dest indices result active target).1 = true) : result = true := by
  induction indices generalizing result active target with
  | nil => exact answered
  | cons j rest ih =>
    rw [evictOthers] at answered
    split at answered
    · exact ih answered
    · split at answered
      · exact (Bool.and_eq_true_iff.mp (ih answered)).1
      · exact ih answered

theorem evictOthers_steps {indices : List Nat} {result : Bool} {active : Option Nat}
    (listed : ∀ j ∈ indices, j < layout.list.length) {next : Bool × Option Nat × Target}
    (running : evictOthers layout env dest indices result active target = next) (answered : next.1 = true) :
    Steps layout env write target next.2.2 := by
  induction indices generalizing result active target with
  | nil =>
    subst running
    exact .refl
  | cons j rest ih =>
    have later : ∀ k ∈ rest, k < layout.list.length := fun k member => listed k (List.mem_cons_of_mem j member)
    rw [evictOthers] at running
    split at running
    next => exact ih later running
    next =>
      split at running
      next =>
        dsimp only at running
        generalize flushing : flushDone layout env j target = flushed at running
        have settled : flushed.1 = true := by
          rw [← running] at answered
          exact (Bool.and_eq_true_iff.mp (evictOthers_result answered)).2
        exact (flushDone_steps (listed j List.mem_cons_self) flushing settled).trans (ih later running)
      next => exact ih later running

/-- The region that the first loop of a write finds is one that the write starts in. -/
theorem evictOthers_active {indices : List Nat} {result : Bool} {active : Option Nat} {found : Nat}
    (listed : ∀ j ∈ indices, j < layout.list.length)
    (running : (evictOthers layout env dest indices result active target).2.1 = some found) :
    active = some found ∨ found < layout.list.length ∧ (layout.flash found).contains dest = true := by
  induction indices generalizing result active target with
  | nil => exact .inl running
  | cons j rest ih =>
    have later : ∀ k ∈ rest, k < layout.list.length := fun k member => listed k (List.mem_cons_of_mem j member)
    rw [evictOthers] at running
    split at running
    next here =>
      rcases ih later running with same | inside
      · cases same
        exact .inr ⟨listed found List.mem_cons_self, here⟩
      · exact .inr inside
    next =>
      split at running
      · exact ih later running
      · exact ih later running

theorem regionForAddr_some {addr : Nat} (found : targetFlashForAddr layout addr = some i) :
    i < layout.list.length ∧ (layout.flash i).contains addr = true := by
  obtain ⟨inside, holds, -⟩ := List.findIdx?_eq_some_iff_getElem.mp found
  refine ⟨inside, ?_⟩
  rw [Regions.flash, List.getElem?_eq_getElem inside]
  exact holds

theorem contains_bounds {flash : TargetFlash} {addr : Nat} (place : flash.contains addr = true) :
    flash.start ≤ addr ∧ addr < add32 flash.start flash.length := by
  simpa [TargetFlash.contains] using place

/-- The bytes that a pass of the second loop takes, and where the next pass goes on. -/
theorem localLength_bounds {addr len : Nat} (place : (layout.flash i).contains addr = true) {finish count : Nat}
    (ending : min (add32 addr len) (add32 (layout.flash i).start (layout.flash i).length) = finish)
    (counting : sub32 finish addr = count) :
    count ≤ len ∧ finish = add32 addr count ∧
      (addr + len < 2 ^ 32 → addr + count ≤ add32 (layout.flash i).start (layout.flash i).length) := by
  obtain ⟨low, high⟩ := contains_bounds place
  have wrapped : add32 addr len ≤ addr + len := Nat.mod_le _ _
  have small : add32 addr len < 2 ^ 32 := Nat.mod_lt _ (by decide)
  have smallEnd : add32 (layout.flash i).start (layout.flash i).length < 2 ^ 32 := Nat.mod_lt _ (by decide)
  have modulo : add32 addr len = (addr + len) % 2 ^ 32 := rfl
  generalize add32 (layout.flash i).start (layout.flash i).length = last at *
  generalize add32 addr len = reach at *
  rw [sub32] at counting
  refine ⟨by omega, ?_, by omega⟩
  rw [add32]
  omega

theorem writeRegions_steps {fuel active : Nat} {src : List Byte} (listed : active < layout.list.length)
    (part : Part write dest src) {next : Bool × Target}
    (running : writeRegions layout env fuel active dest src target = next) (answered : next.1 = true) :
    Steps layout env write target next.2 := by
  induction fuel generalizing active dest src target with
  | zero =>
    subst running
    exact .refl
  | succ fuel ih =>
    rw [writeRegions] at running
    split at running
    next =>
      subst running
      exact .refl
    next =>
      split at running
      next =>
        subst running
        exact .refl
      next j found =>
        obtain ⟨inside, place⟩ := regionForAddr_some found
        dsimp only at running
        generalize leaving : (if j ≠ active then flushDone layout env active target else (true, target)) = left at running
        generalize allocating : (if (left.2.state j).buf.isNone then flashBufferAlloc layout env j left.2
          else (true, left.2)) = alloc at running
        split at running
        next =>
          subst running
          cases answered
        next ready =>
          have both : left.1 = true ∧ alloc.1 = true := by simpa using ready
          have steps : Steps layout env write target left.2 := by
            split at leaving
            · exact flushDone_steps listed leaving both.1
            · subst leaving
              exact .refl
          have allocated : Steps layout env write left.2 alloc.2 ∧ (alloc.2.state j).buf.isSome := by
            split at allocating
            next free => exact flashBufferAlloc_steps inside (Option.isNone_iff_eq_none.mp free) allocating both.2
            next held =>
              subst allocating
              exact ⟨.refl, Option.isSome_iff_ne_none.mpr (by simpa using held)⟩
          generalize ending : min (add32 dest src.length) (add32 (layout.flash j).start (layout.flash j).length)
            = finish at running
          generalize counting : sub32 finish dest = count at running
          obtain ⟨short, goes, within⟩ := localLength_bounds place ending counting
          have share : Share layout write j dest (src.take count) := by
            refine ⟨part.take count, fun fits => ?_⟩
            have room := within (part.unwrapped fits)
            have length : (src.take count).length = min count src.length := List.length_take
            exact ⟨(contains_bounds place).1, by omega⟩
          generalize writing : flashBufferedWrite layout env j dest (src.take count) alloc.2 = written at running
          split at running
          next =>
            subst running
            cases answered
          next wrote =>
            obtain ⟨copied, -⟩ : Steps layout env write alloc.2 written.2 ∧ _ :=
              bufferedWrites_steps inside allocated.2 share writing (by simpa using wrote)
            rw [goes] at running
            exact ((steps.trans allocated.1).trans copied).trans (ih inside (part.drop short) running)

end Writes

section Calls

theorem enterFlashMode_steps {next : Bool × Target} (running : targetEnterFlashMode env target = next)
    (answered : next.1 = true) : Steps layout env write target next.2 := by
  subst running
  by_cases inside : target.flashMode = true
  · rw [targetEnterFlashMode, if_pos inside]
  · exact .single (.enter (by simpa using inside) answered)

theorem targetFlashWrite_steps {dest : Nat} {src : List Byte} {next : Bool × Target}
    (running : targetFlashWrite layout env dest src target = next) (answered : next.1 = true) :
    Steps layout env (dest, src) target next.2 := by
  rw [targetFlashWrite] at running
  generalize entering : targetEnterFlashMode env target = entered at running
  split at running
  next =>
    subst running
    cases answered
  next inside =>
    have entry : Steps layout env (dest, src) target entered.2 := enterFlashMode_steps entering (by simpa using inside)
    have listed : ∀ j ∈ List.range layout.list.length, j < layout.list.length := fun j member => List.mem_range.mp member
    generalize evicting : evictOthers layout env dest (List.range layout.list.length) true none entered.2 = evicted at running
    obtain ⟨result, active, middle⟩ := evicted
    cases active with
    | none =>
      subst running
      cases answered
    | some active =>
      dsimp only at running
      split at running
      next settled =>
        have steps : Steps layout env (dest, src) entered.2 middle := evictOthers_steps listed evicting settled
        have found := evictOthers_active listed (congrArg (fun out => out.2.1) evicting)
        obtain ⟨here, place⟩ := found.resolve_left (by simp)
        have part : Part (dest, src) dest src := by
          have bounds := contains_bounds place
          have small : add32 (layout.flash active).start (layout.flash active).length < 2 ^ 32 := Nat.mod_lt _ (by decide)
          exact ⟨0, by simp, by rw [add32_of_lt] <;> omega, by simp⟩
        exact (entry.trans steps).trans (writeRegions_steps here part running answered)
      next =>
        subst running
        cases answered

theorem eraseBlocks_steps {fuel active addr len : Nat} {result : Bool} (listed : active < layout.list.length)
    {next : Bool × Target} (running : eraseBlocks layout env fuel active addr len result target = next)
    (answered : next.1 = true) : Steps layout env write target next.2 := by
  induction fuel generalizing active addr len result target with
  | zero =>
    rw [eraseBlocks] at running
    split at running
    next =>
      subst running
      exact flashDone_steps listed (Bool.and_eq_true_iff.mp answered).2
    next =>
      subst running
      cases answered
  | succ fuel ih =>
    rw [eraseBlocks] at running
    split at running
    next =>
      subst running
      exact flashDone_steps listed (Bool.and_eq_true_iff.mp answered).2
    next =>
      split at running
      next =>
        subst running
        cases answered
      next j found =>
        obtain ⟨inside, place⟩ := regionForAddr_some found
        dsimp only at running
        generalize leaving : (if j ≠ active then flashDone layout env active target else (true, target)) = left at running
        generalize preparing : flashPrepare layout env j .erase left.2 = prepared at running
        split at running
        next =>
          subst running
          cases answered
        next ready =>
          split at running
          next =>
            subst running
            cases answered
          next erased =>
            have all : result = true ∧ left.1 = true ∧ (prepared.2.ask env (.erase j (alignDown addr (layout.flash j).blocksize)
                (layout.flash j).blocksize)).1 = true := by simpa [and_assoc] using erased
            have steps : Steps layout env write target left.2 := by
              split at leaving
              · subst leaving
                exact flashDone_steps listed all.2.1
              · subst leaving
                exact .refl
            obtain ⟨opened, erasing⟩ : Steps layout env write left.2 prepared.2 ∧ _ :=
              flashPrepare_erase_steps inside preparing (by simpa using ready)
            have step : Step layout env write prepared.2 _ := .erase inside place erasing fun _ => all.2.2
            exact ((steps.trans opened).tail step).trans (ih inside running)

theorem targetFlashErase_steps {addr len : Nat} {next : Bool × Target}
    (running : targetFlashErase layout env addr len target = next) (answered : next.1 = true) :
    Steps layout env write target next.2 := by
  rw [targetFlashErase] at running
  generalize entering : targetEnterFlashMode env target = entered at running
  split at running
  next =>
    subst running
    cases answered
  next inside =>
    have entry : Steps layout env write target entered.2 := enterFlashMode_steps entering (by simpa using inside)
    split at running
    next =>
      subst running
      cases answered
    next active found => exact entry.trans (eraseBlocks_steps (regionForAddr_some found).1 running answered)

theorem completeRegions_result {indices : List Nat} {result : Bool}
    (answered : (completeRegions layout env indices result target).1 = true) : result = true := by
  induction indices generalizing result target with
  | nil => exact answered
  | cons j rest ih => exact (Bool.and_eq_true_iff.mp (ih answered)).1

theorem completeRegions_steps {indices : List Nat} {result : Bool} (listed : ∀ j ∈ indices, j < layout.list.length)
    {next : Bool × Target} (running : completeRegions layout env indices result target = next)
    (answered : next.1 = true) : Steps layout env write target next.2 := by
  induction indices generalizing result target with
  | nil =>
    subst running
    exact .refl
  | cons j rest ih =>
    rw [completeRegions] at running
    generalize flushing : flushDone layout env j target = flushed at running
    have settled : flushed.1 = true := by
      rw [← running] at answered
      exact (Bool.and_eq_true_iff.mp (completeRegions_result answered)).2
    have steps : Steps layout env write target flushed.2 := flushDone_steps (listed j List.mem_cons_self) flushing settled
    exact steps.trans (ih (fun k member => listed k (List.mem_cons_of_mem j member)) running)

theorem targetFlashComplete_steps {next : Bool × Target} (running : targetFlashComplete layout env target = next)
    (answered : next.1 = true) : Steps layout env write target next.2 := by
  rw [targetFlashComplete] at running
  split at running
  next =>
    subst running
    cases answered
  next inside =>
    dsimp only at running
    generalize completing : completeRegions layout env (List.range layout.list.length) true target = completed at running
    subst running
    have steps : Steps layout env write target completed.2 :=
      completeRegions_steps (fun j member => List.mem_range.mp member) completing answered
    by_cases still : completed.2.flashMode = true
    · exact steps.tail (.exit still)
    · rw [targetExitFlashMode, if_pos (by simpa using still)]
      exact steps

end Calls

end BlackMagic.Proofs.FlashSteps

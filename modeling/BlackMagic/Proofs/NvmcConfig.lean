import BlackMagic.Nrf51
import BlackMagic.Proofs.FlashSteps

/-! In which mode the flash controller of the nRF51 is at its erases and writes, over runs of the flash layer. -/

namespace BlackMagic.Proofs.NvmcConfig
open BlackMagic.Flash BlackMagic.Nrf51 Lib.Words FlashSteps

section Calls

/-- An erase comes with erases enabled, a write with writes enabled. -/
def Right (mode : Config) : Call → Prop
  | .erase _ _ _ => mode = .een
  | .write _ _ _ _ => mode = .wen
  | _ => True

def Sound (calls : List Call) : Prop := ∀ before call after, calls = before ++ call :: after → Right (config before) call

theorem config_snoc (calls : List Call) (call : Call) : config (calls ++ [call]) = (config calls).after call := by
  rw [config, List.foldl_append]
  rfl

theorem sound_nil : Sound [] := by
  intro before call after same
  cases before <;> cases same

theorem sound_snoc {calls : List Call} {call : Call} (sound : Sound calls) (right : Right (config calls) call) :
    Sound (calls ++ [call]) := by
  intro before other after same
  rcases List.eq_nil_or_concat after with rfl | ⟨rest, last, rfl⟩
  · obtain ⟨rfl, rfl⟩ : calls = before ∧ call = other := by simpa using List.append_inj' same rfl
    exact right
  · have split : calls ++ [call] = (before ++ other :: rest) ++ [last] := by simpa using same
    exact sound before other rest (List.append_inj' split rfl).1

end Calls

/-- What no step changes, and that its calls come in the right mode. -/
structure Keeps (target next : Target) : Prop where
  mode : next.flashMode = target.flashMode
  fault : next.fault = target.fault
  sound : Sound target.calls → Sound next.calls

theorem Keeps.refl (target : Target) : Keeps target target := ⟨rfl, rfl, id⟩

theorem Keeps.trans {target middle next : Target} (first : Keeps target middle) (last : Keeps middle next) :
    Keeps target next :=
  ⟨last.mode.trans first.mode, last.fault.trans first.fault, last.sound ∘ first.sound⟩

theorem put_keeps (target : Target) (i : Nat) (state : FlashState) : Keeps target (target.put i state) := ⟨rfl, rfl, id⟩

theorem ask_keeps {env : Environment} {target : Target} {call : Call} (right : Right (config target.calls) call) :
    Keeps target (target.ask env call).2 := ⟨rfl, rfl, fun sound => sound_snoc sound right⟩

theorem put_calls (target : Target) (i : Nat) (state : FlashState) : (target.put i state).calls = target.calls := rfl

theorem put_same (target : Target) (i : Nat) (state : FlashState) : (target.put i state).state i = state := if_pos rfl

theorem put_other (target : Target) {i j : Nat} (state : FlashState) (other : j ≠ i) :
    (target.put i state).state j = target.state j := if_neg other

/-- The regions of one controller: all of them have the driver's callbacks, and no address is in two of them. -/
structure Shared (regions : Regions) : Prop where
  prepare : ∀ i < regions.list.length, (regions.flash i).prepare = true
  done : ∀ i < regions.list.length, (regions.flash i).done = true
  apart : ∀ addr i j, (regions.flash i).contains addr = true → (regions.flash j).contains addr = true → i = j

/-- The buffer of a region has data to be flushed. -/
def Pending (state : FlashState) : Prop := state.buf.isSome ∧ Filled state

/-- A write is going on in a region, or is to come. -/
def Loaded (state : FlashState) : Prop := state.operation = .write ∨ Pending state

/-- A region that a flush can be made of. -/
def Flushable (mode : Config) (state : FlashState) : Prop :=
  state.operation ≠ .erase ∧ (state.operation = .write → mode = .wen)

variable {regions : Regions} {env : Environment} {target : Target} {i : Nat}

section Operations

theorem done_keeps (target : Target) (state : FlashState) :
    Keeps target ((target.ask env (.done i)).2.put i state) :=
  (@ask_keeps env target (.done i) trivial).trans (put_keeps ..)

/-- The end of an operation makes the controller read only. -/
theorem flashDone_spec (shared : Shared regions) (obedient : Obedient env) (listed : i < regions.list.length) :
    (flashDone regions env i target).1 = true ∧ Keeps target (flashDone regions env i target).2 ∧
      (∀ j ≠ i, (flashDone regions env i target).2.state j = target.state j) ∧
      ((target.state i).operation = .none → flashDone regions env i target = (true, target)) ∧
      ((target.state i).operation ≠ .none →
        (flashDone regions env i target).2.state i = { target.state i with buf := none, operation := .none } ∧
          config (flashDone regions env i target).2.calls = .ren) := by
  by_cases idle : (target.state i).operation = .none
  · have same : flashDone regions env i target = (true, target) := by rw [flashDone, if_pos idle]
    rw [same]
    exact ⟨rfl, .refl target, fun _ _ => rfl, fun _ => rfl, fun busy => absurd idle busy⟩
  · have ended : flashDone regions env i target = (true,
        (target.ask env (.done i)).2.put i { target.state i with buf := none, operation := .none }) := by
      simp only [flashDone, if_neg idle, shared.done i listed, if_true]
      exact Prod.ext (obedient.answer _ _ (fun _ never => by cases never)) rfl
    rw [ended]
    refine ⟨rfl, done_keeps .., fun j other => put_other _ _ other, fun none => absurd none idle, fun _ => ⟨put_same .., ?_⟩⟩
    exact config_snoc target.calls (.done i)

/-- A preparation of an idle region picks the mode by its buffer. -/
theorem flashPrepare_idle (shared : Shared regions) (obedient : Obedient env) (listed : i < regions.list.length)
    {operation : FlashOperation} (other : operation ≠ .none) (idle : (target.state i).operation = .none) :
    flashPrepare regions env i operation target = (true,
      ((target.put i { target.state i with operation := operation }).ask env
        (.prepare i operation (target.state i).buf.isSome)).2) := by
  have different : ¬ (target.state i).operation = operation := fun same => other (same.symm.trans idle)
  have answered := obedient.answer (target.put i { target.state i with operation := operation }).calls
    (.prepare i operation (target.state i).buf.isSome) (fun _ never => by cases never)
  rw [flashPrepare, if_neg different]
  simp only [idle, ne_eq, not_true_eq_false, if_false, if_true, shared.prepare i listed, put_same, Target.ask, answered]

/-- A preparation for another operation ends the one that is going on, with its buffer. -/
theorem flashPrepare_busy (shared : Shared regions) (obedient : Obedient env) (listed : i < regions.list.length)
    {operation : FlashOperation} (other : operation ≠ .none) (busy : (target.state i).operation ≠ .none)
    (different : (target.state i).operation ≠ operation) :
    flashPrepare regions env i operation target =
      flashPrepare regions env i operation (flashDone regions env i target).2 := by
  obtain ⟨ended, _, _, _, state⟩ := @flashDone_spec regions env target i shared obedient listed
  have idle : ((flashDone regions env i target).2.state i).operation = .none := by rw [(state busy).1]
  rw [flashPrepare_idle shared obedient listed other idle]
  have answered := obedient.answer ((flashDone regions env i target).2.put i
    { (flashDone regions env i target).2.state i with operation := operation }).calls
    (.prepare i operation ((flashDone regions env i target).2.state i).buf.isSome) (fun _ never => by cases never)
  simp only [flashPrepare, if_neg different, ne_eq, busy, not_false_eq_true, if_true, ended, shared.prepare i listed,
    put_same, Target.ask, answered]

/-- A region is prepared for an erase, unless it is idle with a buffer, or another mode was set since its preparation. -/
theorem flashPrepare_erase (shared : Shared regions) (obedient : Obedient env) (listed : i < regions.list.length)
    (free : (target.state i).operation = .none → (target.state i).buf = none)
    (prepared : (target.state i).operation = .erase → config target.calls = .een) :
    (flashPrepare regions env i .erase target).1 = true ∧ Keeps target (flashPrepare regions env i .erase target).2 ∧
      (∀ j ≠ i, (flashPrepare regions env i .erase target).2.state j = target.state j) ∧
      config (flashPrepare regions env i .erase target).2.calls = .een ∧
      ((flashPrepare regions env i .erase target).2.state i).operation = .erase ∧
      ((target.state i).operation = .erase ∧ flashPrepare regions env i .erase target = (true, target) ∨
        ((flashPrepare regions env i .erase target).2.state i).buf = none) := by
  have idle_spec {target : Target} (idle : (target.state i).operation = .none) (free : (target.state i).buf = none) :
      (flashPrepare regions env i .erase target).1 = true ∧ Keeps target (flashPrepare regions env i .erase target).2 ∧
        (∀ j ≠ i, (flashPrepare regions env i .erase target).2.state j = target.state j) ∧
        config (flashPrepare regions env i .erase target).2.calls = .een ∧
        ((flashPrepare regions env i .erase target).2.state i).operation = .erase ∧
        ((flashPrepare regions env i .erase target).2.state i).buf = none := by
    rw [flashPrepare_idle shared obedient listed (by decide) idle]
    refine ⟨rfl, (put_keeps ..).trans (@ask_keeps env _ (.prepare i .erase _) trivial), fun j other => put_other _ _ other, ?_, ?_, ?_⟩
    · rw [free]
      exact config_snoc target.calls _
    · exact congrArg FlashState.operation (put_same ..)
    · exact (congrArg FlashState.buf (put_same ..)).trans free
  cases operation : (target.state i).operation with
  | none =>
    obtain ⟨answered, keeps, others, mode, erasing, empty⟩ := idle_spec operation (free operation)
    exact ⟨answered, keeps, others, mode, erasing, .inr empty⟩
  | erase =>
    have same : flashPrepare regions env i .erase target = (true, target) := by rw [flashPrepare, if_pos operation]
    rw [same]
    exact ⟨rfl, .refl target, fun _ _ => rfl, prepared operation, operation, .inl ⟨rfl, rfl⟩⟩
  | write =>
    have busy : (target.state i).operation ≠ .none := by
      rw [operation]
      decide
    have different : (target.state i).operation ≠ .erase := by
      rw [operation]
      decide
    obtain ⟨_, ending, others, _, ended⟩ := @flashDone_spec regions env target i shared obedient listed
    have state := (ended busy).1
    rw [flashPrepare_busy shared obedient listed (by decide) busy different]
    obtain ⟨answered, keeps, untouched, mode, erasing, empty⟩ := @idle_spec (flashDone regions env i target).2
      (by rw [state]) (by rw [state])
    exact ⟨answered, ending.trans keeps, fun j other => (untouched j other).trans (others j other), mode, erasing, .inr empty⟩

theorem flashPrepare_write (shared : Shared regions) (obedient : Obedient env) (listed : i < regions.list.length)
    (held : (target.state i).buf.isSome) (flushable : Flushable (config target.calls) (target.state i)) :
    (flashPrepare regions env i .write target).1 = true ∧ Keeps target (flashPrepare regions env i .write target).2 ∧
      (∀ j ≠ i, (flashPrepare regions env i .write target).2.state j = target.state j) ∧
      config (flashPrepare regions env i .write target).2.calls = .wen ∧
      (flashPrepare regions env i .write target).2.state i = { target.state i with operation := .write } := by
  cases operation : (target.state i).operation with
  | none =>
    rw [flashPrepare_idle shared obedient listed (by decide) operation]
    refine ⟨rfl, (put_keeps ..).trans (@ask_keeps env _ (.prepare i .write _) trivial), fun j other => put_other _ _ other,
      ?_, put_same ..⟩
    rw [held]
    exact config_snoc target.calls _
  | erase => exact absurd operation flushable.1
  | write =>
    have same : flashPrepare regions env i .write target = (true, target) := by rw [flashPrepare, if_pos operation]
    rw [same, ← operation]
    exact ⟨rfl, .refl target, fun _ _ => rfl, flushable.2 operation, rfl⟩

theorem flushWrites_spec (obedient : Obedient env) {alignedAddr source more done : Nat} {src : Buffer}
    (writing : config target.calls = .wen) :
    (flushWrites regions env i alignedAddr source src more done true target).1 = true ∧
      Keeps target (flushWrites regions env i alignedAddr source src more done true target).2 ∧
      config (flushWrites regions env i alignedAddr source src more done true target).2.calls = .wen := by
  induction more generalizing done target with
  | zero => exact ⟨rfl, .refl target, writing⟩
  | succ more ih =>
    rw [flushWrites]
    generalize call : Call.write i _ _ _ = write
    have answered : (target.ask env write).1 = true := obedient.answer _ _ (fun _ never => by cases call.trans never)
    have right : Right (config target.calls) write := call ▸ writing
    have still : config (target.ask env write).2.calls = .wen := by
      rw [← call]
      exact (config_snoc target.calls _).trans writing
    rw [answered, Bool.and_true]
    obtain ⟨result, keeps, mode⟩ := @ih (target.ask env write).2 (done + 1) still
    exact ⟨result, (ask_keeps right).trans keeps, mode⟩

theorem flushAll_spec (obedient : Obedient env) {low high base : Nat} {buf : Buffer} (writing : config target.calls = .wen)
    {written : Bool × Target} (running : flushAll regions env i low high base buf target = written) :
    written.1 = true ∧ Keeps target written.2 ∧ config written.2.calls = .wen := by
  subst running
  exact flushWrites_spec obedient writing

/-- A flush of data that waits is made in the right mode. -/
theorem flash_spec (shared : Shared regions) (obedient : Obedient env) (listed : i < regions.list.length)
    (pending : Pending (target.state i)) (flushable : Flushable (config target.calls) (target.state i)) :
    (flashBufferedFlush regions env i target).1 = true ∧ Keeps target (flashBufferedFlush regions env i target).2 ∧
      (∀ j ≠ i, (flashBufferedFlush regions env i target).2.state j = target.state j) ∧
      config (flashBufferedFlush regions env i target).2.calls = .wen ∧
      ((flashBufferedFlush regions env i target).2.state i).operation = .write ∧
      ((flashBufferedFlush regions env i target).2.state i).buf.isSome := by
  obtain ⟨prepared, keeps, others, mode, state⟩ :=
    flashPrepare_write shared obedient listed pending.1 flushable
  obtain ⟨buf, held⟩ := Option.isSome_iff_exists.mp pending.1
  have kept : ((flashPrepare regions env i .write target).2.state i).buf = some buf := by rw [state, ← held]
  generalize running : flushAll regions env i (target.state i).bufAddrLow (target.state i).bufAddrHigh
    (target.state i).bufAddrBase buf (flashPrepare regions env i .write target).2 = written
  obtain ⟨result, final⟩ := flashBufferedFlush_filled pending prepared kept running
  have states := (flushAll_state running).1
  obtain ⟨succeeded, wrote, still⟩ := flushAll_spec obedient mode running
  rw [result, final]
  refine ⟨succeeded, (keeps.trans wrote).trans (put_keeps ..), fun j other => ?_, ?_, ?_, ?_⟩
  · rw [put_other _ _ other]
    exact (congrFun states j).trans (others j other)
  · rw [put_calls, still]
  · rw [put_same, states, state]
  · rw [put_same, states, state]
    exact pending.1

theorem flushDone_idle (idle : (target.state i).operation = .none) (empty : ¬ Pending (target.state i)) :
    flushDone regions env i target = (true, target) := by
  rw [flushDone, flashBufferedFlush_unfilled empty]
  simp only [flashDone, if_pos idle, Bool.and_self]

/-- The flush of a region and the end of its operation. Where there was nothing to do, nothing was done. -/
theorem flushDone_spec (shared : Shared regions) (obedient : Obedient env) (listed : i < regions.list.length)
    (flushable : Pending (target.state i) → Flushable (config target.calls) (target.state i)) :
    (flushDone regions env i target).1 = true ∧ Keeps target (flushDone regions env i target).2 ∧
      (∀ j ≠ i, (flushDone regions env i target).2.state j = target.state j) ∧
      ((target.state i).operation = .none ∧ ¬ Pending (target.state i) ∧ flushDone regions env i target = (true, target) ∨
        ((flushDone regions env i target).2.state i).operation = .none ∧
          ((flushDone regions env i target).2.state i).buf = none ∧
          config (flushDone regions env i target).2.calls = .ren) := by
  rw [flushDone]
  dsimp only
  have ending {middle : Target} := @flashDone_spec regions env middle i shared obedient listed
  by_cases pending : Pending (target.state i)
  · obtain ⟨flushed, keeps, others, mode, writing, held⟩ := flash_spec shared obedient listed pending (flushable pending)
    obtain ⟨ended, last, untouched, _, closed⟩ := @ending (flashBufferedFlush regions env i target).2
    have busy : ((flashBufferedFlush regions env i target).2.state i).operation ≠ .none := by
      rw [writing]
      decide
    obtain ⟨state, mode⟩ := closed busy
    rw [flushed, ended]
    refine ⟨rfl, keeps.trans last, fun j other => (untouched j other).trans (others j other), .inr ⟨?_, ?_, mode⟩⟩
    · rw [state]
    · rw [state]
  · rw [flashBufferedFlush_unfilled pending]
    obtain ⟨ended, last, untouched, idle, closed⟩ := @ending target
    rw [ended]
    refine ⟨rfl, last, untouched, ?_⟩
    by_cases none : (target.state i).operation = .none
    · have same : (flashDone regions env i target).2 = target := congrArg Prod.snd (idle none)
      exact .inl ⟨none, pending, Prod.ext rfl same⟩
    · obtain ⟨state, mode⟩ := closed none
      refine .inr ⟨?_, ?_, mode⟩
      · rw [state]
      · rw [state]

end Operations

/-- What holds between the calls of the flash layer. -/
structure Ordered (regions : Regions) (target : Target) : Prop where
  sound : Sound target.calls
  faultless : target.fault = false
  buffered : ∀ i, (target.state i).operation = .write → (target.state i).buf.isSome
  erasing : ∀ i, (target.state i).operation = .erase → (target.state i).buf.isSome → Filled (target.state i)
  one : ∀ i j, Loaded (target.state i) → Loaded (target.state j) → i = j
  listed : ∀ i, (target.state i).operation ≠ .none ∨ (target.state i).buf.isSome → i < regions.list.length
  idle : target.flashMode = false → (∀ i, (target.state i).operation = .none) ∧ config target.calls = .ren

/-- The start of a session resets a target whose controller is read only anyway. -/
theorem enter_spec (obedient : Obedient env) (ordered : Ordered regions target) :
    (targetEnterFlashMode env target).1 = true ∧ Ordered regions (targetEnterFlashMode env target).2 ∧
      (targetEnterFlashMode env target).2.flashMode = true ∧
      (targetEnterFlashMode env target).2.state = target.state ∧
      config (targetEnterFlashMode env target).2.calls = config target.calls := by
  by_cases inside : target.flashMode = true
  · rw [targetEnterFlashMode, if_pos inside]
    exact ⟨rfl, ordered, inside, rfl, rfl⟩
  · have outside : target.flashMode = false := by simpa using inside
    obtain ⟨_, mode⟩ := ordered.idle outside
    have entered : targetEnterFlashMode env target = (true, { (target.ask env .reset).2 with flashMode := true }) := by
      rw [targetEnterFlashMode, if_neg inside]
      simp only [obedient.enter, obedient.reset, Bool.false_eq_true, if_false, if_true]
    rw [entered]
    refine ⟨rfl, ⟨sound_snoc ordered.sound trivial, ordered.faultless, ordered.buffered, ordered.erasing, ordered.one,
      ordered.listed, (fun never => by cases never)⟩, rfl, rfl, ?_⟩
    rw [mode]
    exact config_snoc target.calls .reset

section Erase

/-- The regions of the blocks that an erase goes through. -/
def erasedRegions (regions : Regions) : Nat → Nat → Nat → List Nat
  | 0, _, _ => []
  | fuel + 1, addr, len =>
    if len = 0 then []
    else
      match targetFlashForAddr regions addr with
      | none => []
      | some i =>
        let localEndAddr := add32 (alignDown addr (regions.flash i).blocksize) (regions.flash i).blocksize
        i :: erasedRegions regions fuel localEndAddr (len - min (sub32 localEndAddr addr) len)

/-- An erase may go through a region: it is idle without a buffer, or in a write, or in an erase whose mode is still set. -/
def Erasable (target : Target) (active i : Nat) : Prop :=
  ((target.state i).operation = .none → (target.state i).buf = none) ∧
    ((target.state i).operation = .erase → i = active ∧ config target.calls = .een)

/-- Some regions lost their buffers, and none is written. -/
structure Calms (regions : Regions) (target next : Target) : Prop where
  keeps : Keeps target next
  states : ∀ j, next.state j = target.state j ∨ (next.state j).buf = none ∧ (next.state j).operation ≠ .write ∧
    ((next.state j).operation ≠ .none → j < regions.list.length)

theorem Calms.refl (target : Target) : Calms regions target target := ⟨.refl target, fun _ => .inl rfl⟩

theorem Calms.trans {middle next : Target} (first : Calms regions target middle) (last : Calms regions middle next) :
    Calms regions target next := by
  refine ⟨first.keeps.trans last.keeps, fun j => ?_⟩
  cases last.states j with
  | inl same =>
    rw [same]
    exact first.states j
  | inr calm => exact .inr calm

theorem Calms.ordered {next : Target} (calms : Calms regions target next) (ordered : Ordered regions target)
    (inside : target.flashMode = true) : Ordered regions next := by
  have loaded {j : Nat} (loaded : Loaded (next.state j)) : next.state j = target.state j := by
    cases calms.states j with
    | inl same => exact same
    | inr calm =>
      cases loaded with
      | inl writing => exact absurd writing calm.2.1
      | inr pending =>
        have held := pending.1
        rw [calm.1] at held
        cases held
  constructor
  · exact calms.keeps.sound ordered.sound
  · exact calms.keeps.fault.trans ordered.faultless
  · intro j writing
    have same := loaded (.inl writing)
    rw [same] at writing ⊢
    exact ordered.buffered j writing
  · intro j erasing held
    cases calms.states j with
    | inl same =>
      rw [same] at erasing held ⊢
      exact ordered.erasing j erasing held
    | inr calm =>
      rw [calm.1] at held
      cases held
  · intro j k first second
    exact ordered.one j k (loaded first ▸ first) (loaded second ▸ second)
  · intro j busy
    cases calms.states j with
    | inl same =>
      rw [same] at busy
      exact ordered.listed j busy
    | inr calm =>
      rw [calm.1] at busy
      exact calm.2.2 (busy.resolve_right Bool.false_ne_true)
  · intro outside
    cases inside.symm.trans (calms.keeps.mode.symm.trans outside)

theorem flashDone_calms (shared : Shared regions) (obedient : Obedient env) (listed : i < regions.list.length) :
    Calms regions target (flashDone regions env i target).2 := by
  obtain ⟨_, keeps, others, idle, ended⟩ := @flashDone_spec regions env target i shared obedient listed
  refine ⟨keeps, fun j => ?_⟩
  by_cases here : j = i
  · subst here
    by_cases none : (target.state j).operation = .none
    · rw [idle none]
      exact .inl rfl
    · rw [(ended none).1]
      exact .inr ⟨rfl, (fun never => by cases never), fun _ => listed⟩
  · exact .inl (others j here)

/-- Leaving a region for another one keeps what the erase still has to go through erasable. -/
theorem leave_erasable (shared : Shared regions) (obedient : Obedient env) {active j : Nat}
    (listed : active < regions.list.length) (other : i ≠ active) (erasable : Erasable target active j) :
    Erasable (flashDone regions env active target).2 i j ∧
      ((flashDone regions env active target).2.state j).operation ≠ .erase := by
  obtain ⟨_, _, others, idle, ended⟩ := @flashDone_spec regions env target active shared obedient listed
  by_cases here : j = active
  · subst here
    by_cases none : (target.state j).operation = .none
    · rw [idle none]
      have waiting : (target.state j).operation ≠ .erase := by
        rw [none]
        decide
      exact ⟨⟨erasable.1, fun erasing => absurd erasing waiting⟩, waiting⟩
    · rw [Erasable, (ended none).1]
      exact ⟨⟨fun _ => rfl, (fun never => by cases never)⟩, (fun never => by cases never)⟩
  · rw [Erasable, others j here]
    have waiting : (target.state j).operation ≠ .erase := fun erasing => here (erasable.2 erasing).1
    exact ⟨⟨erasable.1, fun erasing => absurd erasing waiting⟩, waiting⟩

/-- The preparation of a region and the erase of a block in it. -/
theorem erase_calms (shared : Shared regions) (obedient : Obedient env) (listed : i < regions.list.length) {addr len : Nat}
    (erasable : Erasable target i i) :
    (flashPrepare regions env i .erase target).1 = true ∧
      Calms regions target ((flashPrepare regions env i .erase target).2.ask env (.erase i addr len)).2 ∧
      ∀ j, (j ≠ i → Erasable target i j) →
        Erasable ((flashPrepare regions env i .erase target).2.ask env (.erase i addr len)).2 i j := by
  obtain ⟨prepared, keeps, others, mode, erasing, held⟩ :=
    flashPrepare_erase shared obedient listed erasable.1 fun erasing => (erasable.2 erasing).2
  have right : Right (config (flashPrepare regions env i .erase target).2.calls) (.erase i addr len) := mode
  refine ⟨prepared, ⟨keeps.trans (ask_keeps right), fun j => ?_⟩, fun j rest => ?_⟩
  · by_cases here : j = i
    · subst here
      cases held with
      | inl already =>
        rw [already.2]
        exact .inl rfl
      | inr empty =>
        refine .inr ⟨empty, fun writing => ?_, fun _ => listed⟩
        cases erasing.symm.trans writing
    · exact .inl (others j here)
  · have still : config ((flashPrepare regions env i .erase target).2.ask env (.erase i addr len)).2.calls = .een :=
      (config_snoc _ (.erase i addr len)).trans mode
    by_cases here : j = i
    · subst here
      exact ⟨fun idle => (by cases erasing.symm.trans idle), fun _ => ⟨rfl, still⟩⟩
    · have same : ((flashPrepare regions env i .erase target).2.ask env (.erase i addr len)).2.state j = target.state j :=
        others j here
      rw [Erasable, same, still]
      exact ⟨(rest here).1, fun erasing => ⟨((rest here).2 erasing).1, rfl⟩⟩

theorem eraseBlocks_calms (shared : Shared regions) (obedient : Obedient env) {fuel active addr len : Nat} {result : Bool}
    (listed : active < regions.list.length)
    (safe : ∀ i ∈ erasedRegions regions fuel addr len, Erasable target active i) :
    Calms regions target (eraseBlocks regions env fuel active addr len result target).2 := by
  induction fuel generalizing active addr len result target with
  | zero =>
    rw [eraseBlocks]
    split
    · exact flashDone_calms shared obedient listed
    · exact .refl target
  | succ fuel ih =>
    rw [eraseBlocks]
    rw [erasedRegions] at safe
    split
    · exact flashDone_calms shared obedient listed
    next more =>
      rw [if_neg more] at safe
      split
      · exact .refl target
      next i found =>
        simp only [found, List.mem_cons] at safe
        have inside := (regionForAddr_some found).1
        obtain ⟨left, leaving, calms, here, rest⟩ : ∃ left,
            (if i ≠ active then flashDone regions env active target else (true, target)) = left ∧
              Calms regions target left.2 ∧ Erasable left.2 i i ∧
              ∀ j, Erasable target active j → j ≠ i → Erasable left.2 i j := by
          refine ⟨_, rfl, ?_⟩
          split
          next other =>
            exact ⟨flashDone_calms shared obedient listed, (leave_erasable shared obedient listed other (safe i (.inl rfl))).1,
              fun j erasable _ => (leave_erasable shared obedient listed other erasable).1⟩
          next same =>
            rw [ne_eq, not_not] at same
            subst same
            exact ⟨.refl target, safe i (.inl rfl), fun _ erasable _ => erasable⟩
        dsimp only
        rw [leaving]
        obtain ⟨prepared, erased, later⟩ := @erase_calms regions env left.2 i shared obedient inside
          (alignDown addr (regions.flash i).blocksize) (regions.flash i).blocksize here
        rw [prepared, Bool.not_true, if_neg Bool.false_ne_true]
        split
        · exact (calms.trans erased).trans (flashDone_calms shared obedient inside)
        · refine (calms.trans erased).trans (ih inside fun j reached => later j fun other => ?_)
          exact rest j (safe j (.inr reached)) other

end Erase

section Write

/-- The parts of a write, each with its region, address and length. -/
def writtenParts (regions : Regions) : Nat → Nat → Nat → List (Nat × Nat × Nat)
  | 0, _, _ => []
  | fuel + 1, dest, len =>
    if len = 0 then []
    else
      match targetFlashForAddr regions dest with
      | none => []
      | some i =>
        let localEndAddr := min (add32 dest len) (add32 (regions.flash i).start (regions.flash i).length)
        let localLength := sub32 localEndAddr dest
        (i, dest, min localLength len) :: writtenParts regions fuel localEndAddr (len - localLength)

/-- A part of a write goes into the block of the buffer, or into a buffer with nothing to be flushed. -/
structure Stays (flash : TargetFlash) (state : FlashState) (dest len : Nat) : Prop where
  filled : 0 < len
  block : len ≤ flash.writebufsize - dest % flash.writebufsize
  bounded : dest + len ≤ uint32Max
  same : alignDown dest flash.writebufsize = state.bufAddrBase ∨ ¬ Pending state

/-- Every part goes into a region that can be flushed, or is the last one and makes no flush. -/
def Flows (regions : Regions) (target : Target) : List (Nat × Nat × Nat) → Prop
  | [] => True
  | (i, dest, len) :: rest =>
    (Flushable (config target.calls) (target.state i) ∨ rest = [] ∧ Stays (regions.flash i) (target.state i) dest len) ∧
      Flows regions target rest

theorem Flows.congr {next : Target} (state : next.state = target.state) (mode : config next.calls = config target.calls)
    {parts : List (Nat × Nat × Nat)} (flows : Flows regions target parts) : Flows regions next parts := by
  induction parts with
  | nil => trivial
  | cons part rest ih =>
    obtain ⟨j, dest, len⟩ := part
    refine ⟨?_, ih flows.2⟩
    rw [state, mode]
    exact flows.1

/-- Some regions were ended, and the mode only changed if no write is left. -/
structure Eases (target next : Target) : Prop where
  keeps : Keeps target next
  states : ∀ j, next.state j = target.state j ∨ (next.state j).operation = .none ∧ (next.state j).buf = none
  mode : config next.calls = config target.calls ∨ ∀ j, ¬ Loaded (next.state j)

theorem not_loaded {state : FlashState} (ended : state.operation = .none ∧ state.buf = none) : ¬ Loaded state := by
  intro loaded
  cases loaded with
  | inl writing => cases ended.1.symm.trans writing
  | inr pending =>
    have held := pending.1
    rw [ended.2] at held
    cases held

theorem Eases.refl (target : Target) : Eases target target := ⟨.refl target, fun _ => .inl rfl, .inl rfl⟩

theorem Eases.trans {middle next : Target} (first : Eases target middle) (last : Eases middle next) : Eases target next := by
  refine ⟨first.keeps.trans last.keeps, fun j => ?_, ?_⟩
  · cases last.states j with
    | inl same =>
      rw [same]
      exact first.states j
    | inr ended => exact .inr ended
  · cases last.mode with
    | inl same =>
      rw [same]
      apply first.mode.imp_right
      intro none j loaded
      cases last.states j with
      | inl same => exact none j (same ▸ loaded)
      | inr ended => exact not_loaded ended loaded
    | inr none => exact .inr none

theorem Eases.calms {next : Target} (eases : Eases target next) : Calms regions target next := by
  refine ⟨eases.keeps, fun j => (eases.states j).imp_right fun ended => ⟨ended.2, ?_, fun busy => absurd ended.1 busy⟩⟩
  rw [ended.1]
  decide

theorem Eases.flushable {next : Target} {j : Nat} (eases : Eases target next)
    (flushable : Flushable (config target.calls) (target.state j)) : Flushable (config next.calls) (next.state j) := by
  cases eases.states j with
  | inl same =>
    cases eases.mode with
    | inl mode =>
      rw [same, mode]
      exact flushable
    | inr none =>
      rw [← same] at flushable
      exact ⟨flushable.1, fun writing => absurd (.inl writing) (none j)⟩
  | inr ended =>
    constructor
    · rw [ended.1]
      decide
    · intro writing
      cases ended.1.symm.trans writing

theorem Eases.flows {next : Target} (eases : Eases target next) {parts : List (Nat × Nat × Nat)}
    (flows : Flows regions target parts) : Flows regions next parts := by
  induction parts with
  | nil => trivial
  | cons part rest ih =>
    obtain ⟨j, dest, len⟩ := part
    refine ⟨?_, ih flows.2⟩
    cases flows.1 with
    | inl flushable => exact .inl (eases.flushable flushable)
    | inr last =>
      obtain ⟨none, stays⟩ := last
      refine .inr ⟨none, stays.filled, stays.block, stays.bounded, ?_⟩
      cases eases.states j with
      | inl same =>
        rw [same]
        exact stays.same
      | inr ended => exact .inr fun pending => not_loaded ended (.inr pending)

/-- Ending the only region with a write. -/
theorem flushDone_eases (shared : Shared regions) (obedient : Obedient env) (listed : i < regions.list.length)
    (flushable : Pending (target.state i) → Flushable (config target.calls) (target.state i))
    (alone : ∀ j, Loaded (target.state j) → j = i) :
    (flushDone regions env i target).1 = true ∧ Eases target (flushDone regions env i target).2 ∧
      ∀ j, ¬ Loaded ((flushDone regions env i target).2.state j) := by
  obtain ⟨ended, keeps, others, done⟩ := flushDone_spec shared obedient listed flushable
  have elsewhere {j : Nat} (other : j ≠ i) : ¬ Loaded ((flushDone regions env i target).2.state j) := by
    rw [others j other]
    exact fun loaded => other (alone j loaded)
  have here : ¬ Loaded ((flushDone regions env i target).2.state i) := by
    cases done with
    | inl idle =>
      rw [idle.2.2]
      intro loaded
      cases loaded with
      | inl writing => cases idle.1.symm.trans writing
      | inr pending => exact idle.2.1 pending
    | inr closed => exact not_loaded ⟨closed.1, closed.2.1⟩
  have none (j : Nat) : ¬ Loaded ((flushDone regions env i target).2.state j) := by
    by_cases same : j = i
    · exact same ▸ here
    · exact elsewhere same
  refine ⟨ended, ⟨keeps, fun j => ?_, .inr none⟩, none⟩
  by_cases same : j = i
  · subst same
    cases done with
    | inl idle =>
      rw [idle.2.2]
      exact .inl rfl
    | inr closed => exact .inr ⟨closed.1, closed.2.1⟩
  · exact .inl (others j same)

/-- The end of the other regions before a write. -/
theorem evictOthers_eases (shared : Shared regions) (obedient : Obedient env) {dest : Nat} {indices : List Nat} {result : Bool}
    {active : Option Nat} (inside : target.flashMode = true) (ordered : Ordered regions target)
    (listed : ∀ j ∈ indices, j < regions.list.length)
    (safe : ∀ j, (regions.flash j).contains dest = false → Pending (target.state j) →
      Flushable (config target.calls) (target.state j)) :
    Eases target (evictOthers regions env dest indices result active target).2.2 ∧
      ∀ j, (j ∈ indices ∧ (regions.flash j).contains dest = false ∨ ¬ Loaded (target.state j)) →
        ¬ Loaded ((evictOthers regions env dest indices result active target).2.2.state j) := by
  induction indices generalizing result active target with
  | nil => exact ⟨.refl target, fun j none => none.resolve_left fun never => (List.not_mem_nil never.1)⟩
  | cons k rest ih =>
    have later : ∀ j ∈ rest, j < regions.list.length := fun j member => listed j (List.mem_cons_of_mem k member)
    have weaken {next : Target} {j : Nat} (eases : Eases target next)
        (gone : (regions.flash k).contains dest = false → ¬ Loaded (next.state k))
        (none : j ∈ k :: rest ∧ (regions.flash j).contains dest = false ∨ ¬ Loaded (target.state j)) :
        j ∈ rest ∧ (regions.flash j).contains dest = false ∨ ¬ Loaded (next.state j) := by
      cases none with
      | inl member =>
        cases List.mem_cons.mp member.1 with
        | inl same => exact .inr (same ▸ gone (same ▸ member.2))
        | inr rest => exact .inl ⟨rest, member.2⟩
      | inr none =>
        right
        cases eases.states j with
        | inl same =>
          rw [same]
          exact none
        | inr ended => exact not_loaded ended
    rw [evictOthers]
    split
    next here =>
      obtain ⟨eases, none⟩ := @ih target result (some k) inside ordered later safe
      refine ⟨eases, fun j out => none j (weaken (.refl target) (fun away => ?_) out)⟩
      rw [here] at away
      cases away
    next away =>
      have away : (regions.flash k).contains dest = false := by simpa using away
      split
      next held =>
        have evicted : Eases target (flushDone regions env k target).2 ∧
            ¬ Loaded ((flushDone regions env k target).2.state k) := by
          have flushable := safe k away
          by_cases loaded : Loaded (target.state k)
          · obtain ⟨_, eases, none⟩ := flushDone_eases shared obedient (listed k List.mem_cons_self) flushable
              fun j other => ordered.one j k other loaded
            exact ⟨eases, none k⟩
          · obtain ⟨_, _, _, done⟩ := flushDone_spec shared obedient (listed k List.mem_cons_self) flushable
            have idle : (target.state k).operation = .none := by
              cases operation : (target.state k).operation with
              | none => rfl
              | erase => exact absurd (.inr ⟨held, ordered.erasing k operation held⟩) loaded
              | write => exact absurd (.inl operation) loaded
            have unfilled : ¬ Pending (target.state k) := fun pending => loaded (.inr pending)
            rw [flushDone_idle idle unfilled]
            exact ⟨.refl target, loaded⟩
        obtain ⟨eases, gone⟩ := evicted
        have kept : ∀ j, (regions.flash j).contains dest = false → Pending ((flushDone regions env k target).2.state j) →
            Flushable (config (flushDone regions env k target).2.calls) ((flushDone regions env k target).2.state j) := by
          intro j other pending
          cases eases.states j with
          | inl same =>
            rw [same] at pending
            exact eases.flushable (safe j other pending)
          | inr ended => exact absurd (.inr pending) (not_loaded ended)
        dsimp only
        obtain ⟨last, none⟩ := @ih (flushDone regions env k target).2 (result && (flushDone regions env k target).1) active
          (eases.keeps.mode.trans inside) (eases.calms.ordered ordered inside) later kept
        exact ⟨eases.trans last, fun j out => none j (weaken eases (fun _ => gone) out)⟩
      next empty =>
        obtain ⟨eases, none⟩ := @ih target result active inside ordered later safe
        refine ⟨eases, fun j out => none j (weaken (.refl target) (fun _ loaded => empty ?_) out)⟩
        cases loaded with
        | inl writing => exact ordered.buffered k writing
        | inr pending => exact pending.1

/-- A pass of a buffered write, up to the copying. -/
theorem setupBuffer_spec (shared : Shared regions) (obedient : Obedient env) (listed : i < regions.list.length) {base : Nat}
    (held : (target.state i).buf.isSome)
    (flushable : base = (target.state i).bufAddrBase ∨ ¬ Pending (target.state i) ∨
      Flushable (config target.calls) (target.state i)) :
    (setupBuffer regions env i base target).1 = true ∧ Keeps target (setupBuffer regions env i base target).2 ∧
      (∀ j ≠ i, (setupBuffer regions env i base target).2.state j = target.state j) ∧
      ((setupBuffer regions env i base target).2.state i).buf.isSome ∧
      ((setupBuffer regions env i base target).2.state i).bufAddrBase = base ∧
      (config (setupBuffer regions env i base target).2.calls = config target.calls ∧
          ((setupBuffer regions env i base target).2.state i).operation = (target.state i).operation ∨
        config (setupBuffer regions env i base target).2.calls = .wen ∧
          ((setupBuffer regions env i base target).2.state i).operation = .write ∧ Pending (target.state i) ∧
          base ≠ (target.state i).bufAddrBase) := by
  rw [setupBuffer]
  by_cases same : base = (target.state i).bufAddrBase
  · rw [if_neg (not_not.mpr same)]
    exact ⟨rfl, .refl target, fun _ _ => rfl, held, same.symm, .inl ⟨rfl, rfl⟩⟩
  · rw [if_pos same]
    by_cases pending : Pending (target.state i)
    · have ready := (flushable.resolve_left same).resolve_left (not_not.mpr pending)
      obtain ⟨flushed, keeps, others, mode, writing, kept⟩ := flash_spec shared obedient listed pending ready
      obtain ⟨buf, present⟩ := Option.isSome_iff_exists.mp kept
      dsimp only
      rw [present]
      refine ⟨flushed, keeps.trans (put_keeps ..), fun j other => ?_, ?_, ?_, .inr ⟨?_, ?_, pending, same⟩⟩
      · rw [put_other _ _ other, others j other]
      · rw [put_same]
        rfl
      · rw [put_same]
      · rw [put_calls, mode]
      · rw [put_same, writing]
    · obtain ⟨buf, present⟩ := Option.isSome_iff_exists.mp held
      rw [flashBufferedFlush_unfilled pending]
      dsimp only
      rw [present]
      refine ⟨rfl, put_keeps .., fun j other => put_other _ _ other, ?_, ?_, .inl ⟨rfl, ?_⟩⟩
      · rw [put_same]
        rfl
      · rw [put_same]
      · rw [put_same]

theorem copyChunk_spec {dest : Nat} {chunk : List Byte} (held : (target.state i).buf.isSome) :
    Keeps target (copyChunk regions i dest chunk target) ∧
      (∀ j ≠ i, (copyChunk regions i dest chunk target).state j = target.state j) ∧
      config (copyChunk regions i dest chunk target).calls = config target.calls ∧
      ((copyChunk regions i dest chunk target).state i).operation = (target.state i).operation ∧
      ((copyChunk regions i dest chunk target).state i).buf.isSome ∧
      ((copyChunk regions i dest chunk target).state i).bufAddrBase = (target.state i).bufAddrBase ∧
      ((copyChunk regions i dest chunk target).state i).bufAddrLow = min (target.state i).bufAddrLow dest ∧
      ((copyChunk regions i dest chunk target).state i).bufAddrHigh =
        max (target.state i).bufAddrHigh (add32 dest chunk.length) := by
  obtain ⟨buf, present⟩ := Option.isSome_iff_exists.mp held
  simp only [copyChunk, present]
  refine ⟨⟨rfl, rfl, fun sound => sound_snoc sound trivial⟩, fun j other => put_other _ _ other, ?_, ?_, ?_, ?_, ?_, ?_⟩
  · exact config_snoc target.calls _
  · rw [put_same]
  · rw [put_same]
    rfl
  · rw [put_same]
  · rw [put_same]
  · rw [put_same]

/-- A buffered write in a region that can be flushed. -/
theorem bufferedWrites_flushable (shared : Shared regions) (obedient : Obedient env) (listed : i < regions.list.length)
    {fuel dest : Nat} {src : List Byte} {result : Bool} (held : (target.state i).buf.isSome)
    (flushable : Flushable (config target.calls) (target.state i)) :
    Keeps target (bufferedWrites regions env i fuel dest src result target).2 ∧
      (∀ j ≠ i, (bufferedWrites regions env i fuel dest src result target).2.state j = target.state j) ∧
      ((bufferedWrites regions env i fuel dest src result target).2.state i).buf.isSome ∧
      Flushable (config (bufferedWrites regions env i fuel dest src result target).2.calls)
        ((bufferedWrites regions env i fuel dest src result target).2.state i) := by
  induction fuel generalizing dest src result target with
  | zero => exact ⟨.refl target, fun _ _ => rfl, held, flushable⟩
  | succ fuel ih =>
    rw [bufferedWrites]
    split
    · exact ⟨.refl target, fun _ _ => rfl, held, flushable⟩
    · dsimp only
      obtain ⟨_, keeps, others, kept, _, mode⟩ := @setupBuffer_spec regions env target i shared obedient listed
        (alignDown dest (regions.flash i).writebufsize) held (.inr (.inr flushable))
      generalize setupBuffer regions env i (alignDown dest (regions.flash i).writebufsize) target = setup at *
      generalize min ((regions.flash i).writebufsize - dest % (regions.flash i).writebufsize) src.length = len
      obtain ⟨copied, apart, same, operation, still, _⟩ := @copyChunk_spec regions setup.2 i dest (src.take len) kept
      have ready : Flushable (config (copyChunk regions i dest (src.take len) setup.2).calls)
          ((copyChunk regions i dest (src.take len) setup.2).state i) := by
        rw [Flushable, same, operation]
        cases mode with
        | inl unchanged =>
          rw [unchanged.1, unchanged.2]
          exact flushable
        | inr flushed =>
          rw [flushed.1, flushed.2.1]
          exact ⟨(fun never => by cases never), fun _ => rfl⟩
      obtain ⟨later, untouched, last, final⟩ :=
        @ih (copyChunk regions i dest (src.take len) setup.2) (add32 dest len) (src.drop len) (result && setup.1) still ready
      exact ⟨(keeps.trans copied).trans later,
        fun j other => (untouched j other).trans ((apart j other).trans (others j other)), last, final⟩

theorem alignDown_le (a size : Nat) : alignDown a size ≤ a := Nat.and_le_left

/-- A buffered write that makes no flush leaves its data to be flushed. -/
theorem bufferedWrites_stays (shared : Shared regions) (obedient : Obedient env) (listed : i < regions.list.length)
    {dest : Nat} {src : List Byte} (held : (target.state i).buf.isSome)
    (stays : Stays (regions.flash i) (target.state i) dest src.length) :
    Keeps target (flashBufferedWrite regions env i dest src target).2 ∧
      (∀ j ≠ i, (flashBufferedWrite regions env i dest src target).2.state j = target.state j) ∧
      ((flashBufferedWrite regions env i dest src target).2.state i).operation = (target.state i).operation ∧
      Pending ((flashBufferedWrite regions env i dest src target).2.state i) := by
  obtain ⟨first, rest, rfl⟩ := List.exists_cons_of_length_pos stays.filled
  have whole : min ((regions.flash i).writebufsize - dest % (regions.flash i).writebufsize) (first :: rest).length =
      (first :: rest).length := Nat.min_eq_right stays.block
  have once {result : Bool} {next : Target} :
      (bufferedWrites regions env i rest.length (add32 dest (first :: rest).length) [] result next).2 = next := by
    cases rest.length with
    | zero => rfl
    | succ fuel => rw [bufferedWrites, if_pos rfl]
  rw [flashBufferedWrite, List.length_cons, bufferedWrites, if_neg (List.cons_ne_nil _ _)]
  dsimp only
  rw [whole, List.take_length, List.drop_length, once]
  obtain ⟨_, keeps, others, kept, base, mode⟩ := @setupBuffer_spec regions env target i shared obedient listed
    (alignDown dest (regions.flash i).writebufsize) held (stays.same.imp_right .inl)
  generalize setupBuffer regions env i (alignDown dest (regions.flash i).writebufsize) target = setup at *
  obtain ⟨copied, apart, _, operation, still, block, low, high⟩ :=
    @copyChunk_spec regions setup.2 i dest (first :: rest) kept
  refine ⟨keeps.trans copied, fun j other => (apart j other).trans (others j other), ?_, still, ?_⟩
  · rw [operation]
    cases mode with
    | inl unchanged => exact unchanged.2
    | inr flushed =>
      cases stays.same with
      | inl same => exact absurd same flushed.2.2.2
      | inr unfilled => exact absurd flushed.2.2.1 unfilled
  · have below := alignDown_le dest (regions.flash i).writebufsize
    have filled := stays.filled
    have bounded := stays.bounded
    have top : uint32Max = 0xffffffff := rfl
    have sum : add32 dest (first :: rest).length = dest + (first :: rest).length := add32_of_lt (by omega)
    rw [Filled, block, base, low, high, sum]
    omega

end Write

end BlackMagic.Proofs.NvmcConfig

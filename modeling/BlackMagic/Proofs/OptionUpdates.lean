import BlackMagic.OptionBytes
import Mathlib.Tactic.IntervalCases

/-! Which updates of an option half-word of an STM32F1 change this half-word only. -/

namespace BlackMagic.Proofs.OptionUpdates
open BlackMagic.OptionBytes BlackMagic.Stm32f1 Lib.Polling Lib.Words

variable {device : Device} {controller : Controller}

/-- Whatever the flags were before, an operation starts without any. -/
theorem cleared_flags (flags : Flags) : flags.write (flags.sr ||| srEop) = ⟨false, false, false⟩ := by
  obtain ⟨programError, writeProtectionError, endOfOperation⟩ := flags
  cases programError <;> cases writeProtectionError <;> cases endOfOperation <;> rfl

/-- A wait ends with what the flags say, where they end it. -/
theorem busyWait_result {halfWords : Nat → BitVec 16} {flags : Flags}
    (ends : flags.sr &&& srEop ≠ 0 ∨ flags.sr &&& flashSrBsy = 0) :
    busyWait device ⟨halfWords, flags⟩ = some (flags.sr &&& srErrorMask == 0) := by
  rw [busyWait, stm32f1FlashBusyWait, await_iff]
  refine ⟨device.busy ⟨halfWords, flags⟩, Nat.lt_succ_self _, fun k earlier => ?_, ?_⟩
  · simp only [Nat.zero_add, if_pos earlier]
    rfl
  · simp only [Nat.zero_add, Nat.lt_irrefl, if_false, Bool.false_eq_true]
    rw [if_pos ends]

theorem busyWait_ended (halfWords : Nat → BitVec 16) : busyWait device ⟨halfWords, ⟨false, false, true⟩⟩ = some true :=
  busyWait_result (.inl (by decide))

theorem busyWait_failed (halfWords : Nat → BitVec 16) : busyWait device ⟨halfWords, ⟨true, false, false⟩⟩ = some false :=
  busyWait_result (.inr (by decide))

theorem erase_spec (device : Device) (controller : Controller) : stm32f1OptionErase device controller =
    (some true, ⟨fun i => if i < 8 then 0xffff else controller.halfWords i, ⟨false, false, true⟩⟩) := by
  have erased : (stm32f1FlashClearEop controller).erase =
      ⟨fun i => if i < 8 then 0xffff else controller.halfWords i, ⟨false, false, true⟩⟩ := by
    rw [Controller.erase, stm32f1FlashClearEop, cleared_flags]
  rw [stm32f1OptionErase, erased, busyWait_ended]

/-- A half-word that is erased is programmed; another one stays, which is no error only for the first one. -/
theorem writeErased_spec (device : Device) (offset : Nat) {value : BitVec 16} (other : value ≠ 0xffff)
    (controller : Controller) :
    (controller.halfWords offset = 0xffff →
      (stm32f1OptionWriteErased device offset value false controller).1 = some true ∧
        (stm32f1OptionWriteErased device offset value false controller).2.halfWords =
          put controller.halfWords offset value) ∧
    (controller.halfWords offset ≠ 0xffff →
      (stm32f1OptionWriteErased device offset value false controller).1 = some (decide (offset = 0)) ∧
        (stm32f1OptionWriteErased device offset value false controller).2.halfWords = controller.halfWords) := by
  have cleared : stm32f1FlashClearEop controller = ⟨controller.halfWords, ⟨false, false, false⟩⟩ := by
    rw [stm32f1FlashClearEop, cleared_flags]
  constructor
  · intro free
    have written : (stm32f1FlashClearEop controller).program offset value =
        ⟨put controller.halfWords offset value, ⟨false, false, true⟩⟩ := by
      rw [cleared, Controller.program, if_pos free]
    simp only [stm32f1OptionWriteErased, if_neg other, Bool.false_eq_true, if_false, written, busyWait_ended, true_or,
      if_true, and_self]
  · intro programmed
    have written : (stm32f1FlashClearEop controller).program offset value =
        ⟨controller.halfWords, ⟨true, false, false⟩⟩ := by
      rw [cleared, Controller.program, if_neg programmed]
    simp only [stm32f1OptionWriteErased, if_neg other, Bool.false_eq_true, if_false, written, busyWait_failed, false_or]
    by_cases first : offset = 0
    · rw [if_neg (not_not.mpr first), decide_eq_true first]
      exact ⟨rfl, rfl⟩
    · rw [if_pos first, decide_eq_false first]
      exact ⟨rfl, rfl⟩

/-- Programming some half-words succeeds where all but the first one are erased or not to be programmed. -/
theorem writeOptions_spec (device : Device) (optVal : Nat → BitVec 16) {list : List Nat} (distinct : list.Nodup)
    (controller : Controller) :
    ((writeOptions device optVal false list controller).1 = some true ↔
      ∀ i ∈ list, i ≠ 0 → optVal i = 0xffff ∨ controller.halfWords i = 0xffff) ∧
    ((writeOptions device optVal false list controller).1 = some true → ∀ i,
      (writeOptions device optVal false list controller).2.halfWords i =
        if i ∈ list ∧ controller.halfWords i = 0xffff then optVal i else controller.halfWords i) := by
  induction list generalizing controller with
  | nil =>
    refine ⟨⟨fun _ i never => absurd never List.not_mem_nil, fun _ => rfl⟩, fun _ i => ?_⟩
    rw [if_neg fun never => List.not_mem_nil never.1]
    rfl
  | cons offset rest ih =>
    obtain ⟨fresh, later⟩ := List.nodup_cons.mp distinct
    have step : ∃ done after, stm32f1OptionWriteErased device offset (optVal offset) false controller = (some done, after) ∧
        (done = true ↔ offset ≠ 0 → optVal offset = 0xffff ∨ controller.halfWords offset = 0xffff) ∧
        after.halfWords = if controller.halfWords offset = 0xffff then put controller.halfWords offset (optVal offset)
          else controller.halfWords := by
      by_cases blank : optVal offset = 0xffff
      · refine ⟨true, controller, by rw [stm32f1OptionWriteErased, if_pos blank], by simp [blank], ?_⟩
        split
        next free =>
          funext i
          rw [put]
          split
          next here => rw [here, free, blank]
          · rfl
        · rfl
      · obtain ⟨free, programmed⟩ := writeErased_spec device offset blank controller
        by_cases erased : controller.halfWords offset = 0xffff
        · obtain ⟨result, halfWords⟩ := free erased
          exact ⟨true, _, Prod.ext result rfl, by simp [erased], by rw [if_pos erased, halfWords]⟩
        · obtain ⟨result, halfWords⟩ := programmed erased
          refine ⟨_, _, Prod.ext result rfl, ?_, by rw [if_neg erased, halfWords]⟩
          exact ⟨fun first other => absurd (of_decide_eq_true first) other,
            fun all => decide_eq_true (by_contra fun other => (all other).elim blank erased)⟩
    obtain ⟨done, after, written, ends, halfWords⟩ := step
    obtain ⟨result, content⟩ := ih later after
    have elsewhere {i : Nat} (other : i ≠ offset) : after.halfWords i = controller.halfWords i := by
      rw [halfWords]
      split
      · exact if_neg other
      · rfl
    rw [writeOptions, written]
    cases done with
    | false =>
      refine ⟨⟨(fun never => by cases never), fun all => ?_⟩, (fun never => by cases never)⟩
      cases ends.mpr (all offset List.mem_cons_self)
    | true =>
      have others : (∀ i ∈ rest, i ≠ 0 → optVal i = 0xffff ∨ after.halfWords i = 0xffff) ↔
          ∀ i ∈ rest, i ≠ 0 → optVal i = 0xffff ∨ controller.halfWords i = 0xffff := by
        refine forall₂_congr fun i listed => ?_
        rw [elsewhere fun same => fresh (same ▸ listed)]
      refine ⟨?_, fun succeeded i => ?_⟩
      · rw [result, others, List.forall_mem_cons]
        exact ⟨fun rest => ⟨ends.mp rfl, rest⟩, fun all => all.2⟩
      · rw [content succeeded i]
        by_cases here : i = offset
        · subst here
          rw [if_neg fun listed => fresh listed.1, halfWords]
          by_cases free : controller.halfWords i = 0xffff
          · rw [if_pos free, if_pos ⟨List.mem_cons_self, free⟩]
            exact if_pos rfl
          · rw [if_neg free, if_neg fun both => free both.2]
        · rw [elsewhere here]
          simp only [List.mem_cons, here, false_or]

theorem readOptions_eq (halfWords : Nat → BitVec 16) {k : Nat} (inside : k < 8) : readOptions halfWords k = halfWords k := by
  have low (first second : BitVec 16) : (first.setWidth 32 ||| second.setWidth 32 <<< 16).setWidth 16 = first := by
    apply BitVec.eq_of_getLsbD_eq
    intro i bit
    simp [bit]
  have high (first second : BitVec 16) :
      ((first.setWidth 32 ||| second.setWidth 32 <<< 16) >>> 16).setWidth 16 = second := by
    apply BitVec.eq_of_getLsbD_eq
    intro i bit
    have upper : 16 + i < 32 := by omega
    have whole : i < 32 := by omega
    simp [bit, upper, whole]
  simp only [readOptions, List.foldl_cons, List.foldl_nil, put, read32, low, high]
  interval_cases k <;> rfl

/-- An update succeeds, and changes the half-word at an index only. -/
structure Changes (before : Nat → BitVec 16) (index : Nat) (value : BitVec 16) (update : Option Bool × Controller) : Prop where
  succeeds : update.1 = some true
  value : update.2.halfWords index = value
  others : ∀ i < 8, i ≠ index → update.2.halfWords i = before i

/-- An update changes one half-word unless it programs another one than the first again: where it was erased already, and
others are programmed. -/
theorem option_changes_iff (device : Device) {partId : Nat} {cpuid : BitVec 32} (working : write16Broken partId cpuid = false)
    {offset : Nat} (inside : offset < 16) (value : BitVec 16) (controller : Controller) :
    Changes controller.halfWords (offset / 2) value
        (stm32f1OptionWrite device partId cpuid (flashObpRdp + offset) value controller) ↔
      controller.halfWords (offset / 2) = value ∨ controller.halfWords (offset / 2) ≠ 0xffff ∨
        ∀ i < 8, i ≠ 0 → i ≠ offset / 2 → controller.halfWords i = 0xffff := by
  have base : flashObpRdp = 0x1ffff800 := rfl
  have place : sub32 (flashObpRdp + offset) flashObpRdp / 2 = offset / 2 := by
    rw [sub32_of_le (by omega) (by omega), Nat.add_sub_cancel_left]
  have index : offset / 2 < 8 := by omega
  rw [stm32f1OptionWrite, place, working]
  generalize offset / 2 = k at index ⊢
  have old := readOptions_eq controller.halfWords index
  have programmed := @writeOptions_spec device (put (readOptions controller.halfWords) k value) (List.range 8)
    List.nodup_range
  have values {i : Nat} (listed : i < 8) : put (readOptions controller.halfWords) k value i =
      put controller.halfWords k value i := by
    rw [put, put, readOptions_eq _ listed]
  dsimp only
  rw [if_neg (by omega), old]
  by_cases same : controller.halfWords k = value
  · rw [if_pos same]
    exact ⟨fun _ => .inl same, fun _ => ⟨rfl, same, fun _ _ _ => rfl⟩⟩
  rw [if_neg same]
  by_cases free : controller.halfWords k = 0xffff
  · rw [if_neg (not_not.mpr free)]
    obtain ⟨result, content⟩ := programmed controller
    have condition : (∀ i ∈ List.range 8, i ≠ 0 →
        put (readOptions controller.halfWords) k value i = 0xffff ∨ controller.halfWords i = 0xffff) ↔
        ∀ i < 8, i ≠ 0 → i ≠ k → controller.halfWords i = 0xffff := by
      constructor
      · intro all i listed first other
        have blank := all i (List.mem_range.mpr listed) first
        rw [values listed, put, if_neg other, or_self] at blank
        exact blank
      · intro all i listed first
        by_cases here : i = k
        · exact .inr (here ▸ free)
        · exact .inr (all i (List.mem_range.mp listed) first here)
    rw [condition] at result
    constructor
    · intro changes
      exact .inr (.inr (result.mp changes.succeeds))
    · intro right
      have blank := (right.resolve_left same).resolve_left (not_not.mpr free)
      have succeeded := result.mpr blank
      refine ⟨succeeded, ?_, fun i listed other => ?_⟩
      · rw [content succeeded, if_pos ⟨List.mem_range.mpr index, free⟩]
        exact if_pos rfl
      · rw [content succeeded, values listed, put, if_neg other, ite_self]
  · rw [if_pos free, erase_spec]
    dsimp only
    obtain ⟨result, content⟩ := programmed
      ⟨fun i => if i < 8 then 0xffff else controller.halfWords i, ⟨false, false, true⟩⟩
    have succeeded := result.mpr fun i listed _ => .inr (if_pos (List.mem_range.mp listed))
    refine ⟨fun _ => .inr (.inl free), fun _ => ⟨succeeded, ?_, fun i listed other => ?_⟩⟩
    · rw [content succeeded, if_pos ⟨List.mem_range.mpr index, if_pos index⟩]
      exact if_pos rfl
    · rw [content succeeded, if_pos ⟨List.mem_range.mpr listed, if_pos listed⟩, values listed, put, if_neg other]

/-- A device whose operations take no time. -/
def prompt : Device := ⟨fun _ => 0, fun controller _ _ => controller⟩

/-- The option bytes of a part whose user options are programmed, and whose data bytes are erased. -/
def userOptions : Controller := ⟨fun i => if i = 0 then 0x5aa5 else if i = 1 then 0x00ff else 0xffff, ⟨false, false, false⟩⟩

theorem data_byte_changed :
    Changes userOptions.halfWords (2 / 2) 0x04fb
        (stm32f1OptionWrite prompt 0x410 0xc230 (flashObpRdp + 2) 0x04fb userOptions) ↔
      userOptions.halfWords (2 / 2) = 0x04fb ∨ userOptions.halfWords (2 / 2) ≠ 0xffff ∨
        ∀ i < 8, i ≠ 0 → i ≠ 2 / 2 → userOptions.halfWords i = 0xffff :=
  option_changes_iff prompt (by decide) (by decide) 0x04fb userOptions

/-- A data byte that is erased: the update gives up at the user options, and the data byte stays erased. -/
theorem data_byte_unchanged :
    (stm32f1OptionWrite prompt 0x410 0xc230 (flashObpRdp + 4) 0x04fb userOptions).1 = some false ∧
      (stm32f1OptionWrite prompt 0x410 0xc230 (flashObpRdp + 4) 0x04fb userOptions).2.halfWords 2 = 0xffff ∧
      ¬ Changes userOptions.halfWords 2 0x04fb
        (stm32f1OptionWrite prompt 0x410 0xc230 (flashObpRdp + 4) 0x04fb userOptions) := by
  have result : (stm32f1OptionWrite prompt 0x410 0xc230 (flashObpRdp + 4) 0x04fb userOptions).1 = some false := by
    decide +kernel
  refine ⟨result, by decide +kernel, fun changes => ?_⟩
  cases result.symm.trans changes.succeeds

end BlackMagic.Proofs.OptionUpdates

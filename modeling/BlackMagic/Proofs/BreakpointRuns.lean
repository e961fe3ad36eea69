import BlackMagic.Breakpoints

/-! What every run of attaches, detaches, sets and clears keeps: each list entry owns a
slot of its unit, the masks hold the owned slots, and the comparators follow while the
target is attached. -/

namespace BlackMagic.Proofs.BreakpointRuns
open BlackMagic.Breakpoints Lib.Slots

/-- The comparators of the flash patch unit or of the watchpoint unit. -/
inductive Bank where
  | breakpoints
  | watchpoints
  deriving DecidableEq

/-- The bank that a type takes its slots from. -/
def bankOf : TargetBreakwatch → Option Bank
  | .breakHard => some .breakpoints
  | .watchWrite => some .watchpoints
  | .watchRead => some .watchpoints
  | .watchAccess => some .watchpoints
  | _ => none

def mask (priv : CortexmPriv) : Bank → BitVec 8
  | .breakpoints => priv.breakpointsMask
  | .watchpoints => priv.watchpointsMask

def available (priv : CortexmPriv) : Bank → Nat
  | .breakpoints => priv.breakpointsAvailable
  | .watchpoints => priv.watchpointsAvailable

/-- The slots of a bank that list entries own. -/
def ownedSlots (bank : Bank) (bwList : List Breakwatch) : List Nat :=
  (bwList.filter fun bw => bankOf bw.type = some bank).map Breakwatch.reserved

/-- The registers of a comparator. -/
def comparator (memory : Nat → BitVec 32) (i : Nat) : Bank → List (BitVec 32)
  | .breakpoints => [memory (cortexmFpbComp i)]
  | .watchpoints => [memory (cortexmDwtComp i), memory (cortexmDwtMask i), memory (cortexmDwtFunc i)]

/-- What the comparator of an entry is programmed to. -/
def encoding (target : Target) (bw : Breakwatch) : Bank → List (BitVec 32)
  | .breakpoints => [breakValue target.priv.flashPatchRevision bw.addr]
  | .watchpoints => [bw.addr, dwtMask bw.size, dwtFunc target.flavourV6m bw.type]

/-- The register that turns a comparator on. -/
def control (i : Nat) : Bank → Nat
  | .breakpoints => cortexmFpbComp i
  | .watchpoints => cortexmDwtFunc i

/-- The list, the masks and the comparators agree. -/
structure Bookkept (target : Target) : Prop where
  distinct : ∀ bank, (ownedSlots bank target.bwList).Nodup
  bits : ∀ bank i, (mask target.priv bank).getLsbD i = true ↔ i ∈ ownedSlots bank target.bwList
  programmed : target.attached = true → ∀ bw ∈ target.bwList, ∀ bank, bankOf bw.type = some bank →
    comparator target.memory bw.reserved bank = encoding target bw bank
  disabled : target.attached = true → ∀ bank, ∀ i < available target.priv bank, i ∉ ownedSlots bank target.bwList →
    target.memory (control i bank) = 0#32

/-- The inductive form: the slots in use are moreover available, and every entry has a
bank. -/
structure Valid (target : Target) : Prop where
  tracked : ∀ bank, Tracks (mask target.priv bank) (available target.priv bank) (ownedSlots bank target.bwList)
  housed : ∀ bw ∈ target.bwList, ∃ bank, bankOf bw.type = some bank
  programmed : target.attached = true → ∀ bw ∈ target.bwList, ∀ bank, bankOf bw.type = some bank →
    comparator target.memory bw.reserved bank = encoding target bw bank
  disabled : target.attached = true → ∀ bank, ∀ i < available target.priv bank, i ∉ ownedSlots bank target.bwList →
    target.memory (control i bank) = 0#32

theorem Valid.bookkept {target : Target} (valid : Valid target) : Bookkept target :=
  ⟨fun bank => (valid.tracked bank).distinct, fun bank => (valid.tracked bank).bits, valid.programmed, valid.disabled⟩

theorem Valid.initial {target : Target} (fresh : Fresh target) : Valid target := by
  constructor
  · intro bank
    have none : ownedSlots bank target.bwList = [] := by simp [ownedSlots, fresh.bwList]
    rw [none]
    cases bank with
    | breakpoints =>
      simp only [mask, available, fresh.breakpointsMask, fresh.breakpointsAvailable]
      exact .none (by decide)
    | watchpoints =>
      simp only [mask, available, fresh.watchpointsMask, fresh.watchpointsAvailable]
      exact .none (by decide)
  · intro bw listed
    rw [fresh.bwList] at listed
    cases listed
  · intro attached
    rw [fresh.attached] at attached
    cases attached
  · intro attached
    rw [fresh.attached] at attached
    cases attached

section Registers

@[simp] theorem write_priv (target : Target) (addr : Nat) (value : BitVec 32) :
    (targetMemWrite32 target addr value).priv = target.priv := rfl

@[simp] theorem write_bwList (target : Target) (addr : Nat) (value : BitVec 32) :
    (targetMemWrite32 target addr value).bwList = target.bwList := rfl

theorem write_other {target : Target} {addr a : Nat} {value : BitVec 32} (other : a ≠ addr) :
    (targetMemWrite32 target addr value).memory a = target.memory a := by
  rw [targetMemWrite32]
  exact if_neg other

theorem write_here (target : Target) (addr : Nat) (value : BitVec 32) :
    (targetMemWrite32 target addr value).memory addr = value := by
  rw [targetMemWrite32]
  exact if_pos rfl

theorem clearSlots_frame (register : Nat → Nat) (more i : Nat) (target : Target) :
    (clearSlots register more i target).priv = target.priv ∧
      (clearSlots register more i target).bwList = target.bwList ∧
      (clearSlots register more i target).attached = target.attached ∧
      (clearSlots register more i target).flavourV6m = target.flavourV6m ∧
      (clearSlots register more i target).apCortexmDemcr = target.apCortexmDemcr := by
  induction more generalizing i target with
  | zero => exact ⟨rfl, rfl, rfl, rfl, rfl⟩
  | succ more ih => exact ih (i + 1) (targetMemWrite32 target (register i) 0#32)

/-- A register reads zero once its slot is cleared, and what reads zero stays so. -/
theorem clearSlots_zero (register : Nat → Nat) (more i : Nat) (target : Target) {a : Nat}
    (zero : target.memory a = 0#32 ∨ ∃ j, i ≤ j ∧ j < i + more ∧ a = register j) :
    (clearSlots register more i target).memory a = 0#32 := by
  induction more generalizing i target with
  | zero =>
    cases zero with
    | inl zero => exact zero
    | inr slot =>
      obtain ⟨j, low, high, -⟩ := slot
      omega
  | succ more ih =>
    apply ih (i + 1)
    by_cases here : a = register i
    · left
      simp [targetMemWrite32, here]
    · cases zero with
      | inl zero =>
        left
        simp [targetMemWrite32, here, zero]
      | inr slot =>
        obtain ⟨j, low, high, rfl⟩ := slot
        have other : j ≠ i := fun same => here (by rw [same])
        exact .inr ⟨j, by omega, by omega, rfl⟩

end Registers

/-- No slot is in use, and each available one is off. -/
structure Cleared (target : Target) : Prop where
  masks : ∀ bank, mask target.priv bank = 0#8
  fits : ∀ bank, available target.priv bank ≤ 8
  disabled : ∀ bank, ∀ i < available target.priv bank, target.memory (control i bank) = 0#32

theorem cortexmAttach_clears (flashBreakCfg watchpoints : BitVec 32) (statuses : List (BitVec 32)) (target : Target) :
    Cleared (cortexmAttach flashBreakCfg watchpoints statuses target).2 ∧
      (cortexmAttach flashBreakCfg watchpoints statuses target).2.bwList = target.bwList := by
  rw [cortexmAttach]
  dsimp only
  generalize prepared : ({ targetMemWrite32 _ _ _ with priv := _ } : Target) = start
  have list : start.bwList = target.bwList := by rw [← prepared]; rfl
  have breakMask : start.priv.breakpointsMask = 0#8 := by rw [← prepared]
  have watchMask : start.priv.watchpointsMask = 0#8 := by rw [← prepared]
  have breakFits : start.priv.breakpointsAvailable ≤ 8 := by rw [← prepared]; exact Nat.min_le_right _ _
  have watchFits : start.priv.watchpointsAvailable ≤ 8 := by rw [← prepared]; exact Nat.min_le_right _ _
  have breakCount : min ((flashBreakCfg >>> 4) &&& 0xf#32).toNat 8 = start.priv.breakpointsAvailable := by
    rw [← prepared]
  have watchCount : min (watchpoints >>> 28).toNat 8 = start.priv.watchpointsAvailable := by rw [← prepared]
  rw [breakCount, watchCount]
  have first := clearSlots_frame cortexmFpbComp start.priv.breakpointsAvailable 0 start
  have zeroed := fun i (below : i < start.priv.breakpointsAvailable) =>
    clearSlots_zero cortexmFpbComp start.priv.breakpointsAvailable 0 start (a := cortexmFpbComp i)
      (.inr ⟨i, Nat.zero_le i, by omega, rfl⟩)
  generalize clearSlots cortexmFpbComp start.priv.breakpointsAvailable 0 start = middle at *
  have second := clearSlots_frame cortexmDwtFunc start.priv.watchpointsAvailable 0 middle
  refine ⟨⟨?_, ?_, ?_⟩, ?_⟩
  · intro bank
    rw [write_priv, second.1, first.1]
    cases bank with
    | breakpoints => exact breakMask
    | watchpoints => exact watchMask
  · intro bank
    rw [write_priv, second.1, first.1]
    cases bank with
    | breakpoints => exact breakFits
    | watchpoints => exact watchFits
  · intro bank i below
    rw [write_priv, second.1, first.1] at below
    cases bank with
    | breakpoints =>
      rw [write_other (by simp only [control, cortexmFpbComp, cortexmFpbCtrl]; omega)]
      exact clearSlots_zero _ _ _ _ (.inl (zeroed i below))
    | watchpoints =>
      have small : i < 8 := Nat.lt_of_lt_of_le below watchFits
      rw [write_other (by simp only [control, cortexmDwtFunc, cortexmFpbCtrl]; omega)]
      exact clearSlots_zero _ _ _ _ (.inr ⟨i, Nat.zero_le i, by simpa [available] using below, rfl⟩)
  · rw [write_bwList, second.2.1, first.2.1, list]

/-- Attaching a target without entries. -/
theorem attach_preserves {target : Target} (empty : target.bwList = []) (flashBreakCfg watchpoints : BitVec 32)
    (statuses : List (BitVec 32)) : Valid (targetAttach flashBreakCfg watchpoints statuses target) := by
  obtain ⟨cleared, list⟩ := cortexmAttach_clears flashBreakCfg watchpoints statuses target
  rw [empty] at list
  rw [targetAttach]
  generalize cortexmAttach flashBreakCfg watchpoints statuses target = out at *
  obtain ⟨succeeded, after⟩ := out
  dsimp only at *
  have valid : ∀ attached, Valid { after with attached := attached } := by
    intro attached
    constructor
    · intro bank
      have none : ownedSlots bank after.bwList = [] := by simp [ownedSlots, list]
      rw [none, cleared.masks bank]
      exact .none (cleared.fits bank)
    · intro bw listed
      rw [list] at listed
      cases listed
    · intro _ bw listed
      rw [list] at listed
      cases listed
    · intro _ bank i below _
      exact cleared.disabled bank i below
  split
  next => exact valid after.attached
  next => exact valid true

/-- One slot of a bank changed hands; all else but its mask bit and its comparator is as
before. -/
structure Changed (bank : Bank) (i : Nat) (before after : Target) : Prop where
  bwList : after.bwList = before.bwList
  attached : after.attached = before.attached
  flavourV6m : after.flavourV6m = before.flavourV6m
  revision : after.priv.flashPatchRevision = before.priv.flashPatchRevision
  available : ∀ other, available after.priv other = available before.priv other
  mask : ∀ other ≠ bank, mask after.priv other = mask before.priv other
  comparator : ∀ other, ∀ j < 8, other ≠ bank ∨ j ≠ i → comparator after.memory j other = comparator before.memory j other
  control : ∀ other, ∀ j < 8, other ≠ bank ∨ j ≠ i →
    after.memory (control j other) = before.memory (control j other)

theorem Changed.encoding {bank : Bank} {i : Nat} {before after : Target} (changed : Changed bank i before after)
    (bw : Breakwatch) (other : Bank) : encoding after bw other = encoding before bw other := by
  cases other with
  | breakpoints => simp only [BreakpointRuns.encoding, changed.revision]
  | watchpoints => simp only [BreakpointRuns.encoding, changed.flavourV6m]

private theorem breakpoint_changed (before : Target) (bits : BitVec 8) {i : Nat} (small : i < 8) (value : BitVec 32) :
    Changed .breakpoints i before
      (targetMemWrite32 { before with priv.breakpointsMask := bits } (cortexmFpbComp i) value) := by
  refine ⟨rfl, rfl, rfl, rfl, fun other => ?_, fun other apart => ?_, fun other j below apart => ?_,
    fun other j below apart => ?_⟩
  · cases other <;> rfl
  · cases other with
    | breakpoints => exact absurd rfl apart
    | watchpoints => rfl
  · cases other with
    | breakpoints =>
      have different : j ≠ i := by simpa using apart
      simp only [comparator]
      rw [write_other (by simp only [cortexmFpbComp]; omega)]
    | watchpoints =>
      simp only [comparator]
      rw [write_other (by simp only [cortexmDwtComp, cortexmFpbComp]; omega),
        write_other (by simp only [cortexmDwtMask, cortexmFpbComp]; omega),
        write_other (by simp only [cortexmDwtFunc, cortexmFpbComp]; omega)]
  · cases other with
    | breakpoints =>
      have different : j ≠ i := by simpa using apart
      exact write_other (by simp only [control, cortexmFpbComp]; omega)
    | watchpoints => exact write_other (by simp only [control, cortexmDwtFunc, cortexmFpbComp]; omega)

/-- Writes inside the registers of one watchpoint. -/
private theorem watchpoint_changed (before : Target) (bits : BitVec 8) {i : Nat} (small : i < 8)
    {content : Nat → BitVec 32}
    (frame : ∀ a, a ≠ cortexmDwtComp i → a ≠ cortexmDwtMask i → a ≠ cortexmDwtFunc i → content a = before.memory a) :
    Changed .watchpoints i before { before with priv.watchpointsMask := bits, memory := content } := by
  refine ⟨rfl, rfl, rfl, rfl, fun other => ?_, fun other apart => ?_, fun other j below apart => ?_,
    fun other j below apart => ?_⟩
  · cases other <;> rfl
  · cases other with
    | breakpoints => rfl
    | watchpoints => exact absurd rfl apart
  · cases other with
    | breakpoints =>
      simp only [comparator]
      rw [frame] <;> simp only [cortexmFpbComp, cortexmDwtComp, cortexmDwtMask, cortexmDwtFunc] <;> omega
    | watchpoints =>
      have different : j ≠ i := by simpa using apart
      simp only [comparator]
      rw [frame (cortexmDwtComp j), frame (cortexmDwtMask j), frame (cortexmDwtFunc j)]
      all_goals
        simp only [cortexmDwtComp, cortexmDwtMask, cortexmDwtFunc]
        omega
  · cases other with
    | breakpoints =>
      apply frame <;> simp only [control, cortexmFpbComp, cortexmDwtComp, cortexmDwtMask, cortexmDwtFunc] <;> omega
    | watchpoints =>
      have different : j ≠ i := by simpa using apart
      apply frame <;> simp only [control, cortexmDwtComp, cortexmDwtMask, cortexmDwtFunc] <;> omega

def freeSlot (target : Target) (bank : Bank) : Nat := firstFree (mask target.priv bank) (available target.priv bank)

/-- An entry got the first free slot of a bank. -/
structure Taken (bank : Bank) (bw placed : Breakwatch) (before after : Target) : Prop where
  free : freeSlot before bank ≠ available before.priv bank
  placed : placed = { bw with reserved := freeSlot before bank }
  changed : Changed bank (freeSlot before bank) before after
  mask : mask after.priv bank = take (mask before.priv bank) (freeSlot before bank)
  comparator : comparator after.memory (freeSlot before bank) bank = encoding before bw bank

private theorem watchpointSet_spec (bw : Breakwatch) {before : Target} (fits : before.priv.watchpointsAvailable ≤ 8)
    {ret : Int} {placed : Breakwatch} {after : Target} (running : watchpointSet bw before = (ret, placed, after)) :
    (ret ≠ 0 ∧ after = before ∧ freeSlot before .watchpoints = available before.priv .watchpoints) ∨
      (ret = 0 ∧ Taken .watchpoints bw placed before after) := by
  have below := firstFree_le before.priv.watchpointsMask before.priv.watchpointsAvailable
  rw [watchpointSet] at running
  split at running
  next full =>
    cases running
    exact .inl ⟨by decide, rfl, full⟩
  next found =>
    generalize slot : firstFree before.priv.watchpointsMask before.priv.watchpointsAvailable = i at *
    have same : freeSlot before .watchpoints = i := slot
    cases running
    refine .inr ⟨rfl, same ▸ found, by rw [same], ?_, by rw [same]; rfl, ?_⟩
    · rw [same]
      refine watchpoint_changed before _ (by omega) ?_
      intro a one two three
      rw [if_neg three, write_other two, write_other one]
    · rw [same]
      simp only [comparator, encoding]
      rw [write_here, write_other (by simp [cortexmDwtComp, cortexmDwtFunc]),
        write_other (by simp [cortexmDwtComp, cortexmDwtMask]), write_here,
        write_other (by simp [cortexmDwtMask, cortexmDwtFunc]), write_here]
      rfl

/-- A slot is free for the type. -/
def HasSlot (target : Target) (type : TargetBreakwatch) : Prop :=
  ∃ bank, bankOf type = some bank ∧ freeSlot target bank ≠ available target.priv bank

private theorem no_slot {target : Target} {type : TargetBreakwatch} {bank : Bank} (housed : bankOf type = some bank)
    (full : freeSlot target bank = available target.priv bank) : ¬ HasSlot target type := by
  intro free
  obtain ⟨other, otherHoused, found⟩ := free
  obtain rfl : bank = other := Option.some.inj (housed.symm.trans otherHoused)
  exact found full

/-- What `cortexm_breakwatch_set` does: nothing, or it takes the first free slot. -/
theorem cortexmBreakwatchSet_spec (bw : Breakwatch) {before : Target} (fits : ∀ bank, available before.priv bank ≤ 8)
    {ret : Int} {placed : Breakwatch} {after : Target} (running : cortexmBreakwatchSet bw before = (ret, placed, after)) :
    (ret ≠ 0 ∧ after = before ∧ ¬ HasSlot before bw.type) ∨
      (ret = 0 ∧ ∃ bank, bankOf bw.type = some bank ∧ Taken bank bw placed before after) := by
  have watch : bankOf bw.type = some .watchpoints → watchpointSet bw before = (ret, placed, after) →
      (ret ≠ 0 ∧ after = before ∧ ¬ HasSlot before bw.type) ∨
        (ret = 0 ∧ ∃ bank, bankOf bw.type = some bank ∧ Taken bank bw placed before after) := by
    intro housed running
    cases watchpointSet_spec bw (fits .watchpoints) running with
    | inl refused => exact .inl ⟨refused.1, refused.2.1, no_slot housed refused.2.2⟩
    | inr accepted => exact .inr ⟨accepted.1, _, housed, accepted.2⟩
  obtain ⟨type, addr, size, reserved⟩ := bw
  cases type with
  | breakHard =>
    have below := firstFree_le before.priv.breakpointsMask before.priv.breakpointsAvailable
    have small : before.priv.breakpointsAvailable ≤ 8 := fits .breakpoints
    rw [cortexmBreakwatchSet] at running
    dsimp only at running
    split at running
    next full =>
      cases running
      exact .inl ⟨by decide, rfl, no_slot (show bankOf .breakHard = some .breakpoints from rfl) full⟩
    next found =>
      generalize slot : firstFree before.priv.breakpointsMask before.priv.breakpointsAvailable = i at *
      have same : freeSlot before .breakpoints = i := slot
      cases running
      refine .inr ⟨rfl, .breakpoints, rfl, same ▸ found, by rw [same], ?_, by rw [same]; rfl, ?_⟩
      · rw [same]
        exact breakpoint_changed before _ (by omega) _
      · rw [same]
        exact congrArg (fun value => [value]) (write_here _ _ _)
  | watchWrite => exact watch rfl running
  | watchRead => exact watch rfl running
  | watchAccess => exact watch rfl running
  | breakSoft =>
    cases running
    exact .inl ⟨by decide, rfl, fun free => by simp [HasSlot, bankOf] at free⟩
  | other value =>
    cases running
    exact .inl ⟨by decide, rfl, fun free => by simp [HasSlot, bankOf] at free⟩

/-- What `cortexm_breakwatch_clear` does with an entry that has a bank. -/
theorem cortexmBreakwatchClear_spec {bw : Breakwatch} {bank : Bank} (housed : bankOf bw.type = some bank)
    (small : bw.reserved < 8) {before : Target} {ret : Int} {after : Target}
    (running : cortexmBreakwatchClear bw before = (ret, after)) :
    ret = 0 ∧ Changed bank bw.reserved before after ∧
      mask after.priv bank = release (mask before.priv bank) bw.reserved ∧
      after.memory (control bw.reserved bank) = 0#32 := by
  have watch : bank = .watchpoints → watchpointClear bw.reserved before = (ret, after) →
      ret = 0 ∧ Changed bank bw.reserved before after ∧
        mask after.priv bank = release (mask before.priv bank) bw.reserved ∧
        after.memory (control bw.reserved bank) = 0#32 := by
    intro same running
    subst same
    cases running
    refine ⟨rfl, watchpoint_changed before _ small ?_, rfl, write_here _ _ _⟩
    intro a _ _ three
    exact write_other three
  obtain ⟨type, addr, size, reserved⟩ := bw
  cases type with
  | breakHard =>
    cases housed
    cases running
    exact ⟨rfl, breakpoint_changed before _ small _, rfl, write_here _ _ _⟩
  | watchWrite =>
    cases housed
    exact watch rfl running
  | watchRead =>
    cases housed
    exact watch rfl running
  | watchAccess =>
    cases housed
    exact watch rfl running
  | breakSoft => cases housed
  | other value => cases housed

theorem detach_preserves {target : Target} (valid : Valid target) : Valid (targetDetach target) := by
  rw [targetDetach, cortexmDetach]
  have first := clearSlots_frame cortexmFpbComp target.priv.breakpointsAvailable 0 target
  generalize clearSlots cortexmFpbComp target.priv.breakpointsAvailable 0 target = middle at *
  have second := clearSlots_frame cortexmDwtFunc middle.priv.watchpointsAvailable 0 middle
  have priv := second.1.trans first.1
  have list := second.2.1.trans first.2.1
  generalize clearSlots cortexmDwtFunc middle.priv.watchpointsAvailable 0 middle = last at *
  constructor
  · intro bank
    simp only [write_priv, write_bwList, priv, list]
    exact valid.tracked bank
  · simp only [write_bwList, list]
    exact valid.housed
  · intro attached
    cases attached
  · intro attached
    cases attached

section Slots

variable {bank other : Bank} {bw : Breakwatch}

theorem ownedSlots_cons (housed : bankOf bw.type = some bank) (list : List Breakwatch) (other : Bank) :
    ownedSlots other (bw :: list) = if other = bank then bw.reserved :: ownedSlots other list else ownedSlots other list := by
  simp only [ownedSlots, List.filter_cons, housed, Option.some.injEq, decide_eq_true_eq, eq_comm (a := bank)]
  split <;> rfl

theorem ownedSlots_append (first last : List Breakwatch) (other : Bank) :
    ownedSlots other (first ++ last) = ownedSlots other first ++ ownedSlots other last := by
  simp [ownedSlots]

theorem mem_ownedSlots {list : List Breakwatch} (listed : bw ∈ list) (housed : bankOf bw.type = some bank) :
    bw.reserved ∈ ownedSlots bank list :=
  List.mem_map_of_mem (List.mem_filter.mpr ⟨listed, by simpa using housed⟩)

end Slots

theorem Valid.small {target : Target} (valid : Valid target) {bank : Bank} {i : Nat}
    (owned : i ∈ ownedSlots bank target.bwList) : i < 8 :=
  Nat.lt_of_lt_of_le ((valid.tracked bank).inside i owned) (valid.tracked bank).fits

private theorem taken_preserves {bank : Bank} {bw placed : Breakwatch} {before after : Target} (valid : Valid before)
    (housed : bankOf bw.type = some bank) (taken : Taken bank bw placed before after) :
    Valid { after with bwList := placed :: after.bwList } := by
  obtain ⟨free, rfl, changed, bits, programmed⟩ := taken
  have placedHoused : bankOf ({ bw with reserved := freeSlot before bank } : Breakwatch).type = some bank := housed
  have newSlots := (valid.tracked bank).take free
  have unused : freeSlot before bank ∉ ownedSlots bank before.bwList := (List.nodup_cons.mp newSlots.distinct).1
  constructor
  · intro other
    dsimp only
    rw [ownedSlots_cons placedHoused, changed.bwList, changed.available]
    split
    next same =>
      subst same
      rw [bits]
      exact newSlots
    next apart =>
      rw [changed.mask other apart]
      exact valid.tracked other
  · intro entry listed
    cases listed with
    | head => exact ⟨bank, placedHoused⟩
    | tail _ listed => exact valid.housed entry (changed.bwList ▸ listed)
  · intro attached entry listed other entryHoused
    have encoded : ∀ entry, encoding { after with bwList := { bw with reserved := freeSlot before bank } :: after.bwList }
        entry other = encoding before entry other := fun entry => changed.encoding entry other
    rw [encoded]
    cases listed with
    | head =>
      obtain rfl : bank = other := Option.some.inj (housed.symm.trans entryHoused)
      exact programmed.trans (by cases bank <;> rfl)
    | tail _ listed =>
      rw [changed.bwList] at listed
      have owned := mem_ownedSlots listed entryHoused
      have apart : other ≠ bank ∨ entry.reserved ≠ freeSlot before bank := by
        by_cases same : other = bank
        · subst same
          exact .inr fun equal => unused (equal ▸ owned)
        · exact .inl same
      dsimp only
      rw [changed.comparator other _ (valid.small owned) apart]
      exact valid.programmed (changed.attached ▸ attached) entry listed other entryHoused
  · intro attached other i below unowned
    dsimp only at below unowned
    rw [ownedSlots_cons placedHoused, changed.bwList] at unowned
    rw [changed.available] at below
    have small : i < 8 := Nat.lt_of_lt_of_le below (valid.tracked other).fits
    have apart : other ≠ bank ∨ i ≠ freeSlot before bank := by
      by_cases same : other = bank
      · rw [if_pos same] at unowned
        exact .inr fun equal => unowned (equal ▸ List.mem_cons_self)
      · exact .inl same
    have earlier : i ∉ ownedSlots other before.bwList := by
      split at unowned
      next => exact fun owned => unowned (List.mem_cons_of_mem _ owned)
      next => exact unowned
    dsimp only
    rw [changed.control other i small apart]
    exact valid.disabled (changed.attached ▸ attached) other i below earlier

/-- What `target_breakwatch_set` leaves: the target as it was, one with the new entry, or,
when the heap is full, one with the slot taken and no entry. -/
theorem targetBreakwatchSet_cases {target : Target} (fits : ∀ bank, available target.priv bank ≤ 8)
    (type : TargetBreakwatch) (addr : BitVec 32) (len : Nat) (allocated : Bool) :
    ((targetBreakwatchSet type addr len allocated target).2 = target ∧ ¬ HasSlot target type) ∨
      ∃ bank placed after, bankOf type = some bank ∧ Taken bank ⟨type, addr, len, 0⟩ placed target after ∧
        (targetBreakwatchSet type addr len allocated target).2 =
          if allocated then { after with bwList := placed :: after.bwList } else after := by
  rw [targetBreakwatchSet]
  generalize running : cortexmBreakwatchSet ⟨type, addr, len, 0⟩ target = out
  obtain ⟨ret, placed, after⟩ := out
  cases cortexmBreakwatchSet_spec _ fits running with
  | inl refused =>
    left
    dsimp only
    rw [if_neg refused.1]
    exact refused.2
  | inr accepted =>
    obtain ⟨success, bank, housed, taken⟩ := accepted
    refine .inr ⟨bank, placed, after, housed, taken, ?_⟩
    dsimp only
    rw [if_pos success]
    cases allocated <;> rfl

theorem set_preserves {target : Target} (valid : Valid target) {type : TargetBreakwatch} (addr : BitVec 32) (len : Nat)
    {allocated : Bool} (room : HasSlot target type → allocated = true) :
    Valid (targetBreakwatchSet type addr len allocated target).2 := by
  cases targetBreakwatchSet_cases (fun bank => (valid.tracked bank).fits) type addr len allocated with
  | inl refused =>
    rw [refused.1]
    exact valid
  | inr accepted =>
    obtain ⟨bank, placed, after, housed, taken, result⟩ := accepted
    rw [result, room ⟨bank, housed, taken.free⟩, if_pos rfl]
    exact taken_preserves valid housed taken

private theorem cleared_preserves {bank : Bank} {bw : Breakwatch} {before after : Target} {first last : List Breakwatch}
    (valid : Valid before) (list : before.bwList = first ++ bw :: last) (housed : bankOf bw.type = some bank)
    (changed : Changed bank bw.reserved before after)
    (bits : mask after.priv bank = release (mask before.priv bank) bw.reserved)
    (off : after.memory (control bw.reserved bank) = 0#32) : Valid { after with bwList := first ++ last } := by
  have slots : ∀ other, ownedSlots other before.bwList = ownedSlots other first ++
      if other = bank then bw.reserved :: ownedSlots other last else ownedSlots other last := by
    intro other
    rw [list, ownedSlots_append, ownedSlots_cons housed]
  have kept : ∀ entry, entry ∈ first ++ last → entry ∈ before.bwList := by
    intro entry listed
    rw [list]
    rw [List.mem_append] at listed ⊢
    exact listed.imp_right (List.mem_cons_of_mem bw)
  have released : Tracks (mask after.priv bank) (available before.priv bank) (ownedSlots bank (first ++ last)) := by
    have tracked := valid.tracked bank
    rw [slots, if_pos rfl] at tracked
    rw [bits, ownedSlots_append]
    exact tracked.release
  have unused : bw.reserved ∉ ownedSlots bank (first ++ last) := by
    have distinct := (valid.tracked bank).distinct
    rw [slots, if_pos rfl] at distinct
    rw [ownedSlots_append]
    exact (List.nodup_cons.mp (List.nodup_middle.mp distinct)).1
  constructor
  · intro other
    rw [changed.available]
    by_cases same : other = bank
    · subst same
      exact released
    · have tracked := valid.tracked other
      rw [slots, if_neg same, ← ownedSlots_append] at tracked
      rw [changed.mask other same]
      exact tracked
  · exact fun entry listed => valid.housed entry (kept entry listed)
  · intro attached entry listed other entryHoused
    have owned := mem_ownedSlots (kept entry listed) entryHoused
    have apart : other ≠ bank ∨ entry.reserved ≠ bw.reserved := by
      by_cases same : other = bank
      · subst same
        exact .inr fun equal => unused (equal ▸ mem_ownedSlots listed entryHoused)
      · exact .inl same
    have encoded : encoding { after with bwList := first ++ last } entry other = encoding before entry other :=
      changed.encoding entry other
    rw [encoded]
    dsimp only
    rw [changed.comparator other _ (valid.small owned) apart]
    exact valid.programmed (changed.attached ▸ attached) entry (kept entry listed) other entryHoused
  · intro attached other i below unowned
    dsimp only at below unowned
    rw [changed.available] at below
    have small : i < 8 := Nat.lt_of_lt_of_le below (valid.tracked other).fits
    by_cases here : other = bank ∧ i = bw.reserved
    · obtain ⟨rfl, rfl⟩ := here
      exact off
    · dsimp only
      rw [changed.control other i small (by by_cases same : other = bank <;> simp_all)]
      refine valid.disabled (changed.attached ▸ attached) other i below ?_
      rw [slots]
      rw [ownedSlots_append] at unowned
      split
      next same =>
        intro owned
        rw [List.mem_append, List.mem_cons] at owned
        apply unowned
        rw [List.mem_append]
        exact owned.imp_right fun late => late.resolve_left fun equal => here ⟨same, equal⟩
      next => exact unowned

theorem clear_preserves {target : Target} (valid : Valid target) (type : TargetBreakwatch) (addr : BitVec 32)
    (len : Nat) : Valid (targetBreakwatchClear type addr len target).2 := by
  rw [targetBreakwatchClear]
  split
  next => exact valid
  next bw found =>
    obtain ⟨wanted, first, last, list, earlier⟩ := List.find?_eq_some_iff_append.mp found
    have listed : bw ∈ target.bwList := by
      rw [list]
      exact List.mem_append_right _ List.mem_cons_self
    obtain ⟨bank, housed⟩ := valid.housed bw listed
    generalize running : cortexmBreakwatchClear bw target = out
    obtain ⟨ret, after⟩ := out
    obtain ⟨success, changed, bits, off⟩ :=
      cortexmBreakwatchClear_spec housed (valid.small (mem_ownedSlots listed housed)) running
    dsimp only
    rw [if_pos success]
    have rest : after.bwList.eraseP (Breakwatch.isFor type addr len) = first ++ last := by
      rw [changed.bwList, list, List.eraseP_append_right _ (by simpa using earlier), List.eraseP_cons_of_pos wanted]
    dsimp only
    rw [rest]
    exact cleared_preserves valid list housed changed bits off

/-- An attach finds no entry, and a set that gets a slot also gets its memory. -/
def Careful (target : Target) : Operation → Prop
  | .attach _ _ _ => target.bwList = []
  | .set type _ _ allocated => HasSlot target type → allocated = true
  | _ => True

theorem step_preserves {target : Target} (valid : Valid target) {operation : Operation}
    (careful : Careful target operation) : Valid (step target operation) := by
  cases operation with
  | attach flashBreakCfg watchpoints statuses => exact attach_preserves careful flashBreakCfg watchpoints statuses
  | detach => exact detach_preserves valid
  | set type addr len allocated => exact set_preserves valid addr len careful
  | clear type addr len => exact clear_preserves valid type addr len

private theorem attach_forgets {target : Target} (valid : Valid target) (listed : target.bwList ≠ [])
    (flashBreakCfg watchpoints : BitVec 32) (statuses : List (BitVec 32)) :
    ¬ Bookkept (targetAttach flashBreakCfg watchpoints statuses target) := by
  intro kept
  obtain ⟨bw, member⟩ := List.exists_mem_of_ne_nil _ listed
  obtain ⟨bank, housed⟩ := valid.housed bw member
  obtain ⟨cleared, list⟩ := cortexmAttach_clears flashBreakCfg watchpoints statuses target
  have after : mask (targetAttach flashBreakCfg watchpoints statuses target).priv bank = 0#8 ∧
      (targetAttach flashBreakCfg watchpoints statuses target).bwList = target.bwList := by
    rw [targetAttach]
    dsimp only
    split
    next => exact ⟨cleared.masks bank, list⟩
    next => exact ⟨cleared.masks bank, list⟩
  have bit := (kept.bits bank bw.reserved).mpr (by rw [after.2]; exact mem_ownedSlots member housed)
  rw [after.1] at bit
  simp at bit

private theorem set_leaks {target : Target} (valid : Valid target) {type : TargetBreakwatch} (addr : BitVec 32)
    (len : Nat) (free : HasSlot target type) : ¬ Bookkept (targetBreakwatchSet type addr len false target).2 := by
  intro kept
  cases targetBreakwatchSet_cases (fun bank => (valid.tracked bank).fits) type addr len false with
  | inl refused => exact refused.2 free
  | inr accepted =>
    obtain ⟨bank, placed, after, housed, taken, result⟩ := accepted
    rw [result] at kept
    have slots := (valid.tracked bank).take taken.free
    have bit : (mask after.priv bank).getLsbD (freeSlot target bank) = true := by
      rw [taken.mask]
      exact (slots.bits _).mpr List.mem_cons_self
    have owned := (kept.bits bank _).mp bit
    rw [if_neg (by decide), taken.changed.bwList] at owned
    exact (List.nodup_cons.mp slots.distinct).1 owned

/-- A step keeps the books exactly if it is careful. -/
theorem step_bookkept_iff {target : Target} (valid : Valid target) (operation : Operation) :
    Bookkept (step target operation) ↔ Careful target operation := by
  refine ⟨fun kept => ?_, fun careful => (step_preserves valid careful).bookkept⟩
  cases operation with
  | attach flashBreakCfg watchpoints statuses =>
    by_contra listed
    exact attach_forgets valid listed flashBreakCfg watchpoints statuses kept
  | set type addr len allocated =>
    intro free
    cases allocated with
    | true => rfl
    | false => exact absurd kept (set_leaks valid addr len free)
  | detach => trivial
  | clear type addr len => trivial

def run (target : Target) (operations : List Operation) : Target := operations.foldl step target

/-- Every step of the run is careful. -/
def CarefulRun : Target → List Operation → Prop
  | _, [] => True
  | target, operation :: operations => Careful target operation ∧ CarefulRun (step target operation) operations

theorem run_bookkept_iff {target : Target} (valid : Valid target) (operations : List Operation) :
    (∀ n, Bookkept (run target (operations.take n))) ↔ CarefulRun target operations := by
  induction operations generalizing target with
  | nil => exact ⟨fun _ => trivial, fun _ n => by rw [List.take_nil]; exact valid.bookkept⟩
  | cons operation operations ih =>
    constructor
    · intro kept
      have careful : Careful target operation := (step_bookkept_iff valid operation).mp (kept 1)
      exact ⟨careful, (ih (step_preserves valid careful)).mp fun n => kept (n + 1)⟩
    · intro careful n
      cases n with
      | zero => exact valid.bookkept
      | succ n => exact (ih (step_preserves valid careful.1)).mpr careful.2 n

/-- The books of a fresh target are kept in every state of a run exactly if each attach
of the run finds no entry and each set that gets a slot gets its memory. -/
theorem breakwatch_runs_bookkept {target : Target} (fresh : Fresh target) (operations : List Operation) :
    (∀ n, Bookkept (run target (operations.take n))) ↔ CarefulRun target operations :=
  run_bookkept_iff (Valid.initial fresh) operations

/-- A target as the probe leaves it. -/
def probed : Target :=
  { attached := false, bwList := [], priv := ⟨0#8, 0#8, 0, 0, 0#32, 0x01000401#32⟩, flavourV6m := false
    apCortexmDemcr := 0#32, memory := fun _ => 0#32 }

theorem probed_fresh : Fresh probed := ⟨rfl, rfl, rfl, rfl, rfl, rfl⟩

/-- Six breakpoints and four watchpoints, out of reset. -/
def attachProbed : Operation := .attach 0x260#32 0x40000000#32 [0#32]

def breakAt (addr : BitVec 32) : Operation := .set .breakHard addr 2 true

/-- Entries cleared before the target is attached again. -/
theorem tidy_session_bookkept :
    Fresh probed ∧
      ∀ n, Bookkept (run probed ([attachProbed, breakAt 0x8000100#32, .set .watchWrite 0x20000000#32 4 true,
        .clear .breakHard 0x8000100#32 2, breakAt 0x8000200#32, .clear .watchWrite 0x20000000#32 4,
        .clear .breakHard 0x8000200#32 2, .detach, attachProbed].take n)) := by
  refine ⟨probed_fresh, ?_⟩
  rw [breakwatch_runs_bookkept probed_fresh]
  exact ⟨rfl, fun _ => rfl, fun _ => rfl, trivial, fun _ => rfl, trivial, trivial, trivial, rfl, trivial⟩

/-- Re-attached, a target keeps the entry but forgets its slot; and without memory for
the entry the slot is taken for nothing. -/
theorem reattached_entry_forgotten :
    ¬ Bookkept (run probed [attachProbed, breakAt 0x8000100#32, .detach, attachProbed]) ∧
      ¬ Bookkept (run probed [attachProbed, .set .breakHard 0x8000100#32 2 false]) := by
  constructor
  · intro kept
    have bit := (kept.bits .breakpoints 0).mpr (by decide)
    exact absurd bit (by decide)
  · intro kept
    have owned := (kept.bits .breakpoints 0).mp (by decide)
    exact absurd owned (by decide)

end BlackMagic.Proofs.BreakpointRuns

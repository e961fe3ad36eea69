import BlackMagic.Flash

/-! The write buffers of a target against the writes its drivers have received. A
byte that was given to the flash layer has been handed to its region's driver, or
stands in its region's buffer; and nothing else was handed or stands there but
filler. Each operation of the flash layer is described once, by what it does to
these buffers. -/

namespace BlackMagic.Proofs.FlashBuffer
open BlackMagic.Flash Lib.Words

variable {layout : Layout} {env : Environment}

/-- The data a call hands to a driver to program: region, address, bytes. -/
def handedBy : Call → Option (Nat × Nat × List Byte)
  | .write i dest _ data => some (i, dest, data)
  | _ => none

def writesOf (calls : List Call) : List (Nat × Nat × List Byte) := calls.filterMap handedBy

/-- The driver of region `i` was given the byte `v` for the address `a`. -/
def Delivered (calls : List Call) (i a : Nat) (v : Byte) : Prop :=
  ∃ dest data, (i, dest, data) ∈ writesOf calls ∧ dest ≤ a ∧ data[a - dest]? = some v

/-- A byte was handed to the driver of the region it belongs to. -/
def Handed (layout : Layout) (calls : List Call) (a : Nat) (v : Byte) : Prop :=
  ∃ i < layout.list.length, (layout.flash i).contains a = true ∧ Delivered calls i a v

/-- A byte stands in a buffer and is still to be written. -/
def Holding (state : FlashState) (a : Nat) (v : Byte) : Prop :=
  ∃ buf, state.buf = some buf ∧ state.bufAddrLow ≤ a ∧ a < state.bufAddrHigh ∧ buf (a - state.bufAddrBase) = v

def Pending (layout : Layout) (target : Target) (a : Nat) (v : Byte) : Prop :=
  ∃ i < layout.list.length, (layout.flash i).contains a = true ∧ Holding (target.state i) a v

/-- Nothing stands in the buffer. -/
def Clean (state : FlashState) : Prop :=
  state.buf = none ∨ state.bufAddrBase = uint32Max ∧ state.bufAddrLow = uint32Max ∧ state.bufAddrHigh = 0

/-- The buffer holds a part of one block of its region, and filler around it. -/
structure Active (flash : TargetFlash) (state : FlashState) (buf : Buffer) : Prop where
  block : flash.writebufsize ∣ state.bufAddrBase
  above : state.bufAddrBase ≤ state.bufAddrLow
  nonempty : state.bufAddrLow < state.bufAddrHigh
  below : state.bufAddrHigh ≤ state.bufAddrBase + flash.writebufsize
  start : flash.start ≤ state.bufAddrLow
  finish : state.bufAddrHigh ≤ flash.start + flash.length
  filler : ∀ a, state.bufAddrBase ≤ a → a < state.bufAddrBase + flash.writebufsize →
    ¬ (state.bufAddrLow ≤ a ∧ a < state.bufAddrHigh) → buf (a - state.bufAddrBase) = flash.erased

inductive Sound (flash : TargetFlash) (state : FlashState) : Prop where
  | clean (empty : Clean state)
  | active (buf : Buffer) (allocated : state.buf = some buf) (block : Active flash state buf)

/-- The buffers and the drivers together account for the bytes written so far, and
hold nothing else but filler. -/
structure Faithful (layout : Layout) (Written : Nat → Byte → Prop) (target : Target) : Prop where
  fault : target.fault = false
  sound : ∀ i < layout.list.length, Sound (layout.flash i) (target.state i)
  complete : ∀ a v, Written a v → Handed layout target.calls a v ∨ Pending layout target a v
  delivered : ∀ i a v, Delivered target.calls i a v →
    i < layout.list.length ∧ (layout.flash i).contains a = true ∧ (v = (layout.flash i).erased ∨ Written a v)
  held : ∀ i < layout.list.length, ∀ a v, Holding (target.state i) a v →
    v = (layout.flash i).erased ∨ Written a v

theorem Clean.not_holding {state : FlashState} (clean : Clean state) (a : Nat) (v : Byte) : ¬ Holding state a v := by
  rintro ⟨buf, allocated, low, high, -⟩
  rcases clean with none | ⟨-, -, zero⟩
  · rw [none] at allocated
    cases allocated
  · omega

theorem flash_valid (layout : Layout) {i : Nat} (inside : i < layout.list.length) : (layout.flash i).Valid := by
  rw [Regions.flash, List.getElem?_eq_getElem inside, Option.getD_some]
  exact layout.valid _ (List.getElem_mem inside)

theorem contains_iff {flash : TargetFlash} (valid : flash.Valid) (a : Nat) :
    flash.contains a = true ↔ flash.start ≤ a ∧ a < flash.start + flash.length := by
  simp [TargetFlash.contains, add32_of_lt valid.bounded]

theorem writesize_pos {flash : TargetFlash} (valid : flash.Valid) : 0 < flash.writesize := by
  obtain ⟨k, -, power⟩ := valid.power
  rw [power]
  exact Nat.two_pow_pos k

/-- The buffer for a power of two is a power of two, of at least the size that is allowed for, and whole writes fit it. -/
theorem bufferSize_power {k : Nat} (word : k < 32) :
    ∃ m, 10 ≤ m ∧ m < 32 ∧ bufferSize (2 ^ k) = 2 ^ m ∧ 2 ^ k ∣ bufferSize (2 ^ k) := by
  rw [bufferSize, flashWriteBufferCeiling]
  split
  next small =>
    refine ⟨10, Nat.le_refl _, by decide, ?_, Nat.dvd_mul_right _ _⟩
    apply Nat.mul_div_cancel'
    have exponent : k ≤ 9 := (Nat.pow_le_pow_iff_right (by decide : 1 < 2)).mp small
    exact Nat.pow_dvd_pow 2 (by omega : k ≤ 10)
  next large =>
    have exponent : 9 < k := (Nat.pow_lt_pow_iff_right (by decide : 1 < 2)).mp (Nat.lt_of_not_le large)
    exact ⟨k, exponent, word, rfl, Nat.dvd_refl _⟩

/-- The buffer is a power of two, and whole writes fit it. -/
theorem writebufsize_power {flash : TargetFlash} (valid : flash.Valid) :
    (∃ k < 32, flash.writebufsize = 2 ^ k) ∧ flash.writesize ∣ flash.writebufsize := by
  obtain ⟨k, word, power⟩ := valid.power
  obtain ⟨m, -, small, size, whole⟩ := bufferSize_power word
  rw [valid.buffered, power]
  exact ⟨⟨m, small, size⟩, whole⟩

theorem regions_apart (layout : Layout) {i j : Nat} (first : i < layout.list.length) (second : j < layout.list.length)
    (different : i ≠ j) (a : Nat) : ¬ ((layout.flash i).contains a = true ∧ (layout.flash j).contains a = true) := by
  have ordered := List.pairwise_iff_getElem.mp layout.apart
  rw [Regions.flash, Regions.flash, List.getElem?_eq_getElem first, List.getElem?_eq_getElem second]
  rcases Nat.lt_or_gt_of_ne different with below | below
  · exact ordered i j first second below a
  · exact fun both => ordered j i second first below a both.symm

/-- A call that hands over no data changes nothing but the record of calls. -/
structure Silent (target next : Target) : Prop where
  state : next.state = target.state
  writes : writesOf next.calls = writesOf target.calls
  fault : next.fault = target.fault
  mode : next.flashMode = target.flashMode

theorem ask_silent (target : Target) {call : Call} (silent : handedBy call = none) :
    Silent target (target.ask env call).2 :=
  ⟨rfl, by simp [Target.ask, writesOf, silent], rfl, rfl⟩

theorem Silent.refl (target : Target) : Silent target target := ⟨rfl, rfl, rfl, rfl⟩

theorem delivered_congr {calls others : List Call} (same : writesOf others = writesOf calls) (i a : Nat) (v : Byte) :
    Delivered others i a v ↔ Delivered calls i a v := by
  simp only [Delivered, same]

theorem handed_congr {calls others : List Call} (same : writesOf others = writesOf calls) (a : Nat) (v : Byte) :
    Handed layout others a v ↔ Handed layout calls a v := by
  simp only [Handed, delivered_congr same]

@[simp] theorem put_state (target : Target) (i : Nat) (state : FlashState) : (target.put i state).state i = state := by
  simp [Target.put]

theorem put_other (target : Target) {i j : Nat} (state : FlashState) (other : j ≠ i) :
    (target.put i state).state j = target.state j := by
  simp [Target.put, other]

/-- The environment's drivers never fail. -/
def Obliging (env : Environment) : Prop :=
  ∀ calls call, (∀ size, call ≠ .malloc size) → env.answer (calls ++ [call]) = true

theorem ask_obliging (obliging : Obliging env) (target : Target) {call : Call} (driver : ∀ size, call ≠ .malloc size) :
    (target.ask env call).1 = true :=
  obliging _ _ driver

/-- A step that only touches region `i`, leaves there a sound buffer, and neither
loses nor invents a byte there, keeps the account of all bytes. -/
theorem Faithful.replace {Written Next : Nat → Byte → Prop} {target next : Target} {i : Nat}
    (faithful : Faithful layout Written target) (inside : i < layout.list.length)
    (fault : next.fault = false) (others : ∀ j, j ≠ i → next.state j = target.state j)
    (sound : Sound (layout.flash i) (next.state i))
    (grows : ∀ a v, Written a v → Next a v)
    (kept : ∀ j a v, Delivered target.calls j a v → Delivered next.calls j a v)
    (moved : ∀ a v, (layout.flash i).contains a = true → Written a v → Holding (target.state i) a v →
      Handed layout next.calls a v ∨ Holding (next.state i) a v)
    (added : ∀ a v, Next a v → Written a v ∨ Handed layout next.calls a v ∨ Pending layout next a v)
    (delivered : ∀ j a v, Delivered next.calls j a v → Delivered target.calls j a v ∨
      j < layout.list.length ∧ (layout.flash j).contains a = true ∧ (v = (layout.flash j).erased ∨ Next a v))
    (held : ∀ a v, Holding (next.state i) a v → v = (layout.flash i).erased ∨ Next a v) :
    Faithful layout Next next := by
  refine ⟨fault, ?_, ?_, ?_, ?_⟩
  · intro j within
    by_cases here : j = i
    · exact here ▸ sound
    · rw [others j here]
      exact faithful.sound j within
  · intro a v new
    rcases added a v new with old | accounted
    · rcases faithful.complete a v old with ⟨j, within, place, handed⟩ | ⟨j, within, place, holding⟩
      · exact .inl ⟨j, within, place, kept j a v handed⟩
      · by_cases here : j = i
        · subst here
          rcases moved a v place old holding with handed | holding
          · exact .inl handed
          · exact .inr ⟨j, within, place, holding⟩
        · exact .inr ⟨j, within, place, by rwa [others j here]⟩
    · exact accounted
  · intro j a v handed
    rcases delivered j a v handed with old | new
    · obtain ⟨within, place, origin⟩ := faithful.delivered j a v old
      exact ⟨within, place, origin.imp_right (grows a v)⟩
    · exact new
  · intro j within a v holding
    by_cases here : j = i
    · subst here
      exact held a v holding
    · rw [others j here] at holding
      exact (faithful.held j within a v holding).imp_right (grows a v)

/-- The same for a step that hands over no data and gives nothing to the buffer. -/
theorem Faithful.silent {Written : Nat → Byte → Prop} {target next : Target} {i : Nat}
    (faithful : Faithful layout Written target) (inside : i < layout.list.length)
    (fault : next.fault = target.fault) (writes : writesOf next.calls = writesOf target.calls)
    (others : ∀ j, j ≠ i → next.state j = target.state j) (sound : Sound (layout.flash i) (next.state i))
    (holding : ∀ a v, Holding (next.state i) a v ↔ Holding (target.state i) a v) : Faithful layout Written next := by
  refine faithful.replace inside (fault.trans faithful.fault) others sound (fun _ _ old => old) ?_ ?_
    (fun _ _ old => .inl old) ?_ ?_
  · exact fun j a v old => (delivered_congr writes j a v).mpr old
  · exact fun a v _ _ old => .inr ((holding a v).mpr old)
  · exact fun j a v new => .inl ((delivered_congr writes j a v).mp new)
  · exact fun a v new => faithful.held i inside a v ((holding a v).mp new)

theorem Silent.faithful {Written : Nat → Byte → Prop} {target next : Target} (silent : Silent target next)
    (faithful : Faithful layout Written target) : Faithful layout Written next := by
  refine ⟨silent.fault.trans faithful.fault, ?_, ?_, ?_, ?_⟩
  · rw [silent.state]
    exact faithful.sound
  · intro a v written
    simp only [Pending, silent.state, handed_congr silent.writes]
    exact faithful.complete a v written
  · intro j a v new
    exact faithful.delivered j a v ((delivered_congr silent.writes j a v).mp new)
  · rw [silent.state]
    exact faithful.held

/-- Two states of a region that differ in the operation only. -/
structure SameBuffer (state next : FlashState) : Prop where
  buf : next.buf = state.buf
  base : next.bufAddrBase = state.bufAddrBase
  low : next.bufAddrLow = state.bufAddrLow
  high : next.bufAddrHigh = state.bufAddrHigh

namespace SameBuffer

variable {state next : FlashState}

theorem holding (same : SameBuffer state next) (a : Nat) (v : Byte) : Holding next a v ↔ Holding state a v := by
  simp only [Holding, same.buf, same.base, same.low, same.high]

theorem clean (same : SameBuffer state next) : Clean next ↔ Clean state := by
  simp only [Clean, same.buf, same.base, same.low, same.high]

theorem sound (same : SameBuffer state next) {flash : TargetFlash} (sound : Sound flash state) : Sound flash next := by
  cases sound with
  | clean empty => exact .clean (same.clean.mpr empty)
  | active buf allocated block =>
    refine .active buf (same.buf.trans allocated) ⟨?_, ?_, ?_, ?_, ?_, ?_, ?_⟩
    · rw [same.base]; exact block.block
    · rw [same.base, same.low]; exact block.above
    · rw [same.low, same.high]; exact block.nonempty
    · rw [same.base, same.high]; exact block.below
    · rw [same.low]; exact block.start
    · rw [same.high]; exact block.finish
    · rw [same.base, same.low, same.high]; exact block.filler

end SameBuffer

/-- A step works on region `i` alone and hands no data to a driver. -/
structure Tends (i : Nat) (target next : Target) : Prop where
  others : ∀ j, j ≠ i → next.state j = target.state j
  writes : writesOf next.calls = writesOf target.calls
  fault : next.fault = target.fault
  mode : next.flashMode = target.flashMode

theorem Silent.tends {target next : Target} (silent : Silent target next) (i : Nat) : Tends i target next :=
  ⟨fun j _ => by rw [silent.state], silent.writes, silent.fault, silent.mode⟩

theorem Tends.trans {i : Nat} {first second third : Target} (one : Tends i first second) (two : Tends i second third) :
    Tends i first third :=
  ⟨fun j other => (two.others j other).trans (one.others j other), two.writes.trans one.writes,
    two.fault.trans one.fault, two.mode.trans one.mode⟩

theorem put_tends (target : Target) (i : Nat) (state : FlashState) : Tends i target (target.put i state) :=
  ⟨fun _ other => put_other target state other, rfl, rfl, rfl⟩

theorem Tends.faithful {Written : Nat → Byte → Prop} {target next : Target} {i : Nat} (tends : Tends i target next)
    (inside : i < layout.list.length) (faithful : Faithful layout Written target)
    (sound : Sound (layout.flash i) (next.state i))
    (holding : ∀ a v, Holding (next.state i) a v ↔ Holding (target.state i) a v) : Faithful layout Written next :=
  faithful.silent inside tends.fault tends.writes tends.others sound holding

private theorem ask_when_silent (target : Target) (present : Bool) {call : Call} (silent : handedBy call = none) :
    Silent target (if present then target.ask env call else (true, target)).2 := by
  cases present with
  | true => exact ask_silent target silent
  | false => exact .refl target

private theorem ask_when_obliging (obliging : Obliging env) (target : Target) (present : Bool) {call : Call}
    (driver : ∀ size, call ≠ .malloc size) : (if present then target.ask env call else (true, target)).1 = true := by
  cases present with
  | true => exact ask_obliging obliging target driver
  | false => rfl

/-- Ending an operation drops the buffer, unless the region was idle. -/
theorem flashDone_tends (layout : Layout) (env : Environment) (i : Nat) (target : Target) :
    let ended := flashDone layout env i target
    Tends i target ended.2 ∧ (ended.2.state i).operation = .none ∧
      ((target.state i).operation = .none ∧ ended.2.state i = target.state i ∨
        (target.state i).operation ≠ .none ∧ (ended.2.state i).buf = none) ∧
      (Obliging env → ended.1 = true) := by
  intro ended
  by_cases idle : (target.state i).operation = .none
  · have unchanged : ended = (true, target) := by simp [ended, flashDone, idle]
    rw [unchanged]
    exact ⟨(Silent.refl target).tends i, idle, .inl ⟨idle, rfl⟩, fun _ => rfl⟩
  · let asked := if (layout.flash i).done then target.ask env (.done i) else (true, target)
    have silent : Silent target asked.2 := ask_when_silent target _ rfl
    have shape : ended = (asked.1, asked.2.put i { asked.2.state i with buf := none, operation := .none }) := by
      simp [ended, flashDone, idle, asked]
    rw [shape]
    refine ⟨(silent.tends i).trans (put_tends _ _ _), by simp, .inr ⟨idle, by simp⟩, fun obliging => ?_⟩
    exact ask_when_obliging obliging target _ (by simp)

/-- A region with nothing in its buffer, or idle, loses nothing when its operation
is ended. -/
theorem flashDone_faithful {Written : Nat → Byte → Prop} {target : Target} {i : Nat}
    (faithful : Faithful layout Written target) (inside : i < layout.list.length)
    (settled : Clean (target.state i) ∨ (target.state i).operation = .none) :
    Faithful layout Written (flashDone layout env i target).2 ∧
      (Clean (target.state i) → Clean ((flashDone layout env i target).2.state i)) := by
  obtain ⟨tends, -, effect, -⟩ := flashDone_tends layout env i target
  rcases effect with ⟨-, same⟩ | ⟨busy, freed⟩
  · refine ⟨tends.faithful inside faithful ?_ ?_, fun clean => by rwa [same]⟩
    · rw [same]
      exact faithful.sound i inside
    · intro a v
      rw [same]
  · have clean : Clean (target.state i) := settled.resolve_right busy
    have empty : Clean ((flashDone layout env i target).2.state i) := .inl freed
    refine ⟨tends.faithful inside faithful (.clean empty) ?_, fun _ => empty⟩
    exact fun a v => iff_of_false (empty.not_holding a v) (clean.not_holding a v)

/-- Preparing a region that is not erasing for a write touches only its operation. -/
theorem flashPrepare_write (layout : Layout) (env : Environment) {i : Nat} {target : Target}
    (erasing : (target.state i).operation ≠ .erase) :
    let prepared := flashPrepare layout env i .write target
    Tends i target prepared.2 ∧ SameBuffer (target.state i) (prepared.2.state i) ∧
      ((prepared.2.state i).operation = if prepared.1 then .write else .none) ∧
      (Obliging env → prepared.1 = true) := by
  intro prepared
  by_cases already : (target.state i).operation = .write
  · have unchanged : prepared = (true, target) := by simp [prepared, flashPrepare, already]
    rw [unchanged]
    exact ⟨(Silent.refl target).tends i, ⟨rfl, rfl, rfl, rfl⟩, by simp [already], fun _ => rfl⟩
  · have idle : (target.state i).operation = .none := by
      cases operation : (target.state i).operation with
      | none => rfl
      | erase => exact absurd operation erasing
      | write => exact absurd operation already
    let writing := target.put i { target.state i with operation := .write }
    let asked :=
      if (layout.flash i).prepare then writing.ask env (.prepare i .write (writing.state i).buf.isSome) else (true, writing)
    have silent : Silent writing asked.2 := ask_when_silent writing _ rfl
    have tends : Tends i target asked.2 := (put_tends target i _).trans (silent.tends i)
    have state : asked.2.state i = { target.state i with operation := .write } := by
      rw [silent.state]
      simp [writing]
    have shape : prepared = if asked.1 then asked else
        (false, asked.2.put i { asked.2.state i with operation := .none }) := by
      simp [prepared, flashPrepare, idle, asked, writing]
    rw [shape]
    split
    next ready =>
      refine ⟨tends, ?_, by simp [state], fun _ => ready⟩
      rw [state]
      exact ⟨rfl, rfl, rfl, rfl⟩
    next failed =>
      refine ⟨tends.trans (put_tends _ _ _), ?_, by simp, fun obliging => ?_⟩
      · rw [put_state, state]
        exact ⟨rfl, rfl, rfl, rfl⟩
      · exact absurd (ask_when_obliging obliging writing _ (by simp)) failed

private theorem flushWrites_calls (layout : Layout) (env : Environment) (i alignedAddr source : Nat) (src : Buffer)
    (more done : Nat) (result : Bool) (target : Target) :
    let written := flushWrites layout env i alignedAddr source src more done result target
    written.2.state = target.state ∧ written.2.fault = target.fault ∧ written.2.flashMode = target.flashMode ∧
      (∀ entry, entry ∈ writesOf written.2.calls ↔ entry ∈ writesOf target.calls ∨
        ∃ k < more, entry = (i, add32 alignedAddr ((done + k) * (layout.flash i).writesize),
          (List.range (layout.flash i).writesize).map fun j => src ((done + k) * (layout.flash i).writesize + j))) ∧
      (Obliging env → written.1 = result) := by
  induction more generalizing done result target with
  | zero => simp [flushWrites]
  | succ more ih =>
    let call := Call.write i (add32 alignedAddr (done * (layout.flash i).writesize))
      (source + done * (layout.flash i).writesize) ((List.range (layout.flash i).writesize).map fun j => src (done * (layout.flash i).writesize + j))
    obtain ⟨state, fault, mode, entries, answers⟩ :=
      ih (done + 1) (result && (target.ask env call).1) (target.ask env call).2
    refine ⟨state, fault, mode, fun entry => ?_, fun obliging => ?_⟩
    · have first : entry ∈ writesOf (target.ask env call).2.calls ↔ entry ∈ writesOf target.calls ∨
          entry = (i, add32 alignedAddr (done * (layout.flash i).writesize),
            (List.range (layout.flash i).writesize).map fun j => src (done * (layout.flash i).writesize + j)) := by
        simp [Target.ask, writesOf, handedBy, call]
      rw [flushWrites, entries, first, or_assoc]
      refine or_congr_right ⟨?_, ?_⟩
      · rintro (same | ⟨k, below, same⟩)
        · exact ⟨0, by omega, by simpa using same⟩
        · exact ⟨k + 1, by omega, by rw [same, Nat.add_assoc done 1 k, Nat.add_comm 1 k]⟩
      · rintro ⟨k, below, same⟩
        cases k with
        | zero => exact .inl (by simpa using same)
        | succ k => exact .inr ⟨k, by omega, by rw [same, Nat.add_assoc done 1 k, Nat.add_comm 1 k]⟩
    · rw [flushWrites, answers obliging, ask_obliging obliging target (by simp [call]), Bool.and_true]

/-- What a flush leaves of region `i`. -/
structure Flushed (layout : Layout) (env : Environment) (Written : Nat → Byte → Prop) (i : Nat) (target : Target)
    (flushed : Bool × Target) : Prop where
  faithful : Faithful layout Written flushed.2
  others : ∀ j, j ≠ i → flushed.2.state j = target.state j
  mode : flushed.2.flashMode = target.flashMode
  buf : (flushed.2.state i).buf = (target.state i).buf
  operation : (flushed.2.state i).operation ≠ .erase
  settled : Clean (flushed.2.state i) ∨ flushed.1 = false ∧ (flushed.2.state i).operation = .none
  kept : ∀ j a v, Delivered target.calls j a v → Delivered flushed.2.calls j a v
  answer : Obliging env → flushed.1 = true

/-- The whole writes that cover the held part of a buffer lie inside the region and
inside the buffer's block. -/
structure Covers (flash : TargetFlash) (state : FlashState) (alignedAddr count : Nat) : Prop where
  low : alignedAddr ≤ state.bufAddrLow
  high : state.bufAddrHigh ≤ alignedAddr + count * flash.writesize
  base : state.bufAddrBase ≤ alignedAddr
  start : flash.start ≤ alignedAddr
  block : alignedAddr + count * flash.writesize ≤ state.bufAddrBase + flash.writebufsize
  finish : alignedAddr + count * flash.writesize ≤ flash.start + flash.length

theorem active_covers {flash : TargetFlash} (valid : flash.Valid) {state : FlashState} {buf : Buffer}
    (active : Active flash state buf) :
    let alignedAddr := alignDown state.bufAddrLow flash.writesize
    let length := sub32 state.bufAddrHigh alignedAddr
    Covers flash state alignedAddr ((length + flash.writesize - 1) / flash.writesize) := by
  intro alignedAddr length
  have bounded := valid.bounded
  have finish := active.finish
  have nonempty := active.nonempty
  have positive := writesize_pos valid
  have fits : state.bufAddrLow < 2 ^ 32 := by omega
  have aligned : alignedAddr = flash.writesize * (state.bufAddrLow / flash.writesize) := by
    obtain ⟨k, word, power⟩ := valid.power
    simp only [alignedAddr, power]
    exact alignDown_two_pow fits word
  have low : alignedAddr ≤ state.bufAddrLow := by
    rw [aligned]
    exact Nat.mul_div_le _ _
  have size : length = state.bufAddrHigh - alignedAddr := sub32_of_le (by omega) (by omega)
  have divides : flash.writesize ∣ alignedAddr := aligned ▸ Nat.dvd_mul_right _ _
  have whole := (writebufsize_power valid).2
  have base : flash.writesize ∣ state.bufAddrBase := whole.trans active.block
  have ordered : alignedAddr ≤ state.bufAddrHigh := low.trans nonempty.le
  obtain ⟨finishUp, high⟩ := round_up_le positive divides (Nat.dvd_add valid.start valid.length) finish ordered
  obtain ⟨blockUp, -⟩ := round_up_le positive divides (Nat.dvd_add base whole) active.below ordered
  rw [size]
  refine ⟨low, high, ?_, ?_, blockUp, finishUp⟩
  · rw [aligned]
    exact le_round_down base active.above
  · rw [aligned]
    exact le_round_down valid.start active.start

/-- The bytes that the writes of a flush deliver. -/
private theorem flushed_bytes {flash : TargetFlash} (valid : flash.Valid) {state : FlashState} {alignedAddr count : Nat}
    (covers : Covers flash state alignedAddr count) (buf : Buffer) (a : Nat) (v : Byte) :
    (∃ k < count, add32 alignedAddr (k * flash.writesize) ≤ a ∧
        ((List.range flash.writesize).map fun j =>
          buf (sub32 alignedAddr state.bufAddrBase + (k * flash.writesize + j)))[
            a - add32 alignedAddr (k * flash.writesize)]? = some v) ↔
      alignedAddr ≤ a ∧ a < alignedAddr + count * flash.writesize ∧ buf (a - state.bufAddrBase) = v := by
  have positive := writesize_pos valid
  have bounded := valid.bounded
  have finish := covers.finish
  have base := covers.base
  have source : sub32 alignedAddr state.bufAddrBase = alignedAddr - state.bufAddrBase := sub32_of_le (by omega) base
  have steps : ∀ k < count, k * flash.writesize + flash.writesize ≤ count * flash.writesize := fun k below => by
    rw [← Nat.succ_mul]
    exact Nat.mul_le_mul_right _ below
  constructor
  · rintro ⟨k, below, reached, byte⟩
    have room := steps k below
    rw [add32_of_lt (by omega)] at reached byte
    rw [List.getElem?_eq_some_iff] at byte
    obtain ⟨inside, byte⟩ := byte
    simp only [List.length_map, List.length_range, List.getElem_map, List.getElem_range, source] at inside byte
    refine ⟨by omega, by omega, ?_⟩
    rw [← byte]
    congr 1
    omega
  · rintro ⟨above, below, byte⟩
    have split := Nat.div_add_mod' (a - alignedAddr) flash.writesize
    have rest := Nat.mod_lt (a - alignedAddr) positive
    have step : (a - alignedAddr) / flash.writesize < count := by
      rw [Nat.div_lt_iff_lt_mul positive]
      omega
    have room := steps _ step
    refine ⟨(a - alignedAddr) / flash.writesize, step, ?_⟩
    rw [add32_of_lt (by omega)]
    refine ⟨by omega, ?_⟩
    rw [List.getElem?_eq_some_iff]
    refine ⟨by simp; omega, ?_⟩
    simp only [List.getElem_map, List.getElem_range, source]
    rw [← byte]
    congr 1
    omega

/-- A flush of an active buffer, when the region can be prepared: every held byte is
delivered, with filler up to whole writes, and the buffer is clean. -/
private theorem flush_active (env : Environment) {Written : Nat → Byte → Prop} {target : Target} {i : Nat} {buf : Buffer}
    (faithful : Faithful layout Written target) (inside : i < layout.list.length)
    (allocated : (target.state i).buf = some buf) (active : Active (layout.flash i) (target.state i) buf)
    {prepared : Target} (tends : Tends i target prepared) (same : SameBuffer (target.state i) (prepared.state i))
    (operation : (prepared.state i).operation = .write)
    {alignedAddr count : Nat} (covers : Covers (layout.flash i) (target.state i) alignedAddr count) :
    let written := flushWrites layout env i alignedAddr (sub32 alignedAddr (target.state i).bufAddrBase)
      (fun j => buf (sub32 alignedAddr (target.state i).bufAddrBase + j)) count 0 true prepared
    Flushed layout env Written i target (written.1, written.2.put i { written.2.state i with
      bufAddrBase := uint32Max, bufAddrLow := uint32Max, bufAddrHigh := 0 }) := by
  intro written
  have valid := flash_valid layout inside
  obtain ⟨state, fault, mode, entries, answer⟩ := flushWrites_calls layout env i alignedAddr
    (sub32 alignedAddr (target.state i).bufAddrBase) (fun j => buf (sub32 alignedAddr (target.state i).bufAddrBase + j)) count 0 true prepared
  have delivered : ∀ j a v, Delivered written.2.calls j a v ↔ Delivered target.calls j a v ∨
      j = i ∧ alignedAddr ≤ a ∧ a < alignedAddr + count * (layout.flash i).writesize ∧ buf (a - (target.state i).bufAddrBase) = v := by
    intro j a v
    rw [← flushed_bytes valid covers buf a v]
    simp only [Delivered, written, entries, tends.writes, Nat.zero_add, or_and_right, exists_or, Prod.mk.injEq]
    refine or_congr_right ⟨?_, ?_⟩
    · rintro ⟨dest, data, ⟨k, below, rfl, rfl, rfl⟩, reached, byte⟩
      exact ⟨rfl, k, below, reached, byte⟩
    · rintro ⟨rfl, k, below, reached, byte⟩
      exact ⟨_, _, ⟨k, below, rfl, rfl, rfl⟩, reached, byte⟩
  have place : ∀ a, alignedAddr ≤ a → a < alignedAddr + count * (layout.flash i).writesize → (layout.flash i).contains a = true := by
    intro a above below
    rw [contains_iff valid]
    have start := covers.start
    have finish := covers.finish
    omega
  have empty : Clean { written.2.state i with
      bufAddrBase := uint32Max, bufAddrLow := uint32Max, bufAddrHigh := 0 } := .inr ⟨rfl, rfl, rfl⟩
  have low := covers.low
  have high := covers.high
  have kept : ∀ j a v, Delivered target.calls j a v → Delivered written.2.calls j a v :=
    fun j a v old => (delivered j a v).mpr (.inl old)
  refine ⟨?_, fun j other => ?_, mode.trans tends.mode, ?_, ?_, .inl ?_, kept, answer⟩
  rotate_left
  · rw [put_other _ _ other, state, tends.others j other]
  · rw [put_state, state, same.buf]
  · rw [put_state, state, operation]
    decide
  · rw [put_state]
    exact empty
  refine faithful.replace inside ?_ ?_ ?_ (fun _ _ old => old) kept ?_ (fun _ _ old => .inl old) ?_ ?_
  · exact fault.trans (tends.fault.trans faithful.fault)
  · intro j other
    rw [put_other _ _ other, state, tends.others j other]
  · rw [put_state]
    exact .clean empty
  · rintro a v within - ⟨held, isHeld, aboveLow, belowHigh, byte⟩
    obtain rfl : buf = held := Option.some.inj (allocated.symm.trans isHeld)
    exact .inl ⟨i, inside, within, (delivered i a v).mpr (.inr ⟨rfl, by omega, by omega, byte⟩)⟩
  · intro j a v new
    rcases (delivered j a v).mp new with old | ⟨rfl, above, below, byte⟩
    · exact .inl old
    · refine .inr ⟨inside, place a above below, ?_⟩
      by_cases heldHere : (target.state j).bufAddrLow ≤ a ∧ a < (target.state j).bufAddrHigh
      · exact faithful.held j inside a v ⟨buf, allocated, heldHere.1, heldHere.2, byte⟩
      · have base := covers.base
        have block := covers.block
        exact .inl (byte ▸ active.filler a (by omega) (by omega) heldHere)
  · intro a v holding
    rw [put_state] at holding
    exact absurd holding (empty.not_holding a v)

theorem flashBufferedFlush_flushed {Written : Nat → Byte → Prop} {target : Target} {i : Nat}
    (faithful : Faithful layout Written target) (inside : i < layout.list.length)
    (erasing : (target.state i).operation ≠ .erase) :
    Flushed layout env Written i target (flashBufferedFlush layout env i target) := by
  cases faithful.sound i inside with
  | clean empty =>
    have skipped : flashBufferedFlush layout env i target = (true, target) := by
      rcases empty with none | ⟨base, -, -⟩
      · simp [flashBufferedFlush, none]
      · simp [flashBufferedFlush, base]
    rw [skipped]
    exact ⟨faithful, fun _ _ => rfl, rfl, rfl, erasing, .inl empty, fun _ _ _ old => old, fun _ => rfl⟩
  | active buf allocated active =>
    have valid := flash_valid layout inside
    have bounded := valid.bounded
    have finish := active.finish
    have nonempty := active.nonempty
    have above := active.above
    have pending : (target.state i).buf.isSome ∧ (target.state i).bufAddrBase ≠ uint32Max ∧
        (target.state i).bufAddrLow ≠ uint32Max ∧ (target.state i).bufAddrLow < (target.state i).bufAddrHigh := by
      refine ⟨by simp [allocated], ?_, ?_, nonempty⟩ <;> simp only [uint32Max] <;> omega
    obtain ⟨tends, same, operation, answer⟩ := flashPrepare_write layout env erasing
    cases ready : (flashPrepare layout env i .write target).1 with
    | false =>
      have shape : flashBufferedFlush layout env i target = (false, (flashPrepare layout env i .write target).2) := by
        simp [flashBufferedFlush, pending, ready]
      rw [shape]
      rw [ready] at operation
      refine ⟨tends.faithful inside faithful (same.sound (faithful.sound i inside)) same.holding, tends.others,
        tends.mode, same.buf, by simp [operation], .inr ⟨rfl, by simp [operation]⟩,
        fun j a v old => (delivered_congr tends.writes j a v).mpr old, fun obliging => ?_⟩
      exact absurd (answer obliging) (by simp [ready])
    | true =>
      rw [ready] at operation
      have kept : ((flashPrepare layout env i .write target).2.state i).buf = some buf := same.buf.trans allocated
      have covers := active_covers valid active
      simp only [flashBufferedFlush, if_pos pending, ready, kept, Bool.not_true, Bool.false_eq_true, if_false]
      exact flush_active env faithful inside allocated active tends same operation covers

end BlackMagic.Proofs.FlashBuffer

import BlackMagic.Proofs.FlashBuffer

/-! What one call of `target_flash_write` does to the account of written bytes: the
data goes through the buffers chunk by chunk and region by region, and none of it,
nor of what the buffers held before, is lost. -/

namespace BlackMagic.Proofs.FlashWrite
open BlackMagic.Flash FlashBuffer Lib.Words

variable {layout : Layout} {env : Environment}

/-- The bytes written so far and a further range of them. -/
def extend (Written : Nat → Byte → Prop) (dest : Nat) (data : List Byte) : Nat → Byte → Prop :=
  fun a v => Written a v ∨ dest ≤ a ∧ data[a - dest]? = some v

/-- New data may only take the place of a byte that its driver already has, or that
is the same. -/
def Agrees (layout : Layout) (Written : Nat → Byte → Prop) (target : Target) (dest : Nat) (data : List Byte) : Prop :=
  ∀ a v, Written a v → dest ≤ a → a < dest + data.length →
    Handed layout target.calls a v ∨ data[a - dest]? = some v

/-- The buffer is set up for a block, with filler outside what it holds. -/
structure Primed (flash : TargetFlash) (state : FlashState) (buf : Buffer) (baseAddr : Nat) : Prop where
  allocated : state.buf = some buf
  base : state.bufAddrBase = baseAddr
  above : baseAddr ≤ state.bufAddrLow
  below : state.bufAddrHigh ≤ baseAddr + flash.writebufsize
  start : flash.start ≤ state.bufAddrLow
  finish : state.bufAddrHigh ≤ flash.start + flash.length
  filler : ∀ a, baseAddr ≤ a → a < baseAddr + flash.writebufsize →
    ¬ (state.bufAddrLow ≤ a ∧ a < state.bufAddrHigh) → buf (a - baseAddr) = flash.erased

/-- A range of bytes that lies in one block of the buffer and inside the region. -/
structure Chunk (flash : TargetFlash) (dest : Nat) (data : List Byte) : Prop where
  nonempty : data ≠ []
  block : dest % flash.writebufsize + data.length ≤ flash.writebufsize
  start : flash.start ≤ dest
  finish : dest + data.length ≤ flash.start + flash.length

theorem alignDown_block {flash : TargetFlash} (valid : flash.Valid) {dest : Nat} (fits : dest < 2 ^ 32) :
    alignDown dest flash.writebufsize + dest % flash.writebufsize = dest ∧
      flash.writebufsize ∣ alignDown dest flash.writebufsize := by
  obtain ⟨⟨k, word, power⟩, -⟩ := writebufsize_power valid
  rw [power, alignDown_two_pow fits word]
  exact ⟨Nat.div_add_mod dest (2 ^ k), Nat.dvd_mul_right _ _⟩

/-- A copy into a buffer hands nothing to a driver. -/
theorem memcpy_silent (target : Target) (i offset len : Nat) :
    Silent target { target with calls := target.calls ++ [.memcpy i offset len] } :=
  ⟨rfl, by simp [writesOf, handedBy], rfl, rfl⟩

/-- A chunk copied into a buffer that is set up for its block. -/
theorem copyChunk_faithful {Written : Nat → Byte → Prop} {before target : Target} {i dest : Nat} {chunk : List Byte}
    {buf : Buffer} (faithful : Faithful layout Written before) (inside : i < layout.list.length)
    (tends : Tends i before target)
    (primed : Primed (layout.flash i) (target.state i) buf (alignDown dest (layout.flash i).writebufsize))
    (holding : ∀ a v, Holding (target.state i) a v ↔ Holding (before.state i) a v)
    (piece : Chunk (layout.flash i) dest chunk) (agrees : Agrees layout Written before dest chunk) :
    Faithful layout (extend Written dest chunk) (copyChunk layout i dest chunk target) := by
  have valid := flash_valid layout inside
  have bounded := valid.bounded
  have positive := List.length_pos_iff.mpr piece.nonempty
  have block := piece.block
  have start := piece.start
  have finish := piece.finish
  obtain ⟨offset, multiple⟩ := alignDown_block valid (show dest < 2 ^ 32 by omega)
  generalize base : alignDown dest (layout.flash i).writebufsize = baseAddr at primed offset multiple
  have above := primed.above
  have below := primed.below
  have primedStart := primed.start
  have primedFinish := primed.finish
  let copied : Buffer := fun j =>
    if dest % (layout.flash i).writebufsize ≤ j then chunk[j - dest % (layout.flash i).writebufsize]?.getD (buf j)
    else buf j
  let noted : Target := { target with
    calls := target.calls ++ [.memcpy i (dest % (layout.flash i).writebufsize) chunk.length] }
  have tendsNoted : Tends i before noted := tends.trans ((memcpy_silent target i _ _).tends i)
  have shape : copyChunk layout i dest chunk target = noted.put i { target.state i with
      buf := some copied
      bufAddrLow := min (target.state i).bufAddrLow dest
      bufAddrHigh := max (target.state i).bufAddrHigh (dest + chunk.length) } := by
    rw [copyChunk, add32_of_lt (by omega)]
    simp only [primed.allocated, copied, noted]
  have byte : ∀ a, baseAddr ≤ a → copied (a - baseAddr) =
      if dest ≤ a ∧ a < dest + chunk.length then chunk[a - dest]?.getD 0#8 else buf (a - baseAddr) := by
    intro a reached
    by_cases new : dest ≤ a ∧ a < dest + chunk.length
    · have place : a - baseAddr - dest % (layout.flash i).writebufsize = a - dest := by omega
      have short : a - dest < chunk.length := by omega
      simp only [copied, if_pos new, if_pos (show dest % (layout.flash i).writebufsize ≤ a - baseAddr by omega), place,
        List.getElem?_eq_getElem short, Option.getD_some]
    · rw [if_neg new]
      by_cases later : dest % (layout.flash i).writebufsize ≤ a - baseAddr
      · have past : chunk[a - baseAddr - dest % (layout.flash i).writebufsize]? = none :=
          List.getElem?_eq_none (by omega)
        simp only [copied, if_pos later, past, Option.getD_none]
      · simp only [copied, if_neg later]
  have active : Active (layout.flash i) { target.state i with
      buf := some copied
      bufAddrLow := min (target.state i).bufAddrLow dest
      bufAddrHigh := max (target.state i).bufAddrHigh (dest + chunk.length) } copied := by
    constructor <;> simp only [primed.base]
    · exact multiple
    · omega
    · omega
    · omega
    · omega
    · omega
    · intro a reached within outside
      rw [byte a reached, if_neg (by omega)]
      exact primed.filler a reached within (by omega)
  rw [shape]
  refine faithful.replace inside (tendsNoted.fault.trans faithful.fault) ?_ ?_ (fun _ _ old => .inl old) ?_ ?_ ?_ ?_ ?_
  · intro j other
    rw [put_other _ _ other, tendsNoted.others j other]
  · rw [put_state]
    exact .active copied rfl active
  · exact fun j a v old => (delivered_congr tendsNoted.writes j a v).mpr old
  · intro a v within written held
    obtain ⟨old, isOld, low, high, value⟩ := (holding a v).mpr held
    obtain rfl : buf = old := Option.some.inj (primed.allocated.symm.trans isOld)
    rw [primed.base] at value
    by_cases new : dest ≤ a ∧ a < dest + chunk.length
    · rcases agrees a v written new.1 new.2 with handed | same
      · exact .inl ((handed_congr tendsNoted.writes a v).mpr handed)
      · refine .inr ⟨copied, by rw [put_state], ?_, ?_, ?_⟩ <;> simp only [put_state, primed.base]
        · omega
        · omega
        · rw [byte a (by omega), if_pos new, same, Option.getD_some]
    · refine .inr ⟨copied, by rw [put_state], ?_, ?_, ?_⟩ <;> simp only [put_state, primed.base]
      · omega
      · omega
      · rw [byte a (by omega), if_neg new, value]
  · rintro a v (old | ⟨reached, value⟩)
    · exact .inl old
    · have short : a - dest < chunk.length := (List.getElem?_eq_some_iff.mp value).1
      refine .inr (.inr ⟨i, inside, (contains_iff valid a).mpr ⟨by omega, by omega⟩, copied, by rw [put_state], ?_⟩)
      simp only [put_state, primed.base]
      refine ⟨by omega, by omega, ?_⟩
      rw [byte a (by omega), if_pos ⟨reached, by omega⟩, value, Option.getD_some]
  · exact fun j a v new => .inl ((delivered_congr tendsNoted.writes j a v).mp new)
  · rintro a v ⟨held, isHeld, low, high, value⟩
    rw [put_state] at isHeld low high value
    obtain rfl : copied = held := Option.some.inj isHeld
    simp only [primed.base] at low high value
    rw [byte a (by omega)] at value
    by_cases new : dest ≤ a ∧ a < dest + chunk.length
    · rw [if_pos new, List.getElem?_eq_getElem (show a - dest < chunk.length by omega), Option.getD_some] at value
      exact .inr (.inr ⟨new.1, by rw [List.getElem?_eq_getElem (by omega), value]⟩)
    · rw [if_neg new] at value
      by_cases old : (target.state i).bufAddrLow ≤ a ∧ a < (target.state i).bufAddrHigh
      · have before := (holding a v).mp ⟨buf, primed.allocated, old.1, old.2, by rw [primed.base, value]⟩
        exact (faithful.held i inside a v before).imp_right .inl
      · exact .inl (value ▸ primed.filler a (by omega) (by omega) old)

/-- What one step leaves of region `i` when its buffer takes data. -/
structure Buffered (i : Nat) (target next : Target) : Prop where
  others : ∀ j, j ≠ i → next.state j = target.state j
  mode : next.flashMode = target.flashMode
  buf : (next.state i).buf ≠ none
  operation : (next.state i).operation ≠ .erase
  kept : ∀ j a v, Delivered target.calls j a v → Delivered next.calls j a v

theorem Buffered.trans {i : Nat} {first second third : Target} (one : Buffered i first second)
    (two : Buffered i second third) : Buffered i first third :=
  ⟨fun j other => (two.others j other).trans (one.others j other), two.mode.trans one.mode, two.buf, two.operation,
    fun j a v old => two.kept j a v (one.kept j a v old)⟩

theorem Agrees.mono {Written : Nat → Byte → Prop} {target next : Target} {dest : Nat} {data : List Byte}
    (agrees : Agrees layout Written target dest data)
    (kept : ∀ j a v, Delivered target.calls j a v → Delivered next.calls j a v) :
    Agrees layout Written next dest data := by
  intro a v written low high
  refine (agrees a v written low high).imp_left ?_
  rintro ⟨i, inside, place, handed⟩
  exact ⟨i, inside, place, kept i a v handed⟩

/-- A buffer set up for a block: it differs from a faithful target in region `i`
alone, and holds there what that target holds. -/
structure Readied (layout : Layout) (Written : Nat → Byte → Prop) (i baseAddr : Nat) (target before setup : Target)
    (buf : Buffer) : Prop where
  faithful : Faithful layout Written before
  others : ∀ j, j ≠ i → before.state j = target.state j
  mode : before.flashMode = target.flashMode
  kept : ∀ j a v, Delivered target.calls j a v → Delivered before.calls j a v
  tends : Tends i before setup
  primed : Primed (layout.flash i) (setup.state i) buf baseAddr
  holding : ∀ a v, Holding (setup.state i) a v ↔ Holding (before.state i) a v
  operation : (setup.state i).operation ≠ .erase

theorem Primed.of_active {flash : TargetFlash} {state : FlashState} {buf : Buffer} (allocated : state.buf = some buf)
    (active : Active flash state buf) : Primed flash state buf state.bufAddrBase :=
  ⟨allocated, rfl, active.above, active.below, active.start, active.finish, active.filler⟩

theorem Primed.of_clean {flash : TargetFlash} (valid : flash.Valid) {state : FlashState} {baseAddr : Nat}
    (buf : Buffer) (low : state.bufAddrLow = uint32Max) (high : state.bufAddrHigh = 0) (small : baseAddr < uint32Max) :
    Primed flash { state with
      bufAddrBase := baseAddr, buf := some fun j => if j < flash.writebufsize then flash.erased else buf j }
      (fun j => if j < flash.writebufsize then flash.erased else buf j) baseAddr := by
  have bounded := valid.bounded
  simp only [uint32Max] at low small
  constructor <;> simp only [low, high]
  · omega
  · omega
  · omega
  · omega
  · intro a reached within _
    rw [if_pos (by omega)]

theorem setupBuffer_readied {Written : Nat → Byte → Prop} {target : Target} {i baseAddr : Nat}
    {setup : Bool × Target} (running : setupBuffer layout env i baseAddr target = setup)
    (faithful : Faithful layout Written target) (inside : i < layout.list.length)
    (erasing : (target.state i).operation ≠ .erase) (allocated : (target.state i).buf ≠ none)
    (small : baseAddr < uint32Max) :
    (Obliging env → setup.1 = true) ∧
      (setup.1 = true → ∃ before buf, Readied layout Written i baseAddr target before setup.2 buf) := by
  obtain ⟨buf, allocated⟩ := Option.ne_none_iff_exists'.mp allocated
  rw [setupBuffer] at running
  split at running
  next different =>
    have flush : Flushed layout env Written i target (flashBufferedFlush layout env i target) :=
      flashBufferedFlush_flushed faithful inside erasing
    generalize flashBufferedFlush layout env i target = flushed at flush running
    simp only [flush.buf.trans allocated] at running
    subst running
    refine ⟨flush.answer, fun answered => ?_⟩
    have clean : Clean (flushed.2.state i) := by
      rcases flush.settled with clean | ⟨failed, -⟩
      · exact clean
      · rw [answered] at failed
        cases failed
    obtain ⟨-, low, high⟩ := clean.resolve_left (by simp [flush.buf, allocated])
    refine ⟨flushed.2, _, flush.faithful, flush.others, flush.mode, flush.kept, put_tends _ _ _,
      by rw [put_state]; exact .of_clean (flash_valid layout inside) buf low high small, fun a v => ?_,
      by simpa using flush.operation⟩
    refine iff_of_false ?_ (clean.not_holding a v)
    rintro ⟨held, -, -, above, -⟩
    simp [high] at above
  next same =>
    subst running
    refine ⟨fun _ => rfl, fun _ => ⟨target, ?_⟩⟩
    rw [ne_eq, not_not] at same
    cases faithful.sound i inside with
    | clean empty =>
      rcases empty with none | ⟨base, -, -⟩
      · rw [allocated] at none
        cases none
      · rw [same, base] at small
        exact absurd small (Nat.lt_irrefl _)
    | active held isHeld active =>
      exact ⟨held, faithful, fun _ _ => rfl, rfl, fun _ _ _ old => old, (Silent.refl target).tends i,
        same ▸ .of_active isHeld active, fun _ _ => .rfl, erasing⟩

/-- One pass of the buffering loop. -/
theorem chunk_faithful {Written : Nat → Byte → Prop} {target : Target} {i dest : Nat} {chunk : List Byte}
    {setup : Bool × Target}
    (running : setupBuffer layout env i (alignDown dest (layout.flash i).writebufsize) target = setup)
    (faithful : Faithful layout Written target) (inside : i < layout.list.length)
    (erasing : (target.state i).operation ≠ .erase) (allocated : (target.state i).buf ≠ none)
    (piece : Chunk (layout.flash i) dest chunk) (agrees : Agrees layout Written target dest chunk) :
    (Obliging env → setup.1 = true) ∧
      (setup.1 = true → Faithful layout (extend Written dest chunk) (copyChunk layout i dest chunk setup.2) ∧
        Buffered i target (copyChunk layout i dest chunk setup.2)) := by
  have valid := flash_valid layout inside
  have bounded := valid.bounded
  have finish := piece.finish
  have positive := List.length_pos_iff.mpr piece.nonempty
  obtain ⟨offset, -⟩ := alignDown_block valid (show dest < 2 ^ 32 by omega)
  have small : alignDown dest (layout.flash i).writebufsize < uint32Max := by
    simp only [uint32Max]
    omega
  obtain ⟨answer, readied⟩ := setupBuffer_readied running faithful inside erasing allocated small
  refine ⟨answer, fun answered => ?_⟩
  obtain ⟨before, buf, ready⟩ := readied answered
  refine ⟨copyChunk_faithful ready.faithful inside ready.tends ready.primed ready.holding piece
    (agrees.mono ready.kept), ?_⟩
  simp only [copyChunk, ready.primed.allocated]
  refine ⟨fun j other => ?_, ready.tends.mode.trans ready.mode, by simp, by simpa using ready.operation,
    fun j a v old => ?_⟩
  · rw [put_other _ _ other, ready.tends.others j other, ready.others j other]
  · exact (delivered_congr ((memcpy_silent _ i _ _).writes.trans ready.tends.writes) j a v).mpr (ready.kept j a v old)

theorem extend_nil (Written : Nat → Byte → Prop) (dest : Nat) : extend Written dest [] = Written := by
  funext a v
  simp [extend]

theorem extend_append (Written : Nat → Byte → Prop) (dest : Nat) (first second : List Byte) :
    extend (extend Written dest first) (dest + first.length) second = extend Written dest (first ++ second) := by
  funext a v
  simp only [extend, or_assoc, eq_iff_iff]
  refine or_congr_right ⟨?_, ?_⟩
  · rintro (⟨low, byte⟩ | ⟨low, byte⟩)
    · have inside : a - dest < first.length := (List.getElem?_eq_some_iff.mp byte).1
      exact ⟨low, by rwa [List.getElem?_append_left inside]⟩
    · refine ⟨by omega, ?_⟩
      rwa [List.getElem?_append_right (by omega), Nat.sub_sub]
  · rintro ⟨low, byte⟩
    by_cases inside : a - dest < first.length
    · rw [List.getElem?_append_left inside] at byte
      exact .inl ⟨low, byte⟩
    · rw [List.getElem?_append_right (by omega), Nat.sub_sub] at byte
      exact .inr ⟨by omega, byte⟩

/-- Agreement on data splits into agreement on its first part and, once that is
written, on the rest. -/
theorem Agrees.split {Written : Nat → Byte → Prop} {target : Target} {dest : Nat} {first second : List Byte}
    (agrees : Agrees layout Written target dest (first ++ second)) :
    Agrees layout Written target dest first ∧
      Agrees layout (extend Written dest first) target (dest + first.length) second := by
  have total : (first ++ second).length = first.length + second.length := List.length_append
  constructor
  · intro a v written low high
    refine (agrees a v written low (by omega)).imp_right fun byte => ?_
    rwa [List.getElem?_append_left (by omega)] at byte
  · rintro a v (written | ⟨-, byte⟩) low high
    · refine (agrees a v written (by omega) (by omega)).imp_right fun byte => ?_
      rwa [List.getElem?_append_right (by omega), Nat.sub_sub] at byte
    · have inside := (List.getElem?_eq_some_iff.mp byte).1
      omega

theorem bufferedWrites_result (i : Nat) {fuel dest : Nat} {src : List Byte} {result : Bool} {target : Target}
    (answered : (bufferedWrites layout env i fuel dest src result target).1 = true) : result = true := by
  induction fuel generalizing dest src result target with
  | zero =>
    simp only [bufferedWrites, Bool.and_eq_true] at answered
    exact answered.1
  | succ fuel ih =>
    rw [bufferedWrites] at answered
    split at answered
    next => exact answered
    next =>
      have both := ih answered
      rw [Bool.and_eq_true] at both
      exact both.1

theorem bufferedWrites_faithful {Written : Nat → Byte → Prop} {target : Target} {i fuel dest : Nat} {src : List Byte}
    {result : Bool} {written : Bool × Target}
    (running : bufferedWrites layout env i fuel dest src result target = written) (enough : src.length ≤ fuel)
    (faithful : Faithful layout Written target) (inside : i < layout.list.length)
    (erasing : (target.state i).operation ≠ .erase) (allocated : (target.state i).buf ≠ none)
    (start : (layout.flash i).start ≤ dest)
    (finish : dest + src.length ≤ (layout.flash i).start + (layout.flash i).length)
    (agrees : Agrees layout Written target dest src) :
    (Obliging env → written.1 = result) ∧
      (written.1 = true → Faithful layout (extend Written dest src) written.2 ∧ Buffered i target written.2) := by
  have idle : Buffered i target target := ⟨fun _ _ => rfl, rfl, allocated, erasing, fun _ _ _ old => old⟩
  induction fuel generalizing Written target dest src result with
  | zero =>
    obtain rfl : src = [] := List.length_eq_zero_iff.mp (Nat.le_zero.mp enough)
    rw [extend_nil, ← running]
    exact ⟨fun _ => by simp [bufferedWrites], fun _ => ⟨faithful, idle⟩⟩
  | succ fuel ih =>
    rw [bufferedWrites] at running
    split at running
    next empty =>
      subst empty running
      rw [extend_nil]
      exact ⟨fun _ => rfl, fun _ => ⟨faithful, idle⟩⟩
    next nonempty =>
      dsimp only at running
      have valid := flash_valid layout inside
      have bounded := valid.bounded
      have positive := List.length_pos_iff.mpr nonempty
      obtain ⟨⟨k, -, power⟩, -⟩ := writebufsize_power valid
      have offset := Nat.mod_lt dest (power ▸ Nat.two_pow_pos k : 0 < (layout.flash i).writebufsize)
      generalize size : min ((layout.flash i).writebufsize - dest % (layout.flash i).writebufsize) src.length =
        localLen at running
      have takes : (src.take localLen).length = localLen := by
        rw [List.length_take]
        omega
      have drops : (src.drop localLen).length = src.length - localLen := List.length_drop
      have piece : Chunk (layout.flash i) dest (src.take localLen) := by
        constructor
        · rw [ne_eq, ← List.length_eq_zero_iff]
          omega
        · omega
        · exact start
        · omega
      rw [← List.take_append_drop localLen src] at agrees
      obtain ⟨agreesHere, agreesRest⟩ := agrees.split
      rw [add32_of_lt (by omega)] at running
      generalize passing : setupBuffer layout env i (alignDown dest (layout.flash i).writebufsize) target =
        setup at running
      obtain ⟨answer, copied⟩ := chunk_faithful passing faithful inside erasing allocated piece agreesHere
      cases ready : setup.1 with
      | false =>
        refine ⟨fun obliging => absurd (answer obliging) (by simp [ready]), fun answered => ?_⟩
        rw [← running] at answered
        have both := bufferedWrites_result i answered
        simp [ready] at both
      | true =>
        obtain ⟨faithfulNext, buffered⟩ := copied ready
        rw [takes] at agreesRest
        rw [ready, Bool.and_true] at running
        obtain ⟨answerRest, rest⟩ := ih running (by omega) faithfulNext buffered.operation buffered.buf (by omega)
          (by omega) (agreesRest.mono buffered.kept)
          ⟨fun _ _ => rfl, rfl, buffered.buf, buffered.operation, fun _ _ _ old => old⟩
        refine ⟨answerRest, fun answered => ?_⟩
        obtain ⟨final, last⟩ := rest answered
        have whole := extend_append Written dest (src.take localLen) (src.drop localLen)
        rw [takes, List.take_append_drop] at whole
        rw [whole] at final
        exact ⟨final, buffered.trans last⟩

/-- No region is left in the middle of an erase. -/
def Resting (target : Target) : Prop := ∀ i, (target.state i).operation ≠ .erase

theorem Resting.of_others {target next : Target} {i : Nat} (resting : Resting target)
    (others : ∀ j, j ≠ i → next.state j = target.state j) (here : (next.state i).operation ≠ .erase) :
    Resting next := by
  intro j
  by_cases same : j = i
  · rwa [same]
  · rw [others j same]
    exact resting j

/-- What every step of the write path keeps. -/
structure Keeps (layout : Layout) (Written : Nat → Byte → Prop) (target next : Target) : Prop where
  faithful : Faithful layout Written next
  resting : Resting next
  mode : next.flashMode = target.flashMode
  kept : ∀ j a v, Delivered target.calls j a v → Delivered next.calls j a v

theorem Keeps.refl {Written : Nat → Byte → Prop} {target : Target} (faithful : Faithful layout Written target)
    (resting : Resting target) : Keeps layout Written target target :=
  ⟨faithful, resting, rfl, fun _ _ _ old => old⟩

theorem Keeps.trans {Written Next : Nat → Byte → Prop} {first second third : Target}
    (one : Keeps layout Written first second) (two : Keeps layout Next second third) : Keeps layout Next first third :=
  ⟨two.faithful, two.resting, two.mode.trans one.mode, fun j a v old => two.kept j a v (one.kept j a v old)⟩

theorem flushDone_keeps {Written : Nat → Byte → Prop} {target : Target} {i : Nat} {next : Bool × Target}
    (running : flushDone layout env i target = next) (faithful : Faithful layout Written target)
    (resting : Resting target) (inside : i < layout.list.length) :
    Keeps layout Written target next.2 ∧ (∀ j, j ≠ i → next.2.state j = target.state j) ∧
      (next.1 = true → Clean (next.2.state i)) ∧ (Obliging env → next.1 = true) := by
  rw [flushDone] at running
  have flush : Flushed layout env Written i target (flashBufferedFlush layout env i target) :=
    flashBufferedFlush_flushed faithful inside (resting i)
  generalize flashBufferedFlush layout env i target = flushed at flush running
  obtain ⟨tends, operation, -, answer⟩ := flashDone_tends layout env i flushed.2
  obtain ⟨final, clean⟩ : Faithful layout Written (flashDone layout env i flushed.2).2 ∧ _ :=
    flashDone_faithful flush.faithful inside (flush.settled.imp_right And.right)
  subst running
  have others : ∀ j, j ≠ i → (flashDone layout env i flushed.2).2.state j = target.state j :=
    fun j other => (tends.others j other).trans (flush.others j other)
  refine ⟨⟨final, resting.of_others others (by simp [operation]), tends.mode.trans flush.mode, fun j a v old => ?_⟩,
    others, fun answered => ?_, fun obliging => ?_⟩
  · exact (delivered_congr tends.writes j a v).mpr (flush.kept j a v old)
  · rw [Bool.and_eq_true] at answered
    rcases flush.settled with settled | ⟨failed, -⟩
    · exact clean settled
    · rw [answered.1] at failed
      cases failed
  · rw [flush.answer obliging, answer obliging, Bool.and_true]

theorem flashForAddr_some {addr i : Nat} (found : targetFlashForAddr layout addr = some i) :
    i < layout.list.length ∧ (layout.flash i).contains addr = true := by
  obtain ⟨inside, holds, -⟩ := List.findIdx?_eq_some_iff_getElem.mp found
  refine ⟨inside, ?_⟩
  rw [Regions.flash, List.getElem?_eq_getElem inside]
  exact holds

theorem flashForAddr_none {addr i : Nat} (missing : targetFlashForAddr layout addr = none)
    (inside : i < layout.list.length) : (layout.flash i).contains addr = false := by
  have absent := List.findIdx?_eq_none_iff.mp missing _ (List.getElem_mem inside)
  rw [Regions.flash, List.getElem?_eq_getElem inside]
  exact absent

theorem evictOthers_keeps {Written : Nat → Byte → Prop} {dest : Nat} {indices : List Nat} {result : Bool}
    {active : Option Nat} {target : Target} {out : Bool × Option Nat × Target}
    (running : evictOthers layout env dest indices result active target = out)
    (members : ∀ i ∈ indices, i < layout.list.length) (faithful : Faithful layout Written target)
    (resting : Resting target) :
    Keeps layout Written target out.2.2 ∧ (Obliging env → out.1 = result) ∧
      (∀ i, out.2.1 = some i → active = some i ∨ i ∈ indices) ∧
      (∀ i ∈ indices, (layout.flash i).contains dest = true → out.2.1 ≠ none) ∧ (active ≠ none → out.2.1 ≠ none) := by
  induction indices generalizing result active target with
  | nil =>
    subst running
    exact ⟨.refl faithful resting, fun _ => rfl, fun i found => .inl found, by simp, id⟩
  | cons i rest ih =>
    have memberRest : ∀ j ∈ rest, j < layout.list.length := fun j member => members j (List.mem_cons_of_mem i member)
    rw [evictOthers] at running
    split at running
    next here =>
      obtain ⟨keeps, answer, found, some, sticks⟩ := ih running memberRest faithful resting
      refine ⟨keeps, answer, fun j result => ?_, fun _ _ _ => sticks (by simp), fun _ => sticks (by simp)⟩
      rcases found j result with first | later
      · exact .inr (List.mem_cons.mpr (.inl (Option.some.inj first).symm))
      · exact .inr (List.mem_cons_of_mem i later)
    next elsewhere =>
      have continues : ∀ {middle : Target} {outcome : Bool}, Keeps layout Written target middle →
          (Obliging env → outcome = result) → evictOthers layout env dest rest outcome active middle = out →
          Keeps layout Written target out.2.2 ∧ (Obliging env → out.1 = result) ∧
            (∀ j, out.2.1 = some j → active = some j ∨ j ∈ i :: rest) ∧
            (∀ j ∈ i :: rest, (layout.flash j).contains dest = true → out.2.1 ≠ none) ∧
            (active ≠ none → out.2.1 ≠ none) := by
        intro middle outcome first same running
        obtain ⟨keeps, answer, found, some, sticks⟩ := ih running memberRest first.faithful first.resting
        refine ⟨first.trans keeps, fun obliging => (answer obliging).trans (same obliging), fun j result => ?_,
          fun j member place => ?_, sticks⟩
        · exact (found j result).imp_right (List.mem_cons_of_mem i)
        · rcases List.mem_cons.mp member with rfl | later
          · exact absurd place elsewhere
          · exact some j later place
      split at running
      next buffered =>
        generalize passing : flushDone layout env i target = flushed at running
        obtain ⟨keeps, -, -, answer⟩ := flushDone_keeps passing faithful resting (members i List.mem_cons_self)
        exact continues keeps (fun obliging => by rw [answer obliging, Bool.and_true]) running
      next => exact continues (.refl faithful resting) (fun _ => rfl) running

/-- The heap never runs out. -/
def Generous (env : Environment) : Prop := ∀ calls size, env.answer (calls ++ [.malloc size]) = true

theorem flashBufferAlloc_keeps {Written : Nat → Byte → Prop} {target : Target} {i : Nat} {next : Bool × Target}
    (running : flashBufferAlloc layout env i target = next) (faithful : Faithful layout Written target)
    (resting : Resting target) (inside : i < layout.list.length) (unallocated : (target.state i).buf = none) :
    Keeps layout Written target next.2 ∧ (next.1 = true → (next.2.state i).buf ≠ none) ∧
      (Generous env → next.1 = true) := by
  rw [flashBufferAlloc] at running
  generalize asking : target.ask env (.malloc (layout.flash i).writebufsize) = asked at running
  have silent : Silent target asked.2 := asking ▸ ask_silent target rfl
  have empty : Clean (target.state i) := .inl unallocated
  have keeps : ∀ {state : FlashState}, Clean state → state.operation = (target.state i).operation →
      Keeps layout Written target (asked.2.put i state) := by
    intro state clean operation
    have tends : Tends i target (asked.2.put i state) := (silent.tends i).trans (put_tends _ _ _)
    refine ⟨tends.faithful inside faithful ?_ ?_, resting.of_others tends.others ?_, tends.mode, fun j a v old => ?_⟩
    · rw [put_state]
      exact .clean clean
    · intro a v
      rw [put_state]
      exact iff_of_false (clean.not_holding a v) (empty.not_holding a v)
    · rw [put_state, operation]
      exact resting i
    · exact (delivered_congr tends.writes j a v).mpr old
  split at running
  next granted =>
    subst running
    exact ⟨keeps (.inr ⟨rfl, rfl, rfl⟩) (by rw [silent.state]), fun _ => by simp, fun _ => rfl⟩
  next refused =>
    subst running
    refine ⟨keeps (.inl rfl) (by rw [silent.state]), by simp, fun generous => ?_⟩
    exact absurd (asking ▸ generous target.calls _) refused

/-- Every address of a range belongs to some region. -/
def Mapped (layout : Layout) (dest len : Nat) : Prop :=
  ∀ a, dest ≤ a → a < dest + len → ∃ i < layout.list.length, (layout.flash i).contains a = true

theorem writeRegions_keeps {Written : Nat → Byte → Prop} {fuel active dest : Nat} {src : List Byte} {target : Target}
    {written : Bool × Target} (running : writeRegions layout env fuel active dest src target = written)
    (enough : src.length ≤ fuel) (listed : active < layout.list.length) (fits : dest + src.length < 2 ^ 32)
    (faithful : Faithful layout Written target) (resting : Resting target)
    (agrees : Agrees layout Written target dest src) :
    (written.1 = true → Keeps layout (extend Written dest src) target written.2) ∧
      (Obliging env → Generous env → Mapped layout dest src.length → written.1 = true) := by
  induction fuel generalizing Written active dest src target with
  | zero =>
    obtain rfl : src = [] := List.length_eq_zero_iff.mp (Nat.le_zero.mp enough)
    subst running
    rw [extend_nil]
    exact ⟨fun _ => .refl faithful resting, fun _ _ _ => rfl⟩
  | succ fuel ih =>
    rw [writeRegions] at running
    split at running
    next empty =>
      subst empty running
      rw [extend_nil]
      exact ⟨fun _ => .refl faithful resting, fun _ _ _ => rfl⟩
    next nonempty =>
      have positive := List.length_pos_iff.mpr nonempty
      split at running
      next missing =>
        subst running
        refine ⟨by simp, fun _ _ mapped => ?_⟩
        obtain ⟨i, inside, place⟩ := mapped dest (Nat.le_refl _) (by omega)
        rw [flashForAddr_none missing inside] at place
        cases place
      next i found =>
        obtain ⟨inside, place⟩ := flashForAddr_some found
        have valid := flash_valid layout inside
        obtain ⟨start, finish⟩ := (contains_iff valid dest).mp place
        have bounded := valid.bounded
        dsimp only at running
        obtain ⟨left, leaving, leaves, leftAnswer⟩ : ∃ left,
            (if i ≠ active then flushDone layout env active target else (true, target)) = left ∧
              Keeps layout Written target left.2 ∧ (Obliging env → left.1 = true) := by
          refine ⟨_, rfl, ?_⟩
          split
          next =>
            obtain ⟨keeps, -, -, answer⟩ := flushDone_keeps rfl faithful resting listed
            exact ⟨keeps, answer⟩
          next => exact ⟨.refl faithful resting, fun _ => rfl⟩
        rw [leaving] at running
        obtain ⟨alloc, allocating, allocates, allocated, allocAnswer⟩ : ∃ alloc,
            (if (left.2.state i).buf.isNone then flashBufferAlloc layout env i left.2 else (true, left.2)) = alloc ∧
              Keeps layout Written left.2 alloc.2 ∧ (alloc.1 = true → (alloc.2.state i).buf ≠ none) ∧
              (Generous env → alloc.1 = true) := by
          refine ⟨_, rfl, ?_⟩
          split
          next unallocated =>
            exact flashBufferAlloc_keeps rfl leaves.faithful leaves.resting inside (Option.isNone_iff_eq_none.mp unallocated)
          next allocated =>
            exact ⟨.refl leaves.faithful leaves.resting,
              fun _ => fun none => allocated (Option.isNone_iff_eq_none.mpr none), fun _ => rfl⟩
        rw [allocating] at running
        have before := leaves.trans allocates
        split at running
        next failed =>
          subst running
          refine ⟨by simp, fun obliging generous _ => ?_⟩
          rw [leftAnswer obliging, allocAnswer generous] at failed
          simp at failed
        next ready =>
          have both : left.1 = true ∧ alloc.1 = true := by simpa using ready
          generalize ending : min (add32 dest src.length) (add32 (layout.flash i).start (layout.flash i).length) =
            localEndAddr at running
          rw [add32_of_lt fits, add32_of_lt bounded] at ending
          rw [sub32_of_le (by omega) (by omega)] at running
          have takes : (src.take (localEndAddr - dest)).length = localEndAddr - dest := by
            rw [List.length_take]
            omega
          have drops : (src.drop (localEndAddr - dest)).length = src.length - (localEndAddr - dest) := List.length_drop
          have whole := extend_append Written dest (src.take (localEndAddr - dest)) (src.drop (localEndAddr - dest))
          have agreement := agrees.mono before.kept
          rw [← List.take_append_drop (localEndAddr - dest) src] at agreement
          obtain ⟨agreesHere, agreesRest⟩ := agreement.split
          rw [takes] at whole agreesRest
          have reached : dest + (localEndAddr - dest) = localEndAddr := by omega
          rw [reached] at whole agreesRest
          rw [List.take_append_drop] at whole
          generalize passing : flashBufferedWrite layout env i dest (src.take (localEndAddr - dest)) alloc.2 =
            buffered at running
          rw [flashBufferedWrite] at passing
          obtain ⟨answer, success⟩ := bufferedWrites_faithful passing (Nat.le_refl _) before.faithful inside
            (before.resting i) (allocated both.2) start (by omega) agreesHere
          split at running
          next failed =>
            subst running
            refine ⟨by simp, fun obliging _ _ => ?_⟩
            rw [answer obliging] at failed
            simp at failed
          next done =>
            have done : buffered.1 = true := by simpa using done
            obtain ⟨faithfulNext, frame⟩ := success done
            have keeps : Keeps layout _ alloc.2 buffered.2 :=
              ⟨faithfulNext, before.resting.of_others frame.others frame.operation, frame.mode, frame.kept⟩
            obtain ⟨rest, restAnswer⟩ := ih running (by omega) inside (by omega) faithfulNext keeps.resting
              (agreesRest.mono frame.kept)
            refine ⟨fun answered => ?_, fun obliging generous mapped => ?_⟩
            · have final := rest answered
              rw [whole] at final
              exact before.trans (keeps.trans final)
            · exact restAnswer obliging generous fun a low high => mapped a (by omega) (by omega)

theorem Faithful.flashMode {Written : Nat → Byte → Prop} {target : Target} (faithful : Faithful layout Written target)
    (mode : Bool) : Faithful layout Written { target with flashMode := mode } :=
  ⟨faithful.fault, faithful.sound, faithful.complete, faithful.delivered, faithful.held⟩

/-- Entering flash mode calls one callback at most, which hands over no data. -/
private theorem enterFlashMode_asks (env : Environment) (target : Target) :
    ∃ asked : Bool × Target, Silent target asked.2 ∧ (Obliging env → asked.1 = true) ∧
      targetEnterFlashMode env target =
        if target.flashMode then (true, target)
        else if asked.1 then (true, { asked.2 with flashMode := true }) else (false, asked.2) := by
  refine ⟨_, ?_, ?_, rfl⟩
  · split
    next => exact ask_silent target rfl
    next =>
      split
      next =>
        have silent : Silent target (target.ask env .reset).2 := ask_silent target rfl
        exact silent
      next => exact .refl target
  · intro obliging
    split
    next => exact ask_obliging obliging target (by simp)
    next => split <;> rfl

theorem enterFlashMode_keeps {Written : Nat → Byte → Prop} {target : Target} {entered : Bool × Target}
    (running : targetEnterFlashMode env target = entered) (faithful : Faithful layout Written target)
    (resting : Resting target) :
    Faithful layout Written entered.2 ∧ Resting entered.2 ∧ entered.2.state = target.state ∧
      (∀ j a v, Delivered target.calls j a v → Delivered entered.2.calls j a v) ∧
      (entered.1 = true → entered.2.flashMode = true) ∧ (Obliging env → entered.1 = true) := by
  obtain ⟨asked, silent, answer, shape⟩ := enterFlashMode_asks env target
  have kept : ∀ j a v, Delivered target.calls j a v → Delivered asked.2.calls j a v :=
    fun j a v old => (delivered_congr silent.writes j a v).mpr old
  have rest : Resting asked.2 := by
    intro j
    rw [silent.state]
    exact resting j
  rw [shape] at running
  split at running
  next already =>
    subst running
    exact ⟨faithful, resting, rfl, fun _ _ _ old => old, fun _ => already, fun _ => rfl⟩
  next =>
    split at running
    next =>
      subst running
      exact ⟨Faithful.flashMode (silent.faithful faithful) true, rest, silent.state, kept, fun _ => rfl, fun _ => rfl⟩
    next refused =>
      subst running
      exact ⟨silent.faithful faithful, rest, silent.state, kept, by simp, fun obliging => absurd (answer obliging) refused⟩

/-- The target after a call of the flash layer that has accounted for all bytes. -/
structure Accounted (layout : Layout) (env : Environment) (Written : Nat → Byte → Prop) (target next : Target) :
    Prop where
  faithful : Faithful layout Written next
  resting : Resting next
  kept : ∀ j a v, Delivered target.calls j a v → Delivered next.calls j a v
  mode : Obliging env → next.flashMode = true

/-- A write that is acknowledged is accounted for; an empty one changes nothing; and
one that can succeed does. -/
theorem targetFlashWrite_accounted {Written : Nat → Byte → Prop} {dest : Nat} {src : List Byte} {target : Target}
    {written : Bool × Target} (running : targetFlashWrite layout env dest src target = written)
    (fits : dest + src.length < 2 ^ 32) (faithful : Faithful layout Written target) (resting : Resting target)
    (agrees : Agrees layout Written target dest src) :
    (written.1 = true ∨ src = [] → Accounted layout env (extend Written dest src) target written.2) ∧
    (Obliging env → Generous env → src ≠ [] → Mapped layout dest src.length → written.1 = true) := by
  rw [targetFlashWrite] at running
  generalize entering : targetEnterFlashMode env target = entered at running
  obtain ⟨entry, rest, -, entryKept, mode, answer⟩ := enterFlashMode_keeps entering faithful resting
  have accounted : ∀ {Next : Nat → Byte → Prop} {next : Target}, Keeps layout Next entered.2 next →
      Accounted layout env Next target next := fun keeps =>
    ⟨keeps.faithful, keeps.resting, fun j a v old => keeps.kept j a v (entryKept j a v old),
      fun obliging => keeps.mode.trans (mode (answer obliging))⟩
  have unwritten : ∀ {next : Target}, Keeps layout Written entered.2 next → src = [] →
      Accounted layout env (extend Written dest src) target next := by
    rintro next keeps rfl
    rw [extend_nil]
    exact accounted keeps
  split at running
  next refused =>
    subst running
    refine ⟨fun outcome => unwritten (.refl entry rest) (by simpa using outcome), fun obliging => ?_⟩
    simp [answer obliging] at refused
  next =>
    generalize evicting : evictOthers layout env dest (List.range layout.list.length) true none entered.2 = out at running
    obtain ⟨keeps, result, found, present, -⟩ := evictOthers_keeps evicting (by simp) entry rest
    obtain ⟨outcome, active, evicted⟩ := out
    cases active with
    | none =>
      dsimp only at running keeps result found present
      subst running
      refine ⟨fun outcome => unwritten keeps (by simpa using outcome), fun _ _ nonempty mapped => ?_⟩
      have positive := List.length_pos_iff.mpr nonempty
      obtain ⟨i, inside, place⟩ := mapped dest (Nat.le_refl _) (by omega)
      exact absurd rfl (present i (List.mem_range.mpr inside) place)
    | some active =>
      dsimp only at running keeps result found present
      have listed : active < layout.list.length := by simpa using found active rfl
      split at running
      next =>
        obtain ⟨success, writeAnswer⟩ := writeRegions_keeps running (Nat.le_refl _) listed fits keeps.faithful
          keeps.resting (agrees.mono fun j a v old => keeps.kept j a v (entryKept j a v old))
        refine ⟨fun outcome => ?_, fun obliging generous _ mapped => writeAnswer obliging generous mapped⟩
        rcases outcome with answered | rfl
        · exact accounted (keeps.trans (success answered))
        · obtain rfl : (true, evicted) = written := by simpa [writeRegions] using running
          exact unwritten keeps rfl
      next refused =>
        subst running
        refine ⟨fun outcome => unwritten keeps (by simpa using outcome), fun obliging => ?_⟩
        exact absurd (result obliging) refused

/-- Completing a run flushes every buffer. -/
theorem completeRegions_keeps {Written : Nat → Byte → Prop} {indices : List Nat} {result : Bool} {target : Target}
    {next : Bool × Target} (running : completeRegions layout env indices result target = next)
    (members : ∀ i ∈ indices, i < layout.list.length) (distinct : indices.Nodup)
    (faithful : Faithful layout Written target) (resting : Resting target) :
    Keeps layout Written target next.2 ∧ (∀ j ∉ indices, next.2.state j = target.state j) ∧
      (next.1 = true → result = true ∧ ∀ i ∈ indices, Clean (next.2.state i)) ∧ (Obliging env → next.1 = result) := by
  induction indices generalizing result target with
  | nil =>
    subst running
    exact ⟨.refl faithful resting, fun _ _ => rfl, fun answered => ⟨answered, by simp⟩, fun _ => rfl⟩
  | cons i rest ih =>
    rw [completeRegions] at running
    generalize passing : flushDone layout env i target = flushed at running
    obtain ⟨first, others, clean, answer⟩ :=
      flushDone_keeps passing faithful resting (members i List.mem_cons_self)
    obtain ⟨new, distinctRest⟩ := List.nodup_cons.mp distinct
    obtain ⟨keeps, unchanged, success, restAnswer⟩ := ih running
      (fun j member => members j (List.mem_cons_of_mem i member)) distinctRest first.faithful first.resting
    refine ⟨first.trans keeps, fun j outside => ?_, fun answered => ?_, fun obliging => ?_⟩
    · rw [List.mem_cons, not_or] at outside
      rw [unchanged j outside.2, others j outside.1]
    · obtain ⟨both, cleanRest⟩ := success answered
      rw [Bool.and_eq_true] at both
      refine ⟨both.1, fun j member => ?_⟩
      rcases List.mem_cons.mp member with rfl | later
      · rw [unchanged j new]
        exact clean both.2
      · exact cleanRest j later
    · rw [restAnswer obliging, answer obliging, Bool.and_true]

private theorem exitFlashMode_writes (env : Environment) (target : Target) :
    writesOf (targetExitFlashMode env target).2.calls = writesOf target.calls := by
  have silent : ∀ call, handedBy call = none → writesOf (target.ask env call).2.calls = writesOf target.calls :=
    fun call quiet => (ask_silent target quiet).writes
  simp only [targetExitFlashMode]
  split
  next => rfl
  next =>
    split
    next => exact silent _ rfl
    next =>
      split
      next => exact silent _ rfl
      next => rfl

/-- After a completion that is acknowledged every written byte is with its driver. -/
theorem targetFlashComplete_handed {Written : Nat → Byte → Prop} {target : Target} {next : Bool × Target}
    (running : targetFlashComplete layout env target = next) (faithful : Faithful layout Written target)
    (resting : Resting target) :
    (next.1 = true → ∀ a v, Written a v → Handed layout next.2.calls a v) ∧
      (∀ i a v, Delivered next.2.calls i a v → i < layout.list.length ∧ (layout.flash i).contains a = true ∧
        (v = (layout.flash i).erased ∨ Written a v)) ∧
      (Obliging env → target.flashMode = true → next.1 = true) := by
  rw [targetFlashComplete] at running
  split at running
  next idle =>
    subst running
    exact ⟨by simp, faithful.delivered, fun _ mode => by simp [mode] at idle⟩
  next =>
    generalize passing : completeRegions layout env (List.range layout.list.length) true target = completed at running
    obtain ⟨keeps, -, success, answer⟩ := completeRegions_keeps passing (by simp) List.nodup_range faithful resting
    have writes := exitFlashMode_writes env completed.2
    subst running
    refine ⟨fun answered a v written => ?_, fun i a v new => ?_, fun obliging _ => answer obliging⟩
    · rw [handed_congr writes]
      rcases keeps.faithful.complete a v written with handed | ⟨i, inside, -, holding⟩
      · exact handed
      · exact absurd holding (((success answered).2 i (List.mem_range.mpr inside)).not_holding a v)
    · exact keeps.faithful.delivered i a v ((delivered_congr writes i a v).mp new)

end BlackMagic.Proofs.FlashWrite

import BlackMagic.FlashDrivers
import BlackMagic.Proofs.FlashWindow

/-! The bytes around a write. What a flush writes beside the data of the writes is the
region's `erased` byte, so that padding leaves erased flash as it is only where the
driver has set that byte. -/

namespace BlackMagic.Proofs.FlashPadding
open BlackMagic.Flash BlackMagic.FlashDrivers Lib.Words FlashBuffer FlashFaithful FlashRuns FlashSteps FlashResults FlashWindow
open FlashWrite (Generous)

variable {layout : Regions} {env : Environment} {write : Nat × List Byte} {target next : Target} {i : Nat}
  {Covered : Nat → Prop}

/-- A write of a flush carries the erased byte for every address that no write covers. -/
def Pads (layout : Regions) (Covered : Nat → Prop) : Call → Prop
  | .write i dest _ data => ∀ k v, data[k]? = some v → ¬ Covered (dest + k) → v = (layout.flash i).erased
  | _ => True

/-- A buffer holds the erased byte for every address that no write covers. -/
def Blank (flash : TargetFlash) (Covered : Nat → Prop) (state : FlashState) : Prop :=
  ∀ buf, state.buf = some buf → state.bufAddrBase ≠ uint32Max → ∀ j < flash.writebufsize,
    ¬ Covered (state.bufAddrBase + j) → buf j = flash.erased

structure Padded (layout : Regions) (Covered : Nat → Prop) (target : Target) : Prop where
  blank : ∀ i < layout.list.length, (target.state i).buf.isSome → Blank (layout.flash i) Covered (target.state i)
  calls : ∀ call ∈ target.calls, Pads layout Covered call

/-- All addresses of a write are covered. -/
def Covers (Covered : Nat → Prop) (write : Nat × List Byte) : Prop :=
  ∀ k < write.2.length, Covered (add32 write.1 k)

theorem Pads.plain {call : Call} (plain : Plain call) : Pads layout Covered call := by
  cases call with
  | write => exact plain.elim
  | _ => trivial

theorem flushed_pads (shaped : Shaped layout) (listed : i < layout.list.length) {state : FlashState} {offset : Nat}
    {buf : Buffer} (window : Window (layout.flash i).writebufsize state) (blank : Blank (layout.flash i) Covered state)
    (held : state.buf = some buf) (filled : Filled state) (multiple : (layout.flash i).writesize ∣ offset)
    (more : offset < sub32 state.bufAddrHigh (alignDown state.bufAddrLow (layout.flash i).writesize)) :
    Pads layout Covered (flushed layout i state buf offset) := by
  obtain ⟨place, source, low, -, -, -, -⟩ := flushed_place shaped listed window filled multiple more rfl
  have room : InBuffer layout (flushed layout i state buf offset) := flushed_inBuffer shaped listed window filled multiple more
  simp only [flushed, InBuffer, place, source, List.length_map, List.length_range] at room
  simp only [flushed, Pads, place, source]
  intro k v byte uncovered
  have inside : k < (layout.flash i).writesize := by
    have short := (List.getElem?_eq_some_iff.mp byte).1
    simpa using short
  rw [List.getElem?_map, List.getElem?_range inside] at byte
  obtain rfl := Option.some.inj byte
  apply blank buf held filled.1
  · omega
  · have same : state.bufAddrBase + (alignDown state.bufAddrLow (layout.flash i).writesize - state.bufAddrBase + (offset + k)) =
        alignDown state.bufAddrLow (layout.flash i).writesize + offset + k := by omega
    rwa [same]

theorem copy_blank (shaped : Shaped layout) (listed : i < layout.list.length) {dest : Nat} {chunk : List Byte}
    {state : FlashState} {buf : Buffer} (held : state.buf = some buf) (blank : Blank (layout.flash i) Covered state)
    (covers : Covers Covered write) (piece : Piece layout write i dest chunk)
    (block : state.bufAddrBase = alignDown dest (layout.flash i).writebufsize) :
    Blank (layout.flash i) Covered { state with
      buf := some fun j => if dest % (layout.flash i).writebufsize ≤ j then
        chunk[j - dest % (layout.flash i).writebufsize]?.getD (buf j) else buf j
      bufAddrLow := min state.bufAddrLow dest
      bufAddrHigh := max state.bufAddrHigh (add32 dest chunk.length) } := by
  obtain ⟨-, fits, offset, short, -, -⟩ := Piece.place shaped listed piece rfl block
  obtain ⟨skipped, within, place, -⟩ := piece.part
  rintro copied new base j inside uncovered
  obtain rfl := Option.some.inj new
  have old := blank buf held base j inside uncovered
  by_cases below : dest % (layout.flash i).writebufsize ≤ j
  · simp only [below, if_true]
    have gone : chunk[j - dest % (layout.flash i).writebufsize]? = none := by
      rw [List.getElem?_eq_none_iff]
      by_contra carried
      apply uncovered
      have exact : state.bufAddrBase + j = add32 write.1 (skipped + (j - dest % (layout.flash i).writebufsize)) := by
        rw [add32] at place ⊢
        omega
      dsimp only
      rw [exact]
      exact covers _ (by omega)
    rw [gone]
    exact old
  · simp only [below, if_false]
    exact old

theorem step_padded (shaped : Shaped layout) (covers : Covers Covered write) (windowed : Windowed layout target)
    (padded : Padded layout Covered target) (step : Step layout env write target next) : Padded layout Covered next := by
  obtain ⟨window, -⟩ := windowed
  obtain ⟨blank, calls⟩ := padded
  cases step with
  | enter outside entered =>
    refine ⟨?_, enter_calls calls fun call plain => .plain plain⟩
    rw [enterFlashMode_state.1]
    exact blank
  | exit inside =>
    refine ⟨?_, exit_calls calls fun call plain => .plain plain⟩
    rw [exitFlashMode_state.1]
    exact blank
  | @done i listed busy agreed =>
    refine ⟨put_regions (by simpa using blank) fun _ held => ?_, noted_calls calls trivial⟩
    cases held
  | @prepare i operation listed idle other filled agreed =>
    exact ⟨put_regions (by simpa using blank) fun _ held => blank i listed held, noted_calls calls trivial⟩
  | erase listed place erasing agreed => exact ⟨blank, noted_calls calls trivial⟩
  | malloc listed free fresh =>
    refine ⟨put_regions (by simpa using blank) fun _ _ => ?_, noted_calls calls trivial⟩
    exact fun buf _ unset => absurd rfl unset
  | @write i offset buf listed writing held filled multiple more agreed =>
    have some : (target.state i).buf.isSome := by rw [held]; rfl
    have pads := flushed_pads shaped listed (window i listed some) (blank i listed some) held filled multiple more
    exact ⟨blank, noted_calls calls pads⟩
  | emptied listed writing held =>
    exact ⟨put_regions blank fun _ _ => (fun buf _ unset => absurd rfl unset), calls⟩
  | @setup i dest buf listed held unfilled =>
    refine ⟨put_regions blank fun _ _ => ?_, calls⟩
    rintro fresh new - j inside -
    obtain rfl := Option.some.inj new
    simp only [inside, if_true]
  | @copy i dest chunk listed held block piece =>
    obtain ⟨buf, present⟩ := Option.isSome_iff_exists.mp held
    rw [copyChunk_put present]
    exact ⟨put_regions (by simpa using blank) fun _ _ => copy_blank shaped listed present (blank i listed held) covers piece block,
      noted_calls calls trivial⟩

theorem steps_padded (shaped : Shaped layout) (covers : Covers Covered write) (windowed : Windowed layout target)
    (padded : Padded layout Covered target) (steps : Steps layout env write target next) : Padded layout Covered next := by
  induction steps with
  | refl => exact padded
  | tail before step ih => exact step_padded shaped covers (steps_windowed shaped windowed before) ih step

theorem session_padded (shaped : Shaped layout) {requests : List Request}
    (session : Session layout env Target.probed requests target)
    (covers : ∀ dest data, .write dest data ∈ requests → Covers Covered (dest, data)) : Padded layout Covered target := by
  induction session with
  | start => exact ⟨(fun _ _ never => by cases never), (fun _ never => by cases never)⟩
  | @request requests request middle next session acknowledged ih =>
    have earlier := ih fun dest data member => covers dest data (List.mem_append_left _ member)
    obtain ⟨write, steps, which⟩ := perform_steps acknowledged
    refine steps_padded shaped ?_ (session_windowed shaped (probed_windowed layout) session) earlier steps
    rcases which with rfl | ⟨dest, data, rfl, rfl⟩
    · exact fun k never => absurd never (Nat.not_lt_zero k)
    · exact covers dest data (List.mem_append_right _ (List.mem_singleton_self _))

/-- The addresses that some writes cover. -/
def CoveredBy (writes : List (Nat × List Byte)) (a : Nat) : Prop :=
  ∃ write ∈ writes, ∃ k < write.2.length, a = add32 write.1 k

/-- The address is in a region of the flash. -/
def InFlash (layout : Regions) (a : Nat) : Prop := ∃ i < layout.list.length, (layout.flash i).contains a = true

/-- Writes into erased flash leave all bytes erased that they do not cover. -/
def Transparent (layout : Regions) : Prop :=
  ∀ (env : Environment) (writes : List (Nat × List Byte)) (target final : Target) (content : Nat → Byte),
    Session layout env Target.probed (writes.map fun write => .write write.1 write.2) target →
    targetFlashComplete layout env target = (true, final) → (∀ a, InFlash layout a → content a = 0xff#8) →
    ∀ a, InFlash layout a → ¬ CoveredBy writes a → programmed content final.calls a = 0xff#8

theorem mem_writesOf {calls : List Call} {dest : Nat} {data : List Byte} (member : (i, dest, data) ∈ writesOf calls) :
    ∃ source, .write i dest source data ∈ calls := by
  obtain ⟨call, made, handed⟩ := List.mem_filterMap.mp member
  cases call with
  | write j place source bytes =>
    cases handed
    exact ⟨source, made⟩
  | _ => cases handed

theorem transparent_of_erased (shaped : Shaped layout) (blank : ∀ i < layout.list.length, (layout.flash i).erased = 0xff#8) :
    Transparent layout := by
  intro env writes target final content session completed erased a inFlash uncovered
  rw [programmed_untouched, erased a inFlash]
  rintro i w ⟨dest, data, member, low, byte⟩
  obtain ⟨source, made⟩ := mem_writesOf member
  have earlier : Padded layout (CoveredBy writes) target := by
    apply session_padded shaped session
    intro dest data member k short
    obtain ⟨write, listed, same⟩ := List.mem_map.mp member
    cases same
    exact ⟨write, listed, k, short, rfl⟩
  have windowed := session_windowed shaped (probed_windowed layout) session
  have steps : Steps layout env (0, []) target final := targetFlashComplete_steps completed rfl
  have nothing : Covers (CoveredBy writes) (0, []) := fun k never => absurd never (Nat.not_lt_zero k)
  have padded := steps_padded shaped nothing windowed earlier steps
  obtain ⟨listed, -⟩ := (steps_windowed shaped windowed steps).calls _ made
  rw [padded.calls _ made (a - dest) w byte (by rwa [Nat.add_sub_cancel' low]), blank i listed]

/-- Programming only clears bits. -/
theorem programmed_shrinks {calls : List Call} {content : Nat → Byte} {a : Nat} {v : Byte}
    (cleared : content a &&& v = content a) : programmed content calls a &&& v = programmed content calls a := by
  induction calls generalizing content with
  | nil => exact cleared
  | cons call calls ih =>
    apply ih
    cases call with
    | write j dest source data =>
      simp only [program]
      split
      · generalize data[a - dest]?.getD 0xff#8 = byte
        rw [BitVec.and_assoc, BitVec.and_comm byte v, ← BitVec.and_assoc, cleared]
      · exact cleared
    | _ => exact cleared

theorem programmed_delivered {calls : List Call} {content : Nat → Byte} {a : Nat} {v : Byte}
    (delivered : Delivered calls i a v) : programmed content calls a &&& v = programmed content calls a := by
  induction calls generalizing content with
  | nil =>
    obtain ⟨dest, data, member, -⟩ := delivered
    cases member
  | cons call calls ih =>
    obtain ⟨dest, data, member, low, byte⟩ := delivered
    obtain ⟨source, made⟩ := mem_writesOf member
    rcases List.mem_cons.mp made with rfl | later
    · have cleared : program content (.write i dest source data) a = content a &&& v := by
        simp only [program, low, if_true, byte, Option.getD_some]
      have shrunk : program content (.write i dest source data) a &&& v = program content (.write i dest source data) a := by
        rw [cleared, BitVec.and_assoc, BitVec.and_self]
      exact @programmed_shrinks calls (program content (.write i dest source data)) a v shrunk
    · exact ih ⟨dest, data, List.mem_filterMap.mpr ⟨_, later, rfl⟩, low, byte⟩

/-- A byte written at the start of a region clears the erased byte's zeros in the byte behind it. -/
theorem erased_of_transparent {layout : Layout} (transparent : Transparent layout) (listed : i < layout.list.length)
    (positive : 0 < (layout.flash i).length) (paged : 2 ≤ (layout.flash i).writesize) : (layout.flash i).erased = 0xff#8 := by
  have valid := flash_valid layout listed
  have shaped : Shaped layout := ⟨fun i listed => (flash_valid layout listed).power,
    fun i listed => (flash_valid layout listed).buffered, fun i listed => (flash_valid layout listed).start,
    fun i listed => (flash_valid layout listed).length⟩
  have bounded := valid.bounded
  have long : (layout.flash i).writesize ≤ (layout.flash i).length := Nat.le_of_dvd positive valid.length
  generalize begins : (layout.flash i).start = start at *
  have here : ∀ {a}, start ≤ a → a < start + (layout.flash i).length → (layout.flash i).contains a = true := by
    intro a low high
    exact (contains_iff valid a).mpr ⟨by rwa [begins], by rwa [begins]⟩
  have obliging : Obliging willing := fun _ _ _ => rfl
  obtain ⟨fresh, resting⟩ := probed_faithful layout
  have respects : Respects layout [] Target.probed (.write start [0#8]) := by
    refine ⟨by dsimp only [List.length_singleton]; omega, ?_⟩
    rintro a v ⟨dest, data, member, -⟩
    cases member
  generalize writing : targetFlashWrite layout willing start [0#8] Target.probed = written
  obtain ⟨success, answer⟩ := FlashWrite.targetFlashWrite_accounted writing respects.1 fresh resting
    (fun _ _ none => none.elim)
  have mapped : FlashWrite.Mapped layout start 1 := fun a low high => ⟨i, listed, here low (by omega)⟩
  have acknowledged := answer obliging (fun _ _ => rfl) (by decide) mapped
  have accounted := success (.inl acknowledged)
  generalize completing : targetFlashComplete layout willing written.2 = final
  obtain ⟨-, -, completes⟩ := FlashWrite.targetFlashComplete_handed completing accounted.faithful accounted.resting
  have completed := completes obliging (accounted.mode obliging)
  have performed : perform layout willing (.write start [0#8]) Target.probed = (true, written.2) := by
    rw [perform, writing, ← acknowledged]
  have finished : targetFlashComplete layout willing written.2 = (true, final.2) := by rw [completing, ← completed]
  have session : Session layout willing Target.probed [.write start [0#8]] written.2 := .request .start performed
  have run : CarefulRun layout willing [.write start [0#8]] written.2 := .request .probed respects performed
  obtain ⟨j, inside, place, dest, data, member, low, byte⟩ :=
    careful_run_handed run finished ⟨start, [0#8], List.mem_singleton_self _, Nat.le_refl _, by rw [Nat.sub_self]; rfl⟩
  obtain ⟨source, made⟩ := mem_writesOf member
  have steps : Steps layout willing (0, []) written.2 final.2 := targetFlashComplete_steps completing completed
  have windowed := session_windowed shaped (probed_windowed layout) session
  obtain ⟨-, unit, size, -⟩ := (steps_windowed shaped windowed steps).calls _ made
  obtain rfl : j = i := by
    by_contra other
    exact regions_apart layout inside listed other start ⟨place, here (Nat.le_refl _) (by omega)⟩
  have short : start - dest < (layout.flash j).writesize := by
    have inside := (List.getElem?_eq_some_iff.mp byte).1
    omega
  have same : dest = start := by
    obtain ⟨p, first⟩ := unit
    obtain ⟨q, second⟩ := valid.start
    rw [begins] at second
    have equal : p = q := by
      apply Nat.le_antisymm
      · have below : (layout.flash j).writesize * p ≤ (layout.flash j).writesize * q := by omega
        exact Nat.le_of_mul_le_mul_left below (by omega)
      · apply Nat.lt_succ_iff.mp
        apply Nat.lt_of_mul_lt_mul_left (a := (layout.flash j).writesize)
        rw [Nat.mul_succ]
        omega
    rw [first, second, equal]
  subst same
  have covers : Covers (CoveredBy [(dest, [0#8])]) (dest, [0#8]) := fun k below =>
    ⟨(dest, [0#8]), List.mem_singleton_self _, k, below, rfl⟩
  have earlier : Padded layout (CoveredBy [(dest, [0#8])]) written.2 := by
    apply session_padded shaped session
    intro place bytes member
    cases List.mem_singleton.mp member
    exact covers
  have nothing : Covers (CoveredBy [(dest, [0#8])]) (0, []) := fun k never => absurd never (Nat.not_lt_zero k)
  have uncovered : ¬ CoveredBy [(dest, [0#8])] (dest + 1) := by
    rintro ⟨write, member, k, below, same⟩
    obtain rfl := List.mem_singleton.mp member
    obtain rfl : k = 0 := Nat.lt_one_iff.mp below
    dsimp only at same
    rw [add32_of_lt (by omega)] at same
    omega
  have next : data[1]? = some (data.get ⟨1, by omega⟩) := List.getElem?_eq_getElem _
  have pad := (steps_padded shaped nothing windowed earlier steps).calls _ made 1 _ next uncovered
  rw [pad] at next
  have delivered : Delivered final.2.calls j (dest + 1) (layout.flash j).erased :=
    ⟨dest, data, member, Nat.le_succ _, by rw [Nat.add_sub_cancel_left, next]⟩
  have reads := transparent willing [(dest, [0#8])] written.2 final.2 (fun _ => 0xff#8) session finished (fun _ _ => rfl)
    (dest + 1) ⟨j, listed, here (by omega) (by omega)⟩ uncovered
  have masked : programmed (fun _ => 0xff#8) final.2.calls (dest + 1) &&& (layout.flash j).erased
      = programmed (fun _ => 0xff#8) final.2.calls (dest + 1) := programmed_delivered delivered
  have ones : (0xff#8 : Byte) = BitVec.allOnes 8 := rfl
  rwa [reads, ones, BitVec.allOnes_and] at masked

theorem region_erased {driver : Driver} {places : List (Nat × Nat)} (built : layout.list = driver.register places)
    (listed : i < layout.list.length) :
    (layout.flash i).erased = if driver.setsErased then 0xff#8 else 0#8 := by
  have all : ∀ flash ∈ driver.register places, flash.erased = if driver.setsErased then 0xff#8 else 0#8 := by
    clear built
    induction places with
    | nil => exact fun _ never => absurd never List.not_mem_nil
    | cons place places ih =>
      have first : ∃ flash, driver.register (place :: places) = flash :: driver.register places ∧
          flash.erased = if driver.setsErased then 0xff#8 else 0#8 := by
        cases driver <;> exact ⟨_, rfl, rfl⟩
      obtain ⟨flash, shape, erased⟩ := first
      rw [shape]
      intro other member
      rcases List.mem_cons.mp member with rfl | later
      · exact erased
      · exact ih other later
  rw [Regions.flash, List.getElem?_eq_getElem listed]
  apply all
  rw [← built]
  exact List.getElem_mem listed

/-- Padding is transparent exactly for the regions of the routines that set the erased byte. -/
theorem padding_transparent_iff (layout : Layout) (driver : Driver) (places : List (Nat × Nat))
    (built : layout.list = driver.register places)
    (paged : ∃ i < layout.list.length, 0 < (layout.flash i).length ∧ 2 ≤ (layout.flash i).writesize) :
    Transparent layout ↔ driver.setsErased = true := by
  constructor
  · intro transparent
    obtain ⟨i, listed, positive, paged⟩ := paged
    have erased := erased_of_transparent transparent listed positive paged
    rw [region_erased built listed] at erased
    by_contra unset
    simp [unset] at erased
  · intro sets
    have shaped : Shaped layout := ⟨fun i listed => (flash_valid layout listed).power,
      fun i listed => (flash_valid layout listed).buffered, fun i listed => (flash_valid layout listed).start,
      fun i listed => (flash_valid layout listed).length⟩
    apply transparent_of_erased shaped
    intro i listed
    rw [region_erased built listed, sets]
    rfl

/-- The code flash and the UICR of an nRF51. -/
def nrf51Regions : Layout where
  list := (Driver.nrf51 1024).register [(0x10001000, 0x400), (0, 0x40000)]
  valid := by
    intro flash member
    simp only [Driver.register, Driver.addFlash, nrf51AddFlash, targetAddFlash, List.mem_cons, List.not_mem_nil,
      or_false] at member
    rcases member with rfl | rfl
    · exact ⟨⟨10, by decide, rfl⟩, rfl, by decide, by decide, by decide⟩
    · exact ⟨⟨10, by decide, rfl⟩, rfl, by decide, by decide, by decide⟩
  apart := by
    simp only [Driver.register, Driver.addFlash, nrf51AddFlash, targetAddFlash, List.pairwise_cons, List.mem_singleton,
      forall_eq, List.not_mem_nil, false_implies, implies_true, List.Pairwise.nil, and_true]
    rintro addr ⟨first, second⟩
    have low := (contains_bounds first).1
    have high : addr < 0x40000 := (contains_bounds second).2
    dsimp only at low
    omega

theorem nrf51_transparent : Transparent nrf51Regions :=
  (padding_transparent_iff nrf51Regions (.nrf51 1024) [(0x10001000, 0x400), (0, 0x40000)] rfl
    ⟨0, by decide, by decide, by decide⟩).mpr rfl

/-- The flash of a SAM D part. -/
def samdRegions : Regions := ⟨Driver.samd.register [(0, 0x40000)]⟩

private def samdWritten : Target := (perform samdRegions willing (.write 0 [0x12#8]) Target.probed).2

/-- A write of one byte clears the byte behind it. -/
theorem samd_padding_programmed :
    ∃ target final, Session samdRegions willing Target.probed [.write 0 [0x12#8]] target ∧
      targetFlashComplete samdRegions willing target = (true, final) ∧ InFlash samdRegions 1 ∧
      ¬ CoveredBy [(0, [0x12#8])] 1 ∧ programmed (fun _ => 0xff#8) final.calls 1 ≠ 0xff#8 := by
  have acknowledged : perform samdRegions willing (.write 0 [0x12#8]) Target.probed = (true, samdWritten) :=
    Prod.ext (by decide +kernel) rfl
  have completed : (targetFlashComplete samdRegions willing samdWritten).1 = true := by decide +kernel
  have cleared : programmed (fun _ => 0xff#8) (targetFlashComplete samdRegions willing samdWritten).2.calls 1 ≠ 0xff#8 := by
    decide +kernel
  refine ⟨samdWritten, (targetFlashComplete samdRegions willing samdWritten).2, .request .start acknowledged,
    Prod.ext completed rfl, ⟨0, by decide, by decide⟩, ?_, cleared⟩
  rintro ⟨write, member, k, below, same⟩
  obtain rfl := List.mem_singleton.mp member
  obtain rfl : k = 0 := Nat.lt_one_iff.mp below
  cases same

end BlackMagic.Proofs.FlashPadding

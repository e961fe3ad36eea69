import BlackMagic.Proofs.FlashResults

/-! The part of the address space that a write buffer stands for. Every write of a flush
reads its data from inside the buffer, and every copy into the buffer stays inside it.
The writes also stay inside their region, unless a write reached the end of the address
space. -/

namespace BlackMagic.Proofs.FlashWindow
open BlackMagic.Flash Lib.Words FlashBuffer FlashFaithful FlashRuns FlashSteps FlashResults

variable {layout : Regions} {env : Environment} {write : Nat × List Byte} {target next : Target} {i : Nat}

/-- Regions as `targetAddFlash` sets them up. -/
structure Shaped (layout : Regions) : Prop where
  power : ∀ i < layout.list.length, ∃ k < 32, (layout.flash i).writesize = 2 ^ k
  buffered : ∀ i < layout.list.length, (layout.flash i).writebufsize = bufferSize (layout.flash i).writesize
  start : ∀ i < layout.list.length, (layout.flash i).writesize ∣ (layout.flash i).start
  length : ∀ i < layout.list.length, (layout.flash i).writesize ∣ (layout.flash i).length

/-- What the buffer of size `size` stands for: nothing, a block of which nothing has been written, or a block and the
range in it that is to be flushed. -/
inductive Window (size : Nat) (state : FlashState) : Prop where
  | unset (base : state.bufAddrBase = uint32Max) (low : state.bufAddrLow = uint32Max) (high : state.bufAddrHigh = 0)
  | empty (multiple : size ∣ state.bufAddrBase) (fits : state.bufAddrBase + size ≤ 2 ^ 32)
      (low : 2 ^ 32 - size ≤ state.bufAddrLow) (high : state.bufAddrHigh = 0)
  | held (multiple : size ∣ state.bufAddrBase) (fits : state.bufAddrBase + size ≤ 2 ^ 32)
      (low : state.bufAddrBase ≤ state.bufAddrLow) (some : state.bufAddrLow < state.bufAddrHigh)
      (high : state.bufAddrHigh ≤ state.bufAddrBase + size) (word : state.bufAddrHigh < 2 ^ 32)

/-- The range to be flushed is inside the region. -/
def Inside (flash : TargetFlash) (state : FlashState) : Prop :=
  state.bufAddrLow = uint32Max ∧ state.bufAddrHigh = 0 ∨
    flash.start ≤ state.bufAddrLow ∧ state.bufAddrHigh ≤ add32 flash.start flash.length

/-- A write of a flush reads one unit of data inside the buffer, and a copy stays inside it. -/
def InBuffer (layout : Regions) : Call → Prop
  | .write i dest source data => i < layout.list.length ∧ (layout.flash i).writesize ∣ dest ∧
      data.length = (layout.flash i).writesize ∧ source + data.length ≤ (layout.flash i).writebufsize
  | .memcpy i offset len => i < layout.list.length ∧ offset + len ≤ (layout.flash i).writebufsize
  | _ => True

/-- A write of a flush is for addresses of its region. -/
def InRegion (layout : Regions) : Call → Prop
  | .write i dest _ data => (layout.flash i).start ≤ dest ∧
      dest + data.length ≤ (layout.flash i).start + (layout.flash i).length
  | _ => True

/-- The sizes of a region. -/
theorem Shaped.sizes (shaped : Shaped layout) (listed : i < layout.list.length) :
    ∃ k m, k < 32 ∧ 10 ≤ m ∧ m < 32 ∧ (layout.flash i).writesize = 2 ^ k ∧ (layout.flash i).writebufsize = 2 ^ m ∧
      (layout.flash i).writesize ∣ (layout.flash i).writebufsize := by
  obtain ⟨k, word, power⟩ := shaped.power i listed
  obtain ⟨m, large, small, size, whole⟩ := FlashBuffer.bufferSize_power word
  rw [shaped.buffered i listed, power]
  exact ⟨k, m, word, large, small, rfl, size, whole⟩

theorem Window.held_of_filled {size : Nat} {state : FlashState} (window : Window size state) (filled : Filled state) :
    size ∣ state.bufAddrBase ∧ state.bufAddrBase + size ≤ 2 ^ 32 ∧ state.bufAddrBase ≤ state.bufAddrLow ∧
      state.bufAddrHigh ≤ state.bufAddrBase + size ∧ state.bufAddrHigh < 2 ^ 32 := by
  cases window with
  | unset base low high => exact absurd base filled.1
  | empty multiple fits low high =>
    have some := filled.2.2
    omega
  | held multiple fits low some high word => exact ⟨multiple, fits, low, high, word⟩

/-- Where a write of a flush goes, and where its data is. -/
theorem flushed_place (shaped : Shaped layout) (listed : i < layout.list.length) {state : FlashState} {offset : Nat}
    (window : Window (layout.flash i).writebufsize state) (filled : Filled state)
    (multiple : (layout.flash i).writesize ∣ offset)
    (more : offset < sub32 state.bufAddrHigh (alignDown state.bufAddrLow (layout.flash i).writesize))
    {alignedAddr : Nat} (aligned : alignDown state.bufAddrLow (layout.flash i).writesize = alignedAddr) :
    add32 alignedAddr offset = alignedAddr + offset ∧ sub32 alignedAddr state.bufAddrBase = alignedAddr - state.bufAddrBase ∧
      state.bufAddrBase ≤ alignedAddr ∧ (layout.flash i).writesize ∣ alignedAddr + offset ∧
      alignedAddr + offset < state.bufAddrHigh ∧
      (∀ bound, (layout.flash i).writesize ∣ bound → bound ≤ state.bufAddrLow → bound ≤ alignedAddr) ∧
      (∀ bound, (layout.flash i).writesize ∣ bound → state.bufAddrHigh ≤ bound →
        alignedAddr + offset + (layout.flash i).writesize ≤ bound) := by
  obtain ⟨k, m, word, -, -, power, -, whole⟩ := shaped.sizes listed
  obtain ⟨base, -, low, -, small⟩ := window.held_of_filled filled
  have some := filled.2.2
  rw [aligned] at more
  rw [power] at aligned multiple whole ⊢
  rw [alignDown_two_pow (by omega) word] at aligned
  have above : ∀ bound, 2 ^ k ∣ bound → bound ≤ state.bufAddrLow → bound ≤ alignedAddr := by
    intro bound whole below
    rw [← aligned]
    exact le_round_down whole below
  have below : alignedAddr ≤ state.bufAddrLow := by
    rw [← aligned]
    exact Nat.mul_div_le _ _
  have start := above _ (whole.trans base) low
  rw [sub32_of_le small (by omega)] at more
  have unit : 2 ^ k ∣ alignedAddr + offset := by
    apply Nat.dvd_add _ multiple
    rw [← aligned]
    exact Nat.dvd_mul_right _ _
  refine ⟨add32_of_lt (by omega), sub32_of_le (by omega) start, start, unit, by omega, above, fun bound whole reach => ?_⟩
  obtain ⟨p, first⟩ := unit
  obtain ⟨q, last⟩ := whole
  have fewer : p < q := by
    apply Nat.lt_of_mul_lt_mul_left (a := 2 ^ k)
    omega
  calc alignedAddr + offset + 2 ^ k = 2 ^ k * (p + 1) := by rw [first, Nat.mul_succ]
    _ ≤ 2 ^ k * q := Nat.mul_le_mul_left _ fewer
    _ = bound := last.symm

theorem flushed_inBuffer (shaped : Shaped layout) (listed : i < layout.list.length) {state : FlashState} {offset : Nat}
    {buf : Buffer} (window : Window (layout.flash i).writebufsize state) (filled : Filled state)
    (multiple : (layout.flash i).writesize ∣ offset)
    (more : offset < sub32 state.bufAddrHigh (alignDown state.bufAddrLow (layout.flash i).writesize)) :
    InBuffer layout (flushed layout i state buf offset) := by
  obtain ⟨-, -, -, -, -, -, -, whole⟩ := shaped.sizes listed
  obtain ⟨base, -, -, high, -⟩ := window.held_of_filled filled
  obtain ⟨place, source, low, unit, -, -, below⟩ := flushed_place shaped listed window filled multiple more rfl
  have room := below _ (Nat.dvd_add (whole.trans base) whole) high
  simp only [flushed, InBuffer, place, source, List.length_map, List.length_range]
  exact ⟨listed, unit, trivial, by omega⟩

theorem flushed_inRegion (shaped : Shaped layout) (listed : i < layout.list.length) {state : FlashState} {offset : Nat}
    {buf : Buffer} (window : Window (layout.flash i).writebufsize state) (filled : Filled state)
    (inside : Inside (layout.flash i) state) (multiple : (layout.flash i).writesize ∣ offset)
    (more : offset < sub32 state.bufAddrHigh (alignDown state.bufAddrLow (layout.flash i).writesize)) :
    InRegion layout (flushed layout i state buf offset) := by
  obtain ⟨place, -, -, -, -, above, below⟩ := flushed_place shaped listed window filled multiple more rfl
  obtain ⟨low, high⟩ := inside.resolve_left fun never => filled.2.1 never.1
  obtain ⟨k, -, power⟩ := shaped.power i listed
  have start := above _ (shaped.start i listed) low
  have reach : state.bufAddrHigh ≤ (layout.flash i).start + (layout.flash i).length := high.trans (Nat.mod_le _ _)
  have finish := below _ (Nat.dvd_add (shaped.start i listed) (shaped.length i listed)) reach
  simp only [flushed, InRegion, place, List.length_map, List.length_range]
  exact ⟨by omega, finish⟩

/-- What holds between the steps: the windows of all buffers, and the calls that were made. -/
structure Windowed (layout : Regions) (target : Target) : Prop where
  window : ∀ i < layout.list.length, (target.state i).buf.isSome → Window (layout.flash i).writebufsize (target.state i)
  calls : ∀ call ∈ target.calls, InBuffer layout call

structure Enclosed (layout : Regions) (target : Target) : Prop where
  inside : ∀ i < layout.list.length, (target.state i).buf.isSome → Inside (layout.flash i) (target.state i)
  calls : ∀ call ∈ target.calls, InRegion layout call

section Steps

/-- A call that is not a write or a copy. -/
def Plain : Call → Prop
  | .write .. => False
  | .memcpy .. => False
  | _ => True

theorem Plain.inBuffer {call : Call} (plain : Plain call) : InBuffer layout call := by
  cases call with
  | write => exact plain.elim
  | memcpy => exact plain.elim
  | _ => trivial

theorem Plain.inRegion {call : Call} (plain : Plain call) : InRegion layout call := by
  cases call with
  | write => exact plain.elim
  | _ => trivial

theorem noted_calls {present : Bool} {call : Call} {Allowed : Call → Prop} (all : ∀ old ∈ target.calls, Allowed old)
    (new : Allowed call) : ∀ made ∈ (noted target present call).calls, Allowed made := by
  intro made member
  rw [noted] at member
  split at member
  · rcases List.mem_append.mp member with old | last
    · exact all made old
    · rwa [List.mem_singleton.mp last]
  · exact all made member

theorem enter_calls {Allowed : Call → Prop} (all : ∀ old ∈ target.calls, Allowed old)
    (plain : ∀ call, Plain call → Allowed call) : ∀ made ∈ (targetEnterFlashMode env target).2.calls, Allowed made := by
  have more : ∀ call, Plain call → ∀ made ∈ target.calls ++ [call], Allowed made := by
    intro call new made member
    rcases List.mem_append.mp member with old | last
    · exact all made old
    · rw [List.mem_singleton.mp last]
      exact plain call new
  rw [targetEnterFlashMode]
  split
  · exact all
  · dsimp only
    generalize entering : (if env.enterFlashMode = true then _ else _ : Bool × Target) = entered
    have same : ∀ made ∈ entered.2.calls, Allowed made := by
      subst entering
      split
      · exact more .enterFlashMode trivial
      · split
        · exact more .reset trivial
        · exact all
    split
    · exact same
    · exact same

theorem exit_calls {Allowed : Call → Prop} (all : ∀ old ∈ target.calls, Allowed old)
    (plain : ∀ call, Plain call → Allowed call) : ∀ made ∈ (targetExitFlashMode env target).2.calls, Allowed made := by
  have more : ∀ call, Plain call → ∀ made ∈ target.calls ++ [call], Allowed made := by
    intro call new made member
    rcases List.mem_append.mp member with old | last
    · exact all made old
    · rw [List.mem_singleton.mp last]
      exact plain call new
  rw [targetExitFlashMode]
  split
  · exact all
  · dsimp only
    split
    · exact more .exitFlashMode trivial
    · split
      · exact more .reset trivial
      · exact all

/-- What holds of all regions with a buffer holds after region `i` has changed. -/
theorem put_regions {Sound : Nat → FlashState → Prop} {state : FlashState}
    (all : ∀ j < layout.list.length, (target.state j).buf.isSome → Sound j (target.state j))
    (changed : i < layout.list.length → state.buf.isSome → Sound i state) :
    ∀ j < layout.list.length, ((target.put i state).state j).buf.isSome → Sound j ((target.put i state).state j) := by
  intro j listed held
  by_cases same : j = i
  · subst same
    simp only [Target.put, if_true] at held ⊢
    exact changed listed held
  · simp only [Target.put, if_neg same] at held ⊢
    exact all j listed held

theorem copyChunk_put {dest : Nat} {chunk : List Byte} {buf : Buffer} (held : (target.state i).buf = some buf) :
    copyChunk layout i dest chunk target =
      (noted target true (.memcpy i (dest % (layout.flash i).writebufsize) chunk.length)).put i { target.state i with
        buf := some fun j => if dest % (layout.flash i).writebufsize ≤ j then
          chunk[j - dest % (layout.flash i).writebufsize]?.getD (buf j) else buf j
        bufAddrLow := min (target.state i).bufAddrLow dest
        bufAddrHigh := max (target.state i).bufAddrHigh (add32 dest chunk.length) } := by
  simp only [copyChunk, held]
  rfl

/-- A piece of a write, in its block. -/
theorem Piece.place (shaped : Shaped layout) (listed : i < layout.list.length) {dest : Nat} {chunk : List Byte}
    (piece : Piece layout write i dest chunk) {size base : Nat} (sized : (layout.flash i).writebufsize = size)
    (block : base = alignDown dest size) :
    size ∣ base ∧ base + size ≤ 2 ^ 32 ∧ base + dest % size = dest ∧ dest % size + chunk.length ≤ size ∧
      0 < chunk.length ∧ 1024 ≤ size := by
  obtain ⟨-, m, -, large, small, -, power, -⟩ := shaped.sizes listed
  obtain ⟨skipped, -, place, -⟩ := piece.part
  have word : dest < 2 ^ 32 := by
    rw [place]
    exact Nat.mod_lt _ (by decide)
  have split := Nat.div_add_mod dest (2 ^ m)
  have positive : 0 < 2 ^ m := Nat.two_pow_pos m
  have rest := Nat.mod_lt dest positive
  have big : 2 ^ 10 ≤ 2 ^ m := Nat.pow_le_pow_right (by decide) large
  have short := piece.block
  have some := List.length_pos_iff.mpr (piece.nonempty (by rw [power]; exact positive))
  rw [power] at sized short
  subst sized
  rw [alignDown_two_pow word small] at block
  have whole : 2 ^ m ∣ 2 ^ 32 := Nat.pow_dvd_pow 2 small.le
  obtain ⟨blocks, top⟩ := whole
  have fewer : dest / 2 ^ m < blocks := by
    rw [Nat.div_lt_iff_lt_mul positive, Nat.mul_comm, ← top]
    exact word
  have room : 2 ^ m * (dest / 2 ^ m) + 2 ^ m ≤ 2 ^ 32 := by
    calc 2 ^ m * (dest / 2 ^ m) + 2 ^ m = 2 ^ m * (dest / 2 ^ m + 1) := (Nat.mul_succ _ _).symm
      _ ≤ 2 ^ m * blocks := Nat.mul_le_mul_left _ fewer
      _ = 2 ^ 32 := top.symm
  refine ⟨?_, by omega, by omega, by omega, some, by omega⟩
  rw [block]
  exact Nat.dvd_mul_right _ _

theorem copy_window (shaped : Shaped layout) (listed : i < layout.list.length) {dest : Nat} {chunk : List Byte}
    {state : FlashState} {buf : Option Buffer} (window : Window (layout.flash i).writebufsize state)
    (piece : Piece layout write i dest chunk) (block : state.bufAddrBase = alignDown dest (layout.flash i).writebufsize) :
    Window (layout.flash i).writebufsize { state with
      buf := buf
      bufAddrLow := min state.bufAddrLow dest
      bufAddrHigh := max state.bufAddrHigh (add32 dest chunk.length) } := by
  obtain ⟨multiple, fits, offset, short, some, large⟩ := Piece.place shaped listed piece rfl block
  generalize (layout.flash i).writebufsize = size at *
  have modulo : add32 dest chunk.length = (dest + chunk.length) % 2 ^ 32 := rfl
  generalize add32 dest chunk.length = high at *
  cases window with
  | unset base low none =>
    rw [base, uint32Max] at fits
    omega
  | empty _ _ low none =>
    by_cases last : dest + chunk.length < 2 ^ 32
    · refine .held multiple fits ?_ ?_ ?_ ?_
      · dsimp only
        omega
      · dsimp only
        omega
      · dsimp only
        omega
      · dsimp only
        omega
    · refine .empty multiple fits ?_ ?_
      · dsimp only
        omega
      · dsimp only
        omega
  | held _ _ low less top word =>
    refine .held multiple fits ?_ ?_ ?_ ?_
    · dsimp only
      omega
    · dsimp only
      omega
    · dsimp only
      omega
    · dsimp only
      omega

/-- A block that is set up when there is nothing to be flushed. -/
theorem setup_window (shaped : Shaped layout) (listed : i < layout.list.length) {dest : Nat} {state : FlashState}
    {buf : Option Buffer} (window : Window (layout.flash i).writebufsize state) (held : state.buf.isSome)
    (unfilled : ¬ Filled state) : Window (layout.flash i).writebufsize { state with
      bufAddrBase := alignDown dest (layout.flash i).writebufsize
      buf := buf } := by
  obtain ⟨-, m, -, large, small, -, power, -⟩ := shaped.sizes listed
  have big : 2 ^ 10 ≤ 2 ^ m := Nat.pow_le_pow_right (by decide) large
  have top : 2 ^ m ≤ 2 ^ 31 := Nat.pow_le_pow_right (by decide) (by omega)
  have masked : alignDown dest (2 ^ m) = alignDown (dest % 2 ^ 32) (2 ^ m) := by
    rw [alignDown, alignDown]
    apply Nat.eq_of_testBit_eq
    intro bit
    rw [Nat.testBit_and, Nat.testBit_and, Nat.testBit_mod_two_pow]
    generalize masked : 2 ^ 32 - 1 - sub32 (2 ^ m) 1 = mask
    by_cases inside : bit < 32
    · simp [inside]
    · have high : mask.testBit bit = false := by
        apply Nat.testBit_lt_two_pow
        have wide : 2 ^ 32 ≤ 2 ^ bit := Nat.pow_le_pow_right (by decide) (by omega)
        omega
      simp [high]
  have word : dest % 2 ^ 32 < 2 ^ 32 := Nat.mod_lt _ (by decide)
  have block : alignDown dest (2 ^ m) = 2 ^ m * (dest % 2 ^ 32 / 2 ^ m) := by
    rw [masked, alignDown_two_pow word small]
  obtain ⟨blocks, whole⟩ : 2 ^ m ∣ 2 ^ 32 := Nat.pow_dvd_pow 2 small.le
  have fewer : dest % 2 ^ 32 / 2 ^ m < blocks := by
    rw [Nat.div_lt_iff_lt_mul (Nat.two_pow_pos m), Nat.mul_comm, ← whole]
    exact word
  have fits : alignDown dest (2 ^ m) + 2 ^ m ≤ 2 ^ 32 := by
    calc alignDown dest (2 ^ m) + 2 ^ m = 2 ^ m * (dest % 2 ^ 32 / 2 ^ m + 1) := by rw [block, Nat.mul_succ]
      _ ≤ 2 ^ m * blocks := Nat.mul_le_mul_left _ fewer
      _ = 2 ^ 32 := whole.symm
  have multiple : 2 ^ m ∣ alignDown dest (2 ^ m) := by
    rw [block]
    exact Nat.dvd_mul_right _ _
  rw [power] at window ⊢
  cases window with
  | unset base low none =>
    refine .empty multiple fits ?_ none
    simp only [low, uint32Max]
    omega
  | empty _ _ low none => exact .empty multiple fits low none
  | held _ room low less high top =>
    refine absurd ⟨?_, ?_, less⟩ unfilled
    · rw [uint32Max]
      omega
    · rw [uint32Max]
      omega

/-- A window says nothing about the operation. -/
theorem Window.congr {size : Nat} {state other : FlashState} (window : Window size state)
    (base : other.bufAddrBase = state.bufAddrBase) (low : other.bufAddrLow = state.bufAddrLow)
    (high : other.bufAddrHigh = state.bufAddrHigh) : Window size other := by
  cases window with
  | unset unset least none => exact .unset (base.trans unset) (low.trans least) (high.trans none)
  | empty multiple fits least none =>
    exact .empty (by rwa [base]) (by rwa [base]) (by rwa [low]) (high.trans none)
  | held multiple fits least less most word =>
    exact .held (by rwa [base]) (by rwa [base]) (by rwa [base, low]) (by rwa [low, high]) (by rwa [base, high])
      (by rwa [high])

theorem step_windowed (shaped : Shaped layout) (windowed : Windowed layout target)
    (step : Step layout env write target next) : Windowed layout next := by
  obtain ⟨window, calls⟩ := windowed
  cases step with
  | enter outside entered =>
    refine ⟨?_, enter_calls calls fun call plain => plain.inBuffer⟩
    rw [enterFlashMode_state.1]
    exact window
  | exit inside =>
    refine ⟨?_, exit_calls calls fun call plain => plain.inBuffer⟩
    rw [exitFlashMode_state.1]
    exact window
  | @done i listed busy agreed =>
    refine ⟨put_regions (by simpa using window) fun _ held => ?_, noted_calls calls trivial⟩
    cases held
  | @prepare i operation listed idle other filled agreed =>
    refine ⟨put_regions (by simpa using window) fun _ held => ?_, noted_calls calls trivial⟩
    exact (window i listed held).congr rfl rfl rfl
  | erase listed place erasing agreed => exact ⟨window, noted_calls calls trivial⟩
  | malloc listed free fresh =>
    exact ⟨put_regions (by simpa using window) fun _ _ => .unset rfl rfl rfl, noted_calls calls trivial⟩
  | @write i offset buf listed writing held filled multiple more agreed =>
    have here := window i listed (by rw [held]; rfl)
    exact ⟨window, noted_calls calls (flushed_inBuffer shaped listed here filled multiple more)⟩
  | emptied listed writing held => exact ⟨put_regions window fun _ _ => .unset rfl rfl rfl, calls⟩
  | @setup i dest buf listed held unfilled =>
    refine ⟨put_regions window fun _ _ => ?_, calls⟩
    have some : (target.state i).buf.isSome := by rw [held]; rfl
    exact setup_window shaped listed (window i listed some) some unfilled
  | @copy i dest chunk listed held block piece =>
    obtain ⟨buf, present⟩ := Option.isSome_iff_exists.mp held
    rw [copyChunk_put present]
    obtain ⟨-, -, -, short, -, -⟩ := Piece.place shaped listed piece rfl block
    exact ⟨put_regions (by simpa using window) fun _ _ => copy_window shaped listed (window i listed held) piece block,
      noted_calls calls ⟨listed, short⟩⟩

theorem step_enclosed (shaped : Shaped layout) (fits : write.1 + write.2.length < 2 ^ 32)
    (windowed : Windowed layout target) (enclosed : Enclosed layout target) (step : Step layout env write target next) :
    Enclosed layout next := by
  obtain ⟨window, -⟩ := windowed
  obtain ⟨inside, calls⟩ := enclosed
  cases step with
  | enter outside entered =>
    refine ⟨?_, enter_calls calls fun call plain => plain.inRegion⟩
    rw [enterFlashMode_state.1]
    exact inside
  | exit inside' =>
    refine ⟨?_, exit_calls calls fun call plain => plain.inRegion⟩
    rw [exitFlashMode_state.1]
    exact inside
  | @done i listed busy agreed =>
    refine ⟨put_regions (by simpa using inside) fun _ held => ?_, noted_calls calls trivial⟩
    cases held
  | @prepare i operation listed idle other filled agreed =>
    exact ⟨put_regions (by simpa using inside) fun _ held => inside i listed held, noted_calls calls trivial⟩
  | erase listed place erasing agreed => exact ⟨inside, noted_calls calls trivial⟩
  | malloc listed free fresh =>
    exact ⟨put_regions (by simpa using inside) fun _ _ => .inl ⟨rfl, rfl⟩, noted_calls calls trivial⟩
  | @write i offset buf listed writing held filled multiple more agreed =>
    have some : (target.state i).buf.isSome := by rw [held]; rfl
    exact ⟨inside, noted_calls calls
      (flushed_inRegion shaped listed (window i listed some) filled (inside i listed some) multiple more)⟩
  | emptied listed writing held => exact ⟨put_regions inside fun _ _ => .inl ⟨rfl, rfl⟩, calls⟩
  | @setup i dest buf listed held unfilled =>
    have some : (target.state i).buf.isSome := by rw [held]; rfl
    exact ⟨put_regions inside fun _ _ => inside i listed some, calls⟩
  | @copy i dest chunk listed held block piece =>
    obtain ⟨buf, present⟩ := Option.isSome_iff_exists.mp held
    rw [copyChunk_put present]
    refine ⟨put_regions (by simpa using inside) fun _ _ => .inr ?_, noted_calls calls trivial⟩
    obtain ⟨low, high⟩ := piece.within fits
    have room := piece.part.unwrapped fits
    have exact : add32 dest chunk.length = dest + chunk.length := add32_of_lt room
    have start : uint32Max = 2 ^ 32 - 1 := rfl
    rcases inside i listed held with ⟨unset, none⟩ | ⟨least, most⟩
    · simp only [unset, none, exact]
      omega
    · simp only [exact]
      omega

theorem steps_windowed (shaped : Shaped layout) (windowed : Windowed layout target)
    (steps : Steps layout env write target next) : Windowed layout next := by
  induction steps with
  | refl => exact windowed
  | tail _ step ih => exact step_windowed shaped ih step

theorem steps_enclosed (shaped : Shaped layout) (fits : write.1 + write.2.length < 2 ^ 32)
    (windowed : Windowed layout target) (enclosed : Enclosed layout target) (steps : Steps layout env write target next) :
    Enclosed layout next := by
  induction steps with
  | refl => exact enclosed
  | tail before step ih => exact step_enclosed shaped fits (steps_windowed shaped windowed before) ih step

end Steps

section Sessions

variable {start : Target} {requests : List Request}

/-- A call of the flash layer is a chain of steps. -/
theorem perform_steps {request : Request} (acknowledged : perform layout env request target = (true, next)) :
    ∃ write, Steps layout env write target next ∧
      (write = (0, []) ∨ ∃ dest data, request = .write dest data ∧ write = (dest, data)) := by
  cases request with
  | write dest data => exact ⟨(dest, data), targetFlashWrite_steps acknowledged rfl, .inr ⟨dest, data, rfl, rfl⟩⟩
  | erase addr len => exact ⟨(0, []), targetFlashErase_steps acknowledged rfl, .inl rfl⟩

theorem session_windowed (shaped : Shaped layout) (windowed : Windowed layout start)
    (session : Session layout env start requests target) : Windowed layout target := by
  induction session with
  | start => exact windowed
  | request session acknowledged ih =>
    obtain ⟨write, steps, -⟩ := perform_steps acknowledged
    exact steps_windowed shaped ih steps

theorem session_enclosed (shaped : Shaped layout) (windowed : Windowed layout start) (enclosed : Enclosed layout start)
    (session : Session layout env start requests target) (below : Below requests) : Enclosed layout target := by
  induction session with
  | start => exact enclosed
  | @request requests request middle next session acknowledged ih =>
    have earlier := ih fun dest data member => below dest data (List.mem_append_left _ member)
    obtain ⟨write, steps, which⟩ := perform_steps acknowledged
    refine steps_enclosed shaped ?_ (session_windowed shaped windowed session) earlier steps
    rcases which with rfl | ⟨dest, data, rfl, rfl⟩
    · decide
    · exact below dest data (List.mem_append_right _ (List.mem_singleton_self _))

theorem probed_windowed (layout : Regions) : Windowed layout Target.probed where
  window := (fun _ _ never => by cases never)
  calls := (fun _ never => by cases never)

theorem probed_enclosed (layout : Regions) : Enclosed layout Target.probed where
  inside := (fun _ _ never => by cases never)
  calls := (fun _ never => by cases never)

/-- In a sequence of erases and writes that all succeed, of which no write reaches the end of the address space, every
call of a driver and every copy has the right shape. -/
theorem session_shapes (shaped : Shaped layout) (session : Session layout env Target.probed requests target)
    (below : Below requests) : ∀ call ∈ target.calls, InBuffer layout call ∧ InRegion layout call := fun call member =>
  ⟨(session_windowed shaped (probed_windowed layout) session).calls call member,
    (session_enclosed shaped (probed_windowed layout) (probed_enclosed layout) session below).calls call member⟩

private theorem twoRegions_shaped : Shaped twoRegions where
  power i listed := (flash_valid twoRegions listed).power
  buffered i listed := (flash_valid twoRegions listed).buffered
  start i listed := (flash_valid twoRegions listed).start
  length i listed := (flash_valid twoRegions listed).length

private def crossed : Target := (perform twoRegions willing (.write 0x08000ffe [1#8, 2#8, 3#8, 4#8]) Target.probed).2

/-- A write across the border of two regions. -/
theorem crossing_write_shapes :
    crossed.calls ≠ [] ∧ ∀ call ∈ crossed.calls, InBuffer twoRegions call ∧ InRegion twoRegions call := by
  have acknowledged : perform twoRegions willing (.write 0x08000ffe [1#8, 2#8, 3#8, 4#8]) Target.probed = (true, crossed) :=
    Prod.ext (by decide +kernel) rfl
  refine ⟨by decide +kernel, ?_⟩
  apply session_shapes twoRegions_shaped (.request .start acknowledged)
  intro dest data member
  cases List.mem_singleton.mp member
  decide

/-- A region that ends just below the end of the address space, and one behind its start. -/
def farRegions : Regions :=
  ⟨targetAddFlash ⟨0xfffffff0, 8, 8, 4, 0, 0xff#8, true, true⟩ (targetAddFlash ⟨0x100, 0x100, 8, 4, 0, 0xff#8, true, true⟩ [])⟩

/-- A write over the end of the address space, and a write into the other region. -/
def farWrites : List Request := [.write 0xfffffff4 (List.replicate 16 1#8), .write 0x100 [1#8]]

private def farFirst : Target := (perform farRegions willing (.write 0xfffffff4 (List.replicate 16 1#8)) Target.probed).2

private def farSecond : Target := (perform farRegions willing (.write 0x100 [1#8]) farFirst).2

/-- The driver of the first region is asked to write at address zero. -/
theorem far_write_outside :
    ∃ target, Shaped farRegions ∧ Session farRegions willing Target.probed farWrites target ∧
      ¬ ∀ call ∈ target.calls, InBuffer farRegions call ∧ InRegion farRegions call := by
  have first : perform farRegions willing (.write 0xfffffff4 (List.replicate 16 1#8)) Target.probed = (true, farFirst) :=
    Prod.ext (by decide +kernel) rfl
  have second : perform farRegions willing (.write 0x100 [1#8]) farFirst = (true, farSecond) :=
    Prod.ext (by decide +kernel) rfl
  have made : Call.write 0 0 0 [1#8, 1#8, 1#8, 1#8] ∈ farSecond.calls := by decide +kernel
  have shaped : Shaped farRegions := by
    refine ⟨fun i listed => ⟨2, by decide, ?_⟩, ?_, ?_, ?_⟩
    · revert i
      decide
    · decide
    · decide
    · decide
  refine ⟨farSecond, shaped, .request (.request .start first) second, fun all => ?_⟩
  have outside : ¬ InRegion farRegions (.write 0 0 0 [1#8, 1#8, 1#8, 1#8]) := by
    rintro ⟨low, -⟩
    exact absurd low (by decide)
  exact outside (all _ made).2

end Sessions

end BlackMagic.Proofs.FlashWindow

import BlackMagic.CortexCache

/-! Which requests are covered by the maintenance of the data cache. The end of a region, or of the request, at the end of the
address space is taken for 0, and the loop over the lines runs over where both ends are in the last line. -/

namespace BlackMagic.Proofs.CacheCoverage
open Lib.Words CortexCache

variable {k : Nat}

section Lines

/-- A multiple of the line length below another one leaves room for a line between them. -/
theorem line_room {line bound : Nat} (aligned : 2 ^ k ∣ line) (multiple : 2 ^ k ∣ bound) (below : line < bound) :
    line + 2 ^ k ≤ bound := by
  obtain ⟨q, rfl⟩ := aligned
  obtain ⟨p, rfl⟩ := multiple
  have less : q < p := Nat.lt_of_mul_lt_mul_left below
  calc 2 ^ k * q + 2 ^ k = 2 ^ k * (q + 1) := (Nat.mul_succ _ _).symm
    _ ≤ 2 ^ k * p := Nat.mul_le_mul_left _ less

theorem rounded_le {line a : Nat} (aligned : 2 ^ k ∣ line) : 2 ^ k * (a / 2 ^ k) ≤ line ↔ a < line + 2 ^ k := by
  obtain ⟨q, rfl⟩ := aligned
  have positive : 0 < 2 ^ k := Nat.two_pow_pos k
  rw [Nat.mul_le_mul_left_iff positive, ← Nat.mul_succ, ← Nat.lt_succ_iff, Nat.div_lt_iff_lt_mul positive, Nat.mul_comm]

theorem cleanLines_succ (minline ramEnd fuel ram : Nat) : cleanLines minline ramEnd (fuel + 1) ram =
    if ram < ramEnd then (cleanLines minline ramEnd fuel (add32 ram minline)).map (ram :: ·) else some [] := rfl

theorem cleanLines_ends {ramEnd : Nat} (inside : ramEnd ≤ 2 ^ 32 - 2 ^ k) (fuel : Nat) {ram : Nat}
    (enough : ramEnd ≤ ram + fuel * 2 ^ k) : ∃ lines, cleanLines (2 ^ k) ramEnd (fuel + 1) ram = some lines := by
  induction fuel generalizing ram with
  | zero => exact ⟨[], by rw [cleanLines_succ, if_neg (by omega)]⟩
  | succ fuel ih =>
    rw [cleanLines_succ]
    split
    next more =>
      have advanced : add32 ram (2 ^ k) = ram + 2 ^ k := add32_of_lt (by omega)
      rw [Nat.succ_mul] at enough
      obtain ⟨lines, running⟩ := @ih (ram + 2 ^ k) (by omega)
      exact ⟨ram :: lines, by rw [advanced, running]; rfl⟩
    next => exact ⟨[], rfl⟩

theorem cleanLines_members {ramEnd : Nat} (inside : ramEnd ≤ 2 ^ 32 - 2 ^ k) {fuel ram : Nat} (aligned : 2 ^ k ∣ ram)
    {lines : List Nat} (cleaned : cleanLines (2 ^ k) ramEnd fuel ram = some lines) (line : Nat) :
    line ∈ lines ↔ 2 ^ k ∣ line ∧ ram ≤ line ∧ line < ramEnd := by
  induction fuel generalizing ram lines with
  | zero => cases cleaned
  | succ fuel ih =>
    rw [cleanLines_succ] at cleaned
    split at cleaned
    next more =>
      have advanced : add32 ram (2 ^ k) = ram + 2 ^ k := add32_of_lt (by omega)
      rw [advanced] at cleaned
      obtain ⟨rest, running, rfl⟩ := Option.map_eq_some_iff.mp cleaned
      rw [List.mem_cons, ih (Nat.dvd_add aligned (Nat.dvd_refl _)) running]
      constructor
      · rintro (rfl | ⟨whole, above, below⟩)
        · exact ⟨aligned, le_refl _, more⟩
        · exact ⟨whole, by omega, below⟩
      · rintro ⟨whole, above, below⟩
        rcases Nat.eq_or_lt_of_le above with same | beyond
        · exact .inl same.symm
        · exact .inr ⟨whole, line_room aligned whole beyond, below⟩
    next done =>
      cases cleaned
      simp only [List.not_mem_nil, false_iff]
      omega

/-- With an end in the last line every line comes before it. -/
theorem cleanLines_endless (word : k ≤ 32) {ramEnd : Nat} (last : 2 ^ 32 - 2 ^ k < ramEnd) (fuel : Nat) {ram : Nat}
    (aligned : 2 ^ k ∣ ram) (fits : ram < 2 ^ 32) : cleanLines (2 ^ k) ramEnd fuel ram = none := by
  have space : 2 ^ k ∣ 2 ^ 32 := Nat.pow_dvd_pow 2 word
  induction fuel generalizing ram with
  | zero => rfl
  | succ fuel ih =>
    have room := line_room aligned space fits
    have next : 2 ^ k ∣ add32 ram (2 ^ k) := (Nat.dvd_mod_iff space).mpr (Nat.dvd_add aligned (Nat.dvd_refl _))
    rw [cleanLines_succ, if_pos (by omega), ih next (Nat.mod_lt _ (by decide))]
    rfl

end Lines

section Regions

/-- A line is written for a region. -/
structure Visited (k addr memEnd : Nat) (r : TargetRam) (line : Nat) : Prop where
  aligned : 2 ^ k ∣ line
  requested : line < memEnd ∧ addr < line + 2 ^ k
  within : line < add32 r.start r.length ∧ r.start < line + 2 ^ k

/-- Both ends are in the last line. -/
def RunsOver (k memEnd : Nat) (r : TargetRam) : Prop := 2 ^ 32 - 2 ^ k < memEnd ∧ 2 ^ 32 - 2 ^ k < add32 r.start r.length

variable {addr memEnd : Nat} {r : TargetRam}

theorem cleanRegion_eq (word : k < 32) (begins : addr < 2 ^ 32) (fuel : Nat) :
    cleanRegion (2 ^ k) addr memEnd fuel r =
      cleanLines (2 ^ k) (min memEnd (add32 r.start r.length)) fuel (2 ^ k * (max r.start addr / 2 ^ k)) := by
  have fits : max r.start addr < 2 ^ 32 := max_lt r.begins begins
  have first : (if r.start < addr then addr else r.start) = max r.start addr := by
    split <;> omega
  have last : (if memEnd < add32 r.start r.length then memEnd else add32 r.start r.length) =
      min memEnd (add32 r.start r.length) := by
    split <;> omega
  rw [← alignDown_two_pow fits word, ← first, ← last]
  rfl

theorem RunsOver.spared (inner : ¬ RunsOver k memEnd r) : min memEnd (add32 r.start r.length) ≤ 2 ^ 32 - 2 ^ k := by
  rw [RunsOver] at inner
  omega

theorem cleanRegion_ends (word : k < 32) (begins : addr < 2 ^ 32) (inner : ¬ RunsOver k memEnd r) :
    ∃ lines, cleanRegion (2 ^ k) addr memEnd (2 ^ 32 + 1) r = some lines := by
  have inside := RunsOver.spared inner
  have several : 2 ^ 32 ≤ 2 ^ 32 * 2 ^ k := Nat.le_mul_of_pos_right _ (Nat.two_pow_pos k)
  rw [cleanRegion_eq word begins]
  exact cleanLines_ends inside (2 ^ 32) (by omega)

theorem cleanRegion_members (word : k < 32) (begins : addr < 2 ^ 32) (inner : ¬ RunsOver k memEnd r) {fuel : Nat}
    {lines : List Nat} (cleaned : cleanRegion (2 ^ k) addr memEnd fuel r = some lines) (line : Nat) :
    line ∈ lines ↔ Visited k addr memEnd r line := by
  rw [cleanRegion_eq word begins] at cleaned
  rw [cleanLines_members (RunsOver.spared inner) (Nat.dvd_mul_right _ _) cleaned]
  constructor
  · rintro ⟨aligned, above, below⟩
    have both := (rounded_le aligned).mp above
    exact ⟨aligned, ⟨by omega, by omega⟩, by omega, by omega⟩
  · rintro ⟨aligned, requested, within⟩
    exact ⟨aligned, (rounded_le aligned).mpr (by omega), by omega⟩

theorem cleanRegion_endless (word : k < 32) (begins : addr < 2 ^ 32) (beyond : RunsOver k memEnd r) (fuel : Nat) :
    cleanRegion (2 ^ k) addr memEnd fuel r = none := by
  rw [cleanRegion_eq word begins]
  have fits : max r.start addr < 2 ^ 32 := max_lt r.begins begins
  have down := Nat.mul_div_le (max r.start addr) (2 ^ k)
  exact cleanLines_endless word.le (lt_min beyond.1 beyond.2) fuel (Nat.dvd_mul_right _ _) (by omega)

theorem cleanRegions_cons {minline fuel : Nat} {next : List TargetRam} :
    cleanRegions minline addr memEnd fuel (r :: next) = (cleanRegion minline addr memEnd fuel r).bind fun lines =>
      (cleanRegions minline addr memEnd fuel next).bind fun others => some (lines ++ others) := rfl

theorem cleanRegions_ends (word : k < 32) (begins : addr < 2 ^ 32) {ram : List TargetRam}
    (inner : ∀ r ∈ ram, ¬ RunsOver k memEnd r) : ∃ lines, cleanRegions (2 ^ k) addr memEnd (2 ^ 32 + 1) ram = some lines := by
  induction ram with
  | nil => exact ⟨[], rfl⟩
  | cons r next ih =>
    obtain ⟨lines, first⟩ := cleanRegion_ends word begins (inner r List.mem_cons_self)
    obtain ⟨others, rest⟩ := ih fun other listed => inner other (List.mem_cons_of_mem r listed)
    exact ⟨lines ++ others, by rw [cleanRegions_cons, first, rest]; rfl⟩

theorem cleanRegions_members (word : k < 32) (begins : addr < 2 ^ 32) {ram : List TargetRam}
    (inner : ∀ r ∈ ram, ¬ RunsOver k memEnd r) {fuel : Nat} {lines : List Nat}
    (cleaned : cleanRegions (2 ^ k) addr memEnd fuel ram = some lines) (line : Nat) :
    line ∈ lines ↔ ∃ r ∈ ram, Visited k addr memEnd r line := by
  induction ram generalizing lines with
  | nil =>
    cases cleaned
    simp
  | cons r next ih =>
    rw [cleanRegions_cons] at cleaned
    obtain ⟨first, one, remaining⟩ := Option.bind_eq_some_iff.mp cleaned
    obtain ⟨others, rest, both⟩ := Option.bind_eq_some_iff.mp remaining
    cases both
    rw [List.mem_append, cleanRegion_members word begins (inner r List.mem_cons_self) one, List.exists_mem_cons_iff,
      ih (fun other listed => inner other (List.mem_cons_of_mem r listed)) rest]

theorem cleanRegions_endless (word : k < 32) (begins : addr < 2 ^ 32) {ram : List TargetRam} {r : TargetRam} (listed : r ∈ ram)
    (beyond : RunsOver k memEnd r) (fuel : Nat) : cleanRegions (2 ^ k) addr memEnd fuel ram = none := by
  induction ram with
  | nil => cases listed
  | cons first next ih =>
    rw [cleanRegions_cons]
    rcases List.mem_cons.mp listed with rfl | later
    · rw [cleanRegion_endless word begins beyond]
      rfl
    · rw [ih later]
      cases cleanRegion (2 ^ k) addr memEnd fuel first <;> rfl

end Regions

section Coverage

/-- A line and a stretch of memory have a byte in common. -/
def Touches (k line first last : Nat) : Prop := ∃ a, (first ≤ a ∧ a < last) ∧ line ≤ a ∧ a < line + 2 ^ k

/-- A line holds the start of a stretch of memory, or a byte of it. -/
def Reaches (k line first last : Nat) : Prop := line < last ∧ first < line + 2 ^ k

theorem Touches.reaches {line first last : Nat} (touches : Touches k line first last) : Reaches k line first last := by
  obtain ⟨a, inside, lined⟩ := touches
  exact ⟨by omega, by omega⟩

/-- A line belongs to a region that has been enlarged to whole lines. -/
def Enlarged (k line : Nat) (r : TargetRam) : Prop :=
  2 ^ k * (r.start / 2 ^ k) ≤ line ∧ line + 2 ^ k ≤ 2 ^ k * ((r.start + r.length + 2 ^ k - 1) / 2 ^ k)

theorem Reaches.enlarged {line : Nat} {r : TargetRam} (aligned : 2 ^ k ∣ line)
    (reaches : Reaches k line r.start (r.start + r.length)) : Enlarged k line r := by
  refine ⟨(rounded_le aligned).mpr reaches.2, line_room aligned (Nat.dvd_mul_right _ _) ?_⟩
  have up := Nat.lt_mul_div_succ (r.start + r.length + 2 ^ k - 1) (Nat.two_pow_pos k)
  rw [Nat.mul_succ] at up
  have positive := Nat.two_pow_pos k
  have below := reaches.1
  omega

/-- The maintenance of every line of the request in RAM, and of no line elsewhere. -/
structure Maintained (k addr len : Nat) (ram : List TargetRam) (cacheReg : CacheReg) (ops : List (CacheReg × Nat)) : Prop where
  covered : ∀ line, 2 ^ k ∣ line → Touches k line addr (addr + len) →
    (∃ r ∈ ram, Touches k line r.start (r.start + r.length)) → (cacheReg, line) ∈ ops
  inside : ∀ op ∈ ops, op.1 = cacheReg ∧ 2 ^ k ∣ op.2 ∧ ∃ r ∈ ram, Enlarged k op.2 r

/-- Where the maintenance covers a request: neither end at the end of the address space hides a line of it, and no loop runs
over. -/
structure Coverable (k addr len : Nat) (ram : List TargetRam) : Prop where
  inner : ∀ r ∈ ram, ¬ (2 ^ 32 - 2 ^ k < (addr + len) % 2 ^ 32 ∧ 2 ^ 32 - 2 ^ k < (r.start + r.length) % 2 ^ 32)
  request : addr + len = 2 ^ 32 → ∀ line, 2 ^ k ∣ line → Touches k line addr (addr + len) →
    ∀ r ∈ ram, ¬ Touches k line r.start (r.start + r.length)
  regions : ∀ line, 2 ^ k ∣ line → Touches k line addr (addr + len) →
    ∀ r ∈ ram, r.start + r.length = 2 ^ 32 → Touches k line r.start (r.start + r.length) →
      ∃ other ∈ ram, other.start + other.length ≠ 2 ^ 32 ∧ Reaches k line other.start (other.start + other.length)

theorem TargetRam.end_eq {r : TargetRam} (short : r.start + r.length ≠ 2 ^ 32) : add32 r.start r.length = r.start + r.length :=
  add32_of_lt (lt_of_le_of_ne r.fits short)

theorem TargetRam.end_zero {r : TargetRam} (long : r.start + r.length = 2 ^ 32) : add32 r.start r.length = 0 := by
  rw [add32, long, Nat.mod_self]

variable {addr len : Nat} {ram : List TargetRam} {line : Nat}

theorem visited_iff (unwrapped : addr + len ≤ 2 ^ 32) (r : TargetRam) : Visited k addr (add32 addr len) r line ↔
    2 ^ k ∣ line ∧ addr + len ≠ 2 ^ 32 ∧ Reaches k line addr (addr + len) ∧ r.start + r.length ≠ 2 ^ 32 ∧
      Reaches k line r.start (r.start + r.length) := by
  constructor
  · rintro ⟨aligned, requested, within⟩
    have short : addr + len ≠ 2 ^ 32 := by
      intro long
      rw [add32, long, Nat.mod_self] at requested
      omega
    have shortRam : r.start + r.length ≠ 2 ^ 32 := by
      intro long
      rw [TargetRam.end_zero long] at within
      omega
    rw [add32_of_lt (by omega)] at requested
    rw [TargetRam.end_eq shortRam] at within
    exact ⟨aligned, short, requested, shortRam, within⟩
  · rintro ⟨aligned, short, requested, shortRam, within⟩
    refine ⟨aligned, ?_, ?_⟩
    · rwa [add32_of_lt (by omega)]
    · rwa [TargetRam.end_eq shortRam]

theorem lines_maintained (unwrapped : addr + len ≤ 2 ^ 32) (coverable : Coverable k addr len ram) {cacheReg : CacheReg}
    {lines : List Nat} (visited : ∀ line, line ∈ lines ↔ ∃ r ∈ ram, Visited k addr (add32 addr len) r line) :
    Maintained k addr len ram cacheReg (lines.map fun line => (cacheReg, line)) where
  covered line aligned requested within := by
    obtain ⟨r, listed, touches⟩ := within
    have short : addr + len ≠ 2 ^ 32 := fun long => coverable.request long line aligned requested r listed touches
    refine List.mem_map_of_mem ((visited line).mpr ?_)
    by_cases long : r.start + r.length = 2 ^ 32
    · obtain ⟨other, found, shorter, reaches⟩ := coverable.regions line aligned requested r listed long touches
      exact ⟨other, found, (visited_iff unwrapped other).mpr ⟨aligned, short, requested.reaches, shorter, reaches⟩⟩
    · exact ⟨r, listed, (visited_iff unwrapped r).mpr ⟨aligned, short, requested.reaches, long, touches.reaches⟩⟩
  inside op written := by
    obtain ⟨line, listed, rfl⟩ := List.mem_map.mp written
    obtain ⟨r, found, visits⟩ := (visited line).mp listed
    obtain ⟨aligned, -, -, -, reaches⟩ := (visited_iff unwrapped r).mp visits
    exact ⟨rfl, aligned, r, found, reaches.enlarged aligned⟩

theorem lines_coverable (unwrapped : addr + len ≤ 2 ^ 32) (inner : ∀ r ∈ ram, ¬ RunsOver k (add32 addr len) r)
    {cacheReg : CacheReg} {lines : List Nat}
    (visited : ∀ line, line ∈ lines ↔ ∃ r ∈ ram, Visited k addr (add32 addr len) r line)
    (maintained : Maintained k addr len ram cacheReg (lines.map fun line => (cacheReg, line))) : Coverable k addr len ram := by
  have found : ∀ line, 2 ^ k ∣ line → Touches k line addr (addr + len) → ∀ r ∈ ram,
      Touches k line r.start (r.start + r.length) → ∃ other ∈ ram, Visited k addr (add32 addr len) other line := by
    intro line aligned requested r listed touches
    obtain ⟨written, among, same⟩ := List.mem_map.mp (maintained.covered line aligned requested ⟨r, listed, touches⟩)
    obtain rfl : written = line := congrArg Prod.snd same
    exact (visited written).mp among
  refine ⟨inner, fun long line aligned requested r listed touches => ?_, fun line aligned requested r listed _ touches => ?_⟩
  · obtain ⟨other, -, visits⟩ := found line aligned requested r listed touches
    exact ((visited_iff unwrapped other).mp visits).2.1 long
  · obtain ⟨other, among, visits⟩ := found line aligned requested r listed touches
    obtain ⟨-, -, -, shorter, reaches⟩ := (visited_iff unwrapped other).mp visits
    exact ⟨other, among, shorter, reaches⟩

/-- The number of bytes in a line as a power of two. -/
def lineBits (cacheType : BitVec 32) : Nat := ((cacheType >>> 16) &&& 0xf).toNat + 2

/-- The maintenance for a request comes to its end and is as it should be. -/
def CoversAccess (cacheType : BitVec 32) (ram : List TargetRam) (addr len : Nat) (invalidate : Bool) : Prop :=
  ∃ fuel ops, cortexmCacheClean (dcacheLineLength cacheType) ram fuel addr len invalidate = some ops ∧
    Maintained (lineBits cacheType) addr len ram (if invalidate then .dccimvac else .dccmvac) ops

variable {cacheType : BitVec 32}

theorem cortexmCacheClean_eq (cached : (cacheType >>> 29).toNat = cortexCtrFormatArmv7) (fuel : Nat) (invalidate : Bool) :
    cortexmCacheClean (dcacheLineLength cacheType) ram fuel addr len invalidate =
      (cleanRegions (2 ^ lineBits cacheType) addr (add32 addr len) fuel ram).map fun lines =>
        lines.map fun line => (if invalidate then CacheReg.dccimvac else CacheReg.dccmvac, line) := by
  have length : dcacheLineLength cacheType = 2 ^ ((cacheType >>> 16) &&& 0xf).toNat := by
    rw [dcacheLineLength, if_pos cached, cortexCtrDcacheLine, Nat.one_shiftLeft]
  have minline : 2 ^ ((cacheType >>> 16) &&& 0xf).toNat <<< 2 = 2 ^ lineBits cacheType := by
    rw [Nat.shiftLeft_eq, ← Nat.pow_add, lineBits]
  rw [cortexmCacheClean, length, if_neg (Nat.two_pow_pos _).ne', minline]

theorem lineBits_lt (cacheType : BitVec 32) : lineBits cacheType < 32 := by
  have nibble : ((cacheType >>> 16) &&& 0xf).toNat ≤ 15 := by
    rw [BitVec.toNat_and]
    exact Nat.and_le_right
  rw [lineBits]
  omega

theorem cache_clean_iff (cached : (cacheType >>> 29).toNat = cortexCtrFormatArmv7) (begins : addr < 2 ^ 32)
    (unwrapped : addr + len ≤ 2 ^ 32) (ram : List TargetRam) (invalidate : Bool) :
    CoversAccess cacheType ram addr len invalidate ↔ Coverable (lineBits cacheType) addr len ram := by
  have word := lineBits_lt cacheType
  constructor
  · rintro ⟨fuel, ops, cleaned, maintained⟩
    rw [cortexmCacheClean_eq cached] at cleaned
    have inner : ∀ r ∈ ram, ¬ RunsOver (lineBits cacheType) (add32 addr len) r := by
      intro r listed beyond
      rw [cleanRegions_endless word begins listed beyond] at cleaned
      cases cleaned
    obtain ⟨lines, running, rfl⟩ := Option.map_eq_some_iff.mp cleaned
    exact lines_coverable unwrapped inner (cleanRegions_members word begins inner running) maintained
  · intro coverable
    have inner : ∀ r ∈ ram, ¬ RunsOver (lineBits cacheType) (add32 addr len) r := coverable.inner
    obtain ⟨lines, running⟩ := cleanRegions_ends word begins inner
    refine ⟨2 ^ 32 + 1, _, ?_, lines_maintained unwrapped coverable (cleanRegions_members word begins inner running)⟩
    rw [cortexmCacheClean_eq cached, running]
    rfl

/-- A request in internal RAM. -/
theorem sram_clean_iff : CoversAccess 0x80030000 [⟨0x20000000, 0x20000, by decide, by decide, by decide⟩] 0x20000010 0x100 true ↔
    Coverable (lineBits 0x80030000) 0x20000010 0x100 [⟨0x20000000, 0x20000, by decide, by decide, by decide⟩] :=
  cache_clean_iff (by decide) (by decide) (by decide) _ true

/-- RAM at the end of the address space. -/
def topRam : TargetRam := ⟨0xffff0000, 0x10000, by decide, by decide, by decide⟩

theorem top_ram_uncovered : ¬ CoversAccess 0x80030000 [topRam] 0xffff0000 4 false := by
  rintro ⟨fuel, ops, cleaned, maintained⟩
  have nothing : ops = [] := by
    cases fuel with
    | zero => cases cleaned
    | succ fuel => exact (Option.some.inj cleaned).symm
  have touched : Touches (lineBits 0x80030000) 0xffff0000 0xffff0000 (0xffff0000 + 4) := ⟨0xffff0000, by decide, by decide⟩
  have held : Touches (lineBits 0x80030000) 0xffff0000 topRam.start (topRam.start + topRam.length) :=
    ⟨0xffff0000, by decide, by decide⟩
  have missed := maintained.covered 0xffff0000 (by decide) touched ⟨topRam, List.mem_singleton_self _, held⟩
  rw [nothing] at missed
  cases missed

end Coverage

end BlackMagic.Proofs.CacheCoverage

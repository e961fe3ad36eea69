import BlackMagic.Breakpoints
import BlackMagic.Lib.Words

/-! When the comparators that are programmed for a break- or watchpoint match what was asked for. -/

namespace BlackMagic.Proofs.BreakwatchEncodings
open Breakpoints

section FlashPatch

/-- A flash patch comparator stops the instruction at an even address: in the first revision it has
a word of the lowest 512 MiB and a bit for each half of it, in the second one an address. -/
def fpbMatches (flashPatchRevision comp pc : BitVec 32) : Bool :=
  comp.getLsbD 0 &&
    if flashPatchRevision = 0#32 then
      pc >>> 2 = (comp &&& 0x1ffffffc#32) >>> 2 && comp.getLsbD (if pc.getLsbD 1 then 31 else 30)
    else pc >>> 1 = comp >>> 1

/-- The comparator matches just this address. -/
def MatchesBreak (flashPatchRevision comp addr : BitVec 32) : Prop :=
  ∀ pc : BitVec 32, pc.getLsbD 0 = false → (fpbMatches flashPatchRevision comp pc = true ↔ pc = addr)

private theorem same_above (count : Nat) (one other : BitVec 32) :
    one >>> count = other >>> count ↔ ∀ i, count ≤ i → one.getLsbD i = other.getLsbD i := by
  constructor
  · intro same i above
    have bit := congrArg (fun word => word.getLsbD (i - count)) same
    simp only [BitVec.getLsbD_ushiftRight, Nat.add_sub_cancel' above] at bit
    exact bit
  · intro bits
    apply BitVec.eq_of_getLsbD_eq
    intro i _
    rw [BitVec.getLsbD_ushiftRight, BitVec.getLsbD_ushiftRight]
    exact bits _ (Nat.le_add_right _ _)

private theorem word_bits : ∀ i < 32, (0x1ffffffc#32).getLsbD i = decide (2 ≤ i ∧ i < 29) := by decide

private theorem low_bits : ∀ i < 32, (1#32).getLsbD i = decide (i = 0) := by decide

private theorem half_bit (addr : BitVec 32) : addr &&& 2#32 ≠ 0#32 ↔ addr.getLsbD 1 = true :=
  Lib.Words.masked_bit addr (by decide) (by decide)

/-- The comparator of the first revision: the bits of the word, one for each half, and the enable bit. -/
private theorem breakValue_first (addr : BitVec 32) :
    (breakValue 0#32 addr).getLsbD 0 = true ∧
      (∀ i, 2 ≤ i → i < 29 → (breakValue 0#32 addr).getLsbD i = addr.getLsbD i) ∧
      (breakValue 0#32 addr).getLsbD 30 = !addr.getLsbD 1 ∧ (breakValue 0#32 addr).getLsbD 31 = addr.getLsbD 1 := by
  have value : breakValue 0#32 addr
      = ((addr &&& 0x1ffffffc#32) ||| (if addr.getLsbD 1 then 0x80000000#32 else 0x40000000#32)) ||| 1#32 := by
    rw [breakValue, if_pos rfl]
    simp only [half_bit]
  have high : ∀ i < 29, (if addr.getLsbD 1 then 0x80000000#32 else 0x40000000#32).getLsbD i = false := by
    cases addr.getLsbD 1 <;> decide
  rw [value]
  refine ⟨?_, fun i above below => ?_, ?_, ?_⟩
  · rw [BitVec.getLsbD_or, low_bits 0 (by decide)]
    exact Bool.or_true _
  · have inside : i < 32 := by omega
    have body : 2 ≤ i ∧ i < 29 := ⟨above, below⟩
    have upper : ¬ i = 0 := by omega
    rw [BitVec.getLsbD_or, BitVec.getLsbD_or, BitVec.getLsbD_and, word_bits i inside, low_bits i inside, high i below]
    simp [body, upper]
  · rw [BitVec.getLsbD_or, BitVec.getLsbD_or, BitVec.getLsbD_and, word_bits 30 (by decide), low_bits 30 (by decide)]
    cases addr.getLsbD 1 <;> simp
  · rw [BitVec.getLsbD_or, BitVec.getLsbD_or, BitVec.getLsbD_and, word_bits 31 (by decide), low_bits 31 (by decide)]
    cases addr.getLsbD 1 <;> simp

private theorem fpb_first (addr pc : BitVec 32) :
    fpbMatches 0#32 (breakValue 0#32 addr) pc = true ↔
      (∀ i, 2 ≤ i → pc.getLsbD i = (decide (i < 29) && addr.getLsbD i)) ∧ pc.getLsbD 1 = addr.getLsbD 1 := by
  obtain ⟨enabled, word, low, high⟩ := breakValue_first addr
  have masked : ∀ i, 2 ≤ i → (breakValue 0#32 addr &&& 0x1ffffffc#32).getLsbD i = (decide (i < 29) && addr.getLsbD i) := by
    intro i above
    by_cases inside : i < 32
    · rw [BitVec.getLsbD_and, word_bits i inside]
      by_cases below : i < 29
      · simp [above, below, word i above below]
      · simp [below]
    · rw [BitVec.getLsbD_of_ge _ _ (by omega), BitVec.getLsbD_of_ge _ _ (by omega), Bool.and_false]
  have half : (breakValue 0#32 addr).getLsbD (if pc.getLsbD 1 then 31 else 30) = true ↔ pc.getLsbD 1 = addr.getLsbD 1 := by
    cases pc.getLsbD 1 with
    | true =>
      rw [if_pos rfl, high]
      exact eq_comm
    | false =>
      rw [if_neg Bool.false_ne_true, low]
      cases addr.getLsbD 1 <;> decide
  rw [fpbMatches, enabled, Bool.true_and, if_pos rfl, Bool.and_eq_true, decide_eq_true_iff, half, same_above]
  constructor
  · exact fun matched => ⟨fun i above => (matched.1 i above).trans (masked i above), matched.2⟩
  · exact fun matched => ⟨fun i above => (matched.1 i above).trans (masked i above).symm, matched.2⟩

private theorem fpb_later {flashPatchRevision : BitVec 32} (later : flashPatchRevision ≠ 0#32) (addr pc : BitVec 32) :
    fpbMatches flashPatchRevision (breakValue flashPatchRevision addr) pc = true ↔
      ∀ i, 1 ≤ i → pc.getLsbD i = addr.getLsbD i := by
  have value : breakValue flashPatchRevision addr = addr ||| 1#32 := by
    rw [breakValue, if_neg later]
  have body : ∀ i, 1 ≤ i → (addr ||| 1#32).getLsbD i = addr.getLsbD i := by
    intro i above
    by_cases inside : i < 32
    · have upper : ¬ i = 0 := by omega
      rw [BitVec.getLsbD_or, low_bits i inside]
      simp [upper]
    · rw [BitVec.getLsbD_of_ge _ _ (by omega), BitVec.getLsbD_of_ge _ _ (by omega)]
  have enabled : (addr ||| 1#32).getLsbD 0 = true := by
    rw [BitVec.getLsbD_or, low_bits 0 (by decide)]
    exact Bool.or_true _
  rw [fpbMatches, value, enabled, Bool.true_and, if_neg later, decide_eq_true_iff, same_above]
  constructor
  · exact fun matched i above => (matched i above).trans (body i above)
  · exact fun matched i above => (matched i above).trans (body i above).symm

/-- The lowest 512 MiB as bits. -/
private theorem below_iff (addr : BitVec 32) : addr.toNat < 0x20000000 ↔ ∀ i, 29 ≤ i → addr.getLsbD i = false := by
  have power : 0x20000000 = 2 ^ 29 := by decide
  rw [power]
  constructor
  · intro below i high
    exact Nat.testBit_lt_two_pow (Nat.lt_of_lt_of_le below (Nat.pow_le_pow_right (by decide) high))
  · exact fun clear => Nat.lt_pow_two_of_testBit _ clear

private theorem even_word_bits : ∀ i < 32, (0x1ffffffe#32).getLsbD i = decide (1 ≤ i ∧ i < 29) := by decide

private theorem even_bits : ∀ i < 32, (0xfffffffe#32).getLsbD i = decide (1 ≤ i) := by decide

private theorem matchesBreak_first (addr : BitVec 32) :
    MatchesBreak 0#32 (breakValue 0#32 addr) addr ↔ addr.getLsbD 0 = false ∧ addr.toNat < 0x20000000 := by
  have masked : ∀ i, (addr &&& 0x1ffffffe#32).getLsbD i = (addr.getLsbD i && decide (1 ≤ i ∧ i < 29)) := by
    intro i
    by_cases inside : i < 32
    · rw [BitVec.getLsbD_and, even_word_bits i inside]
    · rw [BitVec.getLsbD_of_ge _ _ (by omega), BitVec.getLsbD_of_ge _ _ (by omega), Bool.false_and]
  rw [below_iff]
  constructor
  · intro matched
    have even : (addr &&& 0x1ffffffe#32).getLsbD 0 = false := by
      rw [masked]
      exact Bool.and_false _
    have same : addr &&& 0x1ffffffe#32 = addr := by
      apply (matched _ even).mp
      rw [fpb_first]
      refine ⟨fun i above => ?_, ?_⟩
      · have body : 1 ≤ i := by omega
        rw [masked, Bool.and_comm]
        simp [body]
      · rw [masked]
        exact Bool.and_true _
    refine ⟨by rw [← same]; exact even, fun i high => ?_⟩
    have upper : ¬ (1 ≤ i ∧ i < 29) := by omega
    rw [← same, masked, decide_eq_false upper, Bool.and_false]
  · intro encodable pc even
    obtain ⟨addrEven, high⟩ := encodable
    rw [fpb_first]
    constructor
    · intro bits
      apply BitVec.eq_of_getLsbD_eq
      intro i _
      obtain first | second | above : i = 0 ∨ i = 1 ∨ 2 ≤ i := by omega
      · rw [first, even, addrEven]
      · rw [second, bits.2]
      · rw [bits.1 i above]
        by_cases below : i < 29
        · rw [decide_eq_true below, Bool.true_and]
        · rw [high i (by omega), Bool.and_false]
    · intro same
      refine ⟨fun i above => ?_, by rw [same]⟩
      rw [same]
      by_cases below : i < 29
      · rw [decide_eq_true below, Bool.true_and]
      · rw [high i (by omega), Bool.and_false]

private theorem matchesBreak_later {flashPatchRevision : BitVec 32} (later : flashPatchRevision ≠ 0#32) (addr : BitVec 32) :
    MatchesBreak flashPatchRevision (breakValue flashPatchRevision addr) addr ↔ addr.getLsbD 0 = false := by
  have masked : ∀ i, (addr &&& 0xfffffffe#32).getLsbD i = (addr.getLsbD i && decide (1 ≤ i)) := by
    intro i
    by_cases inside : i < 32
    · rw [BitVec.getLsbD_and, even_bits i inside]
    · rw [BitVec.getLsbD_of_ge _ _ (by omega), BitVec.getLsbD_of_ge _ _ (by omega), Bool.false_and]
  constructor
  · intro matched
    have even : (addr &&& 0xfffffffe#32).getLsbD 0 = false := by
      rw [masked]
      exact Bool.and_false _
    have same : addr &&& 0xfffffffe#32 = addr := by
      apply (matched _ even).mp
      rw [fpb_later later]
      intro i above
      rw [masked, decide_eq_true above, Bool.and_true]
    rw [← same]
    exact even
  · intro addrEven pc even
    rw [fpb_later later]
    constructor
    · intro bits
      apply BitVec.eq_of_getLsbD_eq
      intro i _
      by_cases first : i = 0
      · rw [first, even, addrEven]
      · exact bits i (by omega)
    · exact fun same i _ => by rw [same]

theorem matchesBreak_iff (flashPatchRevision addr : BitVec 32) :
    MatchesBreak flashPatchRevision (breakValue flashPatchRevision addr) addr ↔
      addr.getLsbD 0 = false ∧ (flashPatchRevision = 0#32 → addr.toNat < 0x20000000) := by
  by_cases first : flashPatchRevision = 0#32
  · rw [first, matchesBreak_first, imp_iff_right rfl]
  · rw [matchesBreak_later first]
    exact (and_iff_left fun same => absurd same first).symm

end FlashPatch

section Watch

/-- A watchpoint unit as it is documented: a mask tells how many of the low bits are ignored, and the
comparator must be clear there; what it hits otherwise is left open. -/
structure DwtUnit where
  hits : BitVec 32 → BitVec 32 → BitVec 32 → Bool
  aligned : ∀ comp mask address, mask.toNat < 32 → 2 ^ mask.toNat ∣ comp.toNat →
    (hits comp mask address = true ↔ address.toNat / 2 ^ mask.toNat = comp.toNat / 2 ^ mask.toNat)

/-- Every byte of the range is hit. -/
def CoversRange (comp mask addr : BitVec 32) (len : Nat) : Prop :=
  ∀ unit : DwtUnit, ∀ offset < len, unit.hits comp mask (addr + BitVec.ofNat 32 offset) = true

/-- A unit that hits nothing with a comparator that is not clear under its mask. -/
def strictUnit : DwtUnit where
  hits comp mask address :=
    2 ^ mask.toNat ∣ comp.toNat ∧ address.toNat / 2 ^ mask.toNat = comp.toNat / 2 ^ mask.toNat
  aligned comp mask address _ whole := by
    rw [decide_eq_true_iff]
    exact and_iff_right whole

theorem dwtMask_spec {len : Nat} (fits : len < 2 ^ 32) :
    (dwtMask len).toNat < 32 ∧ (len ≤ 2 ^ 31 → len ≤ 2 ^ (dwtMask len).toNat) ∧
      (2 ^ 31 < len → (dwtMask len).toNat = 31) := by
  rw [dwtMask]
  by_cases short : len < 2
  · rw [if_pos short]
    exact ⟨by decide, fun _ => by show len ≤ 1; omega, fun long => absurd long (by omega)⟩
  · have width : ulog2 (len - 1) = Nat.log2 (len - 1) + 1 := by
      rw [ulog2, Nat.mod_eq_of_lt (show len - 1 < 2 ^ 32 by omega), if_neg (by omega)]
    have value : (BitVec.ofNat 32 (min (ulog2 (len - 1)) 31)).toNat = min (Nat.log2 (len - 1) + 1) 31 := by
      rw [BitVec.toNat_ofNat, width, Nat.mod_eq_of_lt (by omega)]
    rw [if_neg short, value]
    refine ⟨by omega, fun fit => ?_, fun long => ?_⟩
    · have small : Nat.log2 (len - 1) < 31 := (Nat.log2_lt (by omega)).mpr (by omega)
      have above : len - 1 < 2 ^ (Nat.log2 (len - 1) + 1) := Nat.lt_log2_self
      rw [Nat.min_eq_left (by omega)]
      omega
    · have large : 31 ≤ Nat.log2 (len - 1) := (Nat.le_log2 (by omega)).mpr (by omega)
      omega

private theorem strict_hits {comp mask address : BitVec 32} (hit : strictUnit.hits comp mask address = true) :
    2 ^ mask.toNat ∣ comp.toNat ∧ address.toNat / 2 ^ mask.toNat = comp.toNat / 2 ^ mask.toNat :=
  decide_eq_true_iff.mp hit

theorem coversRange_iff (addr : BitVec 32) {len : Nat} (fits : len < 2 ^ 32) :
    CoversRange addr (dwtMask len) addr len ↔
      len = 0 ∨ (len ≤ 2 ^ 31 ∧ 2 ^ (dwtMask len).toNat ∣ addr.toNat) := by
  obtain ⟨small, enough, most⟩ := dwtMask_spec fits
  constructor
  · intro covers
    by_cases none : len = 0
    · exact .inl none
    · have first := (strict_hits (covers strictUnit 0 (by omega))).1
      refine .inr ⟨?_, first⟩
      by_contra long
      have half := most (by omega)
      have other := (strict_hits (covers strictUnit (2 ^ 31) (by omega))).2
      rw [half, BitVec.toNat_add, BitVec.toNat_ofNat] at other
      have bound := addr.isLt
      omega
  · intro encodable unit offset inside
    cases encodable with
    | inl none => omega
    | inr whole =>
      obtain ⟨fit, aligned⟩ := whole
      have room := enough fit
      rw [unit.aligned addr (dwtMask len) _ small aligned]
      obtain ⟨block, start⟩ := aligned
      have power : 2 ^ 32 = 2 ^ (dwtMask len).toNat * 2 ^ (32 - (dwtMask len).toNat) := by
        rw [← Nat.pow_add]
        congr 1
        omega
      have within : addr.toNat + offset < 2 ^ 32 := by
        have below := addr.isLt
        rw [start, power] at below
        have next : block + 1 ≤ 2 ^ (32 - (dwtMask len).toNat) := Nat.lt_of_mul_lt_mul_left below
        have end_ := Nat.mul_le_mul_left (2 ^ (dwtMask len).toNat) next
        rw [← power, Nat.mul_add, ← start] at end_
        omega
      rw [BitVec.toNat_add, BitVec.toNat_ofNat, Nat.mod_eq_of_lt (show offset < 2 ^ 32 by omega), Nat.mod_eq_of_lt within,
        start, Nat.mul_add_div (Nat.two_pow_pos _), Nat.div_eq_of_lt (by omega), Nat.mul_div_cancel_left _ (Nat.two_pow_pos _),
        Nat.add_zero]

/-- The kinds of access that a function value of the unit stands for. -/
def triggers (function : BitVec 32) (write : Bool) : Bool :=
  function &&& 0xf#32 = 7#32 || function &&& 0xf#32 = if write then 6#32 else 5#32

def asked (type : TargetBreakwatch) (write : Bool) : Bool :=
  match type with
  | .watchWrite => write
  | .watchRead => !write
  | .watchAccess => true
  | _ => false

theorem dwtFunc_asked {type : TargetBreakwatch} (watch : type = .watchWrite ∨ type = .watchRead ∨ type = .watchAccess)
    (flavourV6m write : Bool) : triggers (dwtFunc flavourV6m type) write = asked type write := by
  obtain rfl | rfl | rfl := watch
  · cases flavourV6m <;> cases write <;> decide
  · cases flavourV6m <;> cases write <;> decide
  · cases flavourV6m <;> cases write <;> decide

end Watch

section Requests

/-- What the registers of the slot say is what the entry asks for. -/
def Programmed (bw : Breakwatch) (target : Target) : Prop :=
  match bw.type with
  | .breakHard => MatchesBreak target.priv.flashPatchRevision (target.memory (cortexmFpbComp bw.reserved)) bw.addr
  | .watchWrite | .watchRead | .watchAccess =>
    CoversRange (target.memory (cortexmDwtComp bw.reserved)) (target.memory (cortexmDwtMask bw.reserved)) bw.addr bw.size ∧
      ∀ write, triggers (target.memory (cortexmDwtFunc bw.reserved)) write = asked bw.type write
  | _ => True

/-- What the units have an encoding for. -/
def Encodable (flashPatchRevision : BitVec 32) (bw : Breakwatch) : Prop :=
  match bw.type with
  | .breakHard => bw.addr.getLsbD 0 = false ∧ (flashPatchRevision = 0#32 → bw.addr.toNat < 0x20000000)
  | .watchWrite | .watchRead | .watchAccess =>
    bw.size = 0 ∨ (bw.size ≤ 2 ^ 31 ∧ 2 ^ (dwtMask bw.size).toNat ∣ bw.addr.toNat)
  | _ => True

private theorem refused {ret : Int} (negative : ret = -1) : ¬ ret = 0 := by omega

/-- The registers of the slot that a watchpoint has got. -/
private theorem watchpoint_registers {bw : Breakwatch} {target : Target} (placed : (watchpointSet bw target).1 = 0) :
    (watchpointSet bw target).2.1 = { bw with reserved := (watchpointSet bw target).2.1.reserved } ∧
      (watchpointSet bw target).2.2.memory (cortexmDwtComp (watchpointSet bw target).2.1.reserved) = bw.addr ∧
      (watchpointSet bw target).2.2.memory (cortexmDwtMask (watchpointSet bw target).2.1.reserved) = dwtMask bw.size ∧
      (watchpointSet bw target).2.2.memory (cortexmDwtFunc (watchpointSet bw target).2.1.reserved)
        = dwtFunc target.flavourV6m bw.type := by
  rw [watchpointSet] at placed ⊢
  by_cases full : Lib.Slots.firstFree target.priv.watchpointsMask target.priv.watchpointsAvailable
      = target.priv.watchpointsAvailable
  · rw [if_pos full] at placed
    exact absurd placed (refused rfl)
  · rw [if_neg full]
    refine ⟨rfl, ?_, ?_, ?_⟩
    · simp [targetMemWrite32, cortexmDwtComp, cortexmDwtMask, cortexmDwtFunc]
    · simp [targetMemWrite32, cortexmDwtMask, cortexmDwtFunc]
    · simp [targetMemWrite32]

private theorem watchpoint_programmed_iff {bw : Breakwatch} {target : Target}
    (watch : bw.type = .watchWrite ∨ bw.type = .watchRead ∨ bw.type = .watchAccess) (fits : bw.size < 2 ^ 32)
    (placed : (watchpointSet bw target).1 = 0) :
    Programmed (watchpointSet bw target).2.1 (watchpointSet bw target).2.2 ↔
      Encodable target.priv.flashPatchRevision bw := by
  obtain ⟨entry, comp, mask, func⟩ := watchpoint_registers placed
  have kinds (write : Bool) : triggers (dwtFunc target.flavourV6m bw.type) write = asked bw.type write :=
    dwtFunc_asked watch target.flavourV6m write
  have covers := coversRange_iff bw.addr fits
  have both : (CoversRange ((watchpointSet bw target).2.2.memory (cortexmDwtComp (watchpointSet bw target).2.1.reserved))
      ((watchpointSet bw target).2.2.memory (cortexmDwtMask (watchpointSet bw target).2.1.reserved)) bw.addr bw.size ∧
      ∀ write, triggers ((watchpointSet bw target).2.2.memory (cortexmDwtFunc (watchpointSet bw target).2.1.reserved)) write
        = asked bw.type write) ↔
      (bw.size = 0 ∨ (bw.size ≤ 2 ^ 31 ∧ 2 ^ (dwtMask bw.size).toNat ∣ bw.addr.toNat)) := by
    rw [comp, mask, func, covers]
    exact and_iff_left kinds
  generalize (watchpointSet bw target).2.2 = after at *
  generalize (watchpointSet bw target).2.1.reserved = slot at *
  rw [entry]
  obtain ⟨type, addr, size, reserved⟩ := bw
  obtain rfl | rfl | rfl := watch
  · exact both
  · exact both
  · exact both

/-- A request that gets a slot is programmed right exactly if the units can encode it. -/
theorem encodings_match_iff {bw : Breakwatch} (fits : bw.size < 2 ^ 32) {target : Target}
    (placed : (cortexmBreakwatchSet bw target).1 = 0) :
    Programmed (cortexmBreakwatchSet bw target).2.1 (cortexmBreakwatchSet bw target).2.2 ↔
      Encodable target.priv.flashPatchRevision bw := by
  obtain ⟨type, addr, size, reserved⟩ := bw
  cases type with
  | breakHard =>
    rw [cortexmBreakwatchSet] at placed ⊢
    dsimp only at placed ⊢
    by_cases full : Lib.Slots.firstFree target.priv.breakpointsMask target.priv.breakpointsAvailable
        = target.priv.breakpointsAvailable
    · rw [if_pos full] at placed
      exact absurd placed (refused rfl)
    · rw [if_neg full]
      have matched := matchesBreak_iff target.priv.flashPatchRevision addr
      simpa [Programmed, Encodable, targetMemWrite32] using matched
  | watchWrite => exact watchpoint_programmed_iff (.inl rfl) fits placed
  | watchRead => exact watchpoint_programmed_iff (.inr (.inl rfl)) fits placed
  | watchAccess => exact watchpoint_programmed_iff (.inr (.inr rfl)) fits placed
  | breakSoft => exact absurd placed Int.one_ne_zero
  | other value => exact absurd placed Int.one_ne_zero

/-- A target with four watchpoints and six breakpoints in the first revision. -/
def attachedTarget : Target := ⟨true, [], ⟨0#8, 0#8, 4, 6, 0#32, 0#32⟩, false, 0#32, fun _ => 0#32⟩

/-- A word. -/
theorem word_watched :
    Programmed (cortexmBreakwatchSet ⟨.watchWrite, 0x20000004#32, 4, 0⟩ attachedTarget).2.1
        (cortexmBreakwatchSet ⟨.watchWrite, 0x20000004#32, 4, 0⟩ attachedTarget).2.2 ↔
      Encodable attachedTarget.priv.flashPatchRevision ⟨.watchWrite, 0x20000004#32, 4, 0⟩ :=
  encodings_match_iff (by decide) (by decide)

/-- A word that is not aligned. -/
theorem unaligned_word_missed :
    (cortexmBreakwatchSet ⟨.watchWrite, 0x20000002#32, 4, 0⟩ attachedTarget).1 = 0 ∧
      ¬ Programmed (cortexmBreakwatchSet ⟨.watchWrite, 0x20000002#32, 4, 0⟩ attachedTarget).2.1
        (cortexmBreakwatchSet ⟨.watchWrite, 0x20000002#32, 4, 0⟩ attachedTarget).2.2 := by
  refine ⟨by decide, fun programmed => ?_⟩
  have encodable := (@watchpoint_programmed_iff ⟨.watchWrite, 0x20000002#32, 4, 0⟩ attachedTarget (.inl rfl) (by decide)
    (by decide)).mp programmed
  cases encodable with
  | inl none => exact absurd none (by decide)
  | inr whole => exact absurd whole.2 (by decide)

end Requests

end BlackMagic.Proofs.BreakwatchEncodings

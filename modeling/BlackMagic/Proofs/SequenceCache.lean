import BlackMagic.Imxrt
import BlackMagic.Proofs.SpiTransactions
import BlackMagic.Lib.Words

/-! What the slots of the look-up table of an i.MXRT hold when a command is run from them. -/

namespace BlackMagic.Proofs.SequenceCache
open BlackMagic.Imxrt BlackMagic.SpiCommands

variable {data : BitVec 16 → Bool} {state : State} {fresh : Nat → Bool} {session : Bool} {word length : BitVec 16}

section Sequences

theorem address_bit (command : BitVec 16) :
    command &&& spiFlashOpcodeModeMask = spiFlashOpcode3bAddr ↔ command.getLsbD 11 = true := by
  have mask : spiFlashOpcodeModeMask = BitVec.twoPow 16 11 := by decide
  have addressed : spiFlashOpcode3bAddr = BitVec.twoPow 16 11 := by decide
  rw [mask, addressed, BitVec.and_twoPow]
  cases command.getLsbD 11 <;> decide

theorem direction_bit (command : BitVec 16) : command &&& spiFlashDataOut ≠ 0 ↔ command.getLsbD 12 = true :=
  Lib.Words.masked_bit command (by decide) (by decide)

theorem dummy_bits (command : BitVec 16) :
    command &&& spiFlashDummyMask = (command.extractLsb' 8 3).setWidth 16 <<< spiFlashDummyShift := by
  apply BitVec.eq_of_getLsbD_eq
  intro i inside
  simp only [spiFlashDummyMask, spiFlashDummyShift]
  interval_cases i <;> simp

/-- The dummy bytes of a command word, as the driver looks for them and as it turns them into cycles. -/
theorem dummy_spec (command : BitVec 16) :
    (command &&& spiFlashDummyMask ≠ 0 ↔ command.extractLsb' 8 3 ≠ 0) ∧
    (((command &&& spiFlashDummyMask) >>> spiFlashDummyShift).setWidth 8 * 8#8).toNat
      = 8 * (command.extractLsb' 8 3).toNat := by
  rw [dummy_bits]
  generalize command.extractLsb' 8 3 = bytes
  revert bytes
  decide

/-- An instruction that is not a STOP. -/
def Live (insn : LutInsn) : Prop := insn.opcodeMode >>> 2 ≠ lutOpStop

theorem phases_append {insns : List LutInsn} (live : ∀ insn ∈ insns, Live insn) (rest : List LutInsn) :
    phases (insns ++ rest) = insns.map phase ++ phases rest := by
  induction insns with
  | nil => rfl
  | cons insn insns ih =>
    have first : ¬ insn.opcodeMode >>> 2 = lutOpStop := live insn List.mem_cons_self
    have later := ih fun other member => live other (List.mem_cons_of_mem insn member)
    rw [List.cons_append, phases, if_neg first, later, List.map_cons, List.cons_append]

theorem phases_stops (count : Nat) : phases (List.replicate count ⟨0, 0⟩) = [] := by
  cases count with
  | zero => rfl
  | succ count =>
    rw [List.replicate_succ, phases, if_pos]
    decide

theorem sequenceInsns_live (command length : BitVec 16) : ∀ insn ∈ sequenceInsns command length, Live insn := by
  simp only [sequenceInsns, List.forall_mem_append, List.forall_mem_singleton]
  refine ⟨⟨⟨?_, ?_⟩, ?_⟩, ?_⟩
  · exact (by decide : (lutOpcode lutOpCommand ||| lutModeSerial) >>> 2 ≠ lutOpStop)
  · split
    · rw [List.forall_mem_singleton]
      exact (by decide : (lutOpcode lutOpRaddr ||| lutModeSerial) >>> 2 ≠ lutOpStop)
    · exact List.forall_mem_nil Live
  · split
    · rw [List.forall_mem_singleton]
      exact (by decide : (lutOpcode lutOpDummyCycles ||| lutModeSerial) >>> 2 ≠ lutOpStop)
    · exact List.forall_mem_nil Live
  · split
    · split
      · rw [List.forall_mem_singleton]
        exact (by decide : (lutOpcode lutOpWrite ||| lutModeSerial) >>> 2 ≠ lutOpStop)
      · rw [List.forall_mem_singleton]
        exact (by decide : (lutOpcode lutOpRead ||| lutModeSerial) >>> 2 ≠ lutOpStop)
    · exact List.forall_mem_nil Live

theorem sequenceInsns_phases (command length : BitVec 16) :
    (sequenceInsns command length).map phase = requested command (decide (length ≠ 0)) := by
  obtain ⟨asked, cycles⟩ := dummy_spec command
  have opcode : ∀ value, phase ⟨value, lutOpcode lutOpCommand ||| lutModeSerial⟩ = .command value := fun _ => rfl
  have address : phase ⟨24, lutOpcode lutOpRaddr ||| lutModeSerial⟩ = .address 24 := rfl
  have dummies : ∀ value, phase ⟨value, lutOpcode lutOpDummyCycles ||| lutModeSerial⟩ = .dummyCycles value.toNat :=
    fun _ => rfl
  have write : phase ⟨0, lutOpcode lutOpWrite ||| lutModeSerial⟩ = .write := rfl
  have read : phase ⟨0, lutOpcode lutOpRead ||| lutModeSerial⟩ = .read := rfl
  simp only [sequenceInsns, requested, List.map_append, apply_ite (List.map phase), List.map_cons, List.map_nil, opcode,
    address, dummies, write, read, address_bit, direction_bit, SpiTransactions.opcodeByte_eq, asked, decide_eq_true_eq]
  rw [show (8 : BitVec 8) = 8#8 from rfl, cycles]

/-- The sequence that is built for a command makes the controller do what the command asks for. -/
theorem phases_buildSequence (command length : BitVec 16) :
    phases (buildSequence command length) = requested command (decide (length ≠ 0)) := by
  rw [buildSequence, phases_append (sequenceInsns_live command length), phases_stops, List.append_nil,
    sequenceInsns_phases]

end Sequences

section Slots

/-- The search ends in the first slot that holds the command or nothing. -/
theorem findSlot_spec (cachedCommands : Nat → BitVec 16) (command : BitVec 16) (left slot : Nat) :
    (∀ found, findSlot cachedCommands command left slot = .cached found →
      found < slot + left ∧ cachedCommands found = command) ∧
    (∀ found, findSlot cachedCommands command left slot = .empty found → found < slot + left) := by
  induction left generalizing slot with
  | zero =>
    constructor
    · intro found never
      cases never
    · intro found never
      cases never
  | succ left ih =>
    obtain ⟨hit, miss⟩ := ih (slot + 1)
    rw [findSlot]
    by_cases same : cachedCommands slot = command
    · rw [if_pos same]
      constructor
      · intro found here
        cases here
        exact ⟨by omega, same⟩
      · intro found never
        cases never
    · rw [if_neg same]
      by_cases free : cachedCommands slot = 0
      · rw [if_pos free]
        constructor
        · intro found never
          cases never
        · intro found here
          cases here
          omega
      · rw [if_neg free]
        constructor
        · intro found later
          obtain ⟨below, tag⟩ := hit found later
          exact ⟨by omega, tag⟩
        · intro found later
          have below := miss found later
          omega

theorem lookup_cached {found : Nat} (hit : lookup state word = .cached found) :
    state.flexspiCachedCommands found = word :=
  ((findSlot_spec state.flexspiCachedCommands word cachedSlots 0).1 found hit).2

theorem lookup_slot (state : State) (word : BitVec 16) : (lookup state word).slot < cachedSlots := by
  obtain ⟨hit, miss⟩ := findSlot_spec state.flexspiCachedCommands word cachedSlots 0
  rw [Nat.zero_add] at hit miss
  cases found : lookup state word with
  | cached slot => exact (hit slot found).1
  | empty slot => exact miss slot found
  | full => exact Nat.zero_lt_succ 3

/-- A command runs from the slot it is looked up in. -/
theorem build_slot (state : State) (word length : BitVec 16) :
    (imxrtSpiBuildInsnSequence state word length).1 = (lookup state word).slot := by
  rw [imxrtSpiBuildInsnSequence]
  cases lookup state word <;> rfl

/-- Filling a slot writes it where the table is not locked, and leaves the other slots. -/
theorem fillSlot_encodes (allowed : Allowed data word length) (slot : Nat) (unlocked : writable state = true) :
    Encodes (fillSlot state slot word length) slot word (data word) := by
  have written : (fillSlot state slot word length).lut slot = buildSequence word length := by
    simp only [fillSlot, writeLut, if_pos unlocked, beq_self_eq_true, if_true]
  rw [Encodes, written, phases_buildSequence, allowed.2]

theorem fillSlot_lut {place slot : Nat} (other : place ≠ slot) :
    (fillSlot state slot word length).lut place = state.lut place := by
  rw [fillSlot, writeLut]
  split
  · simp only [beq_iff_eq, if_neg other]
  · rfl

theorem fillSlot_locked (slot : Nat) (locked : writable state = false) :
    (fillSlot state slot word length).lut = state.lut := by
  rw [fillSlot, writeLut, locked, if_neg Bool.false_ne_true]

theorem fillSlot_writable (slot : Nat) : writable (fillSlot state slot word length) = writable state := by
  simp only [fillSlot, writeLut, writable]
  split <;> rfl

theorem fillSlot_tag (slot place : Nat) : (fillSlot state slot word length).flexspiCachedCommands place =
    if place = slot then word else state.flexspiCachedCommands place := rfl

end Slots

section Runs

/-- What holds in every run: the slots that are up to date, and that all slots in use are in a session. -/
structure Coherent (data : BitVec 16 → Bool) (state : State) (fresh : Nat → Bool) (session : Bool) : Prop where
  described : ∀ slot, fresh slot = true →
    Encodes state slot (state.flexspiCachedCommands slot) (data (state.flexspiCachedCommands slot))
  unlocked : session = true → writable state = true
  filled : session = true → ∀ slot < cachedSlots, state.flexspiCachedCommands slot ≠ 0 → fresh slot = true

/-- What a filled slot preserves. -/
theorem fillSlot_coherent (coherent : Coherent data state fresh session) (allowed : Allowed data word length) (slot : Nat) :
    Coherent data (fillSlot state slot word length) (fun place => if place = slot then writable state else fresh place)
      session where
  described place current := by
    rw [fillSlot_tag]
    by_cases own : place = slot
    · subst own
      rw [if_pos rfl] at current ⊢
      exact fillSlot_encodes allowed place current
    · rw [if_neg own] at current ⊢
      have kept := coherent.described place current
      rw [Encodes] at kept ⊢
      rw [fillSlot_lut own, kept]
  unlocked active := by
    rw [fillSlot_writable]
    exact coherent.unlocked active
  filled active place inside used := by
    rw [fillSlot_tag] at used
    by_cases own : place = slot
    · rw [if_pos own]
      exact coherent.unlocked active
    · rw [if_neg own] at used ⊢
      exact coherent.filled active place inside used

/-- What a command preserves, hit or miss. -/
theorem command_coherent (coherent : Coherent data state fresh session) (allowed : Allowed data word length) :
    Coherent data (imxrtSpiBuildInsnSequence state word length).2 (refresh state fresh word) session := by
  rw [imxrtSpiBuildInsnSequence, refresh]
  cases lookup state word with
  | cached slot => exact coherent
  | empty slot => exact fillSlot_coherent coherent allowed slot
  | full => exact fillSlot_coherent coherent allowed 0

theorem enter_unlocks (state : State) : writable (imxrtEnterFlashMode state) = true := by
  simp only [imxrtEnterFlashMode, writable]
  by_cases unlocked : state.lutCtrl = lutCtrlUnlock
  · simp only [unlocked, ne_eq, not_true_eq_false, if_false]
    decide
  · simp only [unlocked, ne_eq, not_false_eq_true, if_true]
    decide

/-- An entry forgets all commands. -/
theorem enter_coherent (data : BitVec 16 → Bool) (state : State) :
    Coherent data (imxrtEnterFlashMode state) (fun _ => false) true where
  described _ never := absurd never Bool.false_ne_true
  unlocked _ := enter_unlocks state
  filled _ slot inside used := by
    have cleared : (imxrtEnterFlashMode state).flexspiCachedCommands slot = 0 := if_pos inside
    exact absurd cleared used

/-- Outside of a session nothing is said of slots that are not up to date. -/
theorem idle_coherent (data : BitVec 16 → Bool) (state : State) : Coherent data state (fun _ => false) false where
  described _ never := absurd never Bool.false_ne_true
  unlocked never := absurd never Bool.false_ne_true
  filled never := absurd never Bool.false_ne_true

theorem run_coherent (run : Run data state fresh session) : Coherent data state fresh session := by
  induction run with
  | probed lut lutCtrl mpuCtrl => exact idle_coherent data _
  | enter => exact enter_coherent data _
  | exit => exact idle_coherent data _
  | command _ allowed ih => exact command_coherent ih allowed

/-- In a session every command is backed. -/
theorem session_backed (coherent : Coherent data state fresh true) (nonzero : word ≠ 0) :
    backed state fresh word = true := by
  have inside := lookup_slot state word
  rw [backed]
  cases found : lookup state word with
  | cached slot =>
    have tag := lookup_cached found
    rw [found] at inside
    exact coherent.filled rfl slot inside (tag ▸ nonzero)
  | empty slot => exact coherent.unlocked rfl
  | full => exact coherent.unlocked rfl

/-- A slot that is to be filled comes to encode the command, unless the table is locked and holds something else. -/
theorem fillSlot_iff (allowed : Allowed data word length) (slot : Nat) :
    Encodes (fillSlot state slot word length) slot word (data word) ↔
      writable state = true ∨ Encodes state slot word (data word) := by
  cases lock : writable state with
  | true =>
    constructor
    · intro _
      exact .inl rfl
    · intro _
      exact fillSlot_encodes allowed slot lock
  | false => rw [Encodes, fillSlot_locked slot lock, ← Encodes, or_iff_right Bool.false_ne_true]

/-- What the slot of a command holds after the command. -/
theorem build_iff (coherent : Coherent data state fresh session) (allowed : Allowed data word length) :
    Encodes (imxrtSpiBuildInsnSequence state word length).2 (lookup state word).slot word (data word) ↔
      backed state fresh word = true ∨ Encodes state (lookup state word).slot word (data word) := by
  rw [imxrtSpiBuildInsnSequence, backed]
  cases found : lookup state word with
  | cached slot =>
    have described := coherent.described slot
    rw [lookup_cached found] at described
    constructor
    · intro holds
      exact .inr holds
    · rintro (current | holds)
      · exact described current
      · exact holds
  | empty slot => exact fillSlot_iff allowed slot
  | full => exact fillSlot_iff allowed 0

end Runs

/-- In every run: between an entry and the next change of the mode, the slots in use hold what they are marked with, and
every command runs from a slot that encodes it. In general a command does so where it is backed, or where its slot held
the right sequence before. -/
theorem cache_coherent_iff (run : Run data state fresh session) :
    (session = true → ∀ slot < cachedSlots, state.flexspiCachedCommands slot ≠ 0 →
      Encodes state slot (state.flexspiCachedCommands slot) (data (state.flexspiCachedCommands slot))) ∧
    ∀ word length, Allowed data word length →
      let built := imxrtSpiBuildInsnSequence state word length
      built.1 < cachedSlots ∧ (session = true → Encodes built.2 built.1 word (data word)) ∧
        (Encodes built.2 built.1 word (data word) ↔
          backed state fresh word = true ∨ Encodes state (lookup state word).slot word (data word)) := by
  have coherent := run_coherent run
  constructor
  · intro active slot inside used
    exact coherent.described slot (coherent.filled active slot inside used)
  · intro word length allowed
    have encodes := build_iff coherent allowed
    simp only [build_slot]
    refine ⟨lookup_slot state word, fun active => ?_, encodes⟩
    subst active
    exact encodes.mpr (.inl (session_backed coherent allowed.1))

/-- A probe's state with an empty table that is not locked. -/
def probedState : State :=
  ⟨fun _ => List.replicate sequenceLength ⟨0, 0⟩, lutCtrlUnlock, 0, 0, 0, fun _ => 0,
    fun _ => List.replicate sequenceLength ⟨0, 0⟩⟩

/-- The read of the JEDEC ID in the first session. -/
theorem jedec_id_encoded : Encodes (imxrtSpiBuildInsnSequence (imxrtEnterFlashMode probedState) 0x9f 3).2 0 0x9f true :=
  ((@cache_coherent_iff (fun word => word == 0x9f) _ _ _ (.enter (.probed _ _ _))).2 0x9f 3
    ⟨by decide, by decide⟩).2.1 rfl

/-- The state after a session within a session, in which a write was enabled. -/
def nestedState : State :=
  imxrtExitFlashMode
    (imxrtSpiBuildInsnSequence (imxrtEnterFlashMode (imxrtEnterFlashMode probedState)) 0x06 0).2

/-- After an exit the marks are those of the session that ended, but the table is what it was before. -/
theorem write_enable_lost : Run (fun _ => false) nestedState (fun _ => false) false ∧
    Allowed (fun _ => false) 0x06 0 ∧ (imxrtSpiBuildInsnSequence nestedState 0x06 0).1 = 0 ∧
    ¬ Encodes (imxrtSpiBuildInsnSequence nestedState 0x06 0).2 0 0x06 false :=
  ⟨.exit (.command (.enter (.enter (.probed _ _ _))) ⟨by decide, by decide⟩), ⟨by decide, by decide⟩, by decide, by decide⟩

end BlackMagic.Proofs.SequenceCache

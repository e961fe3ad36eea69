import BlackMagic.Lib.Walk
import BlackMagic.RomTable

/-! When the walk through the ROM tables ends: exactly if the references in the tables do not lead around. -/

namespace BlackMagic.Proofs.RomTableWalk
open RomTable Lib Lib.Walk
open Adiv5 (Component)

variable (memory : TargetMemory) (armComponentLut : List Component)

def pageOf (address : BitVec 32) : BitVec 32 := address &&& 0xfffff000#32

/-- What the present entries of a table refer to, from one entry on. -/
def referencesFrom (addr : BitVec 32) : Nat → Nat → List (BitVec 32)
  | 0, _ => []
  | remaining + 1, i =>
    let entry := memory.word (addr + BitVec.ofNat 32 i * 4)
    if memory.faults (addr + BitVec.ofNat 32 i * 4) then []
    else if entry = 0 then []
    else if entry &&& 1#32 = 0 then referencesFrom addr remaining (i + 1)
    else pageOf (addr + (entry &&& romRomentryOffset)) :: referencesFrom addr remaining (i + 1)

/-- The pages that a table refers to; there is no component at page 0. -/
def references (addr : BitVec 32) : List (BitVec 32) :=
  if addr ≠ 0 ∧ cidClass memory addr = some cidcRomtab then referencesFrom memory addr 960 0 else []

/-- The visit of a component inside of a table. -/
def visitsAt (path : List (BitVec 32)) (addr : BitVec 32) : List Visit :=
  if addr = 0 then []
  else
    match cidClass memory addr with
    | none => [⟨path, none⟩]
    | some cidClass =>
      if cidClass = cidcRomtab then [⟨path, none⟩]
      else [⟨path, leafArch memory armComponentLut addr cidClass (adiv5ApReadPidr memory addr)⟩]

/-- The component at the base is a protected SAMx5x part. -/
def ProtectedPart (base : BitVec 32) : Prop :=
  pageOf base ≠ 0 ∧ cidClass memory (pageOf base) = some cidcRomtab ∧
    samx5xProtected memory (adiv5ApReadPidr memory (pageOf base)) = true

/-- The walk from the base of an access port ends, and no way to a component is at an address twice. -/
def WalksOnce (base : BitVec 32) : Prop :=
  ∃ levels visits,
    adiv5ComponentProbe memory armComponentLut levels [] base = some visits ∧ ∀ visit ∈ visits, visit.path.Nodup

variable {memory armComponentLut}

theorem tableEntries_gather (probe : BitVec 32 → Option (List Visit))
    (masked : ∀ address, probe address = probe (pageOf address)) (addr : BitVec 32) (remaining : Nat) : ∀ i,
    tableEntries memory probe addr remaining i = gather probe (referencesFrom memory addr remaining i) := by
  induction remaining with
  | zero => exact fun _ => rfl
  | succ remaining ih =>
    intro i
    rw [tableEntries, referencesFrom]
    cases faulty : memory.faults (addr + BitVec.ofNat 32 i * 4) with
    | true => rfl
    | false =>
    by_cases last : memory.word (addr + BitVec.ofNat 32 i * 4) = 0
    · simp only [last, if_true, Bool.false_eq_true, if_false, gather]
    by_cases missing : memory.word (addr + BitVec.ofNat 32 i * 4) &&& 1#32 = 0
    · simp only [last, missing, Bool.false_eq_true, if_true, if_false, ih]
    · simp only [last, missing, Bool.false_eq_true, if_false, ih, gather, ← masked]
      cases probe (addr + (memory.word (addr + BitVec.ofNat 32 i * 4) &&& romRomentryOffset)) <;> rfl

theorem pageOf_idem (address : BitVec 32) : pageOf (pageOf address) = pageOf address := by
  simp only [pageOf, BitVec.and_assoc, BitVec.and_self]

theorem probe_masked (levels : Nat) (outer : List (BitVec 32)) (address : BitVec 32) :
    adiv5ComponentProbe memory armComponentLut levels outer address =
      adiv5ComponentProbe memory armComponentLut levels outer (pageOf address) := by
  cases levels with
  | zero => rfl
  | succ levels =>
    have same := pageOf_idem address
    unfold pageOf at same ⊢
    simp only [adiv5ComponentProbe, same]

theorem referencesFrom_masked {addr next : BitVec 32} {remaining : Nat} : ∀ {i : Nat},
    next ∈ referencesFrom memory addr remaining i → pageOf next = next := by
  induction remaining with
  | zero => exact fun listed => by cases listed
  | succ remaining ih =>
    intro i listed
    simp only [referencesFrom] at listed
    split at listed
    · cases listed
    · split at listed
      · cases listed
      · split at listed
        · exact ih listed
        · cases List.mem_cons.mp listed with
          | inl here => rw [here, pageOf_idem]
          | inr later => exact ih later

/-- Unless the base is a protected part, the probe is the walk along the references. -/
theorem probe_walk (levels : Nat) : ∀ (outer : List (BitVec 32)) (address : BitVec 32),
    (outer = [] → ¬ ProtectedPart memory address) →
      adiv5ComponentProbe memory armComponentLut levels outer address =
        walk (references memory) (visitsAt memory armComponentLut) levels outer (pageOf address) := by
  induction levels with
  | zero => exact fun _ _ _ => rfl
  | succ levels ih =>
    intro outer address free
    have inner : ∀ next, adiv5ComponentProbe memory armComponentLut levels (outer ++ [pageOf address]) next =
        walk (references memory) (visitsAt memory armComponentLut) levels (outer ++ [pageOf address]) (pageOf next) :=
      fun next => ih _ next (by simp)
    have masked : ∀ next, adiv5ComponentProbe memory armComponentLut levels (outer ++ [pageOf address]) next =
        adiv5ComponentProbe memory armComponentLut levels (outer ++ [pageOf address]) (pageOf next) :=
      fun next => probe_masked levels _ next
    rw [adiv5ComponentProbe, walk]
    simp only [references, visitsAt, List.length_eq_zero_iff, ne_eq,
      show address &&& 0xfffff000#32 = pageOf address from rfl]
    by_cases zero : pageOf address = 0
    · simp [zero, gather]
    simp only [zero, if_false, not_false_eq_true, true_and]
    cases told : cidClass memory (pageOf address) with
    | none => simp [gather]
    | some kind =>
      by_cases table : kind = cidcRomtab
      · subst table
        have guarded : ¬ (outer = [] ∧ samx5xProtected memory (adiv5ApReadPidr memory (pageOf address)) = true) :=
          fun both => free both.1 ⟨zero, told, both.2⟩
        have followed :
            tableEntries memory (adiv5ComponentProbe memory armComponentLut levels (outer ++ [pageOf address]))
                (pageOf address) 960 0 =
              gather (walk (references memory) (visitsAt memory armComponentLut) levels (outer ++ [pageOf address]))
                (referencesFrom memory (pageOf address) 960 0) := by
          rw [tableEntries_gather _ masked]
          apply gather_congr
          intro next listed
          rw [inner, referencesFrom_masked listed]
        simp only [if_true, guarded, if_false, followed]
        rfl
      · simp [table, gather]

variable (memory) in
/-- The references of the tables lead around to where they have been. -/
def LeadsAround (base : BitVec 32) : Prop := ¬ Acyclic (Refers (references memory)) (pageOf base)

private theorem protected_once {base : BitVec 32} (part : ProtectedPart memory base) :
    WalksOnce memory armComponentLut base := by
  obtain ⟨component, table, guarded⟩ := part
  refine ⟨1, [⟨[pageOf base], some .cortexm⟩], ?_, by simp⟩
  rw [adiv5ComponentProbe]
  simp only [show base &&& 0xfffff000#32 = pageOf base from rfl, component, table, guarded, if_false, if_true,
    List.length_nil, and_self, List.nil_append]

/-- The ways that a walk takes are the paths of its visits. -/
private theorem visit_path {path : List (BitVec 32)} {addr : BitVec 32} {visit : Visit}
    (made : visit ∈ visitsAt memory armComponentLut path addr) : visit.path = path := by
  unfold visitsAt at made
  split at made
  · cases made
  · split at made
    · rw [List.mem_singleton.mp made]
    · split at made
      all_goals rw [List.mem_singleton.mp made]

private theorem words_finite : Finite (BitVec 32) := Finite.of_injective BitVec.toFin fun _ _ => BitVec.eq_of_toFin_eq

/-- The walk through the ROM tables ends and is at each address once on every way exactly if the base is a protected
part, whose table is not walked, or the references do not lead around. -/
theorem walks_once_iff (memory : TargetMemory) (armComponentLut : List Component) (base : BitVec 32) :
    WalksOnce memory armComponentLut base ↔ ProtectedPart memory base ∨ ¬ LeadsAround memory base := by
  by_cases part : ProtectedPart memory base
  · exact iff_of_true (protected_once part) (Or.inl part)
  have same : ∀ levels, adiv5ComponentProbe memory armComponentLut levels [] base =
      walk (references memory) (visitsAt memory armComponentLut) levels [] (pageOf base) :=
    fun levels => probe_walk levels [] base fun _ => part
  unfold WalksOnce LeadsAround
  simp only [part, false_or, not_not, same]
  have finite := words_finite
  rw [← acc_iff_acyclic]
  constructor
  · intro ⟨levels, visits, walked, _⟩
    exact (walk_ends_iff [] _).mp ⟨levels, visits, walked⟩
  · intro accessible
    obtain ⟨levels, visits, walked⟩ :=
      (@walk_ends_iff _ _ _ (visitsAt memory armComponentLut) [] (pageOf base)).mpr accessible
    refine ⟨levels, visits, walked, fun visit listed => ?_⟩
    obtain ⟨rest, last, chain, made⟩ := walk_follows levels walked listed
    rw [visit_path made]
    exact way_nodup ((acc_iff_acyclic _).mp accessible) chain

/-- A table whose first entry refers to the table itself. -/
def selfReferring : TargetMemory where
  word := fun address =>
    if address = 0xe00ffff0#32 then 0x0d else if address = 0xe00ffff4#32 then 0x10
    else if address = 0xe00ffff8#32 then 0x05 else if address = 0xe00ffffc#32 then 0xb1
    else if address = 0xe00ff000#32 then 1 else 0
  faults := fun _ => false

/-- The walk from that table never ends. -/
theorem self_reference_never_ends : ¬ WalksOnce selfReferring [] 0xe00ff003#32 := by
  have listed : references selfReferring 0xe00ff000#32 = [0xe00ff000#32] := by decide +kernel
  have round : Refers (references selfReferring) 0xe00ff000#32 0xe00ff000#32 := by
    rw [Refers, listed]
    exact List.mem_singleton_self _
  have free : ¬ ProtectedPart selfReferring 0xe00ff003#32 := by
    intro part
    exact absurd part.2.2 (by decide)
  intro ⟨levels, visits, walked, _⟩
  rw [probe_walk levels [] _ fun _ => free] at walked
  have accessible := (walk_ends_iff [] _).mp ⟨levels, visits, walked⟩
  exact accessible_no_cycle accessible (.single round)

end BlackMagic.Proofs.RomTableWalk

import BlackMagic.Proofs.FlashWrite
import Mathlib.Data.List.Pairwise

/-! Buffered programming is faithful: whatever the order of the writes and however
they cross buffers and regions, a completed run leaves in flash the written data and
nothing else. -/

namespace BlackMagic.Proofs.FlashFaithful
open BlackMagic.Flash FlashBuffer FlashWrite Lib.Words

variable {layout : Layout} {env : Environment}

/-- The content of flash after a call: a write can only clear bits. -/
def program (content : Nat → Byte) (call : Call) : Nat → Byte :=
  match call with
  | .write _ dest _ data => fun a => if dest ≤ a then content a &&& data[a - dest]?.getD 0xff#8 else content a
  | _ => content

def programmed (content : Nat → Byte) (calls : List Call) : Nat → Byte := calls.foldl program content

/-- A sequence of `target_flash_write` calls, with their answers. -/
def runWrites (layout : Layout) (env : Environment) : List (Nat × List Byte) → Target → List Bool × Target
  | [], target => ([], target)
  | (dest, data) :: rest, target =>
    let written := targetFlashWrite layout env dest data target
    let later := runWrites layout env rest written.2
    (written.1 :: later.1, later.2)

/-- A write carries a byte for an address. -/
def Carries (write : Nat × List Byte) (a : Nat) (v : Byte) : Prop := write.1 ≤ a ∧ write.2[a - write.1]? = some v

/-- Neither carries a byte for an address of the other. -/
def Separate (first second : Nat × List Byte) : Prop := ∀ a v w, ¬ (Carries first a v ∧ Carries second a w)

instance : Std.Symm Separate := ⟨fun _ _ apart a v w both => apart a w v both.symm⟩

theorem Carries.unique {write : Nat × List Byte} {a : Nat} {v w : Byte} (one : Carries write a v)
    (two : Carries write a w) : v = w :=
  Option.some.inj (one.2.symm.trans two.2)

theorem delivered_cons (call : Call) (calls : List Call) (a : Nat) (v : Byte) :
    (∃ i, Delivered (call :: calls) i a v) ↔
      (∃ i dest source data, call = .write i dest source data ∧ Carries (dest, data) a v) ∨ ∃ i, Delivered calls i a v := by
  have split : writesOf (call :: calls) = writesOf [call] ++ writesOf calls := by
    simp only [writesOf, ← List.filterMap_append, List.singleton_append]
  simp only [Delivered, split, List.mem_append, or_and_right, exists_or]
  refine or_congr_left ⟨?_, ?_⟩
  · rintro ⟨i, dest, data, member, covers⟩
    cases call with
    | write j place source bytes =>
      obtain ⟨rfl, rfl, rfl⟩ : i = j ∧ dest = place ∧ data = bytes := by simpa [writesOf, handedBy] using member
      exact ⟨i, dest, source, data, rfl, covers⟩
    | _ => simp [writesOf, handedBy] at member
  · rintro ⟨i, dest, source, data, rfl, covers⟩
    exact ⟨i, dest, data, by simp [writesOf, handedBy], covers⟩

private theorem and_ones (b : Byte) : b &&& 0xff#8 = b := BitVec.and_allOnes

private theorem ones_and (b : Byte) : 0xff#8 &&& b = b := BitVec.allOnes_and

/-- One call programs an address to the one value that may be delivered there, if it
delivers it. -/
private theorem program_step {content : Nat → Byte} {call : Call} {a : Nat} {v : Byte}
    (blank : content a = 0xff#8 ∨ content a = v)
    (only : ∀ i dest source data w, call = .write i dest source data → Carries (dest, data) a w → w = 0xff#8 ∨ w = v) :
    program content call a = content a ∨
      program content call a = v ∧ ∃ i dest source data, call = .write i dest source data ∧ Carries (dest, data) a v := by
  cases call with
  | write i dest source data =>
    simp only [program]
    split
    next reached =>
      cases byte : data[a - dest]? with
      | none => exact .inl (and_ones _)
      | some w =>
        rcases only i dest source data w rfl ⟨reached, byte⟩ with rfl | rfl
        · exact .inl (and_ones _)
        · refine .inr ⟨?_, i, dest, source, data, rfl, reached, byte⟩
          rcases blank with blank | same
          · rw [blank, Option.getD_some, ones_and]
          · rw [same, Option.getD_some, BitVec.and_self]
    next => exact .inl rfl
  | _ => exact .inl rfl

theorem programmed_value {calls : List Call} {content : Nat → Byte} {a : Nat} {v : Byte}
    (blank : content a = 0xff#8 ∨ content a = v) (only : ∀ i w, Delivered calls i a w → w = 0xff#8 ∨ w = v)
    (reaches : content a = v ∨ ∃ i, Delivered calls i a v) : programmed content calls a = v := by
  induction calls generalizing content with
  | nil =>
    rcases reaches with same | ⟨i, dest, data, member, -⟩
    · exact same
    · simp [writesOf] at member
  | cons call calls ih =>
    have here : ∀ i dest source data w, call = .write i dest source data → Carries (dest, data) a w →
        w = 0xff#8 ∨ w = v := by
      intro i dest source data w is covers
      obtain ⟨j, delivered⟩ := (delivered_cons call calls a w).mpr (.inl ⟨i, dest, source, data, is, covers⟩)
      exact only j w delivered
    have later : ∀ i w, Delivered calls i a w → w = 0xff#8 ∨ w = v := by
      intro i w delivered
      obtain ⟨j, first⟩ := (delivered_cons call calls a w).mpr (.inr ⟨i, delivered⟩)
      exact only j w first
    have step := program_step blank here
    refine ih (step.elim (fun same => by rwa [same]) fun new => .inr new.1) later ?_
    rcases step with same | ⟨new, -⟩
    · rw [same]
      rcases reaches with already | delivered
      · exact .inl already
      · rcases (delivered_cons call calls a v).mp delivered with ⟨i, dest, source, data, rfl, covers⟩ | rest
        · obtain ⟨reached, byte⟩ : dest ≤ a ∧ data[a - dest]? = some v := covers
          left
          simp only [program, if_pos reached, byte, Option.getD_some] at same
          rcases blank with blank | already
          · rw [blank, ones_and] at same
            rw [blank, same]
          · exact already
        · exact .inr rest
    · exact .inl new

theorem programmed_untouched {calls : List Call} {content : Nat → Byte} {a : Nat}
    (only : ∀ i w, Delivered calls i a w → w = 0xff#8) : programmed content calls a = content a :=
  programmed_value (.inr rfl) (fun i w delivered => .inl (only i w delivered)) (.inl rfl)

/-- What a sequence of writes adds to the bytes written before. -/
def afterWrites (Written : Nat → Byte → Prop) (writes : List (Nat × List Byte)) : Nat → Byte → Prop :=
  fun a v => Written a v ∨ ∃ write ∈ writes, Carries write a v

theorem afterWrites_cons (Written : Nat → Byte → Prop) (dest : Nat) (data : List Byte)
    (writes : List (Nat × List Byte)) :
    afterWrites (extend Written dest data) writes = afterWrites Written ((dest, data) :: writes) := by
  funext a v
  simp only [afterWrites, extend, Carries, List.mem_cons, exists_eq_or_imp, or_assoc]

/-- A write that lies in flash. -/
structure Placed (layout : Layout) (write : Nat × List Byte) : Prop where
  address : write.1 < 2 ^ 32
  mapped : Mapped layout write.1 write.2.length

theorem Placed.fits {write : Nat × List Byte} (placed : Placed layout write) : write.1 + write.2.length < 2 ^ 32 := by
  have address := placed.address
  rcases Nat.eq_zero_or_pos write.2.length with none | some
  · omega
  · obtain ⟨i, inside, place⟩ := placed.mapped (write.1 + write.2.length - 1) (by omega) (by omega)
    have valid := flash_valid layout inside
    have bounded := valid.bounded
    have reached := (contains_iff valid _).mp place
    omega

/-- Every write of a sequence was acknowledged, or had nothing to write. -/
def Acknowledged (writes : List (Nat × List Byte)) (answers : List Bool) : Prop :=
  ∀ pair ∈ writes.zip answers, pair.2 = true ∨ pair.1.2 = []

theorem runWrites_accounted {Written : Nat → Byte → Prop} {writes : List (Nat × List Byte)} {target : Target}
    {run : List Bool × Target} (running : runWrites layout env writes target = run)
    (placed : ∀ write ∈ writes, Placed layout write) (disjoint : writes.Pairwise Separate)
    (fresh : ∀ write ∈ writes, ∀ a v w, Written a v → ¬ Carries write a w)
    (faithful : Faithful layout Written target) (resting : Resting target) :
    (Acknowledged writes run.1 → Faithful layout (afterWrites Written writes) run.2 ∧ Resting run.2 ∧
      (Obliging env → writes ≠ [] ∨ target.flashMode = true → run.2.flashMode = true)) ∧
    (Obliging env → Generous env → Acknowledged writes run.1) := by
  induction writes generalizing Written target run with
  | nil =>
    subst running
    refine ⟨fun _ => ⟨?_, resting, fun _ mode => mode.resolve_left (by simp)⟩, fun _ _ pair member => by cases member⟩
    have same : afterWrites Written [] = Written := by
      funext a v
      simp [afterWrites]
    rwa [same]
  | cons write writes ih =>
    obtain ⟨dest, data⟩ := write
    rw [runWrites] at running
    generalize passing : targetFlashWrite layout env dest data target = written at running
    generalize following : runWrites layout env writes written.2 = later at running
    subst running
    obtain ⟨apart, disjointRest⟩ := List.pairwise_cons.mp disjoint
    have here := placed (dest, data) List.mem_cons_self
    have agrees : Agrees layout Written target dest data := by
      intro a v old low high
      have inside : a - dest < data.length := by omega
      exact absurd ⟨low, List.getElem?_eq_getElem inside⟩ (fresh (dest, data) List.mem_cons_self a v _ old)
    obtain ⟨success, answer⟩ := targetFlashWrite_accounted passing here.fits faithful resting agrees
    have freshRest : ∀ other ∈ writes, ∀ a v w, extend Written dest data a v → ¬ Carries other a w := by
      rintro other member a v w (old | new) covers
      · exact fresh other (List.mem_cons_of_mem _ member) a v w old covers
      · exact apart other member a v w ⟨new, covers⟩
    have rest := fun (accounted : Accounted layout env (extend Written dest data) target written.2) =>
      ih following (fun other member => placed other (List.mem_cons_of_mem _ member)) disjointRest freshRest
        accounted.faithful accounted.resting
    constructor
    · intro acknowledged
      have accounted := success (acknowledged ((dest, data), written.1) List.mem_cons_self)
      obtain ⟨final, finalResting, mode⟩ :=
        (rest accounted).1 fun pair member => acknowledged pair (List.mem_cons_of_mem _ member)
      rw [afterWrites_cons] at final
      exact ⟨final, finalResting, fun obliging _ => mode obliging (.inr (accounted.mode obliging))⟩
    · intro obliging generous
      have outcome : written.1 = true ∨ data = [] := by
        by_cases empty : data = []
        · exact .inr empty
        · exact .inl (answer obliging generous empty here.mapped)
      intro pair member
      rcases List.mem_cons.mp member with rfl | member
      · exact outcome
      · exact (rest (success outcome)).2 obliging generous pair member

theorem probed_faithful (layout : Layout) : Faithful layout (fun _ _ => False) Target.probed ∧ Resting Target.probed := by
  refine ⟨⟨rfl, fun i _ => .clean (.inl rfl), fun _ _ none => none.elim, ?_, ?_⟩,
    fun i => by simp [Target.probed, FlashState.registered]⟩
  · rintro i a v ⟨dest, data, member, -⟩
    simp [Target.probed, writesOf] at member
  · rintro i - a v ⟨buf, isBuf, -⟩
    cases isBuf

/-- Separate writes into flash, in any order: if the drivers do what they are asked
and flash was erased, an acknowledged run that is completed leaves the written data
where it was written and erased flash elsewhere. Only an exhausted heap can keep a run
from being acknowledged and completed. -/
theorem writes_programmed (layout : Layout) (env : Environment) (writes : List (Nat × List Byte))
    (content : Nat → Byte) (blank : ∀ flash ∈ layout.list, flash.erased = 0xff#8)
    (erased : ∀ i < layout.list.length, ∀ a, (layout.flash i).contains a = true → content a = 0xff#8)
    (obliging : Obliging env) (placed : ∀ write ∈ writes, Placed layout write)
    (disjoint : writes.Pairwise Separate) :
    let run := runWrites layout env writes Target.probed
    let complete := targetFlashComplete layout env run.2
    (Acknowledged writes run.1 → complete.1 = true →
      (∀ write ∈ writes, ∀ a v, Carries write a v → programmed content complete.2.calls a = v) ∧
      (∀ a, (∀ write ∈ writes, ∀ v, ¬ Carries write a v) → programmed content complete.2.calls a = content a)) ∧
    (Generous env → Acknowledged writes run.1 ∧ (writes ≠ [] → complete.1 = true)) := by
  intro run complete
  obtain ⟨start, resting⟩ := probed_faithful layout
  obtain ⟨accounted, answer⟩ := runWrites_accounted (show runWrites layout env writes Target.probed = run from rfl)
    placed disjoint (fun _ _ _ _ _ none => none.elim) start resting
  have erasedByte : ∀ i < layout.list.length, (layout.flash i).erased = 0xff#8 := by
    intro i inside
    rw [Regions.flash, List.getElem?_eq_getElem inside]
    exact blank _ (List.getElem_mem inside)
  constructor
  · intro acknowledged completed
    obtain ⟨faithful, rests, -⟩ := accounted acknowledged
    obtain ⟨handed, delivered, -⟩ :=
      targetFlashComplete_handed (show targetFlashComplete layout env run.2 = complete from rfl) faithful rests
    have only : ∀ i a w, Delivered complete.2.calls i a w → w = 0xff#8 ∨ ∃ write ∈ writes, Carries write a w := by
      intro i a w new
      obtain ⟨inside, -, origin⟩ := delivered i a w new
      rcases origin with filler | written
      · exact .inl (filler.trans (erasedByte i inside))
      · exact .inr (written.resolve_left id)
    constructor
    · intro write member a v covers
      obtain ⟨i, inside, place, given⟩ := handed completed a v (.inr ⟨write, member, covers⟩)
      refine programmed_value (.inl (erased i inside a place)) (fun j w new => ?_) (.inr ⟨i, given⟩)
      refine (only j a w new).imp_right ?_
      rintro ⟨other, otherMember, otherCovers⟩
      by_cases same : other = write
      · exact (same ▸ otherCovers).unique covers
      · exact absurd ⟨otherCovers, covers⟩ (disjoint.forall otherMember member same a w v)
    · intro a uncovered
      refine programmed_untouched fun i w new => (only i a w new).resolve_right ?_
      rintro ⟨write, member, covers⟩
      exact uncovered write member w covers
  · intro generous
    have acknowledged := answer obliging generous
    refine ⟨acknowledged, fun some => ?_⟩
    obtain ⟨faithful, rests, mode⟩ := accounted acknowledged
    obtain ⟨-, -, completes⟩ :=
      targetFlashComplete_handed (show targetFlashComplete layout env run.2 = complete from rfl) faithful rests
    exact completes obliging (mode obliging (.inl some))

private def mainFlash : TargetFlash := ⟨0x08000000, 0x1000, 0x400, 8, 1024, 0xff#8, false, false⟩

private def dataFlash : TargetFlash := ⟨0x08001000, 0x1000, 0x400, 1024, 1024, 0xff#8, true, true⟩

private theorem mainFlash_valid : mainFlash.Valid := ⟨⟨3, by decide, rfl⟩, rfl, by decide, by decide, by decide⟩

private theorem dataFlash_valid : dataFlash.Valid := ⟨⟨10, by decide, rfl⟩, rfl, by decide, by decide, by decide⟩

/-- Two adjacent regions with different write sizes. -/
def twoRegions : Layout where
  list := [dataFlash, mainFlash]
  valid := by
    intro flash member
    simp only [List.mem_cons, List.not_mem_nil, or_false] at member
    rcases member with rfl | rfl
    · exact dataFlash_valid
    · exact mainFlash_valid
  apart := by
    simp only [List.pairwise_cons, List.mem_singleton, forall_eq, List.not_mem_nil, false_implies, implies_true,
      List.Pairwise.nil, and_true]
    rintro addr ⟨first, second⟩
    have high := ((contains_iff dataFlash_valid addr).mp first).1
    have low := ((contains_iff mainFlash_valid addr).mp second).2
    simp only [dataFlash, mainFlash] at high low
    omega

/-- An environment in which everything succeeds. -/
def willing : Environment := ⟨true, true, true, fun _ => true, fun _ _ => 0#8⟩

/-- A write across the two regions, and one before it. -/
def crossing : List (Nat × List Byte) := [(0x08000ffe, [1#8, 2#8, 3#8, 4#8]), (0x08000ff0, [5#8])]

private theorem crossing_placed : ∀ write ∈ crossing, Placed twoRegions write := by
  have inFlash : ∀ a, 0x08000000 ≤ a → a < 0x08002000 →
      ∃ i < twoRegions.list.length, (twoRegions.flash i).contains a = true := by
    intro a low high
    by_cases second : 0x08001000 ≤ a
    · exact ⟨0, by decide, (contains_iff dataFlash_valid a).mpr ⟨second, high⟩⟩
    · exact ⟨1, by decide, (contains_iff mainFlash_valid a).mpr ⟨low, Nat.lt_of_not_le second⟩⟩
  intro write member
  simp only [crossing, List.mem_cons, List.not_mem_nil, or_false] at member
  rcases member with rfl | rfl
  · refine ⟨by decide, fun a low high => inFlash a ?_ ?_⟩ <;> simp at low high <;> omega
  · refine ⟨by decide, fun a low high => inFlash a ?_ ?_⟩ <;> simp at low high <;> omega

private theorem crossing_disjoint : crossing.Pairwise Separate := by
  simp only [crossing, List.pairwise_cons, List.mem_singleton, forall_eq, List.not_mem_nil, false_implies,
    implies_true, List.Pairwise.nil, and_true]
  rintro a v w ⟨⟨low, -⟩, high, byte⟩
  have short := (List.getElem?_eq_some_iff.mp byte).1
  simp at short low high
  omega

theorem crossing_write_programmed :
    (targetFlashComplete twoRegions willing (runWrites twoRegions willing crossing Target.probed).2).1 = true ∧
      programmed (fun _ => 0xff#8)
        (targetFlashComplete twoRegions willing (runWrites twoRegions willing crossing Target.probed).2).2.calls
        0x08001001 = 4#8 := by
  obtain ⟨content, success⟩ := writes_programmed twoRegions willing crossing (fun _ => 0xff#8) (by decide)
    (fun _ _ _ _ => rfl) (fun _ _ _ => rfl) crossing_placed crossing_disjoint
  obtain ⟨acknowledged, completes⟩ := success fun _ _ => rfl
  have done := completes (by simp [crossing])
  obtain ⟨written, -⟩ := content acknowledged done
  have last : Carries (0x08000ffe, [1#8, 2#8, 3#8, 4#8]) 0x08001001 4#8 := by simp [Carries]
  exact ⟨done, written _ List.mem_cons_self _ _ last⟩

end BlackMagic.Proofs.FlashFaithful

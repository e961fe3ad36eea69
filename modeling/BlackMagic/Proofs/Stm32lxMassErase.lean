import BlackMagic.Stm32lx

/-! What the mass erase of the STM32L0 and STM32L1 says about the erases of its regions. -/

namespace BlackMagic.Proofs.Stm32lxMassErase
open BlackMagic.Stm32lx Lib.Polling

section Waits
variable {patience : Nat}

/-- The polls before the `n`-th find the controller busy, and without an error. -/
def BusyUntil (wait : BusyWait) (n : Nat) : Prop := ∀ m < n, wait.sr m &&& nvmSrBsy ≠ 0 ∧ wait.checkError m = false

/-- The controller is done before an error. -/
def Over (patience : Nat) (wait : BusyWait) : Prop := ∃ n < patience, BusyUntil wait n ∧ wait.sr n &&& nvmSrBsy = 0

/-- An error comes while the controller is busy. -/
def Lost (patience : Nat) (wait : BusyWait) : Prop :=
  ∃ n < patience, BusyUntil wait n ∧ wait.sr n &&& nvmSrBsy ≠ 0 ∧ wait.checkError n = true

/-- No error is left after a wait. -/
def Clean (wait : BusyWait) : Prop := wait.statusError = false ∧ wait.status &&& nvmSrErrM = 0

theorem over_iff (wait : BusyWait) : await (fun n =>
    if wait.sr n &&& nvmSrBsy = 0 then some true
    else if wait.checkError n then some false
    else none) patience 0 = some true ↔ Over patience wait := by
  have ended := @await_first Bool (fun n => wait.sr n &&& nvmSrBsy = 0) (wait.checkError · = true) _ _ true false patience
    (by decide)
  simp only [Bool.not_eq_true] at ended
  exact ended

theorem lost_iff (wait : BusyWait) : await (fun n =>
    if wait.sr n &&& nvmSrBsy = 0 then some true
    else if wait.checkError n then some false
    else none) patience 0 = some false ↔ Lost patience wait := by
  have ended := @await_second Bool (fun n => wait.sr n &&& nvmSrBsy = 0) (wait.checkError · = true) _ _ true false patience
    (by decide)
  simp only [Bool.not_eq_true] at ended
  exact ended

theorem nvmBusyWait_true {wait : BusyWait} :
    nvmBusyWait patience wait = some true ↔ Over patience wait ∧ Clean wait := by
  rw [← over_iff, Clean, nvmBusyWait, Option.map_eq_some_iff]
  constructor
  · intro ⟨ended, found, done⟩
    simp only [Bool.and_eq_true, Bool.not_eq_true', beq_iff_eq] at done
    exact ⟨done.1.1 ▸ found, done.1.2, done.2⟩
  · intro ⟨found, error, status⟩
    exact ⟨true, found, by rw [error, status]; rfl⟩

theorem nvmBusyWait_false {wait : BusyWait} :
    nvmBusyWait patience wait = some false ↔ Lost patience wait ∨ Over patience wait ∧ ¬ Clean wait := by
  rw [← over_iff, ← lost_iff, Clean, nvmBusyWait, Option.map_eq_some_iff]
  constructor
  · intro ⟨ended, found, done⟩
    cases ended with
    | false => exact .inl found
    | true =>
      refine .inr ⟨found, fun clean => ?_⟩
      rw [clean.1, clean.2] at done
      cases done
  · rintro (found | ⟨found, unclean⟩)
    · exact ⟨false, found, rfl⟩
    · refine ⟨true, found, ?_⟩
      by_contra clean
      apply unclean
      simpa using clean

end Waits

section Erases
variable {patience : Nat} {answers : EraseAnswers}

/-- The mode of an erase of program Flash. -/
def mode : BitVec 32 := nvmPecrErase ||| nvmPecrProg

/-- The controller is unlocked and takes the mode. -/
def Ready (answers : EraseAnswers) : Prop := answers.unlockedPecr &&& nvmPecrPrglock = 0 ∧ answers.pecr &&& mode = mode

/-- An erase of program Flash succeeds. -/
def Succeeds (patience : Nat) (answers : EraseAnswers) : Prop :=
  Ready answers ∧ Over patience answers.wait ∧ Clean answers.wait

/-- An erase of program Flash ends with an error. -/
def Fails (patience : Nat) (answers : EraseAnswers) : Prop :=
  ¬ Ready answers ∨ Lost patience answers.wait ∨ Over patience answers.wait ∧ ¬ Clean answers.wait

theorem progErase_result (flash : Flash) (addr length : Nat) :
    (Ready answers → (stm32lxNvmProgErase patience answers flash addr length).1 = nvmBusyWait patience answers.wait) ∧
      (¬ Ready answers → (stm32lxNvmProgErase patience answers flash addr length).1 = some false) := by
  rw [stm32lxNvmProgErase, nvmErase, Ready, ← mode, nvmProgDataUnlock]
  by_cases unlocked : answers.unlockedPecr &&& nvmPecrPrglock = 0
  · rw [beq_iff_eq.mpr unlocked, Bool.not_true, if_neg Bool.false_ne_true]
    by_cases taken : answers.pecr &&& mode = mode
    · rw [if_neg (not_not.mpr taken)]
      exact ⟨fun _ => rfl, fun unready => absurd ⟨unlocked, taken⟩ unready⟩
    · rw [if_pos taken]
      exact ⟨fun ready => absurd ready.2 taken, fun _ => rfl⟩
  · rw [beq_eq_false_iff_ne.mpr unlocked, Bool.not_false, if_pos rfl]
    exact ⟨fun ready => absurd ready.1 unlocked, fun _ => rfl⟩

theorem progErase_true {flash : Flash} {addr length : Nat} :
    (stm32lxNvmProgErase patience answers flash addr length).1 = some true ↔ Succeeds patience answers := by
  have result := @progErase_result patience answers flash addr length
  by_cases ready : Ready answers
  · rw [result.1 ready, nvmBusyWait_true]
    exact ⟨fun done => ⟨ready, done⟩, fun done => done.2⟩
  · rw [result.2 ready]
    exact ⟨(fun never => by cases never), fun done => absurd done.1 ready⟩

theorem progErase_false {flash : Flash} {addr length : Nat} :
    (stm32lxNvmProgErase patience answers flash addr length).1 = some false ↔ Fails patience answers := by
  have result := @progErase_result patience answers flash addr length
  by_cases ready : Ready answers
  · rw [result.1 ready, nvmBusyWait_false]
    exact ⟨.inr, fun failed => failed.resolve_left fun unready => unready ready⟩
  · rw [result.2 ready]
    exact ⟨fun _ => .inl ready, fun _ => rfl⟩

end Erases

section MassErase
variable {patience : Nat} {answers : Nat → EraseAnswers}

/-- The whole region is erased by its own routine, with success. -/
structure ErasedBy (flash : Flash) (call : Call) : Prop where
  region : call.flash = flash
  routine : call.routine = flash.erase
  addr : call.addr = flash.start
  length : call.length = flash.length
  result : call.result = some true

/-- The mass erase returns true exactly where every erase fails. -/
theorem massEraseLoop_true {list : List Flash} {i : Nat} :
    (massEraseLoop patience answers i list).1 = some true ↔ ∀ j < list.length, Fails patience (answers (i + j)) := by
  induction list generalizing i with
  | nil => exact ⟨fun _ j never => absurd never (Nat.not_lt_zero j), fun _ => rfl⟩
  | cons flash rest ih =>
    have first := @progErase_false patience (answers i) flash flash.start flash.length
    rw [massEraseLoop, List.length_cons, @forall_from_succ (fun j => Fails patience (answers j)), ← ih, ← first]
    cases (stm32lxNvmProgErase patience (answers i) flash flash.start flash.length).1 with
    | none => simp
    | some erased => cases erased <;> simp

/-- The loop only erases every region where there is none, or a single one of program Flash. -/
theorem massEraseLoop_erases {list : List Flash} {i : Nat} :
    List.Forall₂ ErasedBy list (massEraseLoop patience answers i list).2 ↔
      list = [] ∨ ∃ flash, list = [flash] ∧ flash.erase = .prog ∧ Succeeds patience (answers i) := by
  cases list with
  | nil => exact ⟨fun _ => .inl rfl, fun _ => .nil⟩
  | cons flash rest =>
    have first := @progErase_true patience (answers i) flash flash.start flash.length
    constructor
    · intro erased
      rw [massEraseLoop] at erased
      cases result : (stm32lxNvmProgErase patience (answers i) flash flash.start flash.length).1 with
      | none =>
        simp only [result] at erased
        cases erased with
        | cons here _ => cases here.result
      | some done =>
        cases done with
        | false =>
          simp only [result] at erased
          cases erased with
          | cons here _ => cases here.result
        | true =>
          simp only [result] at erased
          cases erased with
          | cons here later =>
            cases later
            exact .inr ⟨flash, rfl, here.routine.symm, first.mp result⟩
    · rintro (never | ⟨single, same, own, succeeds⟩)
      · cases never
      · cases same
        rw [massEraseLoop, first.mpr succeeds]
        exact .cons ⟨rfl, own.symm, rfl, rfl, rfl⟩ .nil

/-- An erase that succeeds ends the loop. -/
theorem massEraseLoop_stops {flash : Flash} {rest : List Flash} {i : Nat} (succeeds : Succeeds patience (answers i)) :
    (massEraseLoop patience answers i (flash :: rest)).1 = some false := by
  rw [massEraseLoop, progErase_true.mpr succeeds]
  rfl

/-- The mass erase returns true if and only if every region is erased. -/
def Honest (patience : Nat) (answers : Nat → EraseAnswers) (list : List Flash) : Prop :=
  ∀ result, (stm32lxMassErase patience answers list).1 = some result →
    (result = true ↔ List.Forall₂ ErasedBy list (stm32lxMassErase patience answers list).2)

/-- The mass erase is honest exactly where not all of some erases fail, and where it is not a single one that succeeds. -/
theorem massErase_honest_iff (patience : Nat) (answers : Nat → EraseAnswers) (list : List Flash) :
    Honest patience answers list ↔
      ¬ (list ≠ [] ∧ ∀ i < list.length, Fails patience (answers i)) ∧
        ¬ ∃ flash, list = [flash] ∧ flash.erase = .prog ∧ Succeeds patience (answers 0) := by
  rw [Honest, stm32lxMassErase]
  have erases := @massEraseLoop_erases patience answers list 0
  have succeeds := @massEraseLoop_true patience answers list 0
  simp only [Nat.zero_add] at succeeds
  rw [erases, ← succeeds]
  constructor
  · intro honest
    have single : ¬ ∃ flash, list = [flash] ∧ flash.erase = .prog ∧ Succeeds patience (answers 0) := by
      intro ⟨flash, same, own, done⟩
      have stopped := @massEraseLoop_stops patience answers flash [] 0 done
      rw [← same] at stopped
      cases (honest false stopped).mpr (.inr ⟨flash, same, own, done⟩)
    refine ⟨?_, single⟩
    intro ⟨regions, failed⟩
    exact ((honest true failed).mp rfl).elim regions single
  · intro ⟨failed, single⟩ result returned
    cases result with
    | true => exact ⟨fun _ => .inl (by_contra fun regions => failed ⟨regions, returned⟩), fun _ => rfl⟩
    | false =>
      constructor
      · intro never
        cases never
      · rintro (empty | one)
        · rw [empty] at returned
          cases returned
        · exact absurd one single

/-- A controller that does every erase. -/
def obedient : EraseAnswers := ⟨0, mode, ⟨fun _ => 0, fun _ => false, 0, false⟩⟩

/-- The only region of an STM32L1 is erased, and the mass erase returns false. -/
theorem stm32l1_erased : stm32l0Probe 0x416 = some [⟨0x8000000, 0x80000, 0x100, .prog⟩] ∧
    (stm32lxMassErase 1 (fun _ => obedient) [⟨0x8000000, 0x80000, 0x100, .prog⟩]).1 = some false ∧
      ¬ Honest 1 (fun _ => obedient) [⟨0x8000000, 0x80000, 0x100, .prog⟩] := by
  have returned : (stm32lxMassErase 1 (fun _ => obedient) [⟨0x8000000, 0x80000, 0x100, .prog⟩]).1 = some false := by
    decide +kernel
  refine ⟨by decide, returned, fun honest => ?_⟩
  have erased : List.Forall₂ ErasedBy [⟨0x8000000, 0x80000, 0x100, .prog⟩]
      (stm32lxMassErase 1 (fun _ => obedient) [⟨0x8000000, 0x80000, 0x100, .prog⟩]).2 :=
    .cons ⟨rfl, rfl, rfl, rfl, by decide +kernel⟩ .nil
  cases (honest false returned).mpr erased

end MassErase

end BlackMagic.Proofs.Stm32lxMassErase

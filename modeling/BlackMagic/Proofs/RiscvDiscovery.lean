import BlackMagic.RiscvDebug
import Mathlib.Data.List.Nodup
import Mathlib.Data.List.Range

/-! When the discovery of debug modules ends and initialises each of them once. -/

namespace BlackMagic.Proofs.RiscvDiscovery
open RiscvDebug

variable (dmi : Dmi)

/-- The bases that the links lead to, one pass after the other. -/
def baseAt : Nat → BitVec 32
  | 0 => 0
  | pass + 1 => (dmi.dmiRead pass (baseAt pass + rvDmNextDm)).getD 0

/-- What the status tells in a pass, if it can be read. -/
def versionAt (pass : Nat) : Option DebugVersion :=
  (dmi.dmiRead pass (baseAt dmi pass + rvDmStatus)).map riscvDmVersion

/-- In this pass there is a module. -/
def Implemented (pass : Nat) : Prop := ∃ version, versionAt dmi pass = some version ∧ version ≠ .unimpl

/-- This pass ends the loop: no status can be read, there is no memory for the module, or there is no further base. -/
def LoopEnds (pass : Nat) : Prop :=
  versionAt dmi pass = none ∨ Implemented dmi pass ∧ dmi.allocates pass = false ∨
    nextModule dmi pass (baseAt dmi pass) = none

/-- The module that is initialised in a pass. -/
def moduleAt (pass : Nat) : Option DebugModule :=
  match versionAt dmi pass with
  | none => none
  | some version => if version ≠ .unimpl ∧ dmi.allocates pass then some ⟨baseAt dmi pass, version⟩ else none

/-- Discovery ends, and initialises each base once. -/
def DiscoversOnce : Prop :=
  ∃ passes modules, riscvDmiInit dmi passes = some modules ∧ (modules.map DebugModule.base).Nodup

/-- The version of the bus is one that is not looked at. -/
def Unsupported : Prop := dmi.version = .unknown ∨ dmi.version = .v0_11

variable {dmi}

theorem base_next {pass : Nat} {next : BitVec 32} (onward : nextModule dmi pass (baseAt dmi pass) = some next) :
    baseAt dmi (pass + 1) = next := by
  unfold nextModule at onward
  rw [baseAt]
  cases answer : dmi.dmiRead pass (baseAt dmi pass + rvDmNextDm) with
  | none => simp only [answer, reduceCtorEq] at onward
  | some value =>
    simp only [answer, Option.ite_none_right_eq_some, Option.some.injEq] at onward
    exact onward.2

theorem module_base {pass : Nat} {found : DebugModule} (made : moduleAt dmi pass = some found) :
    found.base = baseAt dmi pass := by
  unfold moduleAt at made
  cases told : versionAt dmi pass with
  | none => simp only [told, reduceCtorEq] at made
  | some version =>
    simp only [told, Option.ite_none_right_eq_some, Option.some.injEq] at made
    rw [← made.2]

/-- A pass that does not end the loop goes on with the next one. -/
theorem probe_goes {passes pass : Nat} (goes : ¬ LoopEnds dmi pass) :
    probeModules dmi (passes + 1) pass (baseAt dmi pass) =
      (probeModules dmi passes (pass + 1) (baseAt dmi (pass + 1))).map ((moduleAt dmi pass).toList ++ ·) := by
  obtain ⟨readable, room, linked⟩ := not_or.mp goes |>.imp_right not_or.mp
  obtain ⟨next, onward⟩ := Option.ne_none_iff_exists'.mp linked
  rw [probeModules, base_next onward, moduleAt]
  unfold Implemented at room
  unfold versionAt at readable room ⊢
  cases answer : dmi.dmiRead pass (baseAt dmi pass + rvDmStatus) with
  | none => simp [answer] at readable
  | some status =>
    simp only [answer, Option.map_some, Option.some.injEq, exists_eq_left', onward] at room ⊢
    by_cases absent : riscvDmVersion status = .unimpl
    · simp [absent]
    · simp only [absent, not_false_eq_true, ne_eq, true_and, Bool.not_eq_false] at room
      simp [absent, room]

/-- A pass that ends the loop. -/
theorem probe_ends {passes pass : Nat} (ends : LoopEnds dmi pass) :
    probeModules dmi (passes + 1) pass (baseAt dmi pass) = some (moduleAt dmi pass).toList := by
  rw [probeModules, moduleAt]
  unfold LoopEnds Implemented at ends
  unfold versionAt at ends ⊢
  cases answer : dmi.dmiRead pass (baseAt dmi pass + rvDmStatus) with
  | none => simp
  | some status =>
    simp only [answer, Option.map_some, Option.some.injEq, exists_eq_left', reduceCtorEq, false_or] at ends ⊢
    by_cases absent : riscvDmVersion status = .unimpl
    · simp only [absent, ne_eq, not_true_eq_false, false_and, false_or] at ends
      simp [absent, ends]
    · by_cases room : dmi.allocates pass = true
      · simp only [room, Bool.true_eq_false, and_false, false_or] at ends
        simp [absent, room, ends]
      · simp [absent, room]

variable (dmi) in
/-- The modules of some passes. -/
def modulesFrom (pass count : Nat) : List DebugModule := (List.range count).filterMap fun k => moduleAt dmi (pass + k)

theorem modules_more (pass count : Nat) :
    modulesFrom dmi pass (count + 1) = (moduleAt dmi pass).toList ++ modulesFrom dmi (pass + 1) count := by
  unfold modulesFrom
  rw [List.range_succ_eq_map, List.filterMap_cons, List.filterMap_map]
  simp only [Function.comp_def, Nat.add_zero, Nat.succ_eq_add_one, ← Nat.add_assoc, Nat.add_right_comm]
  cases made : moduleAt dmi (pass + 0) <;> simp only [Nat.add_zero] at made <;> simp [made]

variable (dmi) in
/-- The first pass that ends the loop, counted from another one. -/
structure FirstEnd (pass more : Nat) : Prop where
  ends : LoopEnds dmi (pass + more)
  before : ∀ k < more, ¬ LoopEnds dmi (pass + k)

theorem firstEnd_later {pass more : Nat} (goes : ¬ LoopEnds dmi pass) :
    FirstEnd dmi pass (more + 1) ↔ FirstEnd dmi (pass + 1) more := by
  constructor
  · intro first
    refine ⟨by simpa only [Nat.add_right_comm, ← Nat.add_assoc] using first.ends, fun k below => ?_⟩
    simpa only [Nat.add_right_comm, ← Nat.add_assoc] using first.before (k + 1) (by omega)
  · intro first
    refine ⟨by simpa only [Nat.add_right_comm, ← Nat.add_assoc] using first.ends, fun k below => ?_⟩
    cases k with
    | zero => exact goes
    | succ k => simpa only [Nat.add_right_comm, ← Nat.add_assoc] using first.before k (by omega)

/-- The loop from some pass on: it ends with the first pass that ends it, and initialises the modules up to there. -/
theorem probe_iff (passes : Nat) : ∀ (pass : Nat) (modules : List DebugModule),
    probeModules dmi passes pass (baseAt dmi pass) = some modules ↔
      ∃ more < passes, FirstEnd dmi pass more ∧ modules = modulesFrom dmi pass (more + 1) := by
  induction passes with
  | zero => simp [probeModules]
  | succ passes ih =>
    intro pass modules
    by_cases ends : LoopEnds dmi pass
    · rw [probe_ends ends]
      constructor
      · intro made
        refine ⟨0, by omega, ⟨ends, by simp⟩, ?_⟩
        rw [← Option.some.inj made, modules_more]
        exact (List.append_nil _).symm
      · intro ⟨more, _, first, made⟩
        cases more with
        | zero =>
          rw [made, modules_more]
          exact congrArg some (List.append_nil _).symm
        | succ more => exact absurd ends (first.before 0 (by omega))
    · rw [probe_goes ends]
      constructor
      · intro made
        obtain ⟨rest, later, joined⟩ := Option.map_eq_some_iff.mp made
        obtain ⟨more, enough, first, listed⟩ := (ih (pass + 1) rest).mp later
        refine ⟨more + 1, by omega, (firstEnd_later ends).mpr first, ?_⟩
        rw [← joined, listed, modules_more pass]
      · intro ⟨more, enough, first, listed⟩
        cases more with
        | zero => exact absurd first.ends ends
        | succ more =>
          have later := (ih (pass + 1) _).mpr ⟨more, by omega, (firstEnd_later ends).mp first, rfl⟩
          rw [later, listed, modules_more pass]
          rfl

variable (dmi) in
/-- A module is initialised in this pass. -/
def Initialised (pass : Nat) : Prop := Implemented dmi pass ∧ dmi.allocates pass = true

theorem initialised_iff (pass : Nat) : Initialised dmi pass ↔ ∃ found, moduleAt dmi pass = some found := by
  unfold Initialised Implemented moduleAt
  cases versionAt dmi pass with
  | none => simp
  | some version => simp

variable (dmi) in
/-- The bases of the modules that are initialised up to a pass are all different. -/
def Apart (last : Nat) : Prop :=
  ∀ earlier later, earlier < later → later ≤ last → Initialised dmi earlier → Initialised dmi later →
    baseAt dmi earlier ≠ baseAt dmi later

theorem apart_iff (last : Nat) : ((modulesFrom dmi 0 (last + 1)).map DebugModule.base).Nodup ↔ Apart dmi last := by
  unfold modulesFrom
  rw [List.Nodup, List.pairwise_map, List.pairwise_filterMap, List.pairwise_iff_getElem]
  simp only [List.length_range, List.getElem_range, Nat.zero_add]
  constructor
  · intro different earlier later order inside first second
    obtain ⟨made, madeFirst⟩ := (initialised_iff earlier).mp first
    obtain ⟨other, madeSecond⟩ := (initialised_iff later).mp second
    rw [← module_base madeFirst, ← module_base madeSecond]
    exact different earlier later (by omega) (by omega) order made madeFirst other madeSecond
  · intro apart earlier later _ below order made madeFirst other madeSecond
    rw [module_base madeFirst, module_base madeSecond]
    exact apart earlier later order (by omega) ((initialised_iff earlier).mpr ⟨made, madeFirst⟩)
      ((initialised_iff later).mpr ⟨other, madeSecond⟩)

/-- Discovery ends with each base initialised once exactly if the version is not looked at, or some pass ends the loop
and the modules up to the first such pass are at different bases. -/
theorem discovers_once_iff (dmi : Dmi) :
    DiscoversOnce dmi ↔ Unsupported dmi ∨ ∃ last, FirstEnd dmi 0 last ∧ Apart dmi last := by
  unfold DiscoversOnce Unsupported riscvDmiInit
  by_cases unknown : dmi.version = .unknown
  · simp [unknown]
  by_cases old : dmi.version = .v0_11
  · simp [old]
  simp only [unknown, old, if_false, or_self, false_or]
  constructor
  · intro ⟨passes, modules, found, distinct⟩
    obtain ⟨last, _, first, listed⟩ := (probe_iff passes 0 modules).mp found
    rw [listed] at distinct
    exact ⟨last, first, (apart_iff last).mp distinct⟩
  · intro ⟨last, first, apart⟩
    exact ⟨last + 1, modulesFrom dmi 0 (last + 1), (probe_iff (last + 1) 0 _).mpr ⟨last, by omega, first, rfl⟩,
      (apart_iff last).mpr apart⟩

/-- A bus with one module whose link leads back to it. -/
def selfLinked : Dmi where
  version := .v0_13
  dmiRead := fun _ address => if address = 0x11 then some 2 else if address = 0x1d then some 0x40
    else if address = 0x51 then some 0 else if address = 0x5d then some 0x40 else none
  allocates := fun _ => true

/-- Behind the first module the links stay at one address. -/
theorem self_link_never_ends : ¬ DiscoversOnce selfLinked := by
  have stays : ∀ pass, baseAt selfLinked (pass + 1) = 0x40#32 := by
    intro pass
    induction pass with
    | zero => rfl
    | succ pass ih => rw [baseAt, ih]; rfl
  have goes : ∀ passes pass, probeModules selfLinked passes (pass + 1) 0x40#32 = none := by
    intro passes
    induction passes with
    | zero => exact fun _ => rfl
    | succ passes ih =>
      intro pass
      have next := ih (pass + 1)
      change (probeModules selfLinked passes (pass + 2) 0x40#32).map _ = none
      rw [next]
      rfl
  intro ⟨passes, modules, found, _⟩
  cases passes with
  | zero => cases found
  | succ passes =>
    change (probeModules selfLinked passes 1 0x40#32).map _ = some modules at found
    rw [goes] at found
    cases found

end BlackMagic.Proofs.RiscvDiscovery

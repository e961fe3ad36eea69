import Mathlib.Data.Fintype.Pigeonhole
import Mathlib.Data.List.Chain
import Mathlib.Logic.Relation
import Mathlib.Order.WellFounded

/-! Depth-first walks along references: when they end, and the ways they take. -/

namespace BlackMagic.Lib.Walk

variable {σ β : Type}

/-- The findings of all of them, one after the other. -/
def gather (go : σ → Option (List β)) : List σ → Option (List β)
  | [] => some []
  | place :: rest =>
    match go place with
    | none => none
    | some found => (gather go rest).map (found ++ ·)

/-- A walk of at most so many levels, with the way to each place. -/
def walk (onward : σ → List σ) (find : List σ → σ → List β) : Nat → List σ → σ → Option (List β)
  | 0, _, _ => none
  | levels + 1, way, place =>
    (gather (walk onward find levels (way ++ [place])) (onward place)).map (find (way ++ [place]) place ++ ·)

def Refers (onward : σ → List σ) (place next : σ) : Prop := next ∈ onward place

/-- Nothing that can be reached from here refers back to itself. -/
def Acyclic (refers : σ → σ → Prop) (place : σ) : Prop :=
  ∀ next, Relation.ReflTransGen refers place next → ¬ Relation.TransGen refers next next

section Gathering
variable {go : σ → Option (List β)}

theorem gather_some_iff (places : List σ) :
    (∃ found, gather go places = some found) ↔ ∀ place ∈ places, ∃ found, go place = some found := by
  induction places with
  | nil => simp [gather]
  | cons place rest ih =>
    rw [List.forall_mem_cons, ← ih, gather]
    cases go place with
    | none => simp
    | some first => cases gather go rest <;> simp

theorem mem_gather {places : List σ} {found : List β} (gathered : gather go places = some found) {item : β}
    (member : item ∈ found) :
    ∃ place ∈ places, ∃ here, go place = some here ∧ item ∈ here := by
  induction places generalizing found with
  | nil =>
    cases gathered
    cases member
  | cons place rest ih =>
    rw [gather] at gathered
    cases first : go place with
    | none => simp only [first, reduceCtorEq] at gathered
    | some here =>
      simp only [first] at gathered
      obtain ⟨others, later, joined⟩ := Option.map_eq_some_iff.mp gathered
      rw [← joined] at member
      cases List.mem_append.mp member with
      | inl inside => exact ⟨place, List.mem_cons_self, here, first, inside⟩
      | inr inside =>
        obtain ⟨other, listed, rest⟩ := ih later inside
        exact ⟨other, List.mem_cons_of_mem _ listed, rest⟩

theorem gather_congr {other : σ → Option (List β)} {places : List σ} (same : ∀ place ∈ places, go place = other place) :
    gather go places = gather other places := by
  induction places with
  | nil => rfl
  | cons place rest ih =>
    rw [gather, gather, same place List.mem_cons_self, ih fun next listed => same next (List.mem_cons_of_mem _ listed)]

end Gathering

section Endings
variable {onward : σ → List σ} {find : List σ → σ → List β}

private theorem walk_succ_iff (levels : Nat) (way : List σ) (place : σ) :
    (∃ found, walk onward find (levels + 1) way place = some found) ↔
      ∀ next ∈ onward place, ∃ found, walk onward find levels (way ++ [place]) next = some found := by
  rw [← gather_some_iff, walk]
  cases gather (walk onward find levels (way ++ [place])) (onward place) <;> simp

theorem walk_more {levels more : Nat} (enough : levels ≤ more) : ∀ {way : List σ} {place : σ},
    (∃ found, walk onward find levels way place = some found) →
      ∃ found, walk onward find more way place = some found := by
  induction levels generalizing more with
  | zero => exact fun ended => ended.elim fun _ impossible => by cases impossible
  | succ levels ih =>
    intro way place ended
    obtain ⟨more, rfl⟩ := Nat.exists_eq_succ_of_ne_zero (Nat.ne_of_gt (Nat.lt_of_lt_of_le levels.succ_pos enough))
    apply (walk_succ_iff more way place).mpr
    exact fun next listed => ih (Nat.le_of_succ_le_succ enough) ((walk_succ_iff levels way place).mp ended next listed)

private theorem enough_for_all (way : List σ) (places : List σ)
    (each : ∀ next ∈ places, ∃ levels found, walk onward find levels way next = some found) :
    ∃ levels, ∀ next ∈ places, ∃ found, walk onward find levels way next = some found := by
  induction places with
  | nil => exact ⟨0, by simp⟩
  | cons place rest ih =>
    obtain ⟨levels, others⟩ := ih fun next listed => each next (List.mem_cons_of_mem _ listed)
    obtain ⟨first, ended⟩ := each place List.mem_cons_self
    refine ⟨max levels first, fun next listed => ?_⟩
    cases List.mem_cons.mp listed with
    | inl here => exact walk_more (Nat.le_max_right _ _) (here ▸ ended)
    | inr later => exact walk_more (Nat.le_max_left _ _) (others next later)

/-- A walk ends exactly if there is no endless way from its place. -/
theorem walk_ends_iff (way : List σ) (place : σ) :
    (∃ levels found, walk onward find levels way place = some found) ↔
      Acc (fun next here => Refers onward here next) place := by
  constructor
  · intro ⟨levels, ended⟩
    induction levels generalizing way place with
    | zero => exact ended.elim fun _ impossible => by cases impossible
    | succ levels ih =>
      apply Acc.intro
      exact fun next listed => ih _ next ((walk_succ_iff levels way place).mp ended next listed)
  · intro accessible
    induction accessible generalizing way with
    | intro place _ ih =>
      obtain ⟨levels, ended⟩ := enough_for_all (way ++ [place]) (onward place) fun next listed => ih next listed _
      exact ⟨levels + 1, (walk_succ_iff levels way place).mpr ended⟩

/-- Every finding is at the end of a way along the references. -/
theorem walk_follows (levels : Nat) : ∀ {way : List σ} {place : σ} {found : List β} {item : β},
    walk onward find levels way place = some found → item ∈ found →
      ∃ rest last, (place :: rest).IsChain (Refers onward) ∧ item ∈ find (way ++ place :: rest) last := by
  induction levels with
  | zero => exact fun impossible => by cases impossible
  | succ levels ih =>
    intro way place found item walked member
    rw [walk] at walked
    obtain ⟨others, later, joined⟩ := Option.map_eq_some_iff.mp walked
    rw [← joined] at member
    cases List.mem_append.mp member with
    | inl here => exact ⟨[], place, List.isChain_singleton place, here⟩
    | inr inside =>
      obtain ⟨next, listed, here, walkedNext, inHere⟩ := mem_gather later inside
      obtain ⟨rest, last, chain, atLast⟩ := ih walkedNext inHere
      rw [List.append_assoc, List.singleton_append] at atLast
      exact ⟨next :: rest, last, List.isChain_cons_cons.mpr ⟨listed, chain⟩, atLast⟩

end Endings

section Cycles
variable {refers : σ → σ → Prop}

theorem accessible_reached {place next : σ} (accessible : Acc (fun next here => refers here next) place)
    (reached : Relation.ReflTransGen refers place next) : Acc (fun next here => refers here next) next := by
  induction reached with
  | refl => exact accessible
  | tail _ step ih => exact ih.inv step

theorem accessible_no_cycle {place : σ} (accessible : Acc (fun next here => refers here next) place) :
    ¬ Relation.TransGen refers place place := by
  induction accessible with
  | intro place _ ih =>
    intro cycle
    obtain ⟨next, step, back⟩ := Relation.TransGen.head'_iff.mp cycle
    exact ih next step (Relation.TransGen.tail' back step)

private theorem endless_forward {endless : Nat → σ} (steps : ∀ n, refers (endless n) (endless (n + 1)))
    (start more : Nat) : Relation.TransGen refers (endless start) (endless (start + more + 1)) := by
  induction more with
  | zero => exact .single (steps start)
  | succ more ih => exact ih.tail (steps (start + more + 1))

private theorem endless_reached {endless : Nat → σ} (steps : ∀ n, refers (endless n) (endless (n + 1))) (n : Nat) :
    Relation.ReflTransGen refers (endless 0) (endless n) := by
  cases n with
  | zero => exact .refl
  | succ more => simpa only [Nat.zero_add] using (endless_forward steps 0 more).to_reflTransGen

/-- Among finitely many places there is an endless way exactly if there is a cycle to go around. -/
theorem acc_iff_acyclic [Finite σ] (place : σ) :
    Acc (fun next here => refers here next) place ↔ Acyclic refers place := by
  constructor
  · exact fun accessible next reached => accessible_no_cycle (accessible_reached accessible reached)
  · intro acyclic
    apply Classical.byContradiction
    intro blocked
    obtain ⟨endless, start, steps⟩ := not_acc_iff_exists_descending_chain.mp blocked
    obtain ⟨first, second, different, same⟩ := Finite.exists_ne_map_eq_of_infinite endless
    have around : ∀ earlier later, earlier < later → endless earlier = endless later → False := by
      intro earlier later order meets
      obtain ⟨more, rfl⟩ := Nat.exists_eq_add_of_lt order
      have cycle := endless_forward steps earlier more
      rw [← meets] at cycle
      exact acyclic (endless earlier) (start ▸ endless_reached steps earlier) cycle
    cases Nat.lt_or_gt_of_ne different with
    | inl order => exact around first second order same
    | inr order => exact around second first order same.symm

/-- A way without a cycle never comes back. -/
theorem way_nodup {place : σ} (acyclic : Acyclic refers place) : ∀ {rest : List σ},
    (place :: rest).IsChain refers → (place :: rest).Nodup := by
  intro rest chain
  have forward : (place :: rest).Pairwise (Relation.TransGen refers) :=
    (chain.imp fun _ _ step => Relation.TransGen.single step).pairwise
  have reached : ∀ next ∈ place :: rest, Relation.ReflTransGen refers place next := by
    intro next listed
    cases List.mem_cons.mp listed with
    | inl here => exact here ▸ .refl
    | inr later => exact (List.rel_of_pairwise_cons forward later).to_reflTransGen
  refine forward.imp_of_mem ?_
  intro first second listed _ step same
  exact acyclic first (reached first listed) (same ▸ step)

end Cycles

end BlackMagic.Lib.Walk

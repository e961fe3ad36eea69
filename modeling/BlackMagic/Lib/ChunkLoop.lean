import Mathlib.Data.List.Basic
import Mathlib.Data.Nat.ModEq

/-! The loop `for (x = start; x < limit; x += stride)` over unsigned 32-bit numbers, whose body goes
on or ends it, and when its counter runs over. -/

namespace BlackMagic.Lib.ChunkLoop

variable {σ ρ : Type}

/-- So many passes of the loop; there is no result if they are not enough. -/
def chunkLoop (stride limit : Nat) (body : Nat → σ → σ ⊕ ρ) (finish : σ → ρ) : Nat → Nat → σ → Option ρ
  | 0, _, _ => none
  | passes + 1, x, state =>
    if x < limit then
      match body x state with
      | .inl next => chunkLoop stride limit body finish passes ((x + stride) % 2 ^ 32) next
      | .inr result => some result
    else some (finish state)

/-- The passes over some counters without the loop around them. -/
def sweep (body : Nat → σ → σ ⊕ ρ) (finish : σ → ρ) : List Nat → σ → ρ
  | [], state => finish state
  | x :: rest, state =>
    match body x state with
    | .inl next => sweep body finish rest next
    | .inr result => result

/-- The passes over some counters, as far as they go. -/
def passOver (body : Nat → σ → σ ⊕ ρ) : List Nat → σ → σ ⊕ ρ
  | [], state => .inl state
  | x :: rest, state =>
    match body x state with
    | .inl next => passOver body rest next
    | .inr result => .inr result

/-- How many chunks there are. -/
def count (start limit stride : Nat) : Nat := (limit - start + stride - 1) / stride

/-- Where the chunks start. -/
def starts (start stride : Nat) : Nat → List Nat
  | 0 => []
  | more + 1 => start :: starts (start + stride) stride more

/-- The counter gets to the limit before it runs over. -/
def Straight (start limit stride : Nat) : Prop := start < limit → start + stride * count start limit stride < 2 ^ 32

instance (start limit stride : Nat) : Decidable (Straight start limit stride) := inferInstanceAs (Decidable (_ → _))

section Counts
variable {start limit stride : Nat}

theorem count_done (done : limit ≤ start) (positive : 0 < stride) : count start limit stride = 0 := by
  rw [count, Nat.div_eq_zero_iff]
  omega

theorem count_succ (more : start < limit) (positive : 0 < stride) :
    count start limit stride = count (start + stride) limit stride + 1 := by
  have shape : limit - start + stride - 1 = (limit - start - 1) + stride := by omega
  rw [count, shape, Nat.add_div_right _ positive, count]
  by_cases last : limit ≤ start + stride
  · rw [Nat.div_eq_of_lt (by omega), Nat.div_eq_of_lt (by omega)]
  · rw [show limit - (start + stride) + stride - 1 = limit - start - 1 by omega]

/-- The chunks together reach the limit, and none starts behind it. -/
theorem count_spec (more : start < limit) (positive : 0 < stride) :
    limit ≤ start + stride * count start limit stride ∧ start + stride * count start limit stride < limit + stride := by
  have divided := Nat.div_add_mod (limit - start + stride - 1) stride
  have below := Nat.mod_lt (limit - start + stride - 1) positive
  rw [count]
  omega

theorem Straight.next (straight : Straight start limit stride) (more : start < limit) (positive : 0 < stride) :
    start + stride < 2 ^ 32 ∧ Straight (start + stride) limit stride := by
  have bound := straight more
  rw [count_succ more positive, Nat.mul_add, Nat.mul_one] at bound
  refine ⟨by omega, fun _ => ?_⟩
  omega

theorem mem_starts {count x : Nat} (listed : x ∈ starts start stride count) :
    ∃ i < count, x = start + stride * i := by
  induction count generalizing start with
  | zero => cases listed
  | succ count ih =>
    cases List.mem_cons.mp listed with
    | inl first => exact ⟨0, Nat.succ_pos _, by rw [first, Nat.mul_zero, Nat.add_zero]⟩
    | inr later =>
      obtain ⟨i, inside, rfl⟩ := ih later
      exact ⟨i + 1, by omega, by rw [Nat.mul_add, Nat.mul_one]; omega⟩

theorem starts_below {x : Nat} (more : start < limit) (positive : 0 < stride)
    (listed : x ∈ starts start stride (count start limit stride)) : start ≤ x ∧ x < limit := by
  obtain ⟨i, inside, rfl⟩ := mem_starts listed
  have spec := count_spec more positive
  have step : stride * (i + 1) ≤ stride * count start limit stride := Nat.mul_le_mul_left stride inside
  rw [Nat.mul_add, Nat.mul_one] at step
  omega

end Counts

section Sweeps
variable {body : Nat → σ → σ ⊕ ρ} {finish : σ → ρ} {next : Nat → σ → σ}

/-- What the passes keep holds of the result. -/
theorem sweep_keeps {I : σ → Prop} {J : ρ → Prop} {list : List Nat}
    (goes : ∀ x ∈ list, ∀ state next, I state → body x state = .inl next → I next)
    (ends : ∀ x ∈ list, ∀ state result, I state → body x state = .inr result → J result)
    (finishes : ∀ state, I state → J (finish state)) {state : σ} (begun : I state) : J (sweep body finish list state) := by
  induction list generalizing state with
  | nil => exact finishes state begun
  | cons x rest ih =>
    have listed : x ∈ x :: rest := List.mem_cons_self
    rw [sweep]
    cases went : body x state with
    | inl next =>
      exact ih (fun other there => goes other (List.mem_cons_of_mem x there))
        (fun other there => ends other (List.mem_cons_of_mem x there)) (goes x listed state next begun went)
    | inr result => exact ends x listed state result begun went

end Sweeps

section Runs
variable {start limit stride : Nat} {body : Nat → σ → σ ⊕ ρ} {finish : σ → ρ}

/-- A loop whose counter does not run over goes once over its chunks. -/
theorem chunkLoop_straight (positive : 0 < stride) (straight : Straight start limit stride) {passes : Nat}
    (enough : count start limit stride < passes) (state : σ) :
    chunkLoop stride limit body finish passes start state
      = some (sweep body finish (starts start stride (count start limit stride)) state) := by
  induction passes generalizing start state with
  | zero => exact absurd enough (Nat.not_lt_zero _)
  | succ passes ih =>
    rw [chunkLoop]
    by_cases more : start < limit
    · obtain ⟨inside, later⟩ := straight.next more positive
      rw [count_succ more positive] at enough ⊢
      rw [if_pos more, starts, sweep, Nat.mod_eq_of_lt inside]
      cases body start state with
      | inl next => exact ih later (by omega) next
      | inr result => rfl
    · rw [if_neg more, count_done (by omega) positive]
      rfl

theorem chunkLoop_more {passes : Nat} {x : Nat} {state : σ} {result : ρ}
    (ended : chunkLoop stride limit body finish passes x state = some result) (more : Nat) :
    chunkLoop stride limit body finish (more + passes) x state = some result := by
  induction passes generalizing x state with
  | zero => cases ended
  | succ passes ih =>
    rw [← Nat.add_assoc]
    rw [chunkLoop] at ended ⊢
    by_cases inside : x < limit
    · rw [if_pos inside] at ended ⊢
      cases went : body x state with
      | inl next =>
        rw [went] at ended
        exact ih ended
      | inr result =>
        rw [went] at ended
        exact ended
    · rw [if_neg inside] at ended ⊢
      exact ended

/-- What the passes keep holds of a result. -/
theorem chunkLoop_keeps {I : σ → Prop} {J : ρ → Prop}
    (goes : ∀ x < limit, ∀ state next, I state → body x state = .inl next → I next)
    (ends : ∀ x < limit, ∀ state result, I state → body x state = .inr result → J result)
    (finishes : ∀ state, I state → J (finish state)) {passes x : Nat} {state : σ} (begun : I state) {result : ρ}
    (ended : chunkLoop stride limit body finish passes x state = some result) : J result := by
  induction passes generalizing x state with
  | zero => cases ended
  | succ passes ih =>
    rw [chunkLoop] at ended
    by_cases inside : x < limit
    · rw [if_pos inside] at ended
      cases went : body x state with
      | inl next =>
        rw [went] at ended
        exact ih (goes x inside state next begun went) ended
      | inr outcome =>
        rw [went] at ended
        cases ended
        exact ends x inside state _ begun went
    · rw [if_neg inside] at ended
      cases ended
      exact finishes state begun

/-- A loop goes first over its chunks, wherever its counter is after that. -/
theorem chunkLoop_passOver (positive : 0 < stride) (fits : limit ≤ 2 ^ 32) (more : start < limit) (passes : Nat) (state : σ) :
    chunkLoop stride limit body finish (count start limit stride + passes) start state
      = match passOver body (starts start stride (count start limit stride)) state with
        | .inl next => chunkLoop stride limit body finish passes ((start + stride * count start limit stride) % 2 ^ 32) next
        | .inr result => some result := by
  generalize chunks : count start limit stride = left
  induction left generalizing start state with
  | zero =>
    rw [count_succ more positive] at chunks
    cases chunks
  | succ left ih =>
    rw [count_succ more positive] at chunks
    rw [show left + 1 + passes = left + passes + 1 by omega, chunkLoop, if_pos more, starts, passOver]
    cases body start state with
    | inr result => rfl
    | inl next =>
      by_cases last : start + stride < limit
      · rw [Nat.mod_eq_of_lt (by omega), show start + stride * (left + 1) = start + stride + stride * left by
          rw [Nat.mul_add, Nat.mul_one]
          omega]
        exact ih last next (Nat.succ.inj chunks)
      · rw [count_done (by omega) positive] at chunks
        have one : left = 0 := (Nat.succ.inj chunks).symm
        subst one
        rw [Nat.zero_add, Nat.zero_add, Nat.mul_one]
        rfl

private theorem chunkLoop_none {endless : σ → Prop}
    (goes : ∀ x state, endless state → ∃ next, body x state = .inl next ∧ endless next) {x : Nat} (inside : x < limit)
    {passes : Nat} {state : σ} (begun : endless state)
    (rest : ∀ next, endless next → chunkLoop stride limit body finish passes ((x + stride) % 2 ^ 32) next = none) :
    chunkLoop stride limit body finish (passes + 1) x state = none := by
  obtain ⟨next, went, still⟩ := goes x state begun
  rw [chunkLoop, if_pos inside, went]
  exact rest next still

/-- One whose counter runs over does not end with the last chunk, if its body never ends it. -/
theorem chunkLoop_past (positive : 0 < stride) (small : 2 * stride < 2 ^ 31) (fits : limit < 2 ^ 32)
    (curved : ¬ Straight start limit stride) {endless : σ → Prop}
    (goes : ∀ x state, endless state → ∃ next, body x state = .inl next ∧ endless next) {state : σ} (begun : endless state) :
    chunkLoop stride limit body finish (count start limit stride + 2) start state = none := by
  obtain ⟨more, beyond⟩ : start < limit ∧ 2 ^ 32 ≤ start + stride * count start limit stride := by
    rw [Straight, Classical.not_imp, Nat.not_lt] at curved
    exact curved
  have spec := count_spec more positive
  generalize chunks : count start limit stride = left at beyond spec
  induction left generalizing start state with
  | zero => omega
  | succ left ih =>
    have counted := count_succ more positive
    apply chunkLoop_none goes more begun
    intro next still
    rw [Nat.mul_add, Nat.mul_one] at beyond spec
    by_cases last : start + stride < 2 ^ 32
    · have again : start + stride < limit := by
        by_contra reached
        have none : count (start + stride) limit stride = 0 := count_done (by omega) positive
        have zero : left = 0 := by omega
        rw [zero, Nat.mul_zero] at beyond
        omega
      rw [Nat.mod_eq_of_lt last]
      apply ih _ still again (by omega) (by omega) (by omega)
      intro straight
      exact absurd (straight again) (by
        rw [show count (start + stride) limit stride = left by omega]
        omega)
    · have one : left = 0 := by
        have done : count (start + stride) limit stride = 0 := count_done (by omega) positive
        omega
      subst one
      have wrapped : (start + stride) % 2 ^ 32 = start + stride - 2 ^ 32 := by
        rw [Nat.mod_eq_sub_mod (by omega), Nat.mod_eq_of_lt (by omega)]
      rw [wrapped]
      apply chunkLoop_none goes (by omega) still
      intro second going
      rw [Nat.mod_eq_of_lt (by omega)]
      apply chunkLoop_none goes (by omega) going
      intro third _
      rfl

end Runs

end BlackMagic.Lib.ChunkLoop

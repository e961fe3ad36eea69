import Mathlib.Data.List.Basic

/-! Lists made of chunks of one length. -/

namespace BlackMagic.Lib.Chunks

variable {α β : Type} {f : α → List β} {size : Nat}

theorem length_flatMap (even : ∀ item, (f item).length = size) (list : List α) :
    (list.flatMap f).length = size * list.length := by
  induction list with
  | nil => rfl
  | cons first rest ih => simp [even, ih, Nat.mul_succ, Nat.add_comm]

end BlackMagic.Lib.Chunks

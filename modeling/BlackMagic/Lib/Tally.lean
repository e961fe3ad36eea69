import Mathlib.Data.List.Nodup
import Mathlib.Data.List.Range

/-! Counting the members of a list without repetitions, when the count of one of them changes. -/

namespace BlackMagic.Lib.Tally

variable {α : Type} {p q : α → Bool} {list : List α} {a : α}

end BlackMagic.Lib.Tally

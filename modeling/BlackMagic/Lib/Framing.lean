import Mathlib.Data.List.Basic

/-! A receiver of frames: by what it has of a frame it knows how long the frame is, and by the whole frame what it expects
next. -/

namespace BlackMagic.Lib.Framing
variable {κ α σ ω : Type}

structure Receiver (κ α σ : Type) where
  expecting : κ
  got : List α
  state : σ

structure Protocol (κ α σ ω : Type) where
  need : κ → List α → Nat
  conclude : κ → List α → σ → (κ × σ) × List ω

namespace Protocol
variable (protocol : Protocol κ α σ ω)

def feed (item : α) (receiver : Receiver κ α σ) : Receiver κ α σ × List ω :=
  let got := receiver.got ++ [item]
  if got.length < protocol.need receiver.expecting got then ({ receiver with got := got }, [])
  else
    let ((expecting, state), replies) := protocol.conclude receiver.expecting got receiver.state
    (⟨expecting, [], state⟩, replies)

def feedAll : List α → Receiver κ α σ → Receiver κ α σ × List ω
  | [], receiver => (receiver, [])
  | item :: rest, receiver =>
    let (middle, replies) := protocol.feed item receiver
    let (final, more) := feedAll rest middle
    (final, replies ++ more)

/-- A list of items that is one frame. -/
structure Frame (kind : κ) (frame : List α) : Prop where
  present : frame ≠ []
  begun : ∀ count, 0 < count → count < frame.length → count < protocol.need kind (frame.take count)
  whole : protocol.need kind frame ≤ frame.length

variable {protocol}

/-- What is gathered stays until the frame is whole. -/
theorem feedAll_gathers {kind : κ} {got frame : List α} (framed : protocol.Frame kind (got ++ frame)) (more : frame ≠ [])
    (state : σ) :
    protocol.feedAll frame ⟨kind, got, state⟩ =
      let outcome := protocol.conclude kind (got ++ frame) state
      (⟨outcome.1.1, [], outcome.1.2⟩, outcome.2) := by
  induction frame generalizing got with
  | nil => exact absurd rfl more
  | cons item rest ih =>
    have split : got ++ item :: rest = (got ++ [item]) ++ rest := by simp
    by_cases last : rest = []
    · subst last
      have done : ¬ (got ++ [item]).length < protocol.need kind (got ++ [item]) := Nat.not_lt.mpr framed.whole
      simp only [feedAll, feed, if_neg done, List.append_nil]
    · have shorter : (got ++ [item]).length < (got ++ item :: rest).length := by
        have positive := List.length_pos_of_ne_nil last
        simp only [List.length_append, List.length_cons, List.length_nil]
        omega
      have taken : (got ++ item :: rest).take (got ++ [item]).length = got ++ [item] := by
        rw [split, List.take_left]
      have early := framed.begun (got ++ [item]).length (by simp) shorter
      rw [taken] at early
      rw [split] at framed
      have later := ih framed last
      rw [← split] at later
      simp only [feedAll, feed, if_pos early, List.nil_append]
      exact later

theorem feedAll_frame {kind : κ} {frame : List α} (framed : protocol.Frame kind frame) (state : σ) :
    protocol.feedAll frame ⟨kind, [], state⟩ =
      let outcome := protocol.conclude kind frame state
      (⟨outcome.1.1, [], outcome.1.2⟩, outcome.2) :=
  feedAll_gathers (List.nil_append frame ▸ framed) framed.present state

/-- Frames of one length. -/
theorem frame_fixed {kind : κ} {frame : List α} {length : Nat} (fixed : ∀ got, protocol.need kind got = length)
    (exactly : frame.length = length) (positive : 0 < length) : protocol.Frame kind frame where
  present := by
    rintro rfl
    exact absurd exactly (Nat.ne_of_lt positive)
  begun count _ before := by
    rw [fixed]
    omega
  whole := Nat.le_of_eq ((fixed frame).trans exactly.symm)

/-- Frames whose length is known by their first items. -/
theorem frame_headed {kind : κ} {head rest : List α} {length : Nat} (present : head ≠ [])
    (heading : ∀ count, 0 < count → count < head.length → count < protocol.need kind (head.take count))
    (known : ∀ got, protocol.need kind (head ++ got) = length) (exactly : (head ++ rest).length = length) :
    protocol.Frame kind (head ++ rest) where
  present := by
    intro empty
    exact present (List.append_eq_nil_iff.mp empty).1
  begun count positive before := by
    by_cases short : count < head.length
    · rw [List.take_append_of_le_length (Nat.le_of_lt short)]
      exact heading count positive short
    · rw [List.take_append, List.take_of_length_le (Nat.le_of_not_lt short), known]
      omega
  whole := Nat.le_of_eq ((known rest).trans exactly.symm)

end Protocol

end BlackMagic.Lib.Framing

import BlackMagic.Lib.Words
import BlackMagic.Proofs.SwdWireLevels

/-! What the target makes of the bits of a request, an acknowledgement and a data phase. -/

namespace BlackMagic.Proofs.SwdWireRuns
open SwdWire SwdWireLevels Lib Lib.Bits
open SwdAccess (Environment Sent makePacketRequest adiv5ApnDp)

section Requests

/-- The bits of a request. -/
def requestBits (apndp rnw a2 a3 : Bool) : List Bool := [true, apndp, rnw, a2, a3, apndp ^^ rnw ^^ a2 ^^ a3, false, true]

theorem register_bits (addr : BitVec 16) :
    addr.setWidth 8 &&& 0x0c#8 = (if addr.getLsbD 2 then 4#8 else 0) ||| (if addr.getLsbD 3 then 8#8 else 0) := by
  apply BitVec.eq_of_getLsbD_eq
  intro place inside
  have masks : ∀ place < 8, (0x0c#8).getLsbD place = (decide (place = 2) || decide (place = 3)) ∧
      (4#8).getLsbD place = decide (place = 2) ∧ (8#8).getLsbD place = decide (place = 3) := by decide
  obtain ⟨both, two, three⟩ := masks place inside
  have second : (if addr.getLsbD 2 then 4#8 else 0).getLsbD place = (addr.getLsbD 2 && decide (place = 2)) := by
    cases addr.getLsbD 2
    · simp
    · simpa using two
  have third : (if addr.getLsbD 3 then 8#8 else 0).getLsbD place = (addr.getLsbD 3 && decide (place = 3)) := by
    cases addr.getLsbD 3
    · simp
    · simpa using three
  rw [BitVec.getLsbD_and, BitVec.getLsbD_setWidth, BitVec.getLsbD_or, both, second, third]
  by_cases here : place = 2
  · simp [here]
  · by_cases there : place = 3
    · simp [there]
    · simp [here, there]

/-- A request has a start bit, its fields with their parity, a stop bit and a park bit. -/
theorem makePacketRequest_bits (rnw : Bool) (addr : BitVec 16) :
    bitsOf 8 (makePacketRequest rnw addr) = requestBits (addr.getLsbD 8) rnw (addr.getLsbD 2) (addr.getLsbD 3) := by
  have selected : addr &&& adiv5ApnDp ≠ 0 ↔ addr.getLsbD 8 = true := Words.masked_bit addr (by decide) (by decide)
  rw [makePacketRequest, register_bits]
  simp only [selected]
  cases addr.getLsbD 8 <;> cases addr.getLsbD 2 <;> cases addr.getLsbD 3 <;> cases rnw <;> decide

theorem isRead_makePacketRequest (rnw : Bool) (addr : BitVec 16) : isRead (makePacketRequest rnw addr) = rnw := by
  have bit := congrArg (fun bits => bits.getD 2 false) (makePacketRequest_bits rnw addr)
  rw [getD_bitsOf _ (by decide)] at bit
  exact bit

end Requests

section Phases
variable {env : Environment} {ones requests : Nat} {seen : List Sent}

/-- A phase collects bits until it has enough. -/
theorem collected_heard {phase : List Bool → Phase} {size : Nat} (quiet : ∀ got, drives (phase got) = none)
    (collects : ∀ {got : List Bool} {bit : Bool} {ones : Nat}, got.length + 1 < size → ones + 1 < resetOnes →
      edge env bit ⟨phase got, ones, requests, seen⟩ = ⟨phase (got ++ [bit]), if bit then ones + 1 else 0, requests, seen⟩)
    {bits got : List Bool} (short : got.length + bits.length < size) (few : ones + bits.length < resetOnes) :
    ∃ more ≤ ones + bits.length,
      Hears env bits ⟨phase got, ones, requests, seen⟩ ⟨phase (got ++ bits), more, requests, seen⟩ := by
  induction bits generalizing got ones with
  | nil => exact ⟨ones, Nat.le_refl _, by rw [List.append_nil]; rfl⟩
  | cons bit rest ih =>
    rw [List.length_cons] at short few
    have next := @collects got bit ones (by omega) (by omega)
    have bound : (if bit then ones + 1 else 0) ≤ ones + 1 := by split <;> omega
    obtain ⟨more, most, heard⟩ := @ih (if bit then ones + 1 else 0) (got ++ [bit]) (by simp; omega) (by omega)
    refine ⟨more, by rw [List.length_cons]; omega, ?_, ?_⟩
    · rw [next]
      exact quiet _
    · rw [next]
      rwa [List.append_assoc] at heard

theorem edge_request {level : Bool} {bits : List Bool} (few : ones + 1 < resetOnes) :
    edge env level ⟨.request bits, ones, requests, seen⟩ =
      requestBit (bits ++ [level]) ⟨.request bits, if level then ones + 1 else 0, requests, seen⟩ := by
  have early : ¬ resetOnes ≤ if level then ones + 1 else 0 := by
    split
    · omega
    · decide
  simp only [edge, if_neg early, SwdWire.listen]

theorem fields_heard {bits got : List Bool} (short : got.length + bits.length < 8) (few : ones + bits.length < resetOnes) :
    ∃ more ≤ ones + bits.length,
      Hears env bits ⟨.request got, ones, requests, seen⟩ ⟨.request (got ++ bits), more, requests, seen⟩ := by
  refine collected_heard (fun _ => rfl) (fun {got} {bit} {ones} short few => ?_) short few
  have unfinished : (got ++ [bit]).length < 8 := by simpa using short
  rw [edge_request few, requestBit, if_pos unfinished]

theorem requestBits_intact (apndp rnw a2 a3 : Bool) : requestIntact (requestBits apndp rnw a2 a3) = true := by
  cases apndp <;> cases rnw <;> cases a2 <;> cases a3 <;> rfl

/-- The target hears a request, and answers it after the turnaround. -/
theorem request_heard (few : ones ≤ 2) (rnw : Bool) (addr : BitVec 16) :
    ∃ more ≤ 10, Hears env (bitsOf 8 (makePacketRequest rnw addr)) ⟨.idle, ones, requests, seen⟩
      ⟨.answering (makePacketRequest rnw addr), more, requests + 1, seen ++ [.request (makePacketRequest rnw addr)]⟩ := by
  have word := wordOf_bitsOf (makePacketRequest rnw addr)
  rw [makePacketRequest_bits] at word ⊢
  generalize addr.getLsbD 8 = apndp, addr.getLsbD 2 = a2, addr.getLsbD 3 = a3 at word ⊢
  have start : edge env true ⟨.idle, ones, requests, seen⟩ = ⟨.request [true], ones + 1, requests, seen⟩ := by
    have early : ¬ resetOnes ≤ ones + 1 := by
      simp only [resetOnes]
      omega
    simp only [edge, if_true, if_neg early]
    rfl
  obtain ⟨more, most, fields⟩ := @fields_heard env (ones + 1) requests seen
    [apndp, rnw, a2, a3, apndp ^^ rnw ^^ a2 ^^ a3, false] [true] (by simp) (by simp [resetOnes]; omega)
  have most : more ≤ 9 := by simp at most; omega
  have last :
      edge env true ⟨.request ([true] ++ [apndp, rnw, a2, a3, apndp ^^ rnw ^^ a2 ^^ a3, false]), more, requests, seen⟩ =
        ⟨.answering (makePacketRequest rnw addr), more + 1, requests + 1,
          seen ++ [.request (makePacketRequest rnw addr)]⟩ := by
    rw [edge_request (by simp only [resetOnes]; omega)]
    change requestBit (requestBits apndp rnw a2 a3) _ = _
    rw [requestBit, if_neg (by simp [requestBits]), if_pos (requestBits_intact apndp rnw a2 a3), word]
    rfl
  refine ⟨more + 1, by omega, by rw [start]; rfl, ?_⟩
  rw [start]
  exact fields.append ⟨by rw [last]; rfl, last⟩

theorem ack_said (env : Environment) (ones requests : Nat) (seen : List Sent) (request : BitVec 8) :
    Says env (bitsOf 3 (env.ack (requests - 1))) ⟨.ack request (bitsOf 3 (env.ack (requests - 1))), ones, requests, seen⟩
      ⟨acknowledged env request ⟨.ack request [(env.ack (requests - 1)).getLsbD 2], 0, requests, seen⟩, 0, requests, seen⟩ :=
  ⟨rfl, rfl, rfl, rfl⟩

theorem edge_dataIn {level : Bool} {bits : List Bool} (few : ones + 1 < resetOnes) :
    edge env level ⟨.dataIn bits, ones, requests, seen⟩ =
      dataBit (bits ++ [level]) ⟨.dataIn bits, if level then ones + 1 else 0, requests, seen⟩ := by
  have early : ¬ resetOnes ≤ if level then ones + 1 else 0 := by
    split
    · omega
    · decide
  simp only [edge, if_neg early, SwdWire.listen]

theorem data_heard {bits got : List Bool} (short : got.length + bits.length < 33) (few : ones + bits.length < resetOnes) :
    ∃ more ≤ ones + bits.length,
      Hears env bits ⟨.dataIn got, ones, requests, seen⟩ ⟨.dataIn (got ++ bits), more, requests, seen⟩ := by
  refine collected_heard (fun _ => rfl) (fun {got} {bit} {ones} short few => ?_) short few
  have unfinished : (got ++ [bit]).length < 33 := by simpa using short
  rw [edge_dataIn few, dataBit, if_pos unfinished]

/-- The parity bit makes the number of ones even. -/
theorem even_ones (word : BitVec 32) :
    oddOnes (bitsOf 32 word ++ [decide (popcount word % 2 = 1)]) = false := by
  rw [oddOnes, List.count_append, count_bitsOf]
  rcases Nat.mod_two_eq_zero_or_one (popcount word) with even | odd
  · simp [even]
  · have sum : (popcount word + 1) % 2 = 0 := by omega
    simp [odd, sum]

theorem parity_heard (few : ones + 1 < resetOnes) (word : BitVec 32) :
    edge env (decide (popcount word % 2 = 1)) ⟨.dataIn (bitsOf 32 word), ones, requests, seen⟩ =
      ⟨.idle, if popcount word % 2 = 1 then ones + 1 else 0, requests, seen ++ [.data word]⟩ := by
  rw [edge_dataIn few, dataBit, if_neg (by simp), even_ones]
  simp

theorem idle_heard {count : Nat} (some : count ≠ 0) :
    Hears env (List.replicate count false) ⟨.idle, ones, requests, seen⟩ ⟨.idle, 0, requests, seen⟩ := by
  induction count generalizing ones with
  | zero => exact absurd rfl some
  | succ count ih =>
    have next : edge env false ⟨.idle, ones, requests, seen⟩ = ⟨.idle, 0, requests, seen⟩ := rfl
    refine ⟨by rw [next]; rfl, ?_⟩
    rw [next]
    cases count with
    | zero => rfl
    | succ count => exact ih (Nat.succ_ne_zero count)

end Phases

end BlackMagic.Proofs.SwdWireRuns

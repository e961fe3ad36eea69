import BlackMagic.Lib.RollingHash
import BlackMagic.RttSearch

/-! The rolling hash of the search for the control block is the hash of the last 16 bytes, so that the
search finds the first window with the hash of the identifier. -/

namespace BlackMagic.Proofs.RttHash
open Lib.ChunkLoop Lib.RollingHash Lib.Words RttSearch

variable (content : Nat → Byte) (start : Nat)

/-- The bytes that go through the hash, with zeros in front. -/
def streamed (j : Nat) : Byte := if j < m then 0#8 else content (start + (j - m))

/-- The hash of the 16 bytes up to the `k`-th byte from the start on. -/
def windowHash (k : Nat) : Nat := polyHash 256 (fun i => (streamed content start (k + i)).toNat) m % q

/-- The hashes after each of so many bytes. -/
def hashes (len : Nat) : List Nat := (List.range len).map fun k => windowHash content start (k + 1)

def Hit (k : Nat) : Prop := windowHash content start (k + 1) = p

instance (k : Nat) : Decidable (Hit content start k) := inferInstanceAs (Decidable (_ = _))

/-- The search has seen the hashes up to the first window that hits, and returns where that starts. -/
structure Found (first k : Nat) (outcome : Outcome) : Prop where
  hit : Hit content start k
  lowest : ∀ j, first ≤ j → j < k → ¬ Hit content start j
  values : outcome.values = hashes content start (k + 1)
  address : outcome.address = sub32 (add32 start (k + 1)) m

variable {content start}

section Roll

theorem windowHash_lt (content : Nat → Byte) (start k : Nat) : windowHash content start k < q := Nat.mod_lt _ (by decide)

theorem windowHash_zero : windowHash content start 0 = 0 := by
  have zeros : ∀ i < m, (streamed content start (0 + i)).toNat = 0 := by
    intro i inside
    rw [streamed, if_pos (by omega)]
    rfl
  rw [windowHash, polyHash_congr zeros, polyHash_zero]
  rfl

private theorem r_place : r ≡ 256 ^ 15 [MOD q] := by decide

/-- One step of the hash, without overflow. -/
theorem roll_window (k : Nat) :
    roll (windowHash content start k) (streamed content start k) (streamed content start (k + m))
      = windowHash content start (k + 1) := by
  have rolled := polyHash_roll (show 0 < q by decide) (fun i => (streamed content start (k + i)).toNat) r_place
  have small := windowHash_lt content start k
  have leaving := (streamed content start k).isLt
  have entering := (streamed content start (k + m)).isLt
  have bounded : r * (streamed content start k).toNat ≤ r * 256 := Nat.mul_le_mul_left r (by omega)
  have prime : q = 0x797a9691 := rfl
  have place : r = 0x73b07d01 := rfl
  have rest := Nat.mod_lt (r * (streamed content start k).toNat) (show 0 < q by decide)
  have next : windowHash content start (k + 1)
      = polyHash 256 (fun i => (streamed content start (k + (i + 1))).toNat) m % q := by
    have shift : ∀ i, k + 1 + i = k + (i + 1) := by
      intro i
      omega
    simp only [windowHash, shift]
  have first : polyHash 256 (fun i => (streamed content start (k + i)).toNat) (15 + 1) % q = windowHash content start k := rfl
  rw [first] at rolled
  have sum : add64 (windowHash content start k) q = windowHash content start k + q := Nat.mod_eq_of_lt (by omega)
  have product : mul64 r (streamed content start k).toNat = r * (streamed content start k).toNat :=
    Nat.mod_eq_of_lt (by omega)
  have difference : sub64 (windowHash content start k + q) (r * (streamed content start k).toNat % q)
      = windowHash content start k + q - r * (streamed content start k).toNat % q := by
    rw [sub64]
    omega
  rw [next, roll, sum, product, difference]
  have below := Nat.mod_lt (windowHash content start k + q - r * (streamed content start k).toNat % q) (show 0 < q by decide)
  have shifted : shiftLeft64 ((windowHash content start k + q - r * (streamed content start k).toNat % q) % q) 8
      = (windowHash content start k + q - r * (streamed content start k).toNat % q) % q * 256 := Nat.mod_eq_of_lt (by omega)
  have total : add64 ((windowHash content start k + q - r * (streamed content start k).toNat % q) % q * 256)
        (streamed content start (k + m)).toNat
      = (windowHash content start k + q - r * (streamed content start k).toNat % q) % q * 256
        + (streamed content start (k + m)).toNat := Nat.mod_eq_of_lt (by omega)
  rw [shifted, total]
  exact rolled

end Roll

section Chunks

variable (content start) in
/-- After so many bytes. -/
structure Rolled (k : Nat) (rolling : Rolling) : Prop where
  current : rolling.t = windowHash content start k
  values : rolling.values = hashes content start k

variable (content start) in
/-- What is known behind the bytes from one on to another: there was no hit, or it is the first. -/
def Scanned (first last : Nat) : Rolling ⊕ Outcome → Prop
  | .inl next => (∀ j, first ≤ j → j < last → ¬ Hit content start j) ∧ Rolled content start last next
  | .inr outcome => ∃ j, first ≤ j ∧ j < last ∧ Found content start first j outcome

theorem Scanned.before {first mid last : Nat} {result : Rolling ⊕ Outcome} (scanned : Scanned content start mid last result)
    (ordered : first ≤ mid) (missed : ∀ j, first ≤ j → j < mid → ¬ Hit content start j) :
    Scanned content start first last result := by
  have both : ∀ {k}, (∀ j, mid ≤ j → j < k → ¬ Hit content start j) → ∀ j, first ≤ j → j < k → ¬ Hit content start j := by
    intro k later j above below
    by_cases early : j < mid
    · exact missed j above early
    · exact later j (by omega) below
  cases result with
  | inl next => exact ⟨both scanned.1, scanned.2⟩
  | inr outcome =>
    obtain ⟨k, above, below, found⟩ := scanned
    exact ⟨k, by omega, below, found.hit, both found.lowest, found.values, found.address⟩

theorem hashes_succ (k : Nat) : hashes content start (k + 1) = hashes content start k ++ [windowHash content start (k + 1)] := by
  rw [hashes, List.range_succ, List.map_append]
  rfl

private theorem address_hit {addr i k : Nat} (place : addr + i = start + k) :
    add32 (sub32 (add32 addr i) m) 1 = sub32 (add32 start (k + 1)) m := by
  have sixteen : m = 16 := rfl
  simp only [add32, sub32, sixteen]
  omega

theorem rollBytes_scanned {addr k : Nat} (place : addr = start + k) (left : Nat) {i : Nat} {rolling : Rolling}
    (rolled : Rolled content start (k + i) rolling)
    (filled : ∀ j < i + left + m, rolling.srchBuf j = streamed content start (k + j)) :
    Scanned content start (k + i) (k + i + left) (rollBytes addr (List.range' i left) rolling) := by
  induction left generalizing i rolling with
  | zero => exact ⟨fun j above below => absurd above (by omega), rolled⟩
  | succ left ih =>
    have leaving := filled i (by omega)
    have entering := filled (i + m) (by omega)
    have next : roll rolling.t (rolling.srchBuf i) (rolling.srchBuf (i + m)) = windowHash content start (k + i + 1) := by
      rw [rolled.current, leaving, entering, ← Nat.add_assoc]
      exact roll_window (k + i)
    have values : rolling.values ++ [windowHash content start (k + i + 1)] = hashes content start (k + i + 1) := by
      rw [rolled.values, hashes_succ]
    rw [List.range'_succ, rollBytes, next]
    by_cases hit : p = windowHash content start (k + i + 1)
    · rw [if_pos hit]
      refine ⟨k + i, Nat.le_refl _, by omega, hit.symm, fun j above below => absurd above (by omega), values, ?_⟩
      exact address_hit (by omega)
    · have later := @ih (i + 1) ⟨rolling.srchBuf, windowHash content start (k + i + 1),
        rolling.values ++ [windowHash content start (k + i + 1)], rolling.reads⟩ ⟨rfl, values⟩
        (fun j inside => filled j (by omega))
      rw [if_neg hit, show k + i + (left + 1) = k + (i + 1) + left by omega]
      apply later.before (by omega)
      intro j above below
      rw [show j = k + i by omega]
      exact Ne.symm hit

theorem rollBytes_srchBuf {addr : Nat} {list : List Nat} {rolling next : Rolling}
    (went : rollBytes addr list rolling = .inl next) : next.srchBuf = rolling.srchBuf := by
  induction list generalizing rolling with
  | nil =>
    cases went
    rfl
  | cons i rest ih =>
    rw [rollBytes] at went
    by_cases hit : p = roll rolling.t (rolling.srchBuf i) (rolling.srchBuf (i + m))
    · rw [if_pos hit] at went
      cases went
    · rw [if_neg hit] at went
      have kept := ih went
      exact kept

/-- The end of a chunk is kept for the next one. -/
def Carried (content : Nat → Byte) (start k : Nat) (rolling : Rolling) : Prop :=
  ∀ j < m, rolling.srchBuf (stride + j) = streamed content start (k + j)

theorem fastChunk_scanned {addr k limit : Nat} (place : addr = start + k) (more : addr < limit) (fits : limit < 2 ^ 32)
    {rolling : Rolling} (rolled : Rolled content start k rolling) (carried : Carried content start k rolling) :
    Scanned content start k (k + min stride (limit - addr)) (fastChunk (.readable content) limit addr rolling) ∧
      ∀ next, fastChunk (.readable content) limit addr rolling = .inl next → addr + stride ≤ limit →
        Carried content start (k + stride) next := by
  have filled : ∀ j < 0 + min stride (limit - addr) + m,
      copyBytes (copyBytes rolling.srchBuf 0 ((List.range m).map fun i => rolling.srchBuf (stride + i))) m
        ((TargetMemory.readable content).bytes addr (min stride (limit - addr))) j = streamed content start (k + j) := by
    intro j inside
    have size : ((TargetMemory.readable content).bytes addr (min stride (limit - addr))).length = min stride (limit - addr) :=
      TargetMemory.bytes_length _ _ _
    rw [copyBytes, size]
    by_cases read : m ≤ j
    · rw [if_pos ⟨read, by omega⟩, TargetMemory.bytes_getD _ _ (by omega), streamed, if_neg (by omega), add32_of_lt (by omega)]
      show content (addr + (j - m)) = content (start + (k + j - m))
      congr 1
      omega
    · rw [if_neg (by omega), copyBytes, List.length_map, List.length_range, if_pos (by omega), Nat.sub_zero,
        ← carried j (by omega)]
      have listed : j < m := by omega
      simp [List.getD_eq_getElem?_getD, listed]
  have whole : fastChunk (.readable content) limit addr rolling
      = rollBytes addr (List.range' 0 (min stride (limit - addr)))
          ⟨copyBytes (copyBytes rolling.srchBuf 0 ((List.range m).map fun i => rolling.srchBuf (stride + i))) m
            ((TargetMemory.readable content).bytes addr (min stride (limit - addr))),
          rolling.t, rolling.values, rolling.reads ++ [(addr, min stride (limit - addr))]⟩ := by
    rw [← List.range_eq_range']
    rfl
  rw [whole]
  constructor
  · exact rollBytes_scanned place _ ⟨rolled.current, rolled.values⟩ filled
  · intro next went full j inside
    rw [rollBytes_srchBuf went, Nat.add_assoc]
    exact filled _ (by omega)

theorem passOver_scanned (left : Nat) {addr k limit : Nat} (place : addr = start + k) (more : addr < limit)
    (fits : limit < 2 ^ 32) (counted : count addr limit stride = left) {rolling : Rolling}
    (rolled : Rolled content start k rolling) (carried : Carried content start k rolling) :
    Scanned content start k (limit - start)
      (passOver (fastChunk (.readable content) limit) (starts addr stride left) rolling) := by
  induction left generalizing addr k rolling with
  | zero =>
    rw [count_succ more (by decide)] at counted
    cases counted
  | succ left ih =>
    rw [count_succ more (by decide)] at counted
    obtain ⟨scanned, next_carried⟩ := fastChunk_scanned place more fits rolled carried
    rw [starts, passOver]
    cases went : fastChunk (.readable content) limit addr rolling with
    | inl next =>
      rw [went] at scanned
      by_cases last : addr + stride < limit
      · have full : min stride (limit - addr) = stride := by omega
        rw [full] at scanned
        have later := ih (show addr + stride = start + (k + stride) by omega) last (Nat.succ.inj counted) scanned.2
          (next_carried next went (by omega))
        exact later.before (by omega) scanned.1
      · have done : left = 0 := by
          rw [count_done (by omega) (by decide)] at counted
          exact (Nat.succ.inj counted).symm
        subst done
        rw [show limit - start = k + min stride (limit - addr) by omega]
        exact scanned
    | inr outcome =>
      rw [went] at scanned
      obtain ⟨j, above, below, found⟩ := scanned
      exact ⟨j, above, by omega, found⟩

end Chunks

section Search

/-- `SEGGER RTT` in 16 bytes. -/
def identifier : List Byte :=
  [0x53#8, 0x45#8, 0x47#8, 0x47#8, 0x45#8, 0x52#8, 0x20#8, 0x52#8, 0x54#8, 0x54#8, 0#8, 0#8, 0#8, 0#8, 0#8, 0#8]

def Occurs (content : Nat → Byte) (x : Nat) : Prop := ∀ i < m, content (x + i) = identifier.getD i 0#8

/-- The search ends, with the hashes of all windows if none hits and else at the first one that does, which does not
start behind an occurrence of the identifier. -/
structure Right (content : Nat → Byte) (ramStart ramEnd : Nat) (outcome : Outcome) : Prop where
  scanned : (∃ k < ramEnd - ramStart, Found content ramStart 0 k outcome) ∨
    ((∀ k < ramEnd - ramStart, ¬ Hit content ramStart k) ∧ outcome.values = hashes content ramStart (ramEnd - ramStart) ∧
      outcome.address = 0)
  occurrences : ∀ x, ramStart ≤ x → x + m ≤ ramEnd → Occurs content x →
    ∃ k, ramStart + k + 1 ≤ x + m ∧ Found content ramStart 0 k outcome

theorem occurs_hit {x : Nat} (above : start ≤ x) (occurs : Occurs content x) : Hit content start (x + 15 - start) := by
  have window : ∀ i < m, (streamed content start (x + 15 - start + 1 + i)).toNat = (identifier.getD i 0#8).toNat := by
    intro i inside
    have sixteen : m = 16 := rfl
    rw [streamed, if_neg (by omega), ← occurs i inside, show start + (x + 15 - start + 1 + i - m) = x + i by omega]
  rw [Hit, windowHash, polyHash_congr window]
  decide

theorem right_of_scanned {ramStart ramEnd : Nat} {outcome : Outcome}
    (scanned : (∃ k < ramEnd - ramStart, Found content ramStart 0 k outcome) ∨
      ((∀ k < ramEnd - ramStart, ¬ Hit content ramStart k) ∧
        outcome.values = hashes content ramStart (ramEnd - ramStart) ∧ outcome.address = 0)) :
    Right content ramStart ramEnd outcome := by
  refine ⟨scanned, fun x above below occurs => ?_⟩
  have hit := occurs_hit above occurs
  have sixteen : m = 16 := rfl
  cases scanned with
  | inl some =>
    obtain ⟨k, inside, found⟩ := some
    refine ⟨k, ?_, found⟩
    by_contra behind
    exact found.lowest _ (Nat.zero_le _) (by omega) hit
  | inr none => exact absurd hit (none.1 _ (by omega))

private theorem initial_rolled : Rolled content start 0 ⟨fun _ => 0#8, 0, [], []⟩ := ⟨windowHash_zero.symm, rfl⟩

private theorem initial_carried : Carried content start 0 ⟨fun _ => 0#8, 0, [], []⟩ := by
  intro j inside
  rw [streamed, if_pos (by omega)]

variable {ramStart ramEnd : Nat}

/-- A search that goes around has seen more than its window. -/
private theorem rollBytes_grows {addr : Nat} {list : List Nat} {rolling : Rolling} :
    match rollBytes addr list rolling with
    | .inl next => next.values.length = rolling.values.length + list.length
    | .inr outcome => rolling.values.length < outcome.values.length := by
  induction list generalizing rolling with
  | nil => rfl
  | cons i rest ih =>
    rw [rollBytes]
    by_cases hit : p = roll rolling.t (rolling.srchBuf i) (rolling.srchBuf (i + m))
    · rw [if_pos hit]
      simp
    · rw [if_neg hit]
      have later := @ih ⟨rolling.srchBuf, roll rolling.t (rolling.srchBuf i) (rolling.srchBuf (i + m)),
        rolling.values ++ [roll rolling.t (rolling.srchBuf i) (rolling.srchBuf (i + m))], rolling.reads⟩
      cases went : rollBytes addr rest ⟨rolling.srchBuf, roll rolling.t (rolling.srchBuf i) (rolling.srchBuf (i + m)),
        rolling.values ++ [roll rolling.t (rolling.srchBuf i) (rolling.srchBuf (i + m))], rolling.reads⟩ with
      | inl next =>
        simp only [went, List.length_append, List.length_singleton] at later
        simp only [List.length_cons]
        omega
      | inr outcome =>
        simp only [went, List.length_append, List.length_singleton] at later
        omega

variable (content) in
private theorem fastChunk_grows {addr limit : Nat} (more : addr < limit) {rolling : Rolling} {passed : Nat}
    (long : passed ≤ rolling.values.length) :
    match fastChunk (.readable content) limit addr rolling with
    | .inl next => passed < next.values.length
    | .inr outcome => passed < outcome.values.length := by
  have grows := @rollBytes_grows addr (List.range (min stride (limit - addr)))
    ⟨copyBytes (copyBytes rolling.srchBuf 0 ((List.range m).map fun i => rolling.srchBuf (stride + i))) m
      ((TargetMemory.readable content).bytes addr (min stride (limit - addr))), rolling.t, rolling.values,
      rolling.reads ++ [(addr, min stride (limit - addr))]⟩
  have some : 0 < min stride (limit - addr) := by
    have chunk : stride = 128 := rfl
    omega
  have whole : fastChunk (.readable content) limit addr rolling = rollBytes addr (List.range (min stride (limit - addr)))
    ⟨copyBytes (copyBytes rolling.srchBuf 0 ((List.range m).map fun i => rolling.srchBuf (stride + i))) m
      ((TargetMemory.readable content).bytes addr (min stride (limit - addr))), rolling.t, rolling.values,
      rolling.reads ++ [(addr, min stride (limit - addr))]⟩ := rfl
  rw [← whole] at grows
  cases went : fastChunk (.readable content) limit addr rolling with
  | inl next =>
    simp only [went, List.length_range] at grows
    show passed < next.values.length
    omega
  | inr outcome =>
    simp only [went] at grows
    show passed < outcome.values.length
    omega

theorem fastSearch_past {addr limit passes : Nat} (more : addr < limit) {rolling : Rolling} {outcome : Outcome}
    (ended : chunkLoop stride limit (fastChunk (.readable content) limit)
      (fun rolling => ⟨0, rolling.values, rolling.reads⟩) passes addr rolling = some outcome) :
    rolling.values.length < outcome.values.length := by
  cases passes with
  | zero => cases ended
  | succ passes =>
    have first := fastChunk_grows content more (Nat.le_refl rolling.values.length)
    rw [chunkLoop, if_pos more] at ended
    cases went : fastChunk (.readable content) limit addr rolling with
    | inr result =>
      rw [went] at first ended
      cases ended
      exact first
    | inl next =>
      rw [went] at first ended
      refine @chunkLoop_keeps _ _ _ _ _ _ (fun state => rolling.values.length < state.values.length)
        (fun outcome => rolling.values.length < outcome.values.length) ?_ ?_ ?_ _ _ next first outcome ended
      · intro x inside state later long going
        have grows := fastChunk_grows content inside long.le
        rw [going] at grows
        exact grows
      · intro x inside state result long ending
        have grows := fastChunk_grows content inside long.le
        rw [ending] at grows
        exact grows
      · exact fun state long => long

variable (content) in
private theorem window_scanned (more : ramStart < ramEnd) (fits : ramEnd < 2 ^ 32) :
    Scanned content ramStart 0 (ramEnd - ramStart) (passOver (fastChunk (.readable content) ramEnd)
      (starts ramStart stride (count ramStart ramEnd stride)) ⟨fun _ => 0#8, 0, [], []⟩) :=
  passOver_scanned _ (Nat.add_zero _).symm more fits rfl initial_rolled initial_carried

private theorem search_found (more : ramStart < ramEnd) (fits : ramEnd < 2 ^ 32) (passes : Nat) {outcome : Outcome}
    (went : passOver (fastChunk (.readable content) ramEnd) (starts ramStart stride (count ramStart ramEnd stride))
      ⟨fun _ => 0#8, 0, [], []⟩ = .inr outcome) :
    fastSearch (.readable content) ramStart ramEnd (count ramStart ramEnd stride + passes) = some outcome := by
  rw [fastSearch, chunkLoop_passOver (by decide) fits.le more, went]

private theorem search_goes (more : ramStart < ramEnd) (fits : ramEnd < 2 ^ 32) (passes : Nat) {next : Rolling}
    (went : passOver (fastChunk (.readable content) ramEnd) (starts ramStart stride (count ramStart ramEnd stride))
      ⟨fun _ => 0#8, 0, [], []⟩ = .inl next) :
    fastSearch (.readable content) ramStart ramEnd (count ramStart ramEnd stride + passes)
      = chunkLoop stride ramEnd (fastChunk (.readable content) ramEnd) (fun rolling => ⟨0, rolling.values, rolling.reads⟩)
          passes ((ramStart + stride * count ramStart ramEnd stride) % 2 ^ 32) next := by
  rw [fastSearch, chunkLoop_passOver (by decide) fits.le more, went]

private theorem right_straight_or_hit (more : ramStart < ramEnd) (fits : ramEnd < 2 ^ 32) {passes : Nat} {outcome : Outcome}
    (ended : fastSearch (.readable content) ramStart ramEnd passes = some outcome)
    (right : Right content ramStart ramEnd outcome) :
    Straight ramStart ramEnd stride ∨ ∃ k < ramEnd - ramStart, Hit content ramStart k := by
  by_contra neither
  obtain ⟨curved, missed⟩ := not_or.mp neither
  have scanned := window_scanned content more fits
  have longer : fastSearch (.readable content) ramStart ramEnd (count ramStart ramEnd stride + passes) = some outcome :=
    chunkLoop_more ended _
  cases went : passOver (fastChunk (.readable content) ramEnd) (starts ramStart stride (count ramStart ramEnd stride))
    ⟨fun _ => 0#8, 0, [], []⟩ with
  | inr result =>
    rw [went] at scanned
    obtain ⟨k, -, below, found⟩ := scanned
    exact missed ⟨k, below, found.hit⟩
  | inl next =>
    rw [went] at scanned
    rw [search_goes more fits passes went] at longer
    have around : (ramStart + stride * count ramStart ramEnd stride) % 2 ^ 32 < ramEnd := by
      rw [Straight, Classical.not_imp] at curved
      have spec := count_spec more (show 0 < stride by decide)
      have chunk : stride = 128 := rfl
      omega
    have grown := fastSearch_past around longer
    cases right.scanned with
    | inl some =>
      obtain ⟨k, below, found⟩ := some
      exact missed ⟨k, below, found.hit⟩
    | inr none =>
      rw [none.2.1, scanned.2.values] at grown
      exact Nat.lt_irrefl _ grown

private theorem straight_or_hit_right (more : ramStart < ramEnd) (fits : ramEnd < 2 ^ 32)
    (usual : Straight ramStart ramEnd stride ∨ ∃ k < ramEnd - ramStart, Hit content ramStart k) :
    ∃ passes outcome, fastSearch (.readable content) ramStart ramEnd passes = some outcome ∧
      Right content ramStart ramEnd outcome := by
  have scanned := window_scanned content more fits
  cases went : passOver (fastChunk (.readable content) ramEnd) (starts ramStart stride (count ramStart ramEnd stride))
    ⟨fun _ => 0#8, 0, [], []⟩ with
  | inr outcome =>
    rw [went] at scanned
    obtain ⟨k, -, below, found⟩ := scanned
    exact ⟨_, outcome, search_found more fits 0 went, right_of_scanned (.inl ⟨k, below, found⟩)⟩
  | inl next =>
    rw [went] at scanned
    have missed : ∀ k < ramEnd - ramStart, ¬ Hit content ramStart k := fun k => scanned.1 k (Nat.zero_le _)
    have straight : Straight ramStart ramEnd stride := by
      cases usual with
      | inl straight => exact straight
      | inr some =>
        obtain ⟨k, below, hit⟩ := some
        exact absurd hit (missed k below)
    have reached : ¬ (ramStart + stride * count ramStart ramEnd stride) % 2 ^ 32 < ramEnd := by
      rw [Nat.mod_eq_of_lt (straight more)]
      exact Nat.not_lt.mpr (count_spec more (by decide)).1
    have ended := search_goes more fits 1 went
    rw [chunkLoop, if_neg reached] at ended
    exact ⟨_, _, ended, right_of_scanned (.inr ⟨missed, scanned.2.values, rfl⟩)⟩

/-- The search is right exactly if its counter does not run over, or does not come to it. -/
theorem search_right_iff (content : Nat → Byte) {ramStart ramEnd : Nat} (fits : ramEnd < 2 ^ 32) :
    (∃ passes outcome, fastSearch (.readable content) ramStart ramEnd passes = some outcome ∧
      Right content ramStart ramEnd outcome) ↔
    Straight ramStart ramEnd stride ∨ ∃ k < ramEnd - ramStart, Hit content ramStart k := by
  by_cases more : ramStart < ramEnd
  · constructor
    · intro searched
      obtain ⟨passes, outcome, ended, right⟩ := searched
      exact right_straight_or_hit more fits ended right
    · exact straight_or_hit_right more fits
  · refine iff_of_true ⟨1, ⟨0, [], []⟩, ?_, ?_⟩ (.inl fun less => absurd less more)
    · rw [fastSearch, chunkLoop, if_neg more]
    · have none : ramEnd - ramStart = 0 := by omega
      apply right_of_scanned
      rw [none]
      exact .inr ⟨fun k below => absurd below (Nat.not_lt_zero k), rfl, rfl⟩

/-- A window of two chunks of RAM. -/
theorem usual_window_right :
    (∃ passes outcome, fastSearch (.readable fun _ => 0xff#8) 0x20000000 0x20000100 passes = some outcome ∧
      Right (fun _ => 0xff#8) 0x20000000 0x20000100 outcome) ↔
    Straight 0x20000000 0x20000100 stride ∨ ∃ k < 0x20000100 - 0x20000000, Hit (fun _ => 0xff#8) 0x20000000 k :=
  search_right_iff (fun _ => 0xff#8) (by decide)

/-- A window with zeros at the end of the address space. -/
theorem last_window_wrong :
    ¬ ∃ passes outcome, fastSearch (.readable fun _ => 0#8) 0xfffffff0 0xfffffff8 passes = some outcome ∧
      Right (fun _ => 0#8) 0xfffffff0 0xfffffff8 outcome := by
  intro searched
  obtain ⟨passes, outcome, ended, right⟩ := searched
  cases right_straight_or_hit (by decide) (by decide) ended right with
  | inl straight => exact absurd straight (by decide)
  | inr some => exact absurd some (by decide)

end Search

end BlackMagic.Proofs.RttHash

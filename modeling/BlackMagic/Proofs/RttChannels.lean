import BlackMagic.RttControl

/-! Whatever the target answers, the channels of RTT are used only inside the arrays for them. -/

namespace BlackMagic.Proofs.RttChannels
open Lib.Words RttControl

/-- The numbers of channels fit the arrays, also where their sum wraps around, and so did all indices. -/
structure Bounded (control : Control) : Prop where
  up : control.rttNumUpChan ≤ maxRttChan
  sum : channels control ≤ maxRttChan
  used : ∀ i ∈ control.indices, i < maxRttChan

theorem powerUp_bounded (rttIdent : List Byte) : Bounded (powerUp rttIdent) :=
  ⟨Nat.zero_le _, Nat.zero_le _, fun _ listed => absurd listed List.not_mem_nil⟩

section Arrays
variable {control : Control}

theorem Bounded.touched (bounded : Bounded control) {i : Nat} (inside : i < maxRttChan) : Bounded (touch i control) := by
  refine ⟨bounded.up, bounded.sum, fun other listed => ?_⟩
  cases List.mem_append.mp listed with
  | inl earlier => exact bounded.used other earlier
  | inr last => exact List.mem_singleton.mp last ▸ inside

theorem Bounded.enabled (bounded : Bounded control) {i : Nat} (inside : i < maxRttChan) (value : Bool) :
    Bounded (enable i value control) :=
  ⟨bounded.up, bounded.sum, (bounded.touched inside).used⟩

theorem Bounded.stored (bounded : Bounded control) {i : Nat} (inside : i < maxRttChan) (descriptor : Descriptor) :
    Bounded (store i descriptor control) :=
  ⟨bounded.up, bounded.sum, (bounded.touched inside).used⟩

theorem Bounded.folded {α : Type} (bounded : Bounded control) {list : List α} {f : Control → α → Control}
    (keeps : ∀ control item, item ∈ list → Bounded control → Bounded (f control item)) : Bounded (list.foldl f control) :=
  List.foldlRecOn list f bounded fun control kept item listed => keeps control item listed kept

theorem Bounded.enabledNone (bounded : Bounded control) : Bounded (enableNone control) :=
  bounded.folded fun _ _ listed kept => kept.enabled (List.mem_range.mp listed) false

theorem Bounded.channelsCleared (bounded : Bounded control) : Bounded (clearChannels control) :=
  ⟨bounded.up, bounded.sum, bounded.used⟩

end Arrays

section FindRtt
variable {control : Control}

/-- Only the numbers decide what fits. -/
private theorem Bounded.same {after : Control} (bounded : Bounded control) (up : after.rttNumUpChan = control.rttNumUpChan)
    (down : after.rttNumDownChan = control.rttNumDownChan) (indices : after.indices = control.indices) : Bounded after := by
  refine ⟨up ▸ bounded.up, ?_, indices ▸ bounded.used⟩
  have sum := bounded.sum
  rwa [channels, ← up, ← down] at sum

/-- The clamped numbers fit, though the second one may be too large where the sum wraps around. -/
theorem Bounded.numbersSet (bounded : Bounded control) (up down : BitVec 32) : Bounded (setNumbers up down control) := by
  have limit : maxRttChan = 16 := rfl
  have clamped : (if maxRttChan < up.toNat then maxRttChan else up.toNat) ≤ maxRttChan := by
    by_cases large : maxRttChan < up.toNat
    · rw [if_pos large]
    · rw [if_neg large]
      exact Nat.not_lt.mp large
  refine ⟨clamped, ?_, bounded.used⟩
  simp only [channels, setNumbers]
  generalize (if maxRttChan < up.toNat then maxRttChan else up.toNat) = numUp at clamped
  by_cases large : maxRttChan < add32 numUp down.toNat
  · rw [if_pos large, sub32_of_le (by omega) clamped, add32_of_lt (by omega)]
    omega
  · rw [if_neg large]
    exact Nat.not_lt.mp large

theorem Bounded.channelsSelected (bounded : Bounded control) : Bounded (selectChannels control) := by
  have outputs := (bounded.enabledNone.enabled (show 0 < maxRttChan by decide) (decide (0 < control.rttNumUpChan))).enabled
    (show 1 < maxRttChan by decide) (decide (1 < control.rttNumUpChan))
  rw [selectChannels]
  split
  next room => exact outputs.enabled room.1 true
  next => exact outputs

theorem Bounded.blockRead (bounded : Bounded control) (header : Option (List Nat)) : Bounded (readBlock header control) := by
  rw [readBlock]
  split
  · exact bounded.same rfl rfl rfl
  · split
    · exact bounded.same rfl rfl rfl
    · have selected : Bounded
          (if (clearChannels control).rttAutoChannel then selectChannels (clearChannels control) else clearChannels control) := by
        split
        · exact bounded.channelsCleared.channelsSelected
        · exact bounded.channelsCleared
      cases header with
      | none => exact selected
      | some words => exact selected.same rfl rfl rfl

private theorem Bounded.located (bounded : Bounded control) (cbaddr : Nat) (answers : FindAnswers) :
    Bounded (if cbaddr = 0 then { control with rttCbaddr := cbaddr }
      else match answers.numBuf with
        | none => { control with rttCbaddr := cbaddr }
        | some (up, down) => readBlock answers.header (setNumbers up down { control with rttCbaddr := cbaddr })) := by
  have placed : Bounded { control with rttCbaddr := cbaddr } := bounded.same rfl rfl rfl
  split
  · exact placed
  · cases answers.numBuf with
    | none => exact placed
    | some numbers => exact (placed.numbersSet _ _).blockRead _

theorem Bounded.found (bounded : Bounded control) (target : Option FindAnswers) : Bounded (findRtt target control) := by
  have begun : Bounded { control with rttFound := false, pollMs := control.rttMaxPollMs, pollErrs := 0, lastPollMs := 0 } :=
    bounded.same rfl rfl rfl
  cases target with
  | none => exact begun
  | some answers =>
    simp only [findRtt]
    split
    · exact begun
    · exact begun.located _ answers

end FindRtt

section PollRtt
variable {control : Control} {answers : PollAnswers}

theorem Bounded.afterReturn (bounded : Bounded control) (result : Rtt.RttRetval) (rttErr rttBusy : Bool) :
    Bounded (returned result ⟨control, rttErr, rttBusy⟩).control := by
  cases result with
  | ok => exact bounded
  | idle => exact bounded
  | err => exact bounded

theorem Bounded.channelServed {served : Served} (bounded : Bounded served.control) {i : Nat} (inside : i < maxRttChan) :
    Bounded (serveChannel answers served i).control := by
  have touched := bounded.touched inside
  rw [serveChannel]
  split
  · exact touched
  · split
    · exact (touched.stored inside _).afterReturn _ _ _
    · have flagged : Bounded { touch i (touch i served.control) with
          rttFlagSkip := ((touch i served.control).rttChannel i).flag = 0,
          rttFlagBlock := ((touch i served.control).rttChannel i).flag = 2 } :=
        (touched.touched inside).same rfl rfl rfl
      exact (flagged.stored inside _).afterReturn _ _ _

private theorem entries_inside (bounded : Bounded control) : entriesRead control ≤ maxRttChan := by
  have sum := bounded.sum
  have limit : maxRttChan = 16 := rfl
  rw [entriesRead, Nat.mod_eq_of_lt (by omega)]
  omega

theorem Bounded.channelsServed (bounded : Bounded control) : Bounded (serveChannels answers control).control := by
  rw [serveChannels]
  cases answers.block with
  | none => exact bounded
  | some block =>
    have entries := entries_inside bounded
    have copied : Bounded ((List.range (entriesRead control)).foldl (fun control i => store i (block i) control) control) :=
      bounded.folded fun _ i listed kept =>
        kept.stored (Nat.lt_of_lt_of_le (List.mem_range.mp listed) entries) (block i)
    refine List.foldlRecOn (motive := fun served : Served => Bounded served.control) _ _ copied ?_
    intro served kept i listed
    exact kept.channelServed (Nat.lt_of_lt_of_le (List.mem_range.mp listed) copied.sum)

theorem Bounded.served (bounded : Bounded control) : Bounded
    (if control.rttFound ∧ control.rttCbaddr ≠ 0 then serveChannels answers control else ⟨control, false, false⟩).control := by
  split
  · exact bounded.channelsServed
  · exact bounded

theorem Bounded.headerChecked (bounded : Bounded control) (header : Option (List Nat)) :
    Bounded (checkHeader header control) := by
  rw [checkHeader]
  split
  · split
    · exact bounded
    · exact bounded.same rfl rfl rfl
  · exact bounded

theorem Bounded.pollingAdjusted {served : Served} (bounded : Bounded served.control) (now : Nat) :
    Bounded (adjustPolling now served) := by
  simp only [adjustPolling]
  split
  · exact bounded.same rfl rfl rfl
  · exact bounded.same rfl rfl rfl

theorem Bounded.polled (bounded : Bounded control) (target : Option PollAnswers) : Bounded (pollRtt target control) := by
  cases target with
  | none => exact bounded
  | some answers =>
    simp only [pollRtt]
    split
    · exact bounded
    · split
      · have found : Bounded (if control.rttFound then control else findRtt (some answers.find) control) := by
          split
          · exact bounded
          · exact bounded.found _
        exact (found.headerChecked answers.header).served.pollingAdjusted _
      · exact bounded

end PollRtt

section CmdRtt
variable {control : Control}

theorem Bounded.channelSelected (bounded : Bounded control) (argument : List Byte) : Bounded (selectChannel control argument) := by
  simp only [selectChannel]
  split
  next inside => exact bounded.enabled inside true
  next => exact bounded

private theorem either_bounded {first second : Control} {choice : Prop} [Decidable choice] (one : Bounded first)
    (other : Bounded second) : Bounded (if choice then first else second) := by
  split
  · exact one
  · exact other

theorem Bounded.parametersSet (bounded : Bounded control) (command : List Byte) (rest : List (List Byte)) :
    Bounded (setParameters command rest control) := by
  match rest with
  | [] => exact either_bounded (bounded.same rfl rfl rfl) bounded
  | [_] => exact either_bounded (bounded.same rfl rfl rfl) bounded
  | [_, _] => exact either_bounded (bounded.same rfl rfl rfl) bounded
  | [_, _, _] => exact either_bounded (bounded.same rfl rfl rfl) bounded
  | _ :: _ :: _ :: _ :: _ => exact bounded

theorem Bounded.commanded (bounded : Bounded control) (arguments : List (List Byte)) : Bounded (cmdRtt arguments control) := by
  cases arguments with
  | nil => exact bounded.same rfl rfl rfl
  | cons command rest =>
    rw [cmdRtt]
    split
    · exact bounded.same rfl rfl rfl
    split
    · exact bounded.same rfl rfl rfl
    split
    · exact bounded.folded fun _ _ listed kept => kept.touched (List.mem_range.mp listed)
    split
    · split
      · exact bounded.enabledNone.same rfl rfl rfl
      · have manual : Bounded { enableNone control with rttAutoChannel := false } := bounded.enabledNone.same rfl rfl rfl
        exact manual.folded fun _ argument _ kept => kept.channelSelected argument
    split
    · exact bounded.same rfl rfl rfl
    split
    · exact bounded
    split
    · exact bounded.folded fun _ _ listed kept => kept.touched (Nat.lt_of_lt_of_le (List.mem_range.mp listed) bounded.sum)
    exact bounded.parametersSet command rest

end CmdRtt

/-- Every index into the two arrays is inside them, in every run. -/
theorem indices_inside (rttIdent : List Byte) (events : List Event) :
    ∀ i ∈ (run (powerUp rttIdent) events).indices, i < maxRttChan := by
  have kept : Bounded (run (powerUp rttIdent) events) := by
    refine List.foldlRecOn events step (powerUp_bounded rttIdent) ?_
    intro control bounded event _
    cases event with
    | find target => exact bounded.found target
    | poll target => exact bounded.polled target
    | reset => exact bounded.same rfl rfl rfl
    | command arguments => exact bounded.commanded arguments
  exact kept.used

/-- `rtt status` goes over all channels. -/
theorem status_indices_inside :
    15 ∈ (run (powerUp []) [.command [ascii "status"]]).indices ∧ 15 < maxRttChan :=
  ⟨by decide +kernel, indices_inside [] [.command [ascii "status"]] 15 (by decide +kernel)⟩

end BlackMagic.Proofs.RttChannels

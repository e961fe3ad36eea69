import BlackMagic.Exceptions

/-! The list of exception frames: it is the list of the running blocks, as long as no body leaves its block by a
`break`. -/

namespace BlackMagic.Proofs.ExceptionFrames
open Exceptions

variable {δ : Type}

/-- A block leaves `innermost_exception` as it was on entry; where an exception goes on to an enclosing block, as it was on
entry to that one. -/
def Restores (exit : Exit) : Prop :=
  match exit.way with
  | .passed catcher => catcher.map Block.entered = some exit.after
  | _ => exit.after = exit.block.entered

/-- An exception goes to the innermost running block whose mask matches. -/
def ToInnermost (raised : Raise) : Prop :=
  raised.target = (raised.enclosing.find? fun block => block.mask &&& raised.type ≠ 0).map Block.frame

/-- Blocks that are inside of each other have different frames. -/
def Nested : List Nat → Code δ → Prop
  | live, .look next => ∀ machine, Nested live (next machine)
  | live, .seq first second => Nested live first ∧ Nested live second
  | live, .loop body => Nested live body
  | live, .tryCatch frame _ body => frame ∉ live ∧ Nested (frame :: live) body
  | _, _ => True

section Frames

/-- From a pointer on, the list of frames is that of the running blocks. -/
def Linked (frames : Nat → ExceptionFrame) : Option Nat → List Block → Prop
  | pointer, [] => pointer = none
  | pointer, block :: outer =>
    pointer = some block.frame ∧ (frames block.frame).mask = block.mask ∧ (frames block.frame).outer = block.entered ∧
      Linked frames block.entered outer

variable {frames : Nat → ExceptionFrame} {pointer : Option Nat} {live : List Block}

theorem Linked.congr {others : Nat → ExceptionFrame} (linked : Linked frames pointer live)
    (same : ∀ block ∈ live, (others block.frame).mask = (frames block.frame).mask ∧
      (others block.frame).outer = (frames block.frame).outer) : Linked others pointer live := by
  induction live generalizing pointer with
  | nil => exact linked
  | cons block outer ih =>
    obtain ⟨here, mask, entered, rest⟩ := linked
    obtain ⟨sameMask, sameOuter⟩ := same block List.mem_cons_self
    exact ⟨here, sameMask.trans mask, sameOuter.trans entered,
      ih rest fun other listed => same other (List.mem_cons_of_mem block listed)⟩

/-- A frame outside of the running blocks is not the innermost one. -/
theorem Linked.pointer_ne (linked : Linked frames pointer live) {frame : Nat} (outside : frame ∉ live.map Block.frame) :
    pointer ≠ some frame := by
  cases live with
  | nil =>
    rw [linked]
    exact fun never => by cases never
  | cons block outer =>
    rw [linked.1]
    rintro ⟨⟩
    exact outside List.mem_cons_self

/-- From a running block on, its enclosing blocks are linked. -/
theorem Linked.outward {inner outer : List Block} {block : Block} (linked : Linked frames pointer (inner ++ block :: outer)) :
    (frames block.frame).outer = block.entered ∧ Linked frames block.entered outer := by
  induction inner generalizing pointer with
  | nil => exact linked.2.2
  | cons first rest ih => exact ih linked.2.2.2

theorem findFrame_linked (linked : Linked frames pointer live) {type : BitVec 32} {fuel : Nat} {target : Option Nat}
    (found : findFrame frames type fuel pointer = some target) :
    target = (live.find? fun block => block.mask &&& type ≠ 0).map Block.frame := by
  induction live generalizing pointer fuel with
  | nil =>
    rw [linked] at found
    cases fuel with
    | zero => cases found
    | succ fuel =>
      cases found
      rfl
  | cons block outer ih =>
    obtain ⟨here, mask, entered, rest⟩ := linked
    rw [here] at found
    cases fuel with
    | zero => cases found
    | succ fuel =>
      rw [findFrame, mask, entered] at found
      split at found
      next matching =>
        cases found
        rw [List.find?_cons_of_pos (by simpa using matching)]
        rfl
      next other =>
        rw [List.find?_cons_of_neg (by simpa using other)]
        exact ih rest found

end Frames

section Runs

/-- Every block so far has been left as it should, every exception went where it should, and no body has left its block by
a `break`. -/
structure Orderly (machine : Machine δ) : Prop where
  restores : ∀ exit ∈ machine.exits, Restores exit
  innermost : ∀ raised ∈ machine.raises, ToInnermost raised
  unbroken : ∀ exit ∈ machine.exits, exit.way ≠ .broken

/-- Some body has left its block by a `break`, and its frame has stayed in the list. -/
def Stale (machine : Machine δ) : Prop := ∃ exit ∈ machine.exits, exit.way = .broken ∧ ¬ Restores exit

/-- The frames where a statement goes on. -/
def Landed (live : List Block) (machine : Machine δ) : Ending → Prop
  | .done | .broke => Linked machine.frames machine.innermostException live
  | .jumped frame => ∃ inner block outer, live = inner ++ block :: outer ∧ block.frame = frame ∧
      machine.innermostException = block.entered ∧ Linked machine.frames block.entered outer
  | .aborted => True

/-- What holds before a statement, and what holds behind it. -/
def Fit (live : List Block) (machine : Machine δ) : Prop :=
  Stale machine ∨ Orderly machine ∧ Linked machine.frames machine.innermostException live

def Ended (live : List Block) (ending : Ending) (machine : Machine δ) : Prop :=
  Stale machine ∨ Orderly machine ∧ Landed live machine ending

variable {live : List Block} {machine after : Machine δ} {ending : Ending} {block : Block}

theorem Stale.recordExit (stale : Stale machine) (block : Block) (way : Way) : Stale (recordExit block way machine) := by
  obtain ⟨exit, listed, broken⟩ := stale
  exact ⟨exit, List.mem_append_left _ listed, broken⟩

theorem Orderly.recordExit (orderly : Orderly machine) {way : Way} (unbroken : way ≠ .broken)
    (restores : Restores ⟨block, way, machine.innermostException⟩) : Orderly (recordExit block way machine) := by
  constructor
  · intro exit listed
    rcases List.mem_append.mp listed with earlier | last
    · exact orderly.restores exit earlier
    · rw [List.mem_singleton.mp last]
      exact restores
  · exact orderly.innermost
  · intro exit listed
    rcases List.mem_append.mp listed with earlier | last
    · exact orderly.unbroken exit earlier
    · rw [List.mem_singleton.mp last]
      exact unbroken

theorem Orderly.raised (orderly : Orderly machine) {raised : Raise} (exits : after.exits = machine.exits)
    (raises : after.raises = machine.raises ++ [raised]) (inward : ToInnermost raised) : Orderly after := by
  constructor
  · rw [exits]
    exact orderly.restores
  · intro other listed
    rw [raises] at listed
    rcases List.mem_append.mp listed with earlier | last
    · exact orderly.innermost other earlier
    · rw [List.mem_singleton.mp last]
      exact inward
  · rw [exits]
    exact orderly.unbroken

theorem raiseException_spec {fuel : Nat} {type : BitVec 32} {msg : List Byte} (fit : Fit live machine)
    (raised : raiseException fuel live type msg machine = some (ending, after)) : Ended live ending after := by
  rw [raiseException] at raised
  split at raised
  next => cases raised
  next unmatched =>
    cases raised
    rcases fit with stale | ⟨orderly, linked⟩
    · exact .inl stale
    · exact .inr ⟨orderly.raised rfl rfl (findFrame_linked linked unmatched), trivial⟩
  next frame matched =>
    cases raised
    rcases fit with stale | ⟨orderly, linked⟩
    · exact .inl stale
    · have target := findFrame_linked linked matched
      refine .inr ⟨orderly.raised rfl rfl target, ?_⟩
      obtain ⟨block, first, same⟩ := Option.map_eq_some_iff.mp target.symm
      obtain ⟨_, inner, outer, split, _⟩ := List.find?_eq_some_iff_append.mp first
      rw [split] at linked
      obtain ⟨entered, rest⟩ := linked.outward
      refine ⟨inner, block, outer, split, same, ?_, ?_⟩
      · rw [← entered, same]
      · apply rest.congr
        intro other _
        by_cases here : other.frame = frame
        · simp [here]
        · simp [here]

/-- The frame of a block that is entered comes before those of the running ones. -/
theorem enter_linked {frame : Nat} {mask : BitVec 32} (linked : Linked machine.frames machine.innermostException live)
    (outside : frame ∉ live.map Block.frame) :
    Linked (enter frame mask machine).frames (enter frame mask machine).innermostException
      (⟨frame, mask, machine.innermostException⟩ :: live) := by
  refine ⟨rfl, by simp [enter], by simp [enter], ?_⟩
  apply linked.congr
  intro other listed
  have different : other.frame ≠ frame := fun same => outside (same ▸ List.mem_map_of_mem listed)
  simp [enter, different]

/-- What a block's body does in a run. -/
def Obeys (live : List Block) (body : Machine δ → Run δ) : Prop :=
  ∀ machine ending after, Fit live machine → body machine = some (ending, after) → Ended live ending after

/-- A body that has come to its end, and with it its block. -/
private theorem forLoop_completed {body : Machine δ → Run δ} {fuel : Nat} (orderly : Orderly machine)
    (outside : block.frame ∉ live.map Block.frame) (linked : Linked machine.frames block.entered live)
    (left : machine.innermostException = block.entered)
    (ran : forLoop live block body fuel machine = some (ending, after)) : Ended live ending after := by
  have out : machine.innermostException ≠ some block.frame := by
    rw [left]
    exact linked.pointer_ne outside
  cases fuel with
  | zero => cases ran
  | succ fuel =>
    rw [forLoop, if_neg out] at ran
    cases ran
    refine .inr ⟨orderly.recordExit (fun never => by cases never) left, ?_⟩
    show Linked machine.frames machine.innermostException live
    rw [left]
    exact linked

/-- A jump to the block's own frame. -/
private theorem caught_here {frame : Nat} (orderly : Orderly machine) (apart : ((block :: live).map Block.frame).Nodup)
    (landed : Landed (block :: live) machine (.jumped frame)) (own : frame = block.frame) :
    Orderly (recordExit block .caught machine) ∧ Landed live machine .done := by
  obtain ⟨inner, catcher, outer, split, same, left, linked⟩ := landed
  cases inner with
  | nil =>
    cases split
    refine ⟨orderly.recordExit (fun never => by cases never) left, ?_⟩
    rw [Landed, left]
    exact linked
  | cons first inner =>
    obtain ⟨rfl, rfl⟩ := List.cons.inj split
    refine absurd ?_ (List.nodup_cons.mp apart).1
    rw [← own, ← same]
    exact List.mem_map_of_mem (List.mem_append_right _ List.mem_cons_self)

/-- A jump to another frame than the block's own: it goes on to an enclosing block. -/
private theorem passed_on {frame : Nat} (orderly : Orderly machine) (apart : ((block :: live).map Block.frame).Nodup)
    (landed : Landed (block :: live) machine (.jumped frame)) (other : frame ≠ block.frame) :
    Orderly (recordExit block (.passed (live.find? fun outer => outer.frame = frame)) machine) ∧
      Landed live machine (.jumped frame) := by
  obtain ⟨inner, catcher, outer, split, same, left, linked⟩ := landed
  cases inner with
  | nil =>
    cases split
    exact absurd same.symm other
  | cons first inner =>
    obtain ⟨rfl, rfl⟩ := List.cons.inj split
    have found : (inner ++ catcher :: outer).find? (fun block => block.frame = frame) = some catcher := by
      rw [List.find?_eq_some_iff_append]
      refine ⟨by simpa using same, inner, outer, rfl, fun before listed => ?_⟩
      have different : before.frame ≠ catcher.frame := by
        intro equal
        have inside : ((inner ++ catcher :: outer).map Block.frame).Nodup := (List.nodup_cons.mp apart).2
        rw [List.map_append, List.nodup_append] at inside
        exact inside.2.2 _ (List.mem_map_of_mem listed) _ List.mem_cons_self equal
      simpa [← same] using different
    refine ⟨orderly.recordExit (fun never => by cases never) ?_, ?_⟩
    · show Option.map Block.entered ((inner ++ catcher :: outer).find? _) = some machine.innermostException
      rw [found, Option.map_some, left]
    · exact ⟨inner, catcher, outer, rfl, same, left, linked⟩

theorem forLoop_spec {body : Machine δ → Run δ} (obeys : Obeys (block :: live) body) {fuel : Nat}
    (apart : ((block :: live).map Block.frame).Nodup) (fit : Fit (block :: live) machine)
    (ran : forLoop live block body fuel machine = some (ending, after)) : Ended live ending after := by
  have outside : block.frame ∉ live.map Block.frame := (List.nodup_cons.mp apart).1
  induction fuel generalizing machine with
  | zero => cases ran
  | succ fuel ih =>
    rw [forLoop] at ran
    split at ran
    next inside =>
      cases once : body machine with
      | none =>
        rw [once] at ran
        cases ran
      | some result =>
        obtain ⟨first, between⟩ := result
        have ended := obeys machine first between fit once
        rw [once] at ran
        cases first with
        | done =>
          rcases ended with stale | ⟨orderly, linked⟩
          · apply ih _ ran
            exact .inl stale
          · apply forLoop_completed _ outside _ _ ran
            · exact ⟨orderly.restores, orderly.innermost, orderly.unbroken⟩
            · exact linked.2.2.2
            · exact linked.2.2.1
        | broke =>
          cases ran
          left
          rcases ended with stale | ⟨orderly, linked⟩
          · exact stale.recordExit block .broken
          · refine ⟨_, List.mem_append_right _ (List.mem_singleton.mpr rfl), rfl, ?_⟩
            intro restored
            exact linked.2.2.2.pointer_ne outside (restored.symm.trans linked.1)
        | jumped frame =>
          simp only at ran
          split at ran
          next caught =>
            cases ran
            rcases ended with stale | ⟨orderly, landed⟩
            · exact .inl (stale.recordExit block .caught)
            · exact .inr (caught_here orderly apart landed caught)
          next passing =>
            cases ran
            rcases ended with stale | ⟨orderly, landed⟩
            · exact .inl (stale.recordExit block _)
            · exact .inr (passed_on orderly apart landed passing)
        | aborted =>
          cases ran
          rcases ended with stale | ⟨orderly, _⟩
          · exact .inl stale
          · exact .inr ⟨orderly, trivial⟩
    next out =>
      cases ran
      rcases fit with stale | ⟨_, linked⟩
      · exact .inl (stale.recordExit block .completed)
      · exact absurd linked.1 out

theorem plainLoop_spec {body : Machine δ → Run δ} (obeys : Obeys live body) {fuel : Nat} (fit : Fit live machine)
    (ran : plainLoop body fuel machine = some (ending, after)) : Ended live ending after := by
  induction fuel generalizing machine with
  | zero => cases ran
  | succ fuel ih =>
    rw [plainLoop] at ran
    cases once : body machine with
    | none =>
      rw [once] at ran
      cases ran
    | some result =>
      obtain ⟨first, between⟩ := result
      have ended := obeys machine first between fit once
      rw [once] at ran
      cases first with
      | done => exact ih ended ran
      | broke =>
        cases ran
        exact ended
      | jumped frame =>
        cases ran
        exact ended
      | aborted =>
        cases ran
        exact ended

theorem run_obeys (fuel : Nat) (code : Code δ) {live : List Block} (nested : Nested (live.map Block.frame) code)
    (apart : (live.map Block.frame).Nodup) : Obeys live (run fuel live code) := by
  induction code generalizing live with
  | work f =>
    intro machine ending after fit ran
    cases ran
    rcases fit with stale | ⟨orderly, linked⟩
    · exact .inl stale
    · exact .inr ⟨⟨orderly.restores, orderly.innermost, orderly.unbroken⟩, linked⟩
  | look next ih =>
    intro machine ending after fit ran
    exact ih machine (nested machine) apart machine ending after fit ran
  | seq first second ihFirst ihSecond =>
    intro machine ending after fit ran
    rw [run] at ran
    cases once : run fuel live first machine with
    | none =>
      rw [once] at ran
      cases ran
    | some result =>
      obtain ⟨middle, between⟩ := result
      have ended := ihFirst nested.1 apart machine middle between fit once
      rw [once] at ran
      cases middle with
      | done => exact ihSecond nested.2 apart between ending after ended ran
      | broke =>
        cases ran
        exact ended
      | jumped frame =>
        cases ran
        exact ended
      | aborted =>
        cases ran
        exact ended
  | leave =>
    intro machine ending after fit ran
    cases ran
    exact fit
  | loop body ih =>
    intro machine ending after fit ran
    exact plainLoop_spec (ih nested apart) fit ran
  | raise type msg =>
    intro machine ending after fit ran
    exact raiseException_spec fit ran
  | tryCatch frame mask body ih =>
    intro machine ending after fit ran
    have entered : Fit (⟨frame, mask, machine.innermostException⟩ :: live) (enter frame mask machine) := by
      rcases fit with stale | ⟨orderly, linked⟩
      · exact .inl stale
      · exact .inr ⟨⟨orderly.restores, orderly.innermost, orderly.unbroken⟩, enter_linked linked nested.1⟩
    have obeys : Obeys (⟨frame, mask, machine.innermostException⟩ :: live) (run fuel (_ :: live) body) :=
      ih nested.2 (List.nodup_cons.mpr ⟨nested.1, apart⟩)
    exact forLoop_spec obeys (List.nodup_cons.mpr ⟨nested.1, apart⟩) entered ran

/-- In every run, all blocks are left and all exceptions go where they should just if no body leaves its block by a
`break`. -/
theorem frames_in_order_iff (fuel : Nat) (code : Code δ) (data : δ) (ending : Ending) (final : Machine δ)
    (nested : Nested [] code) (ran : run fuel [] code (start data) = some (ending, final)) :
    ((∀ exit ∈ final.exits, Restores exit) ∧ ∀ raised ∈ final.raises, ToInnermost raised) ↔
      ∀ exit ∈ final.exits, exit.way ≠ .broken := by
  have begun : Fit [] (start data) :=
    .inr ⟨⟨(fun _ none => by cases none), (fun _ none => by cases none), (fun _ none => by cases none)⟩, rfl⟩
  have obeyed : Obeys [] (run fuel [] code) := run_obeys fuel code nested List.nodup_nil
  rcases obeyed (start data) ending final begun ran with ⟨exit, listed, broken, lost⟩ | ⟨orderly, _⟩
  · constructor
    · exact fun fine => absurd (fine.1 exit listed) lost
    · exact fun unbroken => absurd broken (unbroken exit listed)
  · constructor
    · exact fun _ => orderly.unbroken
    · exact fun _ => ⟨orderly.restores, orderly.innermost⟩

/-- A scan fails with an error, and a second one with a timeout inside of a block that only catches errors. -/
def failingScans : Code Bool :=
  mainLoop 0 (.seq (cmdJtagScan 1 (.raise exceptionError (ascii "JTAG-DP invalid ACK")))
    (.tryCatch 1 exceptionError (.tryCatch 2 exceptionError (.raise exceptionTimeout (ascii "Timeout")))))

theorem failing_scans_in_order :
    ∃ final, run 9 [] failingScans (start false) = some (.done, final) ∧
      final.raises.map (fun raised => raised.target) = [some 1, some 0] ∧
      (∀ exit ∈ final.exits, Restores exit) ∧ ∀ raised ∈ final.raises, ToInnermost raised := by
  have nested : Nested [] failingScans := ⟨by decide, ⟨by decide, trivial⟩, ⟨by decide, by decide, trivial⟩⟩
  refine ⟨_, rfl, rfl, ?_⟩
  apply (frames_in_order_iff 9 failingScans false .done _ nested rfl).mpr
  decide

/-- A scan that finds a device, and an access that fails later. -/
def foundThenLost : Code Bool :=
  mainLoop 0 (.seq (cmdAutoScan 1 (.work fun _ => true) (.work id)) (.raise exceptionError (ascii "SWD invalid ACK")))

/-- The exception goes to the frame of the scan, which is not running any more. -/
theorem found_then_lost_stale :
    ∃ final, run 9 [] foundThenLost (start false) = some (.jumped 1, final) ∧ Nested [] foundThenLost ∧
      final.exits.map (fun exit => (exit.way, exit.after)) = [(.broken, some 1), (.passed none, some 0)] ∧
      (¬ ∀ exit ∈ final.exits, Restores exit) ∧ ¬ ∀ raised ∈ final.raises, ToInnermost raised := by
  have nested : Nested [] foundThenLost := by
    have tested (machine : Machine Bool) : Nested [1, 0] (if machine.data then .leave else .work id : Code Bool) := by
      split <;> trivial
    exact ⟨by decide, ⟨by decide, trivial, tested, trivial, tested⟩, trivial⟩
  refine ⟨_, rfl, nested, rfl, ?_, ?_⟩
  · intro restored
    have left := restored _ List.mem_cons_self
    cases left
  · intro inward
    have target := inward _ List.mem_cons_self
    rw [ToInnermost] at target
    revert target
    decide

end Runs

end BlackMagic.Proofs.ExceptionFrames

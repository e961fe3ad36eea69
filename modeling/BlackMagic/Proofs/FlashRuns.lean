import BlackMagic.Proofs.FlashFaithful

/-! Writes and erases in one run. An erase ends the operation of every region it
visits, and ending an operation frees the write buffer; a run keeps all of its
written bytes when no erase visits a region that still holds some. -/

namespace BlackMagic.Proofs.FlashRuns
open BlackMagic.Flash FlashBuffer FlashWrite FlashFaithful Lib.Words

variable {layout : Layout} {env : Environment}

/-- The regions and block addresses that an erase goes through. -/
def eraseWalk (layout : Layout) : Nat → Nat → Nat → List (Nat × Nat)
  | 0, _, _ => []
  | fuel + 1, addr, len =>
    if len = 0 then []
    else
      match targetFlashForAddr layout addr with
      | none => []
      | some i =>
        let localStartAddr := alignDown addr (layout.flash i).blocksize
        let localEndAddr := add32 localStartAddr (layout.flash i).blocksize
        (i, localStartAddr) :: eraseWalk layout fuel localEndAddr (len - min (sub32 localEndAddr addr) len)

/-- An erase ends the operation of region `i`: it visits it, or has nothing to erase
there but finds it busy. -/
def Closes (layout : Layout) (target : Target) (addr len i : Nat) : Prop :=
  (∃ block, (i, block) ∈ eraseWalk layout len addr len) ∨
    targetFlashForAddr layout addr = some i ∧ (target.state i).operation ≠ .none

theorem eraseWalk_listed {fuel addr len i block : Nat} (member : (i, block) ∈ eraseWalk layout fuel addr len) :
    i < layout.list.length := by
  induction fuel generalizing addr len with
  | zero => cases member
  | succ fuel ih =>
    rw [eraseWalk] at member
    split at member
    next => cases member
    next =>
      split at member
      next => cases member
      next j found =>
        rcases List.mem_cons.mp member with same | later
        · cases same
          exact (flashForAddr_some found).1
        · exact ih later

/-- Preparing a region for an erase ends a write, which loses nothing when the
buffer is clean. -/
theorem flashPrepare_erase {Written : Nat → Byte → Prop} {target : Target} {i : Nat} {prepared : Bool × Target}
    (running : flashPrepare layout env i .erase target = prepared) (faithful : Faithful layout Written target)
    (inside : i < layout.list.length) (clean : Clean (target.state i)) :
    Faithful layout Written prepared.2 ∧ Tends i target prepared.2 ∧ Clean (prepared.2.state i) := by
  have ends : ∀ {next : Target}, Tends i target next → Clean (next.state i) → Faithful layout Written next ∧
      Tends i target next ∧ Clean (next.state i) := fun tends empty =>
    ⟨tends.faithful inside faithful (.clean empty)
      fun a v => iff_of_false (empty.not_holding a v) (clean.not_holding a v), tends, empty⟩
  rw [flashPrepare] at running
  split at running
  next =>
    subst running
    exact ends ((Silent.refl target).tends i) clean
  next =>
    obtain ⟨ended, ending, tends, empty⟩ : ∃ ended,
        (if (target.state i).operation ≠ .none then flashDone layout env i target else (true, target)) = ended ∧
          Tends i target ended.2 ∧ Clean (ended.2.state i) := by
      refine ⟨_, rfl, ?_⟩
      split
      next =>
        obtain ⟨tends, -, -, -⟩ := flashDone_tends layout env i target
        exact ⟨tends, (flashDone_faithful faithful inside (.inl clean)).2 clean⟩
      next => exact ⟨(Silent.refl target).tends i, clean⟩
    rw [ending] at running
    dsimp only at running
    have switched : ∀ {middle : Target} (operation : FlashOperation), Tends i target middle →
        Clean (middle.state i) → Tends i target (middle.put i { middle.state i with operation := operation }) ∧
          Clean ((middle.put i { middle.state i with operation := operation }).state i) := by
      intro middle operation tends empty
      rw [put_state]
      exact ⟨tends.trans (put_tends _ _ _), empty⟩
    split at running
    next =>
      obtain ⟨tendsErase, cleanErase⟩ := switched .erase tends empty
      obtain ⟨asked, asking, silent⟩ : ∃ asked,
          (if (layout.flash i).prepare then
              (ended.2.put i { ended.2.state i with operation := .erase }).ask env
                (.prepare i .erase ((ended.2.put i { ended.2.state i with operation := .erase }).state i).buf.isSome)
            else (true, ended.2.put i { ended.2.state i with operation := .erase })) = asked ∧
            Silent (ended.2.put i { ended.2.state i with operation := .erase }) asked.2 := by
        refine ⟨_, rfl, ?_⟩
        split
        next => exact ask_silent _ rfl
        next => exact .refl _
      rw [asking] at running
      have tendsAsked := tendsErase.trans (silent.tends i)
      have cleanAsked : Clean (asked.2.state i) := by
        rw [silent.state]
        exact cleanErase
      split at running
      next =>
        subst running
        exact ends tendsAsked cleanAsked
      next =>
        subst running
        obtain ⟨tendsLast, cleanLast⟩ := switched .none tendsAsked cleanAsked
        exact ends tendsLast cleanLast
    next =>
      subst running
      exact ends tends empty

/-- The end of an erase: the last region's operation ends. -/
private theorem last_done_keeps {Written : Nat → Byte → Prop} {active : Nat} {target : Target}
    (listed : active < layout.list.length) (faithful : Faithful layout Written target)
    (erasing : ∀ j, (target.state j).operation = .erase → j = active)
    (settled : Clean (target.state active) ∨ (target.state active).operation = .none) :
    Keeps layout Written target (flashDone layout env active target).2 := by
  obtain ⟨tends, operation, -, -⟩ := flashDone_tends layout env active target
  refine ⟨(flashDone_faithful faithful listed settled).1, fun j => ?_, tends.mode,
    fun j a v old => (delivered_congr tends.writes j a v).mpr old⟩
  by_cases here : j = active
  · simp [here, operation]
  · rw [tends.others j here]
    exact fun erase => here (erasing j erase)

theorem eraseBlocks_keeps {Written : Nat → Byte → Prop} {fuel active addr len : Nat} {result : Bool} {target : Target}
    {next : Bool × Target} (running : eraseBlocks layout env fuel active addr len result target = next)
    (listed : active < layout.list.length) (faithful : Faithful layout Written target)
    (erasing : ∀ j, (target.state j).operation = .erase → j = active)
    (settled : Clean (target.state active) ∨ (target.state active).operation = .none)
    (clean : ∀ i block, (i, block) ∈ eraseWalk layout fuel addr len → Clean (target.state i))
    (answered : next.1 = true) : Keeps layout Written target next.2 := by
  induction fuel generalizing active addr len result target with
  | zero =>
    rw [eraseBlocks] at running
    split at running
    next =>
      subst running
      exact last_done_keeps listed faithful erasing settled
    next =>
      subst running
      cases answered
  | succ fuel ih =>
    rw [eraseBlocks] at running
    split at running
    next =>
      subst running
      exact last_done_keeps listed faithful erasing settled
    next more =>
      rw [eraseWalk, if_neg more] at clean
      split at running
      next =>
        subst running
        cases answered
      next i found =>
        simp only [found] at clean
        obtain ⟨inside, -⟩ := flashForAddr_some found
        have cleanHere : Clean (target.state i) := clean i _ List.mem_cons_self
        dsimp only at running
        obtain ⟨left, leaving, faithfulLeft, mode, kept, erasingLeft, cleanLeft⟩ : ∃ left,
            (if i ≠ active then flashDone layout env active target else (true, target)) = left ∧
              Faithful layout Written left.2 ∧ left.2.flashMode = target.flashMode ∧
              (∀ j a v, Delivered target.calls j a v → Delivered left.2.calls j a v) ∧
              (∀ j, (left.2.state j).operation = .erase → j = i) ∧
              (∀ j, Clean (target.state j) → Clean (left.2.state j)) := by
          refine ⟨_, rfl, ?_⟩
          split
          next =>
            obtain ⟨tends, -, -, -⟩ := flashDone_tends layout env active target
            have keeps : Keeps layout Written target (flashDone layout env active target).2 :=
              last_done_keeps listed faithful erasing settled
            refine ⟨keeps.faithful, keeps.mode, keeps.kept, fun j erase => absurd erase (keeps.resting j), fun j empty => ?_⟩
            by_cases here : j = active
            · subst here
              exact (flashDone_faithful faithful listed (.inl empty)).2 empty
            · rwa [tends.others j here]
          next same =>
            rw [ne_eq, not_not] at same
            exact ⟨faithful, rfl, fun _ _ _ old => old, same ▸ erasing, fun _ empty => empty⟩
        rw [leaving] at running
        generalize preparing : flashPrepare layout env i .erase left.2 = prepared at running
        obtain ⟨faithfulPrepared, tends, cleanPrepared⟩ :=
          flashPrepare_erase preparing faithfulLeft inside (cleanLeft i cleanHere)
        split at running
        next =>
          subst running
          cases answered
        next =>
          generalize block : alignDown addr (layout.flash i).blocksize = localStartAddr at running clean
          have silent : Silent prepared.2 (prepared.2.ask env (.erase i localStartAddr (layout.flash i).blocksize)).2 :=
            ask_silent _ rfl
          generalize prepared.2.ask env (.erase i localStartAddr (layout.flash i).blocksize) = erased at silent running
          split at running
          next =>
            subst running
            cases answered
          next =>
            have cleanErased : ∀ j, Clean (target.state j) → Clean (erased.2.state j) := by
              intro j empty
              rw [silent.state]
              by_cases here : j = i
              · exact here ▸ cleanPrepared
              · rw [tends.others j here]
                exact cleanLeft j empty
            have erasingNext : ∀ j, (erased.2.state j).operation = .erase → j = i := by
              intro j erase
              by_contra other
              rw [silent.state, tends.others j other] at erase
              exact other (erasingLeft j erase)
            have rest := ih running inside (silent.faithful faithfulPrepared) erasingNext
              (.inl (cleanErased i cleanHere))
              fun j place member => cleanErased j (clean j place (List.mem_cons_of_mem _ member))
            have modes : erased.2.flashMode = target.flashMode := silent.mode.trans (tends.mode.trans mode)
            refine ⟨rest.faithful, rest.resting, rest.mode.trans modes, fun j a v old => rest.kept j a v ?_⟩
            exact (delivered_congr silent.writes j a v).mpr ((delivered_congr tends.writes j a v).mpr (kept j a v old))

/-- An erase that closes only regions with nothing in their buffers loses nothing. -/
theorem targetFlashErase_keeps {Written : Nat → Byte → Prop} {addr len : Nat} {target : Target} {next : Bool × Target}
    (running : targetFlashErase layout env addr len target = next) (faithful : Faithful layout Written target)
    (resting : Resting target) (empty : ∀ i, Closes layout target addr len i → ∀ a v, ¬ Holding (target.state i) a v)
    (answered : next.1 = true) : Faithful layout Written next.2 ∧ Resting next.2 := by
  have clean : ∀ i, i < layout.list.length → Closes layout target addr len i → Clean (target.state i) := by
    intro i inside closes
    cases faithful.sound i inside with
    | clean clean => exact clean
    | active buf allocated active =>
      exact absurd ⟨buf, allocated, Nat.le_refl _, active.nonempty, rfl⟩ (empty i closes _ _)
  rw [targetFlashErase] at running
  generalize entering : targetEnterFlashMode env target = entered at running
  obtain ⟨entry, rest, state, -, -, -⟩ := enterFlashMode_keeps entering faithful resting
  split at running
  next =>
    subst running
    cases answered
  next =>
    split at running
    next =>
      subst running
      cases answered
    next active found =>
      have listed := (flashForAddr_some found).1
      have settled : Clean (entered.2.state active) ∨ (entered.2.state active).operation = .none := by
        rw [state]
        by_cases idle : (target.state active).operation = .none
        · exact .inr idle
        · exact .inl (clean active listed (.inr ⟨found, idle⟩))
      have keeps := eraseBlocks_keeps running listed entry (fun j erase => absurd erase (rest j)) settled
        (fun i block member => by rw [state]; exact clean i (eraseWalk_listed member) (.inl ⟨block, member⟩)) answered
      exact ⟨keeps.faithful, keeps.resting⟩

/-- A call of the flash layer, as the server's flash packets and `erase_range` make
them. -/
inductive Request where
  | write (dest : Nat) (data : List Byte)
  | erase (addr len : Nat)

def perform (layout : Regions) (env : Environment) (request : Request) (target : Target) : Bool × Target :=
  match request with
  | .write dest data => targetFlashWrite layout env dest data target
  | .erase addr len => targetFlashErase layout env addr len target

/-- The bytes that the writes among some requests carry. -/
def Written (requests : List Request) (a : Nat) (v : Byte) : Prop :=
  ∃ dest data, .write dest data ∈ requests ∧ Carries (dest, data) a v

/-- What a request has to respect so that no earlier write is lost by it: a write
stays below the end of the address space, and replaces bytes that still wait in a
buffer only by the same bytes; an erase closes no region whose buffer holds bytes. -/
def Respects (layout : Layout) (requests : List Request) (target : Target) : Request → Prop
  | .write dest data => dest + data.length < 2 ^ 32 ∧ Agrees layout (Written requests) target dest data
  | .erase addr len => ∀ i, Closes layout target addr len i → ∀ a v, ¬ Holding (target.state i) a v

/-- The targets that runs of acknowledged requests lead to. -/
inductive Run (layout : Layout) (env : Environment) : List Request → Target → Prop where
  | probed : Run layout env [] Target.probed
  | request {requests : List Request} {target next : Target} {request : Request} (run : Run layout env requests target)
      (acknowledged : perform layout env request target = (true, next)) :
      Run layout env (requests ++ [request]) next

/-- The runs among them whose every request respects what the buffers hold. -/
inductive CarefulRun (layout : Layout) (env : Environment) : List Request → Target → Prop where
  | probed : CarefulRun layout env [] Target.probed
  | request {requests : List Request} {target next : Target} {request : Request}
      (run : CarefulRun layout env requests target) (respects : Respects layout requests target request)
      (acknowledged : perform layout env request target = (true, next)) :
      CarefulRun layout env (requests ++ [request]) next

theorem CarefulRun.run {requests : List Request} {target : Target} (careful : CarefulRun layout env requests target) :
    Run layout env requests target := by
  induction careful with
  | probed => exact .probed
  | request run respects acknowledged ih => exact .request ih acknowledged

theorem written_write (requests : List Request) (dest : Nat) (data : List Byte) :
    Written (requests ++ [.write dest data]) = extend (Written requests) dest data := by
  funext a v
  simp only [Written, extend, Carries, List.mem_append, List.mem_singleton, or_and_right, exists_or, eq_iff_iff]
  refine or_congr_right ⟨?_, ?_⟩
  · rintro ⟨other, bytes, same, covers⟩
    cases same
    exact covers
  · exact fun covers => ⟨dest, data, rfl, covers⟩

theorem written_erase (requests : List Request) (addr len : Nat) :
    Written (requests ++ [.erase addr len]) = Written requests := by
  funext a v
  simp [Written]

theorem careful_accounted {requests : List Request} {target : Target}
    (careful : CarefulRun layout env requests target) :
    Faithful layout (Written requests) target ∧ Resting target := by
  induction careful with
  | probed =>
    have none : Written [] = fun _ _ => False := by
      funext a v
      simp [Written]
    rw [none]
    exact probed_faithful layout
  | @request requests target next request run respects acknowledged ih =>
    obtain ⟨faithful, resting⟩ := ih
    cases request with
    | write dest data =>
      obtain ⟨success, -⟩ := targetFlashWrite_accounted acknowledged respects.1 faithful resting respects.2
      have accounted := success (.inl rfl)
      rw [written_write]
      exact ⟨accounted.faithful, accounted.resting⟩
    | erase addr len =>
      rw [written_erase]
      exact targetFlashErase_keeps acknowledged faithful resting respects rfl

/-- In a careful run that is completed, every byte of every write was handed to the
driver of its region. -/
theorem careful_run_handed {requests : List Request} {target final : Target}
    (careful : CarefulRun layout env requests target) (completed : targetFlashComplete layout env target = (true, final))
    {a : Nat} {v : Byte} (written : Written requests a v) : Handed layout final.calls a v := by
  obtain ⟨faithful, resting⟩ := careful_accounted careful
  exact (targetFlashComplete_handed completed faithful resting).1 rfl a v written

/-- The target after one write of a byte, and then an erase elsewhere. -/
private def writeOne : Target := (perform twoRegions willing (.write 0x08000000 [1#8]) Target.probed).2

private def thenErase (addr : Nat) : Target := (perform twoRegions willing (.erase addr 1) writeOne).2

private theorem writeOne_acknowledged :
    perform twoRegions willing (.write 0x08000000 [1#8]) Target.probed = (true, writeOne) :=
  Prod.ext (by decide +kernel) rfl

/-- An erase in the other region leaves the written byte to the completion. -/
theorem separate_erase_handed :
    (targetFlashComplete twoRegions willing (thenErase 0x08001000)).1 = true ∧
      Handed twoRegions (targetFlashComplete twoRegions willing (thenErase 0x08001000)).2.calls 0x08000000 1#8 := by
  have completed : (targetFlashComplete twoRegions willing (thenErase 0x08001000)).1 = true := by decide +kernel
  have write : CarefulRun twoRegions willing [.write 0x08000000 [1#8]] writeOne :=
    .request .probed ⟨by decide, by rintro a v ⟨dest, data, member, -⟩; cases member⟩ writeOne_acknowledged
  have walk : eraseWalk twoRegions 1 0x08001000 1 = [(0, 0x08001000)] := by decide +kernel
  have found : targetFlashForAddr twoRegions 0x08001000 = some 0 := by decide +kernel
  have unallocated : (writeOne.state 0).buf = none := rfl
  have respects : Respects twoRegions [.write 0x08000000 [1#8]] writeOne (.erase 0x08001000 1) := by
    rintro i closes a v
    obtain rfl : i = 0 := by
      rcases closes with ⟨block, member⟩ | ⟨here, -⟩
      · rw [walk, List.mem_singleton] at member
        exact congrArg Prod.fst member
      · exact (Option.some.inj (found.symm.trans here)).symm
    exact Clean.not_holding (.inl unallocated) a v
  have acknowledged : perform twoRegions willing (.erase 0x08001000 1) writeOne = (true, thenErase 0x08001000) :=
    Prod.ext (by decide +kernel) rfl
  refine ⟨completed, careful_run_handed (.request write respects acknowledged) (Prod.ext completed rfl) ?_⟩
  exact ⟨0x08000000, [1#8], List.mem_cons_self, Nat.le_refl _, rfl⟩

/-- Every block that an erase goes through keeps clear of the writes before it. -/
def Spares (layout : Layout) (requests : List Request) : Prop :=
  ∀ before addr len after, requests = before ++ .erase addr len :: after →
    ∀ i block, (i, block) ∈ eraseWalk layout len addr len →
      ∀ a v, Written before a v → ¬ (block ≤ a ∧ a < block + (layout.flash i).blocksize)

/-- A write, then an erase of another block of the same region. -/
def writeThenErase : List Request := [.write 0x08000000 [1#8], .erase 0x08000400 1]

theorem buffered_write_lost :
    ∃ target final, Run twoRegions willing writeThenErase target ∧ Spares twoRegions writeThenErase ∧
      targetFlashComplete twoRegions willing target = (true, final) ∧
      Written writeThenErase 0x08000000 1#8 ∧ ¬ Handed twoRegions final.calls 0x08000000 1#8 := by
  have erased : perform twoRegions willing (.erase 0x08000400 1) writeOne = (true, thenErase 0x08000400) :=
    Prod.ext (by decide +kernel) rfl
  have completed : (targetFlashComplete twoRegions willing (thenErase 0x08000400)).1 = true := by decide +kernel
  have silent : writesOf (targetFlashComplete twoRegions willing (thenErase 0x08000400)).2.calls = [] := by
    decide +kernel
  have walk : eraseWalk twoRegions 1 0x08000400 1 = [(1, 0x08000400)] := by decide +kernel
  refine ⟨thenErase 0x08000400, (targetFlashComplete twoRegions willing (thenErase 0x08000400)).2, ?_, ?_,
    Prod.ext completed rfl, ?_, ?_⟩
  · exact .request (.request .probed writeOne_acknowledged) erased
  · rintro (_ | ⟨first, _ | ⟨second, rest⟩⟩) addr len after same
    · cases same
    · simp only [writeThenErase, List.cons_append, List.nil_append, List.cons.injEq, Request.erase.injEq] at same
      obtain ⟨rfl, ⟨rfl, rfl⟩, -⟩ := same
      rintro i block member a v ⟨dest, data, isWrite, low, byte⟩ ⟨above, -⟩
      rw [walk, List.mem_singleton] at member
      cases member
      simp only [List.mem_singleton, Request.write.injEq] at isWrite
      obtain ⟨rfl, rfl⟩ := isWrite
      have short := (List.getElem?_eq_some_iff.mp byte).1
      simp at short low
      omega
    · simp [writeThenErase] at same
  · exact ⟨0x08000000, [1#8], List.mem_cons_self, Nat.le_refl _, rfl⟩
  · rintro ⟨i, -, -, dest, data, member, -⟩
    rw [silent] at member
    cases member

end BlackMagic.Proofs.FlashRuns

import BlackMagic.Semihosting

/-! Whether a semihosting request leaves the functions for the target's memory as they were, and stays inside its table. An exchange
that is left by an exception keeps the functions of the probe in place. -/

namespace BlackMagic.Proofs.SemihostingAccess
open Lib Lib.Program Semihosting
open Hostio (Request)

variable {σ α : Type} {host : Host σ}

section Frame

/-- An assertion that survives what the debug link and GDB do. -/
structure Stable (kept : Machine σ → Prop) : Prop where
  rest : ∀ machine rest, kept machine → kept { machine with rest := rest }
  errno : ∀ machine errno, kept machine → kept { machine with errno := errno }
  interrupted : ∀ machine interrupted, kept machine → kept { machine with interrupted := interrupted }

variable {kept : Machine σ → Prop}

theorem Stable.onHost (stable : Stable kept) (f : σ → Except Targets.Exception α × σ) : Keeps kept (onHost f) := by
  intro machine holds
  rw [Semihosting.onHost]
  cases f machine.rest with
  | mk ending rest =>
    cases ending with
    | ok value => exact stable.rest machine rest holds
    | error exception => exact stable.rest machine rest holds

theorem Stable.targetMemRead (stable : Stable kept) (address : BitVec 32) (len : Nat) :
    Keeps kept (Semihosting.targetMemRead host address len) :=
  keeps_read.bind fun _ => (stable.onHost _).bind fun _ => (stable.onHost _).bind fun _ => keeps_pure _

theorem Stable.targetMemWrite (stable : Stable kept) (address : BitVec 32) (bytes : List Byte) :
    Keeps kept (targetMemWrite host address bytes) :=
  keeps_read.bind fun _ => (stable.onHost _).bind fun _ => stable.onHost _

theorem Stable.targetMemRead8 (stable : Stable kept) (address : BitVec 32) : Keeps kept (targetMemRead8 host address) :=
  keeps_read.bind fun _ => (stable.onHost _).bind fun _ => keeps_pure _

theorem Stable.tcCall (stable : Stable kept) (request : Request) : Keeps kept (tcCall host request) := by
  refine keeps_read.bind fun machine => keeps_ite ?_ ?_
  · refine (stable.onHost _).bind fun reply => ?_
    have answered : Keeps kept
        (change fun machine : Machine σ => { machine with errno := reply.errno, interrupted := reply.interrupted } :
          Action σ Unit) := keeps_change fun machine holds => stable.interrupted _ _ (stable.errno machine reply.errno holds)
    exact answered.bind fun _ => keeps_pure _
  · have noted : Keeps kept
        (change fun machine : Machine σ => { machine with errno := (absent request).2.getD machine.errno } : Action σ Unit) :=
      keeps_change fun machine holds => stable.errno machine _ holds
    exact noted.bind fun _ => keeps_pure _

theorem Stable.redirectChunks (stable : Stable kept) (buf : BitVec 32) (count more k : Nat) :
    Keeps kept (redirectChunks host buf count more k) := by
  induction more generalizing k with
  | zero => exact keeps_pure _
  | succ more ih => exact (stable.targetMemRead _ _).bind fun _ => ih (k + 1)

theorem Stable.tcWrite (stable : Stable kept) (fd buf count : BitVec 32) : Keeps kept (tcWrite host fd buf count) := by
  refine keeps_read.bind fun machine => keeps_ite ?_ ?_
  · exact (stable.redirectChunks _ _ _ _).bind fun _ => keeps_pure _
  · exact (stable.tcCall _).bind fun _ => keeps_pure _

theorem Stable.passOn (stable : Stable kept) (request : Request) : Keeps kept (passOn host request) :=
  (stable.tcCall request).bind fun _ => keeps_pure _

theorem Stable.stringEnd (stable : Stable kept) (fuel : Nat) (strEnd : BitVec 32) :
    Keeps kept (stringEnd host fuel strEnd) := by
  induction fuel generalizing strEnd with
  | zero => exact keeps_stop _
  | succ fuel ih =>
    refine (stable.targetMemRead8 _).bind fun byte => keeps_ite ?_ (keeps_pure _)
    exact (stable.onHost _).bind fun error => keeps_ite (keeps_pure _) (ih _)

theorem Stable.sysWrite0 (stable : Stable kept) (regs : Registers) (fuel : Nat) : Keeps kept (sysWrite0 host regs fuel) := by
  refine (stable.stringEnd fuel (regs 1)).bind fun strEnd => keeps_ite ?_ (keeps_pure _)
  exact (stable.tcWrite _ _ _).bind fun _ => keeps_pure _

theorem Stable.sysGetCmdline (stable : Stable kept) (regs params : Registers) :
    Keeps kept (sysGetCmdline host regs params) := by
  refine keeps_read.bind fun machine => keeps_ite (keeps_pure _) ?_
  refine (stable.targetMemWrite _ _).bind fun failed => keeps_ite (keeps_pure _) ?_
  exact (stable.targetMemWrite _ _).bind fun _ => keeps_pure _

theorem Stable.sysTmpnam (stable : Stable kept) (params : Registers) : Keeps kept (sysTmpnam host params) := by
  refine keeps_ite (keeps_pure _) (keeps_ite (keeps_pure _) (keeps_ite (keeps_pure _) ?_))
  exact (stable.targetMemWrite _ _).bind fun _ => keeps_pure _

/-- The functions and the table accesses are those of another state. -/
structure Same (before machine : Machine σ) : Prop where
  memRead : machine.memRead = before.memRead
  memWrite : machine.memWrite = before.memWrite
  lookups : machine.lookups = before.lookups

theorem Same.refl (machine : Machine σ) : Same machine machine := ⟨rfl, rfl, rfl⟩

theorem same_stable (before : Machine σ) : Stable (Same before) where
  rest _ _ same := ⟨same.memRead, same.memWrite, same.lookups⟩
  errno _ _ same := ⟨same.memRead, same.memWrite, same.lookups⟩
  interrupted _ _ same := ⟨same.memRead, same.memWrite, same.lookups⟩

variable {before : Machine σ}

theorem keeps_finishRequest (entry : Entry) (ret : BitVec 32) : Keeps (Same before) (finishRequest host entry ret) := by
  have written : ∀ regs : Registers, Keeps (Same before) (targetRegsWrite host regs) := fun regs =>
    ((same_stable _).onHost _).bind fun _ => keeps_change fun _ same => ⟨same.memRead, same.memWrite, same.lookups⟩
  exact (written _).bind fun _ => keeps_read.bind fun _ => keeps_pure _

theorem keeps_beginRequest : Keeps (Same before) (beginRequest host) := by
  have cleared : Keeps (Same before)
      (change fun machine : Machine σ => { machine with interrupted := false } : Action σ Unit) :=
    keeps_change fun _ same => ⟨same.memRead, same.memWrite, same.lookups⟩
  refine cleared.bind fun _ => ((same_stable _).onHost _).bind fun regs => keeps_ite ?_ (keeps_pure _)
  exact ((same_stable _).targetMemRead _ _).bind fun _ => keeps_pure _

end Frame

section Calls

variable {before : Machine σ}

/-- The exchange that a request makes with the memory functions of the probe in place. -/
def nestedRequest (host : Host σ) (entry : Entry) : Option Request :=
  match (entry.regs 0).toNat with
  | 0x07 => some (readcRequest host)
  | 0x0c => some (flenRequest host entry.params)
  | 0x10 => some (timeRequest host)
  | 0x11 => some (timeRequest host)
  | _ => none

theorem handle_nested {entry : Entry} {request : Request} (nested : nestedRequest host entry = some request) (fuel : Nat) :
    ∃ next, handle host fuel entry = withProbeMemory host request >>= next ∧
      ∀ (before : Machine σ) reply, Keeps (Same before) (next reply) := by
  have timed : ∀ clock, ∃ next, sysTime host clock = withProbeMemory host (timeRequest host) >>= next ∧
      ∀ (before : Machine σ) reply, Keeps (Same before) (next reply) := by
    refine fun clock => ⟨_, rfl, fun before reply => keeps_ite (keeps_pure _) (keeps_ite ?_ (keeps_pure _))⟩
    generalize bigEndian reply.buffer 0 = sec
    have origin : Keeps (Same before)
        (change fun machine : Machine σ =>
          { machine with time0Sec := if sec < machine.time0Sec then sec else machine.time0Sec } : Action σ Unit) :=
      keeps_change fun _ same => ⟨same.memRead, same.memWrite, same.lookups⟩
    exact origin.bind fun _ => keeps_read.bind fun _ => keeps_pure _
  rw [nestedRequest] at nested
  split at nested
  next number =>
    cases nested
    simp only [handle, number]
    exact ⟨_, rfl, fun before reply => keeps_pure _⟩
  next number =>
    cases nested
    simp only [handle, number]
    exact ⟨_, rfl, fun before reply => keeps_pure _⟩
  next number =>
    cases nested
    simp only [handle, number]
    exact timed true
  next number =>
    cases nested
    simp only [handle, number]
    exact timed false
  next => cases nested

theorem handle_keeps {entry : Entry} (plain : nestedRequest host entry = none) (unopened : (entry.regs 0).toNat ≠ 1) (fuel : Nat) :
    Keeps (Same before) (handle host fuel entry) := by
  simp only [nestedRequest] at plain
  unfold handle
  dsimp only
  generalize (entry.regs 0).toNat = number at plain unopened
  split
  next => exact absurd rfl unopened
  next => exact (same_stable _).passOn _
  next => exact (same_stable _).tcWrite _ _ _
  next => exact (same_stable _).sysWrite0 _ _
  next => exact ((same_stable _).tcWrite _ _ _).bind fun _ => keeps_pure _
  next => exact ((same_stable _).passOn _).bind fun _ => keeps_pure _
  next => simp at plain
  next => exact keeps_pure _
  next => exact (same_stable _).passOn _
  next => exact ((same_stable _).tcCall _).bind fun _ => keeps_pure _
  next => simp at plain
  next => exact (same_stable _).sysTmpnam _
  next => exact (same_stable _).passOn _
  next => exact (same_stable _).passOn _
  next => simp at plain
  next => simp at plain
  next => exact (same_stable _).passOn _
  next => exact keeps_read.bind fun _ => keeps_pure _
  next => exact (same_stable _).sysGetCmdline _ _
  next => exact keeps_read.bind fun _ => ((same_stable _).targetMemWrite _ _).bind fun _ => keeps_pure _
  next => exact ((same_stable _).onHost _).bind fun _ => keeps_pure _
  next => exact ((same_stable _).onHost _).bind fun _ => keeps_pure _
  next => exact keeps_pure _
  next => exact keeps_pure _
  next => exact keeps_pure _

end Calls

section Requests

variable {before machine : Machine σ} {request : Request}

/-- A state with the memory functions of the probe in place. -/
def probed (machine : Machine σ) : Machine σ := { machine with memRead := .probe, memWrite := .probe }

/-- The functions are put back, unless the call is left by an exception. -/
theorem withProbeMemory_restores (request : Request) : Meets (Same before) (withProbeMemory host request)
    (fun _ => Same before) (fun _ => Same (probed before)) := by
  refine meets_reading fun saved same => ?_
  have replaced : Meets (fun machine => machine = saved)
      (change fun machine : Machine σ => { machine with memRead := .probe, memWrite := .probe } : Action σ Unit)
      (fun _ => Same (probed before)) (fun _ => Same (probed before)) := by
    rintro _ rfl
    exact ⟨rfl, rfl, same.lookups⟩
  refine replaced.bind fun _ => Meets.bind ((same_stable _).tcCall request) fun reply => ?_
  have restored : Meets (Same (probed before))
      (change fun machine : Machine σ => { machine with memRead := saved.memRead, memWrite := saved.memWrite } : Action σ Unit)
      (fun _ => Same before) (fun _ => Same (probed before)) :=
    meets_change fun _ inside => ⟨same.memRead, same.memWrite, inside.lookups⟩
  exact restored.bind fun _ => meets_pure fun _ holds => holds

/-- The exchange for a call ends with an exception. -/
def Raises (host : Host σ) (machine : Machine σ) (request : Request) : Prop :=
  host.provides request = true ∧ ∃ exception rest, host.exchange .probe .probe request machine.rest = (.error exception, rest)

theorem tcCall_raises (called : host.provides request = true) {exception : Targets.Exception} {rest : σ}
    (raised : host.exchange machine.memRead machine.memWrite request machine.rest = (.error exception, rest)) :
    tcCall host request machine = (.error (.raised exception), { machine with rest := rest }) := by
  rw [tcCall, read_bind, if_pos called]
  apply bind_stopped
  simp only [onHost, raised]

theorem tcCall_returns (fine : ∀ exception rest, host.provides request = true →
    host.exchange machine.memRead machine.memWrite request machine.rest ≠ (.error exception, rest)) :
    ∃ reply final, tcCall host request machine = (.ok reply, final) := by
  rw [tcCall, read_bind]
  split
  next called =>
    cases answer : host.exchange machine.memRead machine.memWrite request machine.rest with
    | mk ending rest =>
      cases ending with
      | error exception => exact absurd answer (fine exception rest called)
      | ok reply =>
        have asked : onHost (host.exchange machine.memRead machine.memWrite request) machine =
            (.ok reply, { machine with rest := rest }) := by simp only [onHost, answer]
        rw [bind_returned asked]
        exact ⟨_, _, rfl⟩
  next => exact ⟨_, _, rfl⟩

theorem withProbeMemory_eq : withProbeMemory host request machine =
    (tcCall host request >>= fun reply => do
      change fun current => { current with memRead := machine.memRead, memWrite := machine.memWrite }
      pure reply) (probed machine) := rfl

theorem withProbeMemory_raises (raises : Raises host machine request) :
    ∃ halt final, withProbeMemory host request machine = (.error halt, final) := by
  obtain ⟨called, exception, rest, raised⟩ := raises
  have left := @tcCall_raises σ host (probed machine) request called exception rest raised
  rw [withProbeMemory_eq, bind_stopped left]
  exact ⟨_, _, rfl⟩

theorem withProbeMemory_returns (fine : ¬ Raises host machine request) :
    ∃ reply final, withProbeMemory host request machine = (.ok reply, final) := by
  obtain ⟨reply, final, answered⟩ := @tcCall_returns σ host (probed machine) request
    fun exception rest called raised => fine ⟨called, exception, rest, raised⟩
  rw [withProbeMemory_eq, bind_returned answered]
  exact ⟨_, _, rfl⟩

/-- What a request should leave: the functions as they were, and no table access outside its table. -/
structure AccessKept (before after : Machine σ) : Prop where
  memRead : after.memRead = before.memRead
  memWrite : after.memWrite = before.memWrite
  lookups : ∃ accesses, after.lookups = before.lookups ++ accesses ∧ ∀ access ∈ accesses, access.2 < access.1

theorem Same.kept (same : Same before machine) : AccessKept before machine :=
  ⟨same.memRead, same.memWrite, [], by rw [same.lookups, List.append_nil], by simp⟩

/-- What follows the beginning of a request leaves all that alone. -/
structure HarmlessFrom (host : Host σ) (before middle : Machine σ) (entry : Entry) : Prop where
  opened : (entry.regs 0).toNat = 1 → (entry.params 1 >>> 1).toNat < openFlags.length
  nested : ∀ request, nestedRequest host entry = some request → Raises host middle request →
    before.memRead = .probe ∧ before.memWrite = .probe

def Harmless (host : Host σ) (before : Machine σ) : Prop :=
  ∀ entry middle, beginRequest host before = (.ok entry, middle) → HarmlessFrom host before middle entry

/-- What a request does after its beginning. -/
def continueRequest (host : Host σ) (fuel : Nat) (entry : Entry) : Action σ Bool := do
  let ret ← handle host fuel entry
  finishRequest host entry ret

theorem request_begun {entry : Entry} {middle : Machine σ} (begun : beginRequest host before = (.ok entry, middle)) (fuel : Nat) :
    cortexmHostioRequest host fuel before = continueRequest host fuel entry middle :=
  bind_returned begun

theorem begun_same {entry : Entry} {middle : Machine σ} (begun : beginRequest host before = (.ok entry, middle)) :
    Same before middle :=
  Meets.returned keeps_beginRequest (Same.refl before) begun

/-- An open looks its mode up and does nothing else of that kind. -/
theorem continue_opens {entry : Entry} (number : (entry.regs 0).toNat = 1) (fuel : Nat) {middle : Machine σ}
    (same : Same before middle) : Same { before with lookups := before.lookups ++
        [(openFlags.length, (entry.params 1 >>> 1).toNat)] } (continueRequest host fuel entry middle).2 := by
  have looked : Meets (Same before) (lookupFlags host (entry.params 1 >>> 1).toNat)
      (fun _ => Same { before with lookups := before.lookups ++ [(openFlags.length, (entry.params 1 >>> 1).toNat)] })
      (fun _ => Same { before with lookups := before.lookups ++ [(openFlags.length, (entry.params 1 >>> 1).toNat)] }) := by
    have noted : Meets (Same before)
        (change fun machine : Machine σ =>
          { machine with lookups := machine.lookups ++ [(openFlags.length, (entry.params 1 >>> 1).toNat)] } : Action σ Unit)
        (fun _ => Same { before with lookups := before.lookups ++ [(openFlags.length, (entry.params 1 >>> 1).toNat)] })
        (fun _ => Same { before with lookups := before.lookups ++ [(openFlags.length, (entry.params 1 >>> 1).toNat)] }) :=
      meets_change fun _ same => ⟨same.memRead, same.memWrite, by rw [same.lookups]⟩
    exact noted.bind fun _ => meets_pure fun _ holds => holds
  have opened : handle host fuel entry = sysOpen host entry.params := by simp only [handle, number]
  have whole : Meets (Same before) (continueRequest host fuel entry)
      (fun _ => Same { before with lookups := before.lookups ++ [(openFlags.length, (entry.params 1 >>> 1).toNat)] })
      (fun _ => Same { before with lookups := before.lookups ++ [(openFlags.length, (entry.params 1 >>> 1).toNat)] }) := by
    rw [continueRequest, opened, sysOpen]
    have rest : ∀ pflag, Keeps (Same { before with lookups := before.lookups ++
        [(openFlags.length, (entry.params 1 >>> 1).toNat)] }) (openNamed host entry.params pflag) := by
      intro pflag
      refine ((same_stable _).targetMemRead _ _).bind fun filename => keeps_ite (keeps_pure _) ?_
      exact ((same_stable _).tcCall _).bind fun _ => keeps_pure _
    exact (looked.bind rest).bind fun ret => keeps_finishRequest entry ret
  exact Meets.final whole same

theorem request_unbegun {halt : Halt} {middle : Machine σ} (stopped : beginRequest host before = (.error halt, middle)) (fuel : Nat) :
    Same before (cortexmHostioRequest host fuel before).2 := by
  have left : cortexmHostioRequest host fuel before = (.error halt, middle) := bind_stopped stopped
  rw [left]
  exact Meets.halted keeps_beginRequest (Same.refl before) stopped

theorem continue_keeps {entry : Entry} (plain : nestedRequest host entry = none) (unopened : (entry.regs 0).toNat ≠ 1) (fuel : Nat)
    {middle : Machine σ} (same : Same before middle) : Same before (continueRequest host fuel entry middle).2 := by
  have whole : Keeps (Same before) (continueRequest host fuel entry) :=
    (handle_keeps plain unopened fuel).bind fun ret => keeps_finishRequest entry ret
  exact Meets.final whole same

/-- A call with an exchange of its own keeps the functions unless the exchange raises, and loses them otherwise. -/
theorem continue_nested {entry : Entry} (nested : nestedRequest host entry = some request) (fuel : Nat) {middle : Machine σ}
    (same : Same before middle) :
    (¬ Raises host middle request → Same before (continueRequest host fuel entry middle).2) ∧
      (Raises host middle request → Same (probed before) (continueRequest host fuel entry middle).2) := by
  obtain ⟨next, handled, keeps⟩ := handle_nested nested fuel
  have restores := @withProbeMemory_restores σ host before request
  rw [continueRequest, handled]
  constructor
  · intro fine
    obtain ⟨reply, final, returns⟩ := withProbeMemory_returns fine
    have kept : Same before final := restores.returned same returns
    have rest : Keeps (Same before) (next reply >>= fun ret => finishRequest host entry ret) :=
      (keeps before reply).bind fun ret => keeps_finishRequest entry ret
    rw [bind_bind, bind_returned returns]
    exact Meets.final rest kept
  · intro raises
    obtain ⟨halt, final, stops⟩ := withProbeMemory_raises raises
    have running : (withProbeMemory host request >>= next) middle = (.error halt, final) := bind_stopped stops
    rw [bind_stopped running]
    exact restores.halted same stops

theorem nested_kept_iff {entry : Entry} (nested : nestedRequest host entry = some request) (fuel : Nat) {middle : Machine σ}
    (same : Same before middle) :
    AccessKept before (continueRequest host fuel entry middle).2 ↔ HarmlessFrom host before middle entry := by
  have unopened : (entry.regs 0).toNat ≠ 1 := by
    intro number
    simp [nestedRequest, number] at nested
  obtain ⟨fine, bad⟩ := continue_nested nested fuel same
  by_cases raises : Raises host middle request
  · have left := bad raises
    constructor
    · intro kept
      refine ⟨fun number => absurd number unopened, fun asked _ _ => ?_⟩
      exact ⟨kept.memRead.symm.trans left.memRead, kept.memWrite.symm.trans left.memWrite⟩
    · intro harmless
      obtain ⟨readProbe, writeProbe⟩ := harmless.nested request nested raises
      refine ⟨left.memRead.trans readProbe.symm, left.memWrite.trans writeProbe.symm, [], ?_, by simp⟩
      rw [left.lookups, List.append_nil]
      rfl
  · refine iff_of_true (fine raises).kept ⟨fun number => absurd number unopened, fun asked so again => ?_⟩
    obtain rfl : request = asked := Option.some.inj (nested.symm.trans so)
    exact absurd again raises

theorem opened_kept_iff {entry : Entry} (number : (entry.regs 0).toNat = 1) (fuel : Nat) {middle : Machine σ}
    (same : Same before middle) :
    AccessKept before (continueRequest host fuel entry middle).2 ↔ HarmlessFrom host before middle entry := by
  have opened := @continue_opens σ host before entry number fuel middle same
  constructor
  · intro kept
    obtain ⟨accesses, appended, inside⟩ := kept.lookups
    rw [opened.lookups] at appended
    have single := List.append_cancel_left appended
    refine ⟨fun _ => inside _ (single ▸ List.mem_singleton_self _), fun asked so => ?_⟩
    simp [nestedRequest, number] at so
  · intro harmless
    refine ⟨opened.memRead, opened.memWrite, _, opened.lookups, fun access listed => ?_⟩
    obtain rfl := List.mem_singleton.mp listed
    exact harmless.opened number

theorem continue_kept_iff (entry : Entry) (fuel : Nat) {middle : Machine σ} (same : Same before middle) :
    AccessKept before (continueRequest host fuel entry middle).2 ↔ HarmlessFrom host before middle entry := by
  cases nested : nestedRequest host entry with
  | some request => exact nested_kept_iff nested fuel same
  | none =>
    by_cases number : (entry.regs 0).toNat = 1
    · exact opened_kept_iff number fuel same
    · refine iff_of_true (continue_keeps nested number fuel same).kept ⟨fun again => absurd again number, fun asked so => ?_⟩
      rw [nested] at so
      cases so

theorem access_kept_iff (host : Host σ) (fuel : Nat) (before : Machine σ) :
    AccessKept before (cortexmHostioRequest host fuel before).2 ↔ Harmless host before := by
  cases begun : beginRequest host before with
  | mk ending middle =>
    cases ending with
    | error halt =>
      refine iff_of_true (request_unbegun begun fuel).kept fun entry final started => ?_
      rw [begun] at started
      cases started
    | ok entry =>
      rw [request_begun begun, continue_kept_iff entry fuel (begun_same begun)]
      constructor
      · intro harmless other final started
        rw [begun] at started
        cases started
        exact harmless
      · exact fun harmless => harmless entry middle begun

/-- A target that makes a call with a mode, while GDB's packets end in a timeout. -/
def timeoutHost (number : BitVec 32) (mode : Byte) : Host Unit where
  memRead _ _ _ _ := (.ok [0, 0, 0, 0, mode, 0, 0, 0], ())
  memWrite _ _ _ _ := (.ok (), ())
  checkError _ := (.ok false, ())
  regsRead _ := (.ok fun i => if i = 0 then number else 0x20000000, ())
  regsWrite _ _ := (.ok (), ())
  haltResume _ := (.ok (), ())
  provides _ := true
  exchange _ _ _ _ := (.error ⟨.timeout, []⟩, ())
  beyond _ := 0
  statBuffer := 0x2001ff00
  timevalBuffer := 0x2001ff00
  charBuffer := 0x2001ff00
  garbage _ := 0

def attached : Machine Unit := ⟨.driver, .driver, false, 0, -1, false, [], [], [], [], ()⟩

theorem readc_and_open_unkept : ¬ AccessKept attached (cortexmHostioRequest (timeoutHost 0x07 0) 0 attached).2 ∧
    ¬ AccessKept attached (cortexmHostioRequest (timeoutHost 0x01 12) 0 attached).2 := by
  constructor
  · intro kept
    have replaced : Callback.probe = Callback.driver := kept.memRead
    cases replaced
  · intro kept
    obtain ⟨accesses, appended, inside⟩ := kept.lookups
    have looked : [(6, 6)] = accesses := appended
    cases looked
    exact absurd (inside (6, 6) (List.mem_singleton_self _)) (by decide)

end Requests

end BlackMagic.Proofs.SemihostingAccess

import BlackMagic.Esp32c3

/-! When the watchdogs of the ESP32-C3 get their configuration back. -/

namespace BlackMagic.Proofs.Esp32c3Watchdogs
open Esp32c3

/-- The configurations of the four watchdogs. -/
@[ext]
structure Configurations where
  timg0 : BitVec 32
  timg1 : BitVec 32
  rtc : BitVec 32
  super : BitVec 32
  deriving DecidableEq, Repr

def configurations (target : Target) : Configurations :=
  ⟨target.memory timg0WdtConfig0, target.memory timg1WdtConfig0, target.memory rtcWdtConfig0, target.memory rtcSwdConfig⟩

local instance fourSlots : NeZero 4 := ⟨by decide⟩

/-- What the driver has saved of them. -/
def saved (target : Target) : Configurations :=
  ⟨target.wdtConfig 0, target.wdtConfig 1, target.wdtConfig 2, target.wdtConfig 3⟩

/-- All watchdogs disabled. -/
def disabled : Configurations := ⟨0, 0, 0, rtcSwdConfigDisable⟩

/-- What can happen: calls of the driver, and changes that the firmware makes. -/
inductive Event where
  | haltRequest
  | haltPoll (reason : HaltReason)
  | enterFlashMode
  | singleStep
  | resume
  | firmware (address value : BitVec 32)
  deriving DecidableEq, Repr

/-- The core is found halted, or is halted. -/
def halts : Event → Bool
  | .haltRequest => true
  | .haltPoll .running | .haltPoll .error => false
  | .haltPoll _ => true
  | _ => false

/-- The watchdogs are disabled. -/
def disables : Event → Bool
  | .haltRequest | .haltPoll .breakpoint | .enterFlashMode => true
  | _ => false

/-- A session, with the configurations before the first halt since the last resume, and how often the watchdogs have been
disabled from then on. -/
structure Session where
  target : Target
  firstHalt : Option Configurations
  disablings : Nat

/-- The firmware does not run while the core is halted. -/
def handle (session : Session) : Event → Target
  | .haltRequest => haltRequest session.target
  | .haltPoll reason => haltPoll reason session.target
  | .enterFlashMode => enterFlashMode session.target
  | .singleStep => haltResume true session.target
  | .resume => haltResume false session.target
  | .firmware address value =>
    if session.firstHalt = none then targetMemWrite32 address value session.target else session.target

def next (session : Session) (event : Event) : Session :=
  let firstHalt := match session.firstHalt with
    | some before => some before
    | none => if halts event then some (configurations session.target) else none
  { target := handle session event
    firstHalt := if event = .resume then none else firstHalt
    disablings := if event = .resume then 0 else if firstHalt = none then 0
      else session.disablings + if disables event then 1 else 0 }

/-- Every resume after a halt that disabled the watchdogs gives them the configurations from before it. -/
def Restores : Session → List Event → Prop
  | _, [] => True
  | session, event :: rest =>
    (event = .resume → 0 < session.disablings → ∀ before, session.firstHalt = some before →
      configurations (handle session event) = before) ∧ Restores (next session event) rest

/-- What a resume can restore: after one disabling the super watchdog gets the configuration of the one of the RTC, after
more than one all are zero. -/
def Restorable (before : Configurations) (disablings : Nat) : Prop :=
  if disablings = 1 then before.super = before.rtc else before = ⟨0, 0, 0, 0⟩

def AllRestorable : Session → List Event → Prop
  | _, [] => True
  | session, event :: rest =>
    (event = .resume → 0 < session.disablings → ∀ before, session.firstHalt = some before →
      Restorable before session.disablings) ∧ AllRestorable (next session event) rest

section Driver

@[simp] theorem disable_configurations (target : Target) : configurations (disableWdts target) = disabled := by
  simp [configurations, disableWdts, disableWdt, targetMemWrite32, saveConfig, disabled, timg0WdtConfig0,
    timg1WdtConfig0, rtcWdtConfig0, rtcSwdConfig, timg0WdtWriteProt, timg1WdtWriteProt, rtcWdtWriteProt,
    rtcSwdWriteProt, timg0Base, timg1Base, rtcBase]

@[simp] theorem disable_saved (target : Target) : saved (disableWdts target) = configurations target := by
  simp [saved, configurations, disableWdts, disableWdt, targetMemWrite32, saveConfig, timg0WdtConfig0, timg1WdtConfig0,
    rtcWdtConfig0, rtcSwdConfig, timg0WdtWriteProt, timg1WdtWriteProt, rtcWdtWriteProt, rtcSwdWriteProt, timg0Base,
    timg1Base, rtcBase]

theorem restore_configurations (target : Target) : configurations (restoreWdts target) =
    ⟨(saved target).timg0, (saved target).timg1, (saved target).rtc, (saved target).rtc⟩ := by
  simp [saved, configurations, restoreWdts, restoreWdt, targetMemWrite32, timg0WdtConfig0, timg1WdtConfig0,
    rtcWdtConfig0, rtcSwdConfig, timg0WdtWriteProt, timg1WdtWriteProt, rtcWdtWriteProt, rtcSwdWriteProt, timg0Base,
    timg1Base, rtcBase]

end Driver

section Sessions

/-- What the saved configurations are while the core is halted. -/
structure Consistent (session : Session) : Prop where
  running : session.firstHalt = none → session.disablings = 0
  untouched : ∀ before, session.firstHalt = some before → session.disablings = 0 → configurations session.target = before
  kept : ∀ before, session.firstHalt = some before → session.disablings = 1 → saved session.target = before
  lost : 2 ≤ session.disablings → saved session.target = disabled
  off : 1 ≤ session.disablings → configurations session.target = disabled

theorem handle_disabling {session : Session} {event : Event} (disabling : disables event = true) :
    handle session event = disableWdts session.target := by
  cases event with
  | haltRequest | enterFlashMode => rfl
  | haltPoll reason => cases reason <;> first | rfl | cases disabling
  | singleStep | resume | firmware => cases disabling

theorem handle_other {session : Session} {event : Event} (halted : session.firstHalt ≠ none ∨ halts event = true)
    (other : disables event = false) (held : event ≠ .resume) : handle session event = session.target := by
  cases event with
  | haltRequest | enterFlashMode => cases other
  | haltPoll reason => cases reason <;> first | rfl | cases other
  | singleStep => rfl
  | resume => exact absurd rfl held
  | firmware address value =>
    cases halted with
    | inl halted => exact if_neg halted
    | inr impossible => cases impossible

/-- What an event does to a session whose core is halted, or that it halts. -/
theorem halted_consistent {target : Target} {before : Configurations} {count : Nat} {event : Event}
    (consistent : Consistent ⟨target, some before, count⟩) {after : Target}
    (disabling : disables event = true → after = disableWdts target) (other : disables event = false → after = target) :
    Consistent ⟨after, some before, count + if disables event then 1 else 0⟩ := by
  cases kind : disables event with
  | false =>
    rw [other kind]
    exact consistent
  | true =>
    rw [disabling kind]
    refine ⟨by simp, by simp, fun first halted once => ?_, fun more => ?_, fun _ => disable_configurations target⟩
    · rw [disable_saved]
      exact consistent.untouched first halted (Nat.succ.inj once)
    · rw [disable_saved]
      exact consistent.off (Nat.le_of_succ_le_succ more)

theorem next_consistent {session : Session} (consistent : Consistent session) (event : Event) :
    Consistent (next session event) := by
  by_cases resumed : event = .resume
  · subst resumed
    constructor <;> simp [next]
  obtain ⟨target, firstHalt, count⟩ := session
  cases firstHalt with
  | some before =>
    simp only [next, resumed, if_false, reduceCtorEq]
    exact halted_consistent consistent handle_disabling fun other => handle_other (Or.inl (by simp)) other resumed
  | none =>
    have fresh : count = 0 := consistent.running rfl
    subst fresh
    cases halting : halts event with
    | false =>
      simp only [next, resumed, halting, if_false, Bool.false_eq_true, if_true]
      constructor <;> simp
    | true =>
      simp only [next, resumed, halting, if_false, if_true, reduceCtorEq]
      have started : Consistent ⟨target, some (configurations target), 0⟩ := by
        constructor <;> simp
      exact halted_consistent started handle_disabling fun other => handle_other (Or.inr halting) other resumed

/-- A resume restores exactly what can be restored. -/
theorem resume_restores {session : Session} (consistent : Consistent session) (disabling : 0 < session.disablings)
    {before : Configurations} (halted : session.firstHalt = some before) :
    configurations (handle session .resume) = before ↔ Restorable before session.disablings := by
  change configurations (restoreWdts session.target) = before ↔ _
  rw [restore_configurations, Restorable]
  by_cases once : session.disablings = 1
  · rw [consistent.kept before halted once, if_pos once]
    constructor
    · intro same
      rw [← same]
    · intro same
      ext1 <;> simp [same]
  · rw [consistent.lost (by omega), if_neg once]
    exact eq_comm

/-- In a session that starts with a running core the watchdogs get their configurations back exactly if every resume can
restore them. -/
theorem watchdogs_restored_iff (target : Target) (events : List Event) :
    Restores ⟨target, none, 0⟩ events ↔ AllRestorable ⟨target, none, 0⟩ events := by
  have started : Consistent ⟨target, none, 0⟩ := by
    constructor <;> simp
  revert started
  generalize (⟨target, none, 0⟩ : Session) = session
  induction events generalizing session with
  | nil => exact fun _ => Iff.rfl
  | cons event rest ih =>
    intro consistent
    refine and_congr ?_ (ih _ (next_consistent consistent event))
    constructor
    · intro restores resumed disabling before halted
      subst resumed
      exact (resume_restores consistent disabling halted).mp (restores rfl disabling before halted)
    · intro restorable resumed disabling before halted
      subst resumed
      exact (resume_restores consistent disabling halted).mpr (restorable rfl disabling before halted)

end Sessions

/-- Registers as after a reset, with a watchdog of timer group 0 and the super watchdog set up. -/
def watched : Target where
  memory := fun address => if address = timg0WdtConfig0 then 0x4c000 else if address = rtcSwdConfig then 0x12c00000 else 0
  wdtConfig := fun _ => 0

/-- After one halt and a resume the super watchdog has the configuration of another one. -/
theorem super_watchdog_lost : ¬ Restores ⟨watched, none, 0⟩ [.haltRequest, .resume] := by
  intro restores
  have lost := congrArg Configurations.super (restores.2.1 rfl (by decide) _ rfl)
  exact absurd lost (by decide)

end BlackMagic.Proofs.Esp32c3Watchdogs

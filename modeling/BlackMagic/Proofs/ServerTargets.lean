import BlackMagic.CortexA
import BlackMagic.Proofs.ServerInvariants

/-! In every run the current and the last target are null or on the list, as long as no
driver frees the list during an attach and then reports success. -/

namespace BlackMagic.Proofs.ServerTargets
open BlackMagic.Targets BlackMagic.Commands BlackMagic.Server Lib Lib.Program ServerFrame TargetList ServerInvariants

section Steps

variable {answers : Answers}

theorem sound_forgotten {v : View} (sound : Sound v) : Sound { v with curTarget := none } :=
  ⟨listed_none, sound.lastTarget, sound.allocated, sound.distinct⟩

theorem sound_attached {v : View} {id : Nat} (sound : Sound v) (listed : id ∈ v.targetList)
    (held : (v.heap id).tc = true) : Sound { setAttached id true v with curTarget := some id } :=
  sound_stable.attached { v with curTarget := none } id (sound_forgotten sound) rfl listed held

theorem targetAttach_sound (honest : AttachHonest answers) (id : Nat) :
    Meets (Holds fun v => Sound v ∧ id ∈ v.targetList) (targetAttach answers (some id))
      (fun target => Holds fun v => Sound { v with curTarget := target }) (fun _ => Holds Sound) := by
  refine meets_of_views fun v n holds => (targetAttach_spec id).weaken (fun _ at_v => at_v) ?_ ?_
  · intro target server returned
    have controlled := sound_controlled holds.1 id
    obtain ⟨attach, rfl, reached⟩ | ⟨attach, rfl, reached⟩ := returned
    · have stays : answers.attach.frees = false := Bool.eq_false_iff.mpr fun frees => honest frees attach.result
      refine holds_of_at reached ?_
      rw [stays]
      have listed : id ∈ (TargetList.controlled id v).targetList := by
        rw [controlled_targetList]
        exact holds.2
      exact sound_attached controlled listed (controlled_tc id v)
    · exact holds_of_at reached (sound_forgotten (sound_stable.polledView controlled _))
  · intro reason server raised
    obtain ⟨-, -, w, struck, reached⟩ := raised
    exact holds_of_at reached (sound_stable.struck (sound_controlled holds.1 id) struck)

theorem targetAttachN_sound (honest : AttachHonest answers) (n : Nat) :
    Meets (Holds Sound) (targetAttachN answers n) (fun target => Holds fun v => Sound { v with curTarget := target })
      (fun _ => Holds Sound) := by
  cases n with
  | zero => exact meets_pure fun server sound => sound_forgotten sound
  | succ n =>
    refine meets_reading fun server sound => ?_
    cases found : server.targetList[n]? with
    | none => exact meets_pure fun state same => same ▸ sound_forgotten sound
    | some id =>
      refine (targetAttach_sound honest id).starting fun state same => ?_
      exact same ▸ ⟨sound, List.mem_of_getElem? found⟩

theorem handleVAttach_sound (honest : AttachHonest answers) (n : Nat) :
    Keeps (Holds Sound) (handleVAttach answers n) := by
  refine Meets.bind (targetAttachN_sound honest n) fun target => ?_
  refine Meets.bind (show Meets _ _ (fun _ => Holds Sound) _ from meets_change fun _ sound => sound) fun _ => ?_
  exact keeps_read.bind fun _ => keeps_ite (gdbPutpacketz_keeps _) (gdbPutpacketz_keeps _)

theorem dropConnection_sound : Keeps (Holds Sound) (dropConnection answers) := by
  refine keeps_read.bind fun _ => keeps_onlyIf (keeps_read.bind fun server => ?_)
  refine Keeps.bind ((dereference_plain server.curTarget _).respects Sound) fun id => Keeps.bind ?_ fun _ => ?_
  · cases found : answers.detach .request id with
    | none =>
      rw [driverDetach, found]
      exact keeps_pure ()
    | some exception =>
      rw [driverDetach, found]
      exact keeps_stop _
  · refine meets_of_views fun v n sound => (updateTarget_spec id _).weaken (fun _ at_v => at_v) ?_ ?_
    · exact fun _ state reached => holds_of_at reached (sound_withTarget sound id fun _ held => held)
    · exact fun _ _ never => never.elim

theorem step_sound (honest : AttachHonest answers) {server final : Server} (sound : Holds Sound server) (event : Event)
    (returned : step answers event server = (.ok (), final)) : Holds Sound final :=
  step_holds sound_stable honest sound event (fun n _ => sound_stable.carries sound (handleVAttach_sound honest n))
    (fun _ => sound_stable.carries sound dropConnection_sound) returned

end Steps

section Runs

/-- Every step of a run is admitted in the state it is taken from. -/
def Throughout (admitted : Server → Event → Answers → Prop) : Server → History → Prop
  | _, [] => True
  | server, (event, answers) :: rest =>
    admitted server event answers ∧ ∀ next, step answers event server = (.ok (), next) → Throughout admitted next rest

theorem throughout_of_answers {permitted : Answers → Prop} {history : History}
    (all : ∀ step ∈ history, permitted step.2) (server : Server) :
    Throughout (fun _ _ answers => permitted answers) server history := by
  induction history generalizing server with
  | nil => trivial
  | cons first rest ih =>
    refine ⟨all first List.mem_cons_self, fun next _ => ih (fun step listed => ?_) next⟩
    exact all step (List.mem_cons_of_mem first listed)

/-- A property of views that the admitted steps keep holds at the end of a run. -/
theorem run_holds {kept : View → Prop} {admitted : Server → Event → Answers → Prop}
    (stepped : ∀ server next event answers, admitted server event answers → Holds kept server →
      step answers event server = (.ok (), next) → Holds kept next)
    {server final : Server} {history : History} (throughout : Throughout admitted server history)
    (holds : Holds kept server) (reached : run server history = some final) : Holds kept final := by
  induction history generalizing server with
  | nil =>
    cases reached
    exact holds
  | cons first rest ih =>
    obtain ⟨event, answers⟩ := first
    obtain ⟨admitted, later⟩ := throughout
    rw [run] at reached
    cases running : step answers event server with
    | mk ending next =>
      rw [running] at reached
      cases ending with
      | error reason => cases reached
      | ok value => exact ih (later next running) (stepped server next event answers admitted holds running) reached

theorem initial_sound : Holds Sound initial :=
  ⟨listed_none, listed_none, fun _ listed => absurd listed List.not_mem_nil, List.nodup_nil⟩

theorem run_sound {history : History} {server : Server} (honest : ∀ step ∈ history, AttachHonest step.2)
    (reached : run initial history = some server) : Holds Sound server := by
  refine run_holds (fun server next event answers honest sound => ?_) (throughout_of_answers honest initial)
    initial_sound reached
  exact step_sound honest sound event

end Runs

section Sessions

/-- Answers of drivers that succeed and print nothing. -/
def calm : Answers :=
  { attach := ⟨[], false, .ok true⟩, detach := fun _ _ => none, reset := ⟨[], false, .ok ()⟩, regsSize := 0
    regsRead := ⟨[], .ok []⟩, regsWrite := ⟨[], .ok ()⟩, memRead := ⟨[], .ok none⟩, memWrite := ⟨[], .ok false⟩
    regRead := none, regWrite := none, haltRequest := ⟨[], .ok ()⟩, haltPoll := ⟨[], false, .ok (.running, 0)⟩
    haltResume := ⟨[], .ok ()⟩, breakwatchSet := ⟨[], .ok 0⟩, breakwatchClear := ⟨[], .ok 0⟩
    flashErase := ⟨[], false, .ok true⟩, flashWrite := ⟨[], false, .ok true⟩, flashComplete := ⟨[], false, .ok true⟩
    memMap := [], regsDescription := none, crc32 := ⟨[], .ok (some 0)⟩, jtagScan := ⟨[], 2, .ok true⟩
    swdScan := ⟨[], 1, .ok true⟩, command := none, information := [], uartScan := true, formatted := true
    uninitialised := fun _ => 0 }

/-- The packet with this text. -/
def sent (packet : String) : Event := .packet (fun i => (ascii packet).getD i 0#8) (ascii packet).length

end Sessions

end BlackMagic.Proofs.ServerTargets

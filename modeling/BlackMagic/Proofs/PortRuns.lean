import BlackMagic.Proofs.PortCounts

/-! The counts of the ports through every run: they are right at every access, as long as no reference has been lost. -/

namespace BlackMagic.Proofs.PortRuns
open Lib Lib.Program Adiv5 PortCounts

def Lost (probe : Probe) : Prop := probe.losses ≠ []

/-- Unless a reference has been lost: the ports are at this stage, and at each access so far the counts were right. -/
def At (stage : World → Prop) : Probe → Prop :=
  Unless Lost fun probe => stage probe.world ∧ ∀ world ∈ probe.seen, Counted world

/-- How a program may stop. -/
def Halts (failed : World → Prop) : Halt → Probe → Prop
  | .raised => At failed
  | .misused => Lost
  | .crashed => At (Sound fun _ => 0)

/-- A program that leads from one stage to another. -/
def Leads (before : World → Prop) (program : Action α) (after : α → World → Prop) (failed : World → Prop) : Prop :=
  Meets (At before) program (fun value => At (after value)) (Halts failed)

variable {env : Environment} {before failed : World → Prop} {ap dp id : Nat}

section Rules

theorem At.imp {weaker : World → Prop} {probe : Probe} (holds : At before probe) (implies : ∀ world, before world → weaker world) :
    At weaker probe :=
  holds.imp_right fun fine => ⟨implies _ fine.1, fine.2⟩

theorem Leads.bind {program : Action α} {next : α → Action β} {middle : α → World → Prop} {last : β → World → Prop}
    (first : Leads before program middle failed) (rest : ∀ value, Leads (middle value) (next value) last failed) :
    Leads before (program >>= next) last failed :=
  Meets.bind first rest

theorem Leads.weaken {program : Action α} {required : World → Prop} {after weaker : α → World → Prop} {other : World → Prop}
    (leads : Leads required program after other) (implies : ∀ world, before world → required world)
    (returned : ∀ value world, after value world → weaker value world) (halted : ∀ world, other world → failed world) :
    Leads before program weaker failed := by
  apply Meets.weaken leads
  · exact fun _ fit => fit.imp implies
  · exact fun value _ fit => fit.imp (returned value)
  · intro reason probe fit
    cases reason with
    | raised => exact At.imp fit halted
    | misused => exact fit
    | crashed => exact fit

theorem Leads.starting {program : Action α} {required : World → Prop} {after : α → World → Prop}
    (leads : Leads required program after failed) (implies : ∀ world, before world → required world) :
    Leads before program after failed :=
  leads.weaken implies (fun _ _ returned => returned) fun _ halted => halted

theorem Leads.returning {program : Action α} {after weaker : α → World → Prop}
    (leads : Leads before program after failed) (returned : ∀ value world, after value world → weaker value world) :
    Leads before program weaker failed :=
  leads.weaken (fun _ holds => holds) returned fun _ halted => halted

/-- After an exception another program goes on, any other stop is the end. -/
theorem Leads.rescue {program : Action α} {handler : Halt → Action α} {middle : World → Prop} {after : α → World → Prop}
    (first : Leads before program after middle) (rest : ∀ reason, Meets (Halts middle reason) (handler reason)
      (fun value => At (after value)) (Halts failed)) : Leads before (rescue program handler) after failed :=
  Meets.rescue first rest

end Rules

section Accesses

end Accesses

section References

variable {probe : Probe}

end References

section Targets

/-- The ports between two steps: what they are counted as, and that no target of the list has been freed. -/
structure Steady (initialising probing : Option Nat) (world : World) : Prop where
  sound : Sound (fun _ => 0) world
  present : ∀ id ∈ world.targetList, (world.targets id).freed = false
  initialising : world.initialising = initialising
  probing : world.probing = probing

variable {initialising probing : Option Nat}

theorem Steady.counted {world : World} (steady : Steady initialising probing world) : Counted world := steady.sound.counted

/-- The targets of the list that are left have not been freed, all others have. -/
structure Freeing (initialising probing : Option Nat) (first : Bool) (left : List Nat) (world : World) : Prop where
  sound : Sound (fun _ => 0) world
  listed : ∀ id ∈ left, id ∈ world.targetList
  distinct : left.Nodup
  present : ∀ id ∈ world.targetList, (world.targets id).freed = false ↔ id ∈ left
  start : first = true → left = world.targetList
  initialising : world.initialising = initialising
  probing : world.probing = probing

variable {first : Bool} {left : List Nat}

theorem Freeing.steady {world : World} (freeing : Freeing initialising probing true left world) :
    Steady initialising probing world :=
  ⟨freeing.sound, fun id listed => (freeing.present id listed).mpr (freeing.start rfl ▸ listed), freeing.initialising,
    freeing.probing⟩

theorem Steady.freeing {world : World} (steady : Steady initialising probing world) :
    Freeing initialising probing true world.targetList world :=
  ⟨steady.sound, fun _ listed => listed, steady.sound.distinct,
    fun id listed => ⟨fun _ => listed, fun _ => steady.present id listed⟩, fun _ => rfl, steady.initialising, steady.probing⟩

theorem Freeing.head {world : World} (freeing : Freeing initialising probing first (id :: left) world) :
    id ∈ world.targetList ∧ (world.targets id).freed = false := by
  have listed := freeing.listed id List.mem_cons_self
  exact ⟨listed, (freeing.present id listed).mpr List.mem_cons_self⟩

/-- The head of the list is freed. -/
theorem Freeing.next {world after : World} (freeing : Freeing initialising probing first (id :: left) world)
    (sound : Sound (fun _ => 0) after) (sameList : after.targetList = world.targetList)
    (own : (after.targets id).freed = true) (others : ∀ t, t ≠ id → (after.targets t).freed = (world.targets t).freed)
    (sameInitialising : after.initialising = world.initialising) (sameProbing : after.probing = world.probing) :
    Freeing initialising probing false left after := by
  obtain ⟨fresh, distinct⟩ := List.nodup_cons.mp freeing.distinct
  refine ⟨sound, ?listed, distinct, ?present, (fun never => by cases never), sameInitialising.trans freeing.initialising,
    sameProbing.trans freeing.probing⟩
  case listed =>
    intro t within
    rw [sameList]
    exact freeing.listed t (List.mem_cons_of_mem id within)
  case present =>
    intro t within
    rw [sameList] at within
    by_cases same : t = id
    · subst same
      simp [own, fresh]
    · rw [others t same, freeing.present t within, List.mem_cons, or_iff_right same]

end Targets

section Probes

variable {initialising probing : Option Nat}

theorem Steady.usable {world : World} (steady : Steady initialising (some ap) world) : Usable ap world :=
  steady.sound.probing_usable steady.probing

/-- A target that keeps nothing yet. -/
structure Fresh (id : Nat) (world : World) : Prop where
  listed : id ∈ world.targetList
  free : (world.targets id).priv = none

end Probes

section Components

variable {initialising : Option Nat}

end Components

section DebugPorts

variable {initialising probing : Option Nat}

/-- The effect of `releaseAp`. -/
def released (ap : Nat) (world : World) : World := { unrefAp ap world with probing := none }

/-- A debug port that has been found and that nobody has counted yet. -/
structure Found (dp : Nat) (world : World) : Prop where
  steady : Steady none none world
  inside : dp < world.portCount
  present : (world.ports dp).freed = false
  uncounted : (world.ports dp).counted = false

/-- The effect of the end of the initialisation. -/
def initialised (dp : Nat) (world : World) : World :=
  { withPort dp (droppedPort (world.ports dp)) world with initialising := none }

end DebugPorts

section Runs

end Runs

end BlackMagic.Proofs.PortRuns

import BlackMagic.Adiv5
import BlackMagic.Lib.Tally

/-! The reference counts of debug ports and access ports, and how each change of the ports and targets keeps them. -/

namespace BlackMagic.Proofs.PortCounts
open Adiv5 Lib.Tally

/-- An access port that has been referenced and not been freed. -/
def live (port : AccessPort) : Bool := port.counted && !port.freed

/-- How many live access ports a debug port has. -/
def liveOn (world : World) (dp : Nat) : Nat :=
  (List.range world.accessPortCount).countP fun ap =>
    live (world.accessPorts ap) && decide ((world.accessPorts ap).dp = dp)

/-- Whether a target keeps the access port. -/
def holds (target : Target) (ap : Nat) : Bool := !target.freed && decide (target.priv.map Priv.ap = some ap)

/-- How many targets keep an access port. -/
def holders (world : World) (ap : Nat) : Nat := world.targetList.countP fun id => holds (world.targets id) ap

/-- Every count is the number of those that hold the port, and a port that has been counted is freed just if its count is
zero. -/
structure Counted (world : World) : Prop where
  port : ∀ dp < world.portCount,
    (world.ports dp).refcnt = liveOn world dp + if world.initialising = some dp then 1 else 0
  accessPort : ∀ ap < world.accessPortCount,
    (world.accessPorts ap).refcnt = (if world.probing = some ap then 1 else 0) + holders world ap
  portFreed : ∀ dp < world.portCount, (world.ports dp).counted = true →
    ((world.ports dp).freed = true ↔ (world.ports dp).refcnt = 0)
  accessPortFreed : ∀ ap < world.accessPortCount, (world.accessPorts ap).counted = true →
    ((world.accessPorts ap).freed = true ↔ (world.accessPorts ap).refcnt = 0)

/-- What a debug port must be with its count. -/
structure PortFits (port : DebugPort) : Prop where
  freed : port.counted = true → (port.freed = true ↔ port.refcnt = 0)
  fresh : port.counted = false → port.refcnt = 0

structure AccessPortFits (port : AccessPort) : Prop where
  freed : port.counted = true → (port.freed = true ↔ port.refcnt = 0)
  fresh : port.counted = false → port.refcnt = 0
  natural : 0 ≤ port.refcnt

/-- The invariant, when some access ports are counted more often than they are held. -/
structure Sound (extra : Nat → Int) (world : World) : Prop where
  port : ∀ dp < world.portCount,
    (world.ports dp).refcnt = liveOn world dp + if world.initialising = some dp then 1 else 0
  accessPort : ∀ ap < world.accessPortCount,
    (world.accessPorts ap).refcnt = (if world.probing = some ap then 1 else 0) + holders world ap + extra ap
  portFits : ∀ dp < world.portCount, PortFits (world.ports dp)
  accessPortFits : ∀ ap < world.accessPortCount, AccessPortFits (world.accessPorts ap)
  parent : ∀ ap < world.accessPortCount, (world.accessPorts ap).dp < world.portCount
  held : ∀ id ∈ world.targetList, ∀ priv, (world.targets id).priv = some priv → priv.ap < world.accessPortCount
  distinct : world.targetList.Nodup
  older : ∀ id ∈ world.targetList, id < world.targetCount
  probed : ∀ ap, world.probing = some ap → ap < world.accessPortCount
  initialised : ∀ dp, world.initialising = some dp → dp < world.portCount

variable {extra : Nat → Int} {world : World} {dp ap id : Nat}

theorem Sound.counted (sound : Sound (fun _ => 0) world) : Counted world :=
  ⟨sound.port, fun ap inside => by simpa using sound.accessPort ap inside, fun dp inside => (sound.portFits dp inside).freed,
    fun ap inside => (sound.accessPortFits ap inside).freed⟩

section Facts

theorem Sound.live_iff (sound : Sound extra world) (inside : ap < world.accessPortCount) :
    live (world.accessPorts ap) = true ↔ (world.accessPorts ap).refcnt ≠ 0 := by
  obtain ⟨freed, fresh, _⟩ := sound.accessPortFits ap inside
  cases counted : (world.accessPorts ap).counted with
  | true => simp [live, counted, ← freed counted]
  | false => simp [live, counted, fresh counted]

/-- A live access port is one of its debug port. -/
theorem Sound.liveOn_pos (sound : Sound extra world) (inside : ap < world.accessPortCount)
    (used : (world.accessPorts ap).refcnt ≠ 0) : 0 < liveOn world (world.accessPorts ap).dp := by
  rw [liveOn, List.countP_pos_iff]
  refine ⟨ap, List.mem_range.mpr inside, ?_⟩
  simp [(sound.live_iff inside).mpr used]

/-- A debug port with a count is not freed. -/
theorem Sound.port_present (sound : Sound extra world) (inside : dp < world.portCount)
    (used : (world.ports dp).refcnt ≠ 0) : (world.ports dp).freed = false := by
  have counted : (world.ports dp).counted = true := by
    by_contra uncounted
    exact used ((sound.portFits dp inside).fresh (by simpa using uncounted))
  simpa using fun gone => used (((sound.portFits dp inside).freed counted).mp gone)

/-- Access ports that may be used: neither they nor their debug ports are freed. -/
structure Usable (ap : Nat) (world : World) : Prop where
  inside : ap < world.accessPortCount
  present : (world.accessPorts ap).freed = false
  parent : (world.ports (world.accessPorts ap).dp).freed = false

theorem Sound.usable (sound : Sound extra world) (inside : ap < world.accessPortCount)
    (used : (world.accessPorts ap).refcnt ≠ 0) : Usable ap world := by
  have alive := (sound.live_iff inside).mpr used
  have more := sound.liveOn_pos inside used
  refine ⟨inside, ?_, sound.port_present (sound.parent ap inside) ?_⟩
  · simp only [live, Bool.and_eq_true, Bool.not_eq_true'] at alive
    exact alive.2
  · rw [sound.port _ (sound.parent ap inside)]
    split <;> omega

theorem Sound.probing_counted (sound : Sound (fun _ => 0) world) (probing : world.probing = some ap) :
    (world.accessPorts ap).refcnt ≠ 0 := by
  rw [sound.accessPort ap (sound.probed ap probing), if_pos probing]
  omega

theorem Sound.probing_usable (sound : Sound (fun _ => 0) world) (probing : world.probing = some ap) : Usable ap world :=
  sound.usable (sound.probed ap probing) (sound.probing_counted probing)

end Facts

section Changes

/-- Replace an access port. -/
def withAccessPort (ap : Nat) (port : AccessPort) (world : World) : World :=
  { world with accessPorts := fun a => if a = ap then port else world.accessPorts a }

/-- Replace a debug port. -/
def withPort (dp : Nat) (port : DebugPort) (world : World) : World :=
  { world with ports := fun d => if d = dp then port else world.ports d }

end Changes

section References

def dropped (port : AccessPort) : AccessPort :=
  { port with refcnt := port.refcnt - 1, freed := if port.refcnt - 1 = 0 then true else port.freed }

def droppedPort (port : DebugPort) : DebugPort :=
  { port with refcnt := port.refcnt - 1, freed := if port.refcnt - 1 = 0 then true else port.freed }

/-- The effect of `adiv5_ap_unref`. -/
def unrefAp (ap : Nat) (world : World) : World :=
  let parent := world.ports (world.accessPorts ap).dp
  withAccessPort ap (dropped (world.accessPorts ap))
    (withPort (world.accessPorts ap).dp (if (world.accessPorts ap).refcnt - 1 = 0 then droppedPort parent else parent) world)

end References

section Holders

/-- Replace a target. -/
def withTarget (id : Nat) (target : Target) (world : World) : World :=
  { world with targets := fun t => if t = id then target else world.targets t }

end Holders

section Ports

end Ports

end BlackMagic.Proofs.PortCounts

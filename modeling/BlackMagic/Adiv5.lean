import BlackMagic.Lib.Program
import Mathlib.Data.BitVec

/-! Debug ports and access ports (`adiv5.c`), the probes that keep a reference to an access port, and the end of the list
of targets. The memory of a freed port keeps its content, but every use of it is noticed. What the link answers and which
allocations succeed is given; parts that only make accesses are a number of accesses. -/

namespace BlackMagic.Adiv5
open Lib Lib.Program

/-- `adiv5_debug_port_s`, with the fields that decide what is probed; `counted` tells whether it has ever been referenced. -/
structure DebugPort where
  refcnt : Int
  counted : Bool
  freed : Bool
  version : Nat
  designerCode : Nat
  partno : Nat
  targetDesignerCode : Nat

structure AccessPort where
  dp : Nat
  refcnt : Int
  counted : Bool
  freed : Bool
  apsel : Nat
  idr : BitVec 32
  base : BitVec 32

/-- The private data of a target: its own record with the access port in it, or the access port itself. -/
inductive Priv where
  | cortex (ap : Nat)
  | port (ap : Nat)
  deriving DecidableEq, Repr

def Priv.ap : Priv → Nat
  | .cortex ap => ap
  | .port ap => ap

structure Target where
  priv : Option Priv
  attached : Bool
  freed : Bool

/-- The ports and targets, each known by the number it was allocated under, the debug port whose access ports are being
probed, and the access port that is being probed. -/
structure World where
  ports : Nat → DebugPort
  portCount : Nat
  accessPorts : Nat → AccessPort
  accessPortCount : Nat
  targets : Nat → Target
  targetCount : Nat
  targetList : List Nat
  initialising : Option Nat
  probing : Option Nat

/-- The ways in which a reference is lost: an exception leaves the probing of the access ports, a probe returns without its
private data but with its reference, or an exception leaves `target_list_free` in the middle of the list. -/
inductive Loss where
  | raisedWhileProbing
  | privateDataMissing
  | listLeft
  deriving DecidableEq, Repr

/-- The ports, with what they were at each access so far and the references that have been lost. -/
structure Probe where
  world : World
  seen : List World
  accesses : Nat
  allocations : Nat
  losses : List Loss

inductive Halt where
  | raised
  | misused
  | crashed
  deriving DecidableEq, Repr

abbrev Action := Program Probe Halt

/-- What code that only works on a target does: an access, or a poll of the halt state. -/
inductive Work where
  | access
  | poll

inductive ArmArch where
  | nosupport
  | cortexm
  | cortexa
  deriving DecidableEq, Repr

/-- A row of `arm_component_lut`. -/
structure Component where
  partNumber : Nat
  devType : Nat
  archId : Nat
  arch : ArmArch

/-- The answers of the link and the heap, by the number of accesses and of allocations before them: an access may raise an
exception. `patience` is the number of rounds after which a timeout expires, `stack` the depth of calls the stack allows. -/
structure Environment where
  access : Nat → Option (BitVec 32)
  fault : Nat → Bool
  allocates : Nat → Bool
  work : Nat → List Work
  patience : Nat
  stack : Nat
  connectAssertNrst : Bool
  armComponentLut : List Component

variable (env : Environment)

section Heap

def changeWorld (f : World → World) : Action Unit := change fun probe => { probe with world := f probe.world }

def lose (loss : Loss) : Action Unit := change fun probe => { probe with losses := probe.losses ++ [loss] }

def setPort (dp : Nat) (f : DebugPort → DebugPort) : Action Unit :=
  changeWorld fun world => { world with ports := fun d => if d = dp then f (world.ports d) else world.ports d }

def setAccessPort (ap : Nat) (f : AccessPort → AccessPort) : Action Unit :=
  changeWorld fun world =>
    { world with accessPorts := fun a => if a = ap then f (world.accessPorts a) else world.accessPorts a }

def setTarget (id : Nat) (f : Target → Target) : Action Unit :=
  changeWorld fun world => { world with targets := fun t => if t = id then f (world.targets t) else world.targets t }

/-- The use of a debug port. -/
def touchPort (dp : Nat) : Action Unit := do
  onlyIf ((← read).world.ports dp).freed (stop .misused)

/-- The use of an access port, and with it of its debug port. -/
def touchAccessPort (ap : Nat) : Action Unit := do
  onlyIf ((← read).world.accessPorts ap).freed (stop .misused)
  touchPort ((← read).world.accessPorts ap).dp

/-- Whether an allocation succeeds. -/
def allocate : Action Bool := do
  let probe ← read
  change fun probe => { probe with allocations := probe.allocations + 1 }
  pure (env.allocates probe.allocations)

/-- An access of the link; what the ports are then is recorded. -/
def access : Action (BitVec 32) := do
  let probe ← read
  change fun probe => { probe with seen := probe.seen ++ [probe.world], accesses := probe.accesses + 1 }
  match env.access probe.accesses with
  | some value => pure value
  | none => stop .raised

def portAccess (dp : Nat) : Action (BitVec 32) := do
  touchPort dp
  access env

def apAccess (ap : Nat) : Action (BitVec 32) := do
  touchAccessPort ap
  access env

end Heap

section References

def adiv5ApRef (ap : Nat) : Action Unit := do
  touchAccessPort ap
  let port := (← read).world.accessPorts ap
  onlyIf (port.refcnt = 0) (setPort port.dp fun dp => { dp with refcnt := dp.refcnt + 1, counted := true })
  setAccessPort ap fun port => { port with refcnt := port.refcnt + 1, counted := true }

def freePort (dp : Nat) : Action Unit := do
  touchPort dp
  setPort dp fun port => { port with freed := true }

def adiv5DpUnref (dp : Nat) : Action Unit := do
  touchPort dp
  setPort dp fun port => { port with refcnt := port.refcnt - 1 }
  onlyIf (((← read).world.ports dp).refcnt = 0) (freePort dp)

def adiv5ApUnref (ap : Nat) : Action Unit := do
  touchAccessPort ap
  setAccessPort ap fun port => { port with refcnt := port.refcnt - 1 }
  let port := (← read).world.accessPorts ap
  onlyIf (port.refcnt = 0) do
    adiv5DpUnref port.dp
    setAccessPort ap fun port => { port with freed := true }

end References

section Targets

/-- `target_new`: the new target is the last of the list. -/
def targetNew : Action (Option Nat) := do
  if ← allocate env then
    let id := (← read).world.targetCount
    changeWorld fun world =>
      { world with
        targets := fun t => if t = id then ⟨none, false, false⟩ else world.targets t
        targetCount := id + 1
        targetList := world.targetList ++ [id] }
    pure (some id)
  else pure none

/-- The accesses of a detach, through the access port of the target. -/
def detach (ap : Option Nat) : Action Unit := do
  each (fun _ => do
    match ap with
    | some ap => let _ ← apAccess env ap
    | none => let _ ← access env) (env.work (← read).accesses)

/-- The end of a target in `target_list_free`: its `priv_free`, and the target itself. -/
def freeTarget (id : Nat) : Action Unit := do
  match ((← read).world.targets id).priv with
  | some priv => adiv5ApUnref priv.ap
  | none => pure ()
  setTarget id fun target => { target with freed := true }

/-- The loop of `target_list_free`; an exception of a detach leaves it. -/
def freeTargets (first : Bool) : List Nat → Action Unit
  | [] => pure ()
  | id :: rest => do
    let target := (← read).world.targets id
    onlyIf target.attached do
      rescue (detach env (target.priv.map Priv.ap)) fun reason => do
        onlyIf (first = false ∧ reason = .raised) (lose .listLeft)
        stop reason
    freeTarget id
    freeTargets false rest

def targetListFree : Action Unit := do
  freeTargets env true (← read).world.targetList
  changeWorld fun world => { world with targetList := [] }

/-- A poll of the halt state: the status of the core, unless the link fails, which frees all targets. -/
def haltPoll (ap : Nat) : Action (Option (BitVec 32)) := do
  let status ← rescue (do pure (some (← apAccess env ap))) fun reason =>
    if reason = .raised then pure none else stop reason
  onlyIf (status = none) (targetListFree env)
  pure status

def doWork (ap : Nat) : Work → Action Unit
  | .access => do let _ ← apAccess env ap
  | .poll => do let _ ← haltPoll env ap

/-- Code that works on a target through its access port. -/
def workOn (ap : Nat) : Action Unit := do
  each (doWork env ap) (env.work (← read).accesses)

end Targets

section Probes

/-- A target for the access port itself. -/
def holdPort (ap id : Nat) : Action Unit := do
  adiv5ApRef ap
  setTarget id fun target => { target with priv := some (.port ap) }

/-- A target that is not a core: if the `IDR` is one of the expected ones, a target for the access port. -/
def portProbe (matching : BitVec 32 → Bool) (ap : Nat) (rest : Action Unit) : Action Unit := do
  onlyIf (matching ((← read).world.accessPorts ap).idr) do
    match ← targetNew env with
    | none => pure ()
    | some id =>
      holdPort ap id
      rest

def kinetisMdmProbe (ap : Nat) : Action Unit :=
  portProbe env (fun idr => idr = 0x1c0020#32 ∨ idr = 0x1c0000#32) ap (pure ())

def nrf51MdmProbe (ap : Nat) : Action Unit :=
  portProbe env (fun idr => idr = 0x02880000#32) ap do
    let _ ← apAccess env ap
    let _ ← apAccess env ap

/-- The text of the driver is written to memory that is not checked. -/
def efm32AapProbe (ap : Nat) : Action Unit :=
  portProbe env (fun idr => idr &&& 0x0fffff0f#32 = 0x06e60001#32) ap do
    let _ ← apAccess env ap
    if ← allocate env then pure () else stop .crashed

def lpc55DmapProbe (ap : Nat) : Action Unit :=
  portProbe env (fun idr => idr = 0x002a0000#32) ap (pure ())

def rpRescueProbe (ap : Nat) : Action Unit := do
  match ← targetNew env with
  | none => pure ()
  | some id => holdPort ap id

/-- The start of both core probes: a new target with private data; without memory for these it returns with the reference
that it has taken. -/
def coreTarget (ap : Nat) : Action Bool := do
  match ← targetNew env with
  | none => pure false
  | some id =>
    adiv5ApRef ap
    if ← allocate env then
      setTarget id fun target => { target with priv := some (.cortex ap) }
      pure true
    else
      lose .privateDataMissing
      pure false

def cortexmProbe (ap : Nat) : Action Unit := do
  onlyIf (← coreTarget env ap) (workOn env ap)

/-- Poll until the core has halted or the timeout expires: whether the link failed. -/
def pollHalt (ap : Nat) : Nat → Action Bool
  | 0 => pure false
  | rounds + 1 => do
    match ← haltPoll env ap with
    | none => pure true
    | some dbgdscr => if dbgdscr &&& 1#32 = 0 then pollHalt ap rounds else pure false

def cortexaProbe (ap : Nat) : Action Unit := do
  onlyIf (← coreTarget env ap) do
    let _ ← apAccess env ap
    onlyIf (!(← pollHalt env ap env.patience)) (workOn env ap)

end Probes

section Components

/-- `ap->dp->fault`. -/
def dpFault : Action Bool := do
  pure (env.fault (← read).accesses)

/-- `adiv5_dp_error` through an access port. -/
def dpError (ap : Nat) : Action Bool := do
  pure ((← apAccess env ap) ≠ 0)

def jep106ManufacturerArm : Nat := 0x43b
def jep106ManufacturerArmChina : Nat := 0xa75
def jep106ManufacturerAtmel : Nat := 0x01f
def jep106ManufacturerRaspberry : Nat := 0x913
def jep106ManufacturerNxp : Nat := 0x015
def jep106ManufacturerStm : Nat := 0x020

/-- The designer in a peripheral identification. -/
def designerCode (pidr : BitVec 64) : Nat :=
  let code := ((pidr &&& (0x7f#64 <<< 12)) >>> 12).toNat
  if pidr &&& (1#64 <<< 19) ≠ 0 then
    let designer := ((pidr &&& (0xf#64 <<< 32)) >>> 24).toNat ||| code
    if designer = 0x420 ∨ designer = 0x555 then jep106ManufacturerStm else designer
  else code ||| 0x8000

/-- The device type and architecture of a component that tells them. -/
def deviceType (ap cidClass : Nat) : Action (Nat × Nat) :=
  if cidClass = 9 then do
    let devType := (← apAccess env ap) &&& 0xff#32
    let devarch ← apAccess env ap
    pure (devType.toNat, if devarch &&& (1#32 <<< 20) ≠ 0 then (devarch &&& 0xffff#32).toNat else 0)
  else pure (0, 0)

/-- The probe for a component that is not a table. -/
def leafProbe (ap : Nat) (cidClass : Nat) (partNumber : Nat) : Action Unit := do
  let device ← deviceType env ap cidClass
  match (env.armComponentLut.find? fun row =>
      row.partNumber = partNumber ∧ row.devType = device.1 ∧ row.archId = device.2).map Component.arch with
  | some .cortexm => cortexmProbe env ap
  | some .cortexa => cortexaProbe env ap
  | _ => pure ()

/-- The entries of a table; `probeEntry` is the probe of one. -/
def tableEntries (ap : Nat) (probeEntry : BitVec 32 → Action Unit) : Nat → Action Unit
  | 0 => pure ()
  | remaining + 1 => do
    let _ ← dpError env ap
    let entry ← apAccess env ap
    if ← dpError env ap then pure ()
    else if entry = 0 then pure ()
    else if entry &&& 1#32 = 0 then tableEntries ap probeEntry remaining
    else
      probeEntry entry
      tableEntries ap probeEntry remaining

/-- A protected SAMx5x part is found by the table of its access port. -/
def samx5xProtected (ap designer partNumber : Nat) (recursion : Nat) : Action Bool := do
  if recursion = 0 ∧ designer = jep106ManufacturerAtmel ∧ partNumber = 0xcd0 then
    pure ((← apAccess env ap) &&& (1#32 <<< 16) ≠ 0)
  else pure false

/-- The component behind the checks of its identification. -/
def identified (ap recursion : Nat) (cidr : BitVec 32) (probeEntry : BitVec 32 → Action Unit) : Action Unit := do
  let cidClass := ((cidr &&& 0xf000#32) >>> 12).toNat
  let high ← apAccess env ap
  let low ← apAccess env ap
  let pidr : BitVec 64 := high ++ low
  let designer := designerCode pidr
  let partNumber := (pidr &&& 0xfff#64).toNat
  if cidClass = 1 then
    if ← samx5xProtected env ap designer partNumber recursion then cortexmProbe env ap
    else tableEntries env ap probeEntry 960
  else onlyIf (designer = jep106ManufacturerArm ∨ designer = jep106ManufacturerArmChina) (leafProbe env ap cidClass partNumber)

/-- `adiv5_component_probe`; the tables may go deeper than the stack. -/
def adiv5ComponentProbe (ap : Nat) : Nat → Nat → BitVec 32 → Action Unit
  | 0, _, _ => stop .crashed
  | stack + 1, recursion, address => do
    let addr := address &&& 0xfffff000#32
    onlyIf (addr ≠ 0) do
      let cidr ← apAccess env ap
      onlyIf (!(← dpFault env)) do
        onlyIf (!(← dpError env ap)) do
          onlyIf (cidr &&& ~~~0xf000#32 = 0xb105000d#32) do
            identified env ap recursion cidr fun entry =>
              adiv5ComponentProbe ap stack (recursion + 1) (addr + (entry &&& 0xfffff000#32))

end Components

section DebugPorts

def adiv5DpClearStickyErrors (dp : Nat) : Action Unit := do
  let _ ← portAccess env dp

def adiv5DpReadDpidr (dp : Nat) : Action (BitVec 32) :=
  rescue (portAccess env dp) fun reason => if reason = .raised then pure 0 else stop reason

/-- A new access port of a debug port. -/
def pushAccessPort (port : AccessPort) : Action Nat := do
  let ap := (← read).world.accessPortCount
  changeWorld fun world =>
    { world with
      accessPorts := fun a => if a = ap then port else world.accessPorts a
      accessPortCount := ap + 1 }
  pure ap

/-- `adiv5_new_ap`; the loop that it returns to holds the access port. -/
def adiv5NewAp (dp apsel : Nat) : Action (Option Nat) := do
  let idr ← portAccess env dp
  let base ← portAccess env dp
  if base = 0xffffffff#32 then pure none
  else if idr = 0 then pure none
  else
    let csw := (← portAccess env dp) &&& ~~~0x40008037#32 ||| 0x80000000#32
    if csw &&& 0x80#32 ≠ 0 then pure none
    else if ← allocate env then
      let ap ← pushAccessPort ⟨dp, 0, false, false, apsel, idr, base⟩
      let _ ← apAccess env ap
      adiv5ApRef ap
      changeWorld fun world => { world with probing := some ap }
      pure (some ap)
    else pure none

/-- The drop of the loop's own reference. -/
def releaseAp (ap : Nat) : Action Unit := do
  adiv5ApUnref ap
  changeWorld fun world => { world with probing := none }

def rpRescueSetup (dp : Nat) : Action Unit := do
  onlyIf (← allocate env) do
    let ap ← pushAccessPort ⟨dp, 0, false, false, 0, 0, 0⟩
    rpRescueProbe env ap

/-- Resume the cores that have been found on the access port. -/
def resumeTargets (ap : Nat) : Action Unit := do
  onlyIf (!env.connectAssertNrst) do
    let world := (← read).world
    each (fun id => onlyIf ((world.targets id).priv = some (.cortex ap)) (do let _ ← apAccess env ap)) world.targetList

def probeAccessPort (ap : Nat) : Action Unit := do
  kinetisMdmProbe env ap
  nrf51MdmProbe env ap
  efm32AapProbe env ap
  lpc55DmapProbe env ap
  let port := (← read).world.accessPorts ap
  onlyIf (port.apsel = 0 ∧ (port.idr &&& 0x0001e000#32) >>> 13 = 8#32 ∧ port.idr &&& 0xf#32 = 1#32) (do
    each (fun _ => do let _ ← apAccess env ap) (env.work (← read).accesses))
  adiv5ComponentProbe env ap env.stack 0 port.base
  resumeTargets env ap
  releaseAp ap

/-- The loop over the access ports. -/
def probeAccessPorts (dp : Nat) : Nat → Nat → Nat → Action Unit
  | 0, _, _ => pure ()
  | remaining + 1, apsel, invalidAps => do
    match ← adiv5NewAp env dp apsel with
    | none =>
      adiv5DpClearStickyErrors env dp
      if invalidAps + 1 = 8 then pure () else probeAccessPorts dp remaining (apsel + 1) (invalidAps + 1)
    | some ap =>
      probeAccessPort env ap
      probeAccessPorts dp remaining (apsel + 1) invalidAps

/-- An exception that leaves the loop: nobody drops its references. -/
def abandon (reason : Halt) : Action Unit := do
  onlyIf (reason = .raised) do
    lose .raisedWhileProbing
    changeWorld fun world => { world with initialising := none, probing := none }
  stop reason

/-- The loop with the reference to the debug port around it. -/
def probeHeld (dp : Nat) : Action Unit := do
  touchPort dp
  setPort dp fun port => { port with refcnt := port.refcnt + 1, counted := true }
  changeWorld fun world => { world with initialising := some dp }
  rescue (probeAccessPorts env dp 256 0 0) abandon
  adiv5DpUnref dp
  changeWorld fun world => { world with initialising := none }

def ctrlstatAcks : BitVec 32 := 0xa0000000#32

/-- Wait for the debug domain to power down, as long as the timeout allows. -/
def powerDown (dp : Nat) : Nat → Action Unit
  | 0 => pure ()
  | rounds + 1 => do
    if (← portAccess env dp) &&& ctrlstatAcks = 0 then pure () else powerDown dp rounds

/-- Wait for it to power up: whether it did in time. -/
def powerUp (dp : Nat) : Nat → Action Bool
  | 0 => pure false
  | rounds + 1 => do
    if (← portAccess env dp) &&& ctrlstatAcks = ctrlstatAcks then pure true else powerUp dp rounds

/-- A designer in the form of the identification registers. -/
def jep106Designer (designer : Nat) : Nat := (designer &&& 0x780) <<< 1 ||| (designer &&& 0x7f)

/-- What `DPIDR` tells about the port. -/
def readIdentity (dpidr : BitVec 32) (port : DebugPort) : DebugPort :=
  let version := ((dpidr >>> 12) &&& 0xf#32).toNat
  let designer := jep106Designer ((dpidr >>> 1) &&& 0x7ff#32).toNat
  if designer ≠ 0 ∧ 0 < version ∧ dpidr &&& 1#32 ≠ 0 then
    { port with version := version, designerCode := designer, partno := ((dpidr >>> 20) &&& 0xff#32).toNat }
  else { port with version := 0, designerCode := 0, partno := 0 }

/-- The identification of the port; without one it is freed. -/
def identifyPort (dp : Nat) : Action Bool := do
  let port := (← read).world.ports dp
  if port.designerCode ≠ jep106ManufacturerArm ∨ port.partno ≠ 0xba00 then
    let dpidr ← adiv5DpReadDpidr env dp
    if dpidr = 0 then
      freePort dp
      pure false
    else
      setPort dp (readIdentity dpidr)
      pure true
  else pure true

def readTargetid (dp : Nat) : Action Unit := do
  onlyIf (2 ≤ ((← read).world.ports dp).version) do
    let _ ← portAccess env dp
    let targetid ← portAccess env dp
    let _ ← portAccess env dp
    setPort dp fun port => { port with targetDesignerCode := jep106Designer ((targetid >>> 1) &&& 0x7ff#32).toNat }

/-- `lpc55_dp_prepare`. -/
def lpc55DpPrepare (dp : Nat) : Action Unit := do
  each (fun _ => do let _ ← portAccess env dp) (env.work (← read).accesses)

def adiv5DpInit (dp : Nat) : Action Unit := do
  onlyIf (← identifyPort env dp) do
    adiv5DpClearStickyErrors env dp
    readTargetid env dp
    let port := (← read).world.ports dp
    if port.designerCode = jep106ManufacturerRaspberry ∧ port.partno = 2 then rpRescueSetup env dp
    else
      let _ ← portAccess env dp
      powerDown env dp (env.patience + 1)
      let _ ← portAccess env dp
      if ← powerUp env dp (env.patience + 1) then
        onlyIf (port.targetDesignerCode = jep106ManufacturerNxp) (lpc55DpPrepare env dp)
        probeHeld env dp
      else freePort dp

end DebugPorts

section Runs

/-- What can happen: a debug port is found and initialised, the targets are freed, or one is attached to or detached from. -/
inductive Event where
  | dpInit (version designerCode partno : Nat)
  | targetListFree
  | attach (id : Nat) (attached : Bool)

def pushPort (port : DebugPort) : Action Nat := do
  let dp := (← read).world.portCount
  changeWorld fun world =>
    { world with ports := fun d => if d = dp then port else world.ports d, portCount := dp + 1 }
  pure dp

def handle : Event → Action Unit
  | .dpInit version designerCode partno => do
    onlyIf (← allocate env) do
      let dp ← pushPort ⟨0, false, false, version, designerCode, partno, 0⟩
      adiv5DpInit env dp
  | .targetListFree => targetListFree env
  | .attach id attached => setTarget id fun target => { target with attached := attached }

def initialWorld : World :=
  { ports := fun _ => ⟨0, false, false, 0, 0, 0, 0⟩, portCount := 0
    accessPorts := fun _ => ⟨0, 0, false, false, 0, 0, 0⟩, accessPortCount := 0
    targets := fun _ => ⟨none, false, false⟩, targetCount := 0, targetList := [], initialising := none, probing := none }

def initial : Probe := { world := initialWorld, seen := [], accesses := 0, allocations := 0, losses := [] }

end Runs

/-- A run: an exception is caught by the command, a crash ends it. -/
def run : Probe → List (Event × Environment) → Except Halt Unit × Probe
  | probe, [] => (.ok (), probe)
  | probe, (event, env) :: rest =>
    match handle env event probe with
    | (.ok _, next) => run next rest
    | (.error .raised, next) => run next rest
    | (.error reason, next) => (.error reason, next)

end BlackMagic.Adiv5

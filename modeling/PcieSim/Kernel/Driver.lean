import PcieSim.Kernel.Dma

/-!
# `kernel/driver.c`: loading, probing, removing and unloading the module

`pcie_sim_init` reserves the character-device numbers, creates the device class, registers
the platform driver and creates `DEVICE_COUNT` platform devices; each step that fails jumps
to a label that undoes the earlier ones in reverse. Adding a platform device makes the driver
core call `pcie_sim_probe`, which allocates the device structure and sets up its character
device (`pcie_sim_char_init`) and its proc entries (`pcie_sim_proc_init`), again undoing
what it did when a later step fails. `pcie_sim_remove` and `pcie_sim_exit` take everything
down.

Every kernel object the driver creates is a flag in the state: the module's three
(`Globals`), and per platform device the allocation's reference, the registration, the
`kzalloc`'d `struct pcie_sim_device` with the fields the lifecycle reads, the cdev, the
`/dev` file and the two proc entries (`Slot`). Releasing an object that is not live
(a double free, `cdev_del` of a cdev never added, `device_destroy` on a destroyed class)
is undefined and makes the result `none`, as does reading the structure after `kfree`.
What each kernel call answers is an input (`KernelEnv`): whether an allocation returns
memory, and the `0` or error code the others return.

Two actions of the driver core belong to the model because the driver relies on them:
`platform_device_add` probes the new device when the driver is registered and binds it
when probe returns `0`, and `platform_device_del` / `platform_driver_unregister` call
`pcie_sim_remove` on a bound device before unbinding it.

The module's life is a machine over events (`ModuleEvent`): `insmod`, `rmmod`, and the driver
core binding a registered device to the driver or unbinding it (as writes to the driver's
`bind` and `unbind` files in sysfs make it do), each with the kernel's answers to the calls it
makes.

* `pcieSimProbe_spec`, `pcieSimRemove_probed`: probe either creates all five per-device
  objects or leaves the device as it found it, and remove takes down exactly what probe
  set up;
* `pcieSimInit_spec`, `pcieSimExit_of_loaded`: loading either succeeds, with every device
  registered and bound when its probe succeeded, or leaves the kernel as it was, and
  unloading a loaded module leaves it as it was before the load;
* `driver_lifecycle`: over every sequence of events, no step releases an object twice or one
  that is not there, and every device is either bound with all its objects or unbound with
  none, the module unloaded leaving nothing behind.
-/

namespace PcieSim.Kernel

/-! ## The kernel objects -/

/-- `DEVICE_COUNT`. -/
def deviceCount : ℕ := 1

/-- `dev->dev`: NULL, the `ERR_PTR` a failed `device_create` returned, or the device. -/
inductive DevPtr
  | null
  | err
  | valid
deriving Repr, DecidableEq

/-- The fields of `struct pcie_sim_device` the lifecycle writes or tests: `dev`, whether
`proc_dir` and `proc_stats` are non-NULL, `stats` and `enabled`. -/
structure DevFields where
  dev : DevPtr
  procDir : Bool
  procStats : Bool
  stats : PcieSimStats
  enabled : Bool
deriving Repr, DecidableEq

/-- The structure as `kzalloc` returns it. -/
def DevFields.zero : DevFields := ⟨.null, false, false, .zero, false⟩

/-- What the kernel holds for platform device `i`: the reference `platform_device_alloc`
took, the registration by `platform_device_add`, `pcie_sim_devices[i] != NULL`, whether the
driver core bound it to the driver, the device structure (`none` when not allocated),
`driver_state.devices[i] != NULL`, the cdev, `/dev/pcie_simN` and the two proc entries. -/
structure Slot where
  pdevRef : Bool
  pdevAdded : Bool
  pdevPtr : Bool
  bound : Bool
  devStruct : Option DevFields
  registered : Bool
  cdev : Bool
  devFile : Bool
  procDir : Bool
  procStats : Bool
deriving Repr, DecidableEq

/-- The reserved character-device numbers, the device class and the platform driver. -/
structure Globals where
  chrdevRegion : Bool
  devClass : Bool
  platformDriver : Bool
deriving Repr, DecidableEq

/-- The module's objects and every platform device's slot. -/
structure DriverState where
  globals : Globals
  slots : ℕ → Slot

/-- A slot with nothing in it. -/
def Slot.empty : Slot := ⟨false, false, false, false, none, false, false, false, false, false⟩

/-- The kernel before the module is loaded: the static arrays are zero. -/
def DriverState.initial : DriverState := ⟨⟨false, false, false⟩, fun _ => Slot.empty⟩

/-- Writes the device structure of a slot. -/
def Slot.setFields (d : Slot) (f : DevFields) : Slot := { d with devStruct := some f }

/-- Replaces the slot of device `i`. -/
def DriverState.setSlot (s : DriverState) (i : ℕ) (d : Slot) : DriverState :=
  { s with slots := Function.update s.slots i d }

/-- What the kernel answers to the calls `pcie_sim_probe` makes for one device: whether
`kzalloc`, `proc_mkdir` and `proc_create_data` return memory, and what `cdev_add` and
`device_create` return (`0`, or the error code). -/
structure ProbeEnv where
  kzalloc : Bool
  cdevAdd : Int
  deviceCreate : Int
  procMkdir : Bool
  procCreateData : Bool
deriving Repr, DecidableEq

/-- What the kernel answers to the module's calls: `alloc_chrdev_region`, `class_create`
and `platform_driver_register` return `0` or an error code; `platform_device_alloc` returns
memory or not and `platform_device_add` returns `0` or an error code, per device; and the
answers to device `i`'s probe. -/
structure KernelEnv where
  allocChrdevRegion : Int
  classCreate : Int
  platformDriverRegister : Int
  platformDeviceAlloc : ℕ → Bool
  platformDeviceAdd : ℕ → Int
  probe : ℕ → ProbeEnv

/-! ## Releasing objects -/

/-- `kfree(dev)`. -/
def kfree (d : Slot) : Option Slot := d.devStruct.map fun _ => { d with devStruct := none }

/-- `cdev_del`. -/
def cdevDel (d : Slot) : Option Slot := if d.cdev then some { d with cdev := false } else none

/-- `device_destroy(driver_state.class, dev->devt)`: removes the device file registered
under the number, if there is one. -/
def deviceDestroy (g : Globals) (d : Slot) : Option Slot :=
  if g.devClass then some { d with devFile := false } else none

/-- `proc_remove(dev->proc_stats)`. -/
def procRemoveStats (d : Slot) : Option Slot :=
  if d.procStats then some { d with procStats := false } else none

/-- `proc_remove(dev->proc_dir)`: the directory and what is left in it. -/
def procRemoveDir (d : Slot) : Option Slot :=
  if d.procDir then some { d with procDir := false, procStats := false } else none

/-- `platform_device_put`: drops the reference `platform_device_alloc` took. -/
def platformDevicePut (d : Slot) : Option Slot :=
  if d.pdevRef then some { d with pdevRef := false } else none

/-! ## The character device and the proc entries -/

/-- `pcie_sim_char_init`: `cdev_add`, then `device_create`, deleting the cdev when the
second fails. -/
def pcieSimCharInit (pe : ProbeEnv) (g : Globals) (d : Slot) : Option (Int × Slot) :=
  d.devStruct.bind fun f =>
    if pe.cdevAdd ≠ 0 then some (pe.cdevAdd, d)
    else if ¬g.devClass then none
    else if pe.deviceCreate ≠ 0 then
      (cdevDel { d.setFields { f with dev := .err } with cdev := true }).map (pe.deviceCreate, ·)
    else some (0, { d.setFields { f with dev := .valid } with cdev := true, devFile := true })

/-- `pcie_sim_char_cleanup`. -/
def pcieSimCharCleanup (g : Globals) (d : Slot) : Option Slot :=
  d.devStruct.bind fun f =>
    (if f.dev = .null then some d
      else (deviceDestroy g d).map (·.setFields { f with dev := .null })).bind cdevDel

/-- `pcie_sim_proc_init`: `proc_mkdir`, then `proc_create_data` in it, removing the
directory when the second fails. -/
def pcieSimProcInit (pe : ProbeEnv) (d : Slot) : Option (Int × Slot) :=
  d.devStruct.bind fun f =>
    if ¬pe.procMkdir then some (-ENOMEM, d.setFields { f with procDir := false })
    else
      let d := { d.setFields { f with procDir := true } with procDir := true }
      if ¬pe.procCreateData then
        (procRemoveDir d).map fun d =>
          (-ENOMEM, d.setFields { f with procDir := false, procStats := false })
      else
        some (0, { d.setFields { f with procDir := true, procStats := true } with
          procStats := true })

/-- `pcie_sim_proc_cleanup`: the stats file, then the directory, each if its pointer is
set. -/
def pcieSimProcCleanup (d : Slot) : Option Slot :=
  d.devStruct.bind fun f =>
    (if f.procStats then (procRemoveStats d).map (·.setFields { f with procStats := false })
      else some d).bind fun d =>
    d.devStruct.bind fun f =>
      if f.procDir then (procRemoveDir d).map (·.setFields { f with procDir := false })
      else some d

/-! ## Probe and remove -/

/-- `err_char:` of `pcie_sim_probe`: `driver_state.devices[device_id] = NULL; kfree(dev)`. -/
def pcieSimProbeErrChar (ret : Int) (d : Slot) : Option (Int × Slot) :=
  (kfree { d with registered := false }).map (ret, ·)

/-- `pcie_sim_probe` of the platform device with id `deviceId`. -/
def pcieSimProbe (pe : ProbeEnv) (g : Globals) (deviceId : ℕ) (d : Slot) :
    Option (Int × Slot) :=
  if deviceId ≥ deviceCount then some (-EINVAL, d)
  else if ¬pe.kzalloc then some (-ENOMEM, d)
  else
    -- `kzalloc`, `enabled = true`, the `memset` of the statistics, `devices[id] = dev`
    let d := { d with
      devStruct := some { DevFields.zero with enabled := true }
      registered := true }
    (pcieSimCharInit pe g d).bind fun (ret, d) =>
      if ret ≠ 0 then pcieSimProbeErrChar ret d
      else (pcieSimProcInit pe d).bind fun (ret, d) =>
        if ret ≠ 0 then (pcieSimCharCleanup g d).bind (pcieSimProbeErrChar ret)
        else some (0, d)

/-- `pcie_sim_remove`: `platform_get_drvdata` is the device structure while the device is
bound. -/
def pcieSimRemove (g : Globals) (d : Slot) : Option (Int × Slot) :=
  if d.bound then
    ((pcieSimProcCleanup d).bind (pcieSimCharCleanup g)).bind fun d =>
      (kfree { d with registered := false }).map (0, ·)
  else some (0, d)

/-! ## The driver core -/

/-- The driver core probing device `i` for the driver (`really_probe`): `pcie_sim_probe`, and
the device bound to the driver when it returns `0`. -/
def reallyProbe (pe : ProbeEnv) (g : Globals) (i : ℕ) (d : Slot) : Option (Int × Slot) :=
  (pcieSimProbe pe g i d).map fun (ret, d) => (ret, { d with bound := decide (ret = 0) })

/-- The driver core releasing a bound device from the driver (`device_release_driver`):
`pcie_sim_remove`, and the device unbound. -/
def releaseDriver (g : Globals) (d : Slot) : Option Slot :=
  (pcieSimRemove g d).map fun (_, d) => { d with bound := false }

/-- `platform_device_add` of device `i`: once it is registered, the driver core probes it
when the driver is registered; probe's error does not fail the add. -/
def platformDeviceAdd (env : KernelEnv) (g : Globals) (i : ℕ) (d : Slot) :
    Option (Int × Slot) :=
  if env.platformDeviceAdd i ≠ 0 then some (env.platformDeviceAdd i, d)
  else if g.platformDriver then
    (reallyProbe (env.probe i) g i { d with pdevAdded := true }).map fun (_, d) => (0, d)
  else some (0, { d with pdevAdded := true })

/-- `platform_device_del`: a bound device is first released from the driver, which calls
`pcie_sim_remove`. -/
def platformDeviceDel (g : Globals) (d : Slot) : Option Slot :=
  if ¬d.pdevAdded then none
  else if d.bound then (releaseDriver g d).map fun d => { d with pdevAdded := false }
  else some { d with pdevAdded := false }

/-- `platform_device_unregister`: `platform_device_del`, then `platform_device_put`. -/
def platformDeviceUnregister (g : Globals) (d : Slot) : Option Slot :=
  (platformDeviceDel g d).bind platformDevicePut

/-- The driver core unbinding devices `i .. i + left - 1` from the driver, calling
`pcie_sim_remove` on each bound one. -/
def unbindDevices : ℕ → ℕ → DriverState → Option DriverState
  | 0, _, s => some s
  | left + 1, i, s =>
    (if (s.slots i).bound then (releaseDriver s.globals (s.slots i)).map (s.setSlot i)
    else some s).bind (unbindDevices left (i + 1))

/-- `platform_driver_unregister`: every device still bound is unbound, then the driver is
dropped. -/
def platformDriverUnregister (s : DriverState) : Option DriverState :=
  if ¬s.globals.platformDriver then none
  else (unbindDevices deviceCount 0 s).map fun s =>
    { s with globals := { s.globals with platformDriver := false } }

/-- `class_destroy(driver_state.class)`. -/
def classDestroy (s : DriverState) : Option DriverState :=
  if s.globals.devClass then some { s with globals := { s.globals with devClass := false } }
  else none

/-- `unregister_chrdev_region`. -/
def unregisterChrdevRegion (s : DriverState) : Option DriverState :=
  if s.globals.chrdevRegion then
    some { s with globals := { s.globals with chrdevRegion := false } }
  else none

/-! ## Loading and unloading -/

/-- The body of the loop of `create_platform_devices` for device `i`: `platform_device_alloc`,
then `platform_device_add`, dropping the reference when the add fails. -/
def createPlatformDevice (env : KernelEnv) (g : Globals) (i : ℕ) (d : Slot) :
    Option (Int × Slot) :=
  if ¬env.platformDeviceAlloc i then some (-ENOMEM, { d with pdevPtr := false })
  else
    (platformDeviceAdd env g i { d with pdevRef := true, pdevPtr := true }).bind fun (ret, d) =>
      if ret ≠ 0 then (platformDevicePut d).map fun d => (ret, { d with pdevPtr := false })
      else some (0, d)

/-- `if (pcie_sim_devices[i]) { platform_device_unregister(...); pcie_sim_devices[i] = NULL; }`. -/
def unregisterPlatformDevice (i : ℕ) (s : DriverState) : Option DriverState :=
  if (s.slots i).pdevPtr then
    (platformDeviceUnregister s.globals (s.slots i)).map fun d =>
      s.setSlot i { d with pdevPtr := false }
  else some s

/-- `cleanup:` of `create_platform_devices`: `while (--i >= 0)`, from device `i - 1` down. -/
def cleanupPlatformDevices : ℕ → DriverState → Option DriverState
  | 0, s => some s
  | i + 1, s => (unregisterPlatformDevice i s).bind (cleanupPlatformDevices i)

/-- The loop of `create_platform_devices` over devices `i .. i + left - 1`. -/
def createPlatformDevicesFrom (env : KernelEnv) :
    ℕ → ℕ → DriverState → Option (Int × DriverState)
  | 0, _, s => some (0, s)
  | left + 1, i, s =>
    (createPlatformDevice env s.globals i (s.slots i)).bind fun (ret, d) =>
      if ret ≠ 0 then (cleanupPlatformDevices i (s.setSlot i d)).map (ret, ·)
      else createPlatformDevicesFrom env left (i + 1) (s.setSlot i d)

/-- `create_platform_devices`. -/
def createPlatformDevices (env : KernelEnv) (s : DriverState) : Option (Int × DriverState) :=
  createPlatformDevicesFrom env deviceCount 0 s

/-- The loop of `destroy_platform_devices` over devices `i .. i + left - 1`. -/
def destroyPlatformDevicesFrom : ℕ → ℕ → DriverState → Option DriverState
  | 0, _, s => some s
  | left + 1, i, s => (unregisterPlatformDevice i s).bind (destroyPlatformDevicesFrom left (i + 1))

/-- `destroy_platform_devices`. -/
def destroyPlatformDevices (s : DriverState) : Option DriverState :=
  destroyPlatformDevicesFrom deviceCount 0 s

/-- `err_class:` of `pcie_sim_init`. -/
def pcieSimInitErrClass (ret : Int) (s : DriverState) : Option (Int × DriverState) :=
  (unregisterChrdevRegion s).map (ret, ·)

/-- `err_driver:` of `pcie_sim_init`. -/
def pcieSimInitErrDriver (ret : Int) (s : DriverState) : Option (Int × DriverState) :=
  (classDestroy s).bind (pcieSimInitErrClass ret)

/-- `err_devices:` of `pcie_sim_init`. -/
def pcieSimInitErrDevices (ret : Int) (s : DriverState) : Option (Int × DriverState) :=
  (platformDriverUnregister s).bind (pcieSimInitErrDriver ret)

/-- `pcie_sim_init`. -/
def pcieSimInit (env : KernelEnv) (s : DriverState) : Option (Int × DriverState) :=
  if env.allocChrdevRegion ≠ 0 then some (env.allocChrdevRegion, s)
  else
    let s := { s with globals := { s.globals with chrdevRegion := true } }
    if env.classCreate ≠ 0 then pcieSimInitErrClass env.classCreate s
    else
      let s := { s with globals := { s.globals with devClass := true } }
      if env.platformDriverRegister ≠ 0 then pcieSimInitErrDriver env.platformDriverRegister s
      else
        let s := { s with globals := { s.globals with platformDriver := true } }
        (createPlatformDevices env s).bind fun (ret, s) =>
          if ret ≠ 0 then pcieSimInitErrDevices ret s else some (0, s)

/-- `pcie_sim_exit`. -/
def pcieSimExit (s : DriverState) : Option DriverState :=
  (((destroyPlatformDevices s).bind platformDriverUnregister).bind classDestroy).bind
    unregisterChrdevRegion

/-! ## The module's life -/

/-- The kernel around the module: whether it is loaded, and the objects. -/
structure ModuleState where
  loaded : Bool
  driver : DriverState

/-- What can happen to the module: `insmod`, with the kernel's answers to the calls of
`pcie_sim_init` and of the probes it triggers; `rmmod`; and the driver core binding platform
device `i` to the driver, with the answers to the calls of its probe, or releasing it. -/
inductive ModuleEvent
  | insmod (env : KernelEnv)
  | rmmod
  | bind (i : ℕ) (pe : ProbeEnv)
  | unbind (i : ℕ)

/-- One event. The kernel refuses `insmod` of a loaded module and `rmmod` of one that is not
loaded, and a failed `pcie_sim_init` leaves the module unloaded. The driver core binds only a
registered, unbound device to the loaded driver, and releases only a bound one; a refused
event changes nothing. -/
def moduleStep : ModuleEvent → ModuleState → Option ModuleState
  | .insmod env, k =>
    if k.loaded then some k
    else (pcieSimInit env k.driver).map fun (ret, s) => ⟨decide (ret = 0), s⟩
  | .rmmod, k => if k.loaded then (pcieSimExit k.driver).map (⟨false, ·⟩) else some k
  | .bind i pe, k =>
    if k.loaded = true ∧ (k.driver.slots i).pdevAdded = true ∧ (k.driver.slots i).bound = false
    then (reallyProbe pe k.driver.globals i (k.driver.slots i)).map fun (_, d) =>
      ⟨true, k.driver.setSlot i d⟩
    else some k
  | .unbind i, k =>
    if k.loaded = true ∧ (k.driver.slots i).bound = true then
      (releaseDriver k.driver.globals (k.driver.slots i)).map fun d =>
        ⟨true, k.driver.setSlot i d⟩
    else some k

/-- A sequence of events; `none` once one of them is undefined. -/
def moduleRun : List ModuleEvent → ModuleState → Option ModuleState
  | [], k => some k
  | e :: es, k => (moduleStep e k).bind (moduleRun es)

/-! ## What probe and remove do -/

/-- A slot whose device has no structure, cdev, device file or proc entry. -/
structure Slot.Unprobed (d : Slot) : Prop where
  devStruct : d.devStruct = none
  registered : d.registered = false
  cdev : d.cdev = false
  devFile : d.devFile = false
  procDir : d.procDir = false
  procStats : d.procStats = false

/-- What a successful probe adds to a slot. -/
def Slot.probed (d : Slot) : Slot :=
  { d with
    devStruct := some ⟨.valid, true, true, .zero, true⟩
    registered := true
    cdev := true
    devFile := true
    procDir := true
    procStats := true }

/-- Every call `pcie_sim_probe` makes succeeds. -/
def ProbeEnv.Ok (pe : ProbeEnv) : Prop :=
  pe.kzalloc = true ∧ pe.cdevAdd = 0 ∧ pe.deviceCreate = 0 ∧ pe.procMkdir = true ∧
    pe.procCreateData = true

instance : DecidablePred ProbeEnv.Ok :=
  fun _ => inferInstanceAs (Decidable (_ ∧ _ ∧ _ ∧ _ ∧ _))

/-- `pcie_sim_char_cleanup` after a successful `pcie_sim_char_init`. -/
theorem pcieSimCharCleanup_spec {g : Globals} (hg : g.devClass = true) {d : Slot}
    {f : DevFields} (hs : d.devStruct = some f) (hf : f.dev = .valid) (hc : d.cdev = true) :
    pcieSimCharCleanup g d = some { d with
      devStruct := some { f with dev := .null }
      devFile := false
      cdev := false } := by
  simp [pcieSimCharCleanup, hs, hf, deviceDestroy, hg, cdevDel, Slot.setFields, hc]

/-- `pcie_sim_proc_cleanup` after a successful `pcie_sim_proc_init`. -/
theorem pcieSimProcCleanup_spec {d : Slot} {f : DevFields} (hs : d.devStruct = some f)
    (hf : f.procStats = true ∧ f.procDir = true) (hd : d.procStats = true ∧ d.procDir = true) :
    pcieSimProcCleanup d = some { d with
      devStruct := some { f with procStats := false, procDir := false }
      procStats := false
      procDir := false } := by
  simp [pcieSimProcCleanup, hs, hf, hd, procRemoveStats, procRemoveDir, Slot.setFields]

/-- `pcie_sim_remove` takes down exactly what a successful probe set up. -/
theorem pcieSimRemove_probed {g : Globals} (hg : g.devClass = true) {d : Slot}
    (hd : d.Unprobed) :
    pcieSimRemove g { d.probed with bound := true } = some (0, { d with bound := true }) := by
  rw [pcieSimRemove, if_pos rfl, pcieSimProcCleanup_spec rfl ⟨rfl, rfl⟩ ⟨rfl, rfl⟩,
    Option.some_bind, pcieSimCharCleanup_spec hg rfl rfl rfl]
  obtain ⟨_, _, _, _, _, _, _, _, _, _⟩ := d
  obtain ⟨rfl, rfl, rfl, rfl, rfl, rfl⟩ := hd
  rfl

/-- `pcie_sim_probe` either sets up the structure, the cdev, the device file and both proc
entries and returns `0`, exactly when every call succeeds, or returns an error with the slot
as it found it. -/
theorem pcieSimProbe_spec (pe : ProbeEnv) {g : Globals} (hg : g.devClass = true) {i : ℕ}
    (hi : i < deviceCount) {d : Slot} (hd : d.Unprobed) :
    ∃ ret, pcieSimProbe pe g i d = some (ret, if ret = 0 then d.probed else d) ∧
      (ret = 0 ↔ pe.Ok) := by
  obtain ⟨pr, pa, pp, b, s, r, c, f, pd, ps⟩ := d
  obtain ⟨rfl, rfl, rfl, rfl, rfl, rfl⟩ := hd
  obtain ⟨kz, ca, dc, pm, pc⟩ := pe
  simp only [pcieSimProbe, ge_iff_le, not_le.2 hi, if_false]
  cases kz
  · exact ⟨-ENOMEM, by simp [ENOMEM], by simp [ENOMEM, ProbeEnv.Ok]⟩
  by_cases hca : ca = 0
  swap
  · exact ⟨ca, by simp [hca, pcieSimCharInit, pcieSimProbeErrChar, kfree],
      by simp [hca, ProbeEnv.Ok]⟩
  by_cases hdc : dc = 0
  swap
  · exact ⟨dc, by simp [hca, hdc, hg, pcieSimCharInit, pcieSimProbeErrChar, kfree, cdevDel,
      Slot.setFields], by simp [hdc, ProbeEnv.Ok]⟩
  cases pm
  · exact ⟨-ENOMEM, by simp [hca, hdc, hg, pcieSimCharInit, pcieSimProcInit, pcieSimCharCleanup,
      deviceDestroy, pcieSimProbeErrChar, kfree, cdevDel, Slot.setFields, ENOMEM],
      by simp [ENOMEM, ProbeEnv.Ok]⟩
  cases pc
  · exact ⟨-ENOMEM, by simp [hca, hdc, hg, pcieSimCharInit, pcieSimProcInit, procRemoveDir,
      pcieSimCharCleanup, deviceDestroy, pcieSimProbeErrChar, kfree, cdevDel, Slot.setFields,
      ENOMEM], by simp [ENOMEM, ProbeEnv.Ok]⟩
  · exact ⟨0, by simp [hca, hdc, hg, pcieSimCharInit, pcieSimProcInit, Slot.setFields,
      Slot.probed, DevFields.zero], by simp [hca, hdc, ProbeEnv.Ok]⟩

/-! ## One device of the load -/

/-- A platform device's slot once `platform_device_add` has registered it. -/
def Slot.added : Slot := { Slot.empty with pdevRef := true, pdevAdded := true, pdevPtr := true }

/-- A registered platform device while the module is loaded: bound with everything
`pcie_sim_probe` creates, or unbound with none of it. -/
def Slot.Live (d : Slot) : Prop := d = Slot.added ∨ d = { Slot.added.probed with bound := true }

/-- Device `i`'s slot after a load: bound, with everything probe creates, when the probe
succeeded; registered and unbound otherwise. -/
def KernelEnv.loadedSlot (env : KernelEnv) (i : ℕ) : Slot :=
  if (env.probe i).Ok then { Slot.added.probed with bound := true } else Slot.added

theorem Slot.added_unprobed : Slot.added.Unprobed := ⟨rfl, rfl, rfl, rfl, rfl, rfl⟩

theorem KernelEnv.loadedSlot_live (env : KernelEnv) (i : ℕ) : (env.loadedSlot i).Live := by
  unfold KernelEnv.loadedSlot
  split_ifs
  · exact .inr rfl
  · exact .inl rfl

/-- The driver core's probe of a registered, unbound device leaves it live: bound with all
five objects when every call of `pcie_sim_probe` succeeds, as it was otherwise. -/
theorem reallyProbe_added (pe : ProbeEnv) {g : Globals} (hg : g.devClass = true) {i : ℕ}
    (hi : i < deviceCount) :
    ∃ ret d, reallyProbe pe g i Slot.added = some (ret, d) ∧ d.Live := by
  obtain ⟨ret, hp, -⟩ := pcieSimProbe_spec pe hg hi Slot.added_unprobed
  refine ⟨ret, _, by rw [reallyProbe, hp]; rfl, ?_⟩
  by_cases h0 : ret = 0
  · exact .inr (by simp only [h0, if_true, decide_True])
  · exact .inl (by simp only [h0, if_false, decide_False]; rfl)

/-- Releasing a bound device takes down exactly what its probe created. -/
theorem releaseDriver_probed {g : Globals} (hg : g.devClass = true) :
    releaseDriver g { Slot.added.probed with bound := true } = some Slot.added := by
  rw [releaseDriver, pcieSimRemove_probed hg Slot.added_unprobed]
  rfl

/-- One pass of the loop of `create_platform_devices` on a fresh slot: the device is
registered, and bound when its probe succeeds, or the pass fails with nothing left. -/
theorem createPlatformDevice_spec (env : KernelEnv) {i : ℕ} (hi : i < deviceCount) :
    ∃ ret, createPlatformDevice env ⟨true, true, true⟩ i Slot.empty =
        some (ret, if ret = 0 then env.loadedSlot i else Slot.empty) ∧
      (ret = 0 ↔ env.platformDeviceAlloc i = true ∧ env.platformDeviceAdd i = 0) := by
  unfold createPlatformDevice
  cases ha : env.platformDeviceAlloc i
  · exact ⟨-ENOMEM, by simp [ENOMEM]; rfl, by simp [ENOMEM]⟩
  by_cases hadd : env.platformDeviceAdd i = 0
  swap
  · refine ⟨env.platformDeviceAdd i, ?_, by simp [hadd]⟩
    simp [platformDeviceAdd, hadd, platformDevicePut]; rfl
  obtain ⟨ret, hp, hok⟩ :=
    pcieSimProbe_spec (env.probe i) (g := ⟨true, true, true⟩) rfl hi Slot.added_unprobed
  refine ⟨0, ?_, by simp [hadd]⟩
  have : ({ { Slot.empty with pdevRef := true, pdevPtr := true } with pdevAdded := true } : Slot) =
      Slot.added := rfl
  simp only [platformDeviceAdd, reallyProbe, hadd, this, hp, ne_eq, not_true_eq_false, if_false,
    if_true, Option.map_some', Option.some_bind, KernelEnv.loadedSlot]
  by_cases h0 : ret = 0
  · simp only [h0, if_true, decide_True, hok.1 h0]
  · simp only [h0, if_false, decide_False, mt hok.2 h0]; rfl

/-- `platform_device_unregister` of a live device takes it down completely. -/
theorem platformDeviceUnregister_live {g : Globals} (hg : g.devClass = true) {d : Slot}
    (hd : d.Live) : platformDeviceUnregister g d = some { Slot.empty with pdevPtr := true } := by
  rcases hd with rfl | rfl
  · rfl
  · simp only [platformDeviceUnregister, platformDeviceDel, releaseDriver_probed hg]
    rfl

/-! ## The loops over the devices -/

/-- Devices below `i` as a load leaves them, the others with nothing. -/
def KernelEnv.slotsBelow (env : KernelEnv) (i : ℕ) : ℕ → Slot :=
  fun j => if j < i then env.loadedSlot j else Slot.empty

section Loops

theorem unregisterPlatformDevice_live {s : DriverState} (hg : s.globals.devClass = true)
    {i : ℕ} (hs : (s.slots i).Live) :
    unregisterPlatformDevice i s = some (s.setSlot i Slot.empty) := by
  have hp : (s.slots i).pdevPtr = true := by rcases hs with h | h <;> rw [h] <;> rfl
  simp only [unregisterPlatformDevice, hp, if_true, platformDeviceUnregister_live hg hs,
    Option.map_some']
  rfl

/-- `cleanup:` takes down every live device below `i`. -/
theorem cleanupPlatformDevices_live (i : ℕ) (s : DriverState) (hg : s.globals.devClass = true)
    (hs : ∀ j < i, (s.slots j).Live) :
    cleanupPlatformDevices i s =
      some { s with slots := fun j => if j < i then Slot.empty else s.slots j } := by
  induction i generalizing s with
  | zero => simp [cleanupPlatformDevices]
  | succ i ih =>
    rw [cleanupPlatformDevices, unregisterPlatformDevice_live hg (hs i (Nat.lt_succ_self i)),
      Option.some_bind, ih (s.setSlot i Slot.empty) hg fun j hj => by
        simpa only [DriverState.setSlot, Function.update_noteq (Nat.ne_of_lt hj)] using
          hs j (by omega)]
    simp only [DriverState.setSlot, Option.some.injEq, DriverState.mk.injEq, true_and]
    funext j
    simp only [Function.update_apply]
    split_ifs <;> (try subst_vars) <;> first | rfl | omega

variable (env : KernelEnv)

/-- The loop of `create_platform_devices` from device `i`: it either loads every device up to
`i + left` or fails with every device taken down. -/
theorem createPlatformDevicesFrom_spec (left i : ℕ) (s : DriverState)
    (hg : s.globals = ⟨true, true, true⟩) (hs : s.slots = env.slotsBelow i)
    (hi : i + left ≤ deviceCount) :
    ∃ ret, createPlatformDevicesFrom env left i s =
        some (ret, { s with
          slots := if ret = 0 then env.slotsBelow (i + left) else fun _ => Slot.empty }) ∧
      (ret = 0 ↔ ∀ j, i ≤ j → j < i + left →
        env.platformDeviceAlloc j = true ∧ env.platformDeviceAdd j = 0) := by
  induction left generalizing i s with
  | zero => exact ⟨0, by simp [createPlatformDevicesFrom, ← hs], by simp; omega⟩
  | succ left ih =>
    have hsi : s.slots i = Slot.empty := by simp [hs, KernelEnv.slotsBelow]
    obtain ⟨r, hr, hok⟩ := createPlatformDevice_spec env (i := i) (by omega)
    rw [createPlatformDevicesFrom, hsi, show s.globals = ⟨true, true, true⟩ from hg, hr,
      Option.some_bind]
    by_cases h0 : r = 0
    · obtain ⟨ret, hret, hok'⟩ := ih (i + 1) (s.setSlot i (env.loadedSlot i)) hg
        (by funext j
            simp only [DriverState.setSlot, hs, KernelEnv.slotsBelow, Function.update_apply]
            split_ifs <;> (try subst_vars) <;> first | rfl | omega) (by omega)
      refine ⟨ret, ?_, ?_⟩
      · simp only [h0, if_true, ne_eq, not_true_eq_false, if_false]
        rw [hret, show i + 1 + left = i + (left + 1) by omega]
        simp only [DriverState.setSlot, hg]
      rw [hok']
      constructor
      · intro h j hj hj'
        rcases Nat.eq_or_lt_of_le hj with rfl | hj
        · exact hok.1 h0
        · exact h j hj (by omega)
      · exact fun h j hj hj' => h j (by omega) (by omega)
    · refine ⟨r, ?_, ?_⟩
      · simp only [if_neg h0, ne_eq, h0, not_false_eq_true, if_true]
        rw [cleanupPlatformDevices_live i _ (by simp [DriverState.setSlot, hg]) fun j hj => by
          simpa only [DriverState.setSlot, Function.update_noteq (Nat.ne_of_lt hj), hs,
            KernelEnv.slotsBelow, if_pos hj] using env.loadedSlot_live j]
        simp only [Option.map_some', DriverState.setSlot, Option.some.injEq, Prod.mk.injEq,
          DriverState.mk.injEq, true_and, hg, if_false]
        funext j
        simp only [Function.update_apply, hs, KernelEnv.slotsBelow]
        split_ifs <;> rfl
      · simp only [h0, false_iff, not_forall]
        exact ⟨i, le_rfl, by omega, fun h => h0 (hok.2 h)⟩

/-- The loop of `destroy_platform_devices` takes down the live devices it passes. -/
theorem destroyPlatformDevicesFrom_live (left i : ℕ) (s : DriverState)
    (hg : s.globals.devClass = true) (hs : ∀ j, i ≤ j → j < i + left → (s.slots j).Live) :
    destroyPlatformDevicesFrom left i s = some { s with
      slots := fun j => if i ≤ j ∧ j < i + left then Slot.empty else s.slots j } := by
  induction left generalizing i s with
  | zero =>
    simp only [destroyPlatformDevicesFrom, Option.some.injEq]
    obtain ⟨g, sl⟩ := s
    simp only [DriverState.mk.injEq, true_and]
    funext j
    rw [if_neg (by omega)]
  | succ left ih =>
    rw [destroyPlatformDevicesFrom, unregisterPlatformDevice_live hg (hs i le_rfl (by omega)),
      Option.some_bind, ih (i + 1) (s.setSlot i Slot.empty) hg fun j hj hj' => by
        simpa only [DriverState.setSlot, Function.update_noteq (show j ≠ i by omega)] using
          hs j (by omega) (by omega)]
    simp only [DriverState.setSlot, Option.some.injEq, DriverState.mk.injEq, true_and]
    funext j
    simp only [Function.update_apply]
    split_ifs <;> (try subst_vars) <;> first | rfl | omega

theorem unbindDevices_of_unbound (left i : ℕ) (s : DriverState)
    (hb : ∀ j, (s.slots j).bound = false) :
    unbindDevices left i s = some s := by
  induction left generalizing i with
  | zero => rfl
  | succ left ih => simp [unbindDevices, hb, ih]

end Loops

/-! ## Loading and unloading -/

/-- The kernel once the module is loaded. -/
def KernelEnv.loaded (env : KernelEnv) : DriverState :=
  ⟨⟨true, true, true⟩, env.slotsBelow deviceCount⟩

/-- Every call of the load succeeds, probes apart. -/
def KernelEnv.LoadOk (env : KernelEnv) : Prop :=
  env.allocChrdevRegion = 0 ∧ env.classCreate = 0 ∧ env.platformDriverRegister = 0 ∧
    ∀ i < deviceCount, env.platformDeviceAlloc i = true ∧ env.platformDeviceAdd i = 0

/-- The kernel with the module loaded: the device numbers, the class and the driver
registered, every platform device live, and nothing past `DEVICE_COUNT`. -/
structure DriverState.Loaded (s : DriverState) : Prop where
  globals : s.globals = ⟨true, true, true⟩
  live : ∀ i < deviceCount, (s.slots i).Live
  beyond : ∀ i, deviceCount ≤ i → s.slots i = Slot.empty

theorem KernelEnv.loaded_loaded (env : KernelEnv) : env.loaded.Loaded :=
  ⟨rfl, fun i hi => by
    simpa only [KernelEnv.loaded, KernelEnv.slotsBelow, if_pos hi] using env.loadedSlot_live i,
    fun i hi => by simp [KernelEnv.loaded, KernelEnv.slotsBelow, not_lt.2 hi]⟩

theorem DriverState.Loaded.setSlot {s : DriverState} (hs : s.Loaded) {i : ℕ}
    (hi : i < deviceCount) {d : Slot} (hd : d.Live) : (s.setSlot i d).Loaded := by
  refine ⟨hs.globals, fun j hj => ?_, fun j hj => ?_⟩ <;>
    by_cases h : j = i <;> simp only [DriverState.setSlot, Function.update_apply, h, if_true,
      if_false]
  · exact hd
  · exact hs.live j hj
  · omega
  · exact hs.beyond j hj

/-- A device of a loaded kernel is live below `DEVICE_COUNT` and absent past it. -/
theorem DriverState.Loaded.slot {s : DriverState} (hs : s.Loaded) (i : ℕ) :
    (i < deviceCount ∧ (s.slots i).Live) ∨ s.slots i = Slot.empty := by
  by_cases hi : i < deviceCount
  · exact .inl ⟨hi, hs.live i hi⟩
  · exact .inr (hs.beyond i (by omega))

theorem platformDriverUnregister_of_unbound {s : DriverState}
    (hd : s.globals.platformDriver = true) (hb : ∀ j, (s.slots j).bound = false) :
    platformDriverUnregister s =
      some { s with globals := { s.globals with platformDriver := false } } := by
  simp [platformDriverUnregister, hd, unbindDevices_of_unbound _ _ s hb]

/-- `pcie_sim_init` from an unloaded kernel either loads the module or returns an error with
the kernel as it was. -/
theorem pcieSimInit_spec (env : KernelEnv) :
    ∃ ret, pcieSimInit env .initial = some (ret, if ret = 0 then env.loaded else .initial) ∧
      (ret = 0 ↔ env.LoadOk) := by
  unfold pcieSimInit
  by_cases h1 : env.allocChrdevRegion = 0
  swap
  · exact ⟨env.allocChrdevRegion, by simp [h1], by simp [h1, KernelEnv.LoadOk]⟩
  by_cases h2 : env.classCreate = 0
  swap
  · exact ⟨env.classCreate, by simp [h1, h2, pcieSimInitErrClass, unregisterChrdevRegion]; rfl,
      by simp [h2, KernelEnv.LoadOk]⟩
  by_cases h3 : env.platformDriverRegister = 0
  swap
  · exact ⟨env.platformDriverRegister, by simp [h1, h2, h3, pcieSimInitErrDriver,
      pcieSimInitErrClass, classDestroy, unregisterChrdevRegion]; rfl,
      by simp [h3, KernelEnv.LoadOk]⟩
  obtain ⟨r, hr, hok⟩ := createPlatformDevicesFrom_spec env deviceCount 0
    ⟨⟨true, true, true⟩, fun _ => Slot.empty⟩ rfl
    (by funext j; simp [KernelEnv.slotsBelow]) le_rfl
  simp only [h1, h2, h3, ne_eq, not_true_eq_false, if_false, createPlatformDevices]
  refine ⟨r, ?_, by simp [KernelEnv.LoadOk, h1, h2, h3, hok]⟩
  simp only [DriverState.initial]
  rw [hr, Option.some_bind]
  by_cases h0 : r = 0
  · simp only [h0, ne_eq, not_true_eq_false, if_false, if_true, zero_add]
    rfl
  · simp only [h0, ne_eq, not_false_eq_true, if_true, if_false, pcieSimInitErrDevices,
      platformDriverUnregister_of_unbound (s := ⟨⟨true, true, true⟩, fun _ => Slot.empty⟩)
        rfl (fun _ => rfl), Option.some_bind, pcieSimInitErrDriver,
      classDestroy, pcieSimInitErrClass, unregisterChrdevRegion]
    rfl

/-- `pcie_sim_exit` of a loaded module, whatever was bound and released since the load,
leaves the kernel as it was before the load. -/
theorem pcieSimExit_of_loaded {s : DriverState} (hs : s.Loaded) :
    pcieSimExit s = some .initial := by
  obtain ⟨g, sl⟩ := s
  obtain rfl : g = ⟨true, true, true⟩ := hs.globals
  have hempty : (fun j => if 0 ≤ j ∧ j < 0 + deviceCount then Slot.empty else sl j) =
      fun _ => Slot.empty := by
    funext j
    split_ifs with h
    · rfl
    · exact hs.beyond j (by omega)
  rw [pcieSimExit, destroyPlatformDevices, destroyPlatformDevicesFrom_live deviceCount 0 _ rfl
    fun j _ hj => hs.live j (by omega), Option.some_bind]
  simp only [hempty]
  rw [platformDriverUnregister_of_unbound rfl (fun _ => rfl)]
  rfl

/-! ## The module's life, over every sequence of events -/

/-- What every run keeps: the module unloaded with nothing of it left, or loaded. -/
def ModuleState.Clean (k : ModuleState) : Prop :=
  (k.loaded = false ∧ k.driver = .initial) ∨ (k.loaded = true ∧ k.driver.Loaded)

/-- Each event, whatever the kernel answers, is defined and keeps `Clean`. -/
theorem ModuleState.Clean.step {k : ModuleState} (h : k.Clean) (e : ModuleEvent) :
    ∃ k', moduleStep e k = some k' ∧ k'.Clean := by
  obtain ⟨l, s⟩ := k
  rcases h with ⟨hl, hs⟩ | ⟨hl, hs⟩ <;> simp only at hl hs <;> subst hl
  · subst hs
    cases e with
    | insmod env =>
      obtain ⟨ret, hi, -⟩ := pcieSimInit_spec env
      refine ⟨⟨decide (ret = 0), if ret = 0 then env.loaded else .initial⟩,
        by rw [moduleStep, if_neg Bool.false_ne_true, hi]; rfl, ?_⟩
      by_cases h0 : ret = 0
      · exact .inr ⟨by simp [h0], by simpa [h0] using env.loaded_loaded⟩
      · exact .inl ⟨by simp [h0], by simp [h0]⟩
    | rmmod => exact ⟨_, rfl, .inl ⟨rfl, rfl⟩⟩
    | bind i pe => exact ⟨_, rfl, .inl ⟨rfl, rfl⟩⟩
    | unbind i => exact ⟨_, rfl, .inl ⟨rfl, rfl⟩⟩
  · have hg : s.globals.devClass = true := by rw [hs.globals]
    cases e with
    | insmod env => exact ⟨_, rfl, .inr ⟨rfl, hs⟩⟩
    | rmmod =>
      exact ⟨⟨false, .initial⟩, by rw [moduleStep, if_pos rfl, pcieSimExit_of_loaded hs]; rfl,
        .inl ⟨rfl, rfl⟩⟩
    | bind i pe =>
      rcases hs.slot i with ⟨hi, h | h⟩ | h
      · obtain ⟨ret, d, hp, hd⟩ := reallyProbe_added pe hg hi
        refine ⟨⟨true, s.setSlot i d⟩, ?_, .inr ⟨rfl, hs.setSlot hi hd⟩⟩
        rw [moduleStep, h, if_pos ⟨rfl, rfl, rfl⟩, hp]
        rfl
      all_goals
        exact ⟨⟨true, s⟩, by rw [moduleStep, h, if_neg fun c => absurd c.2 (by decide)],
          .inr ⟨rfl, hs⟩⟩
    | unbind i =>
      rcases hs.slot i with ⟨hi, h | h⟩ | h
      · exact ⟨⟨true, s⟩, by rw [moduleStep, h, if_neg fun c => absurd c.2 (by decide)],
          .inr ⟨rfl, hs⟩⟩
      · refine ⟨⟨true, s.setSlot i Slot.added⟩, ?_,
          .inr ⟨rfl, hs.setSlot hi (.inl rfl)⟩⟩
        rw [moduleStep, h, if_pos ⟨rfl, rfl⟩, releaseDriver_probed hg]
        rfl
      · exact ⟨⟨true, s⟩, by rw [moduleStep, h, if_neg fun c => absurd c.2 (by decide)],
          .inr ⟨rfl, hs⟩⟩

theorem ModuleState.Clean.run {k : ModuleState} (h : k.Clean) (evs : List ModuleEvent) :
    ∃ k', moduleRun evs k = some k' ∧ k'.Clean := by
  induction evs generalizing k with
  | nil => exact ⟨k, rfl, h⟩
  | cons e evs ih =>
    obtain ⟨k₁, h₁, hc₁⟩ := h.step e
    obtain ⟨k', h', hc'⟩ := ih hc₁
    exact ⟨k', by rw [moduleRun, h₁, Option.some_bind, h'], hc'⟩

/-! ## Results -/

/-- Over every sequence of `insmod`, `rmmod`, binds and releases of platform devices, with
any answers of the kernel to every call the load and each probe make, no step releases an
object twice or one that is not there, or reads the device structure after freeing it. The
kernel is always in one of two shapes: the module unloaded with nothing of it left, or
loaded, with the device numbers, the class and the driver registered and every platform
device registered and either bound with its structure, cdev, `/dev/pcie_simN` and both proc
entries, or unbound with none of them. -/
theorem driver_lifecycle (evs : List ModuleEvent) :
    ∃ k, moduleRun evs ⟨false, .initial⟩ = some k ∧
      (k.loaded = false → k.driver = .initial) ∧ (k.loaded = true → k.driver.Loaded) := by
  have hinit : ModuleState.Clean ⟨false, .initial⟩ := .inl ⟨rfl, rfl⟩
  obtain ⟨k, hrun, hc⟩ := hinit.run evs
  refine ⟨k, hrun, ?_⟩
  rcases hc with ⟨hl, hd⟩ | ⟨hl, hd⟩ <;> simp [hl, hd]

end PcieSim.Kernel

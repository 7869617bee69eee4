import PcieSim.Types

/-!
# The library's call interface

`lib/core.c` forwards the five calls of `lib/api.h` to whichever simulation backend the
build has (`pcie_sim_*_linux` or `pcie_sim_*_impl`). A backend is modelled as a step
function from a call and its global state to the reply and the next state; a program is
a list of calls, and `trace` pairs each call with the reply it got (for any step function:
the kernel's ioctl runs use it too).

A handle is the `struct pcie_sim_handle` an open returned; only its `device_id` is ever
read, and the open checked it against `MAX_DEVICES`, so it is a `Fin maxDevices`.
Output pointers (`*handle`, `*stats`, `*latency_ns`) become parts of the reply.
-/

namespace PcieSim.Sim

/-- `struct pcie_sim_handle`: the device it was opened for. -/
structure PcieSimHandle where
  deviceId : Fin maxDevices
deriving Repr, DecidableEq

/-- One library call; a `none` handle is a NULL `pcie_sim_handle_t`. The latency of a
transfer is what the backend's clock measures around it. -/
inductive SimOp
  | open (deviceId : Int) (mallocOk : Bool)
  | close (handle : Option PcieSimHandle)
  | transfer (handle : Option PcieSimHandle) (buffer size : UInt64) (direction : UInt32)
      (latency : UInt64)
  | getStats (handle : Option PcieSimHandle)
  | resetStats (handle : Option PcieSimHandle)
deriving Repr, DecidableEq

/-- The device slot an id names, when `0 <= device_id < MAX_DEVICES` as both opens check. -/
def deviceSlot? (deviceId : Int) : Option (Fin maxDevices) :=
  if h : 0 ≤ deviceId ∧ deviceId < maxDevices then
    some ⟨deviceId.toNat, by have := h.2; unfold maxDevices at *; omega⟩
  else none

theorem deviceSlot?_val (d : Fin maxDevices) : deviceSlot? (d : Int) = some d := by
  have := d.isLt
  simp only [deviceSlot?, maxDevices] at this ⊢
  rw [dif_pos ⟨by omega, by omega⟩]
  simp

theorem eq_of_deviceSlot? {deviceId : Int} {d : Fin maxDevices}
    (h : deviceSlot? deviceId = some d) : deviceId = d := by
  unfold deviceSlot? at h
  split_ifs at h with hr
  cases h
  simp only [Fin.val_mk]
  omega

theorem deviceSlot?_eq_some_iff {deviceId : Int} {d : Fin maxDevices} :
    deviceSlot? deviceId = some d ↔ deviceId = d :=
  ⟨eq_of_deviceSlot?, fun h => h ▸ deviceSlot?_val d⟩

/-- What a call hands back: an error code alone, or success with its output. -/
inductive SimReply
  | ret (e : PcieSimError)
  | opened (h : PcieSimHandle)
  | transferred (latencyNs : UInt64)
  | stats (s : PcieSimStats)
deriving Repr, DecidableEq

/-- The device a call is made on: the one an open names, or the one its handle was opened
for; `none` for a NULL handle. -/
def SimOp.device? : SimOp → Option Int
  | .open deviceId _ => some deviceId
  | .close h | .transfer h .. | .getStats h | .resetStats h => h.map fun x => (x.deviceId : Int)

/-- The handle a call is made through; an open has none. -/
def SimOp.handle? : SimOp → Option PcieSimHandle
  | .open .. => none
  | .close h | .transfer h .. | .getStats h | .resetStats h => h

/-- The call is made on device `d`. -/
def SimOp.onDevice (d : Fin maxDevices) (op : SimOp) : Bool := op.device? == some (d : Int)

section Runs

variable {ι ρ σ : Type} (step : ι → σ → ρ × σ)

/-- Each call of a program with the reply it got. -/
def trace : List ι → σ → List (ι × ρ)
  | [], _ => []
  | op :: ops, s => (op, (step op s).1) :: trace ops (step op s).2

/-- The state a program leaves. -/
def exec : List ι → σ → σ
  | [], s => s
  | op :: ops, s => exec ops (step op s).2

end Runs

end PcieSim.Sim

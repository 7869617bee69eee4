import PcieSim.Sim.Linux
import PcieSim.Sim.Windows

/-!
# Device independence of the simulation backends

Both backends keep one slot per device, and a device's calls read and write only its own
slot; the only state they share is the initialized flag, which the first successful init
sets. On Linux the init cannot fail, so running a program and keeping the calls made on
device `d` gives the same replies as running those calls alone. On Windows each init gets
its own `CreateMutex` answers and runs again at the next open until it succeeds: once
another device's open has initialized the backend, an open of `d` runs no init inside the
program, while alone it would run one. So independence holds of the programs in which no
open of `d` meets a failing `CreateMutex`, and fails otherwise.

* `trace_filter_of_simulation`: one induction over the program for any two step
  functions, from a relation between the full run's state and the projected run's state
  that a kept call (satisfying a side condition) keeps with equal replies and that any other
  call, made on the full run only, keeps too;
* the relation for each backend: for Linux the slot itself, for Windows what `d`'s calls can
  observe of the slot (`WindowsSim.view`), which hides whether another device's open already
  ran the init;
* `device_independence`, the frame fact for calls on another device's handle, and
  `windows_retried_init_dependence`, a program where an open of `d` gets another reply
  alone.
-/

namespace PcieSim.Sim

/-! ## Projecting a run -/

section Projection

variable {ι ρ σ τ : Type} (stepS : ι → σ → ρ × σ) (stepT : ι → τ → ρ × τ)
  (p : ι → Bool) (R : σ → τ → Prop) (ok : ι → Prop)

/-- The calls kept by `p`, each satisfying `ok`, get inside the full run the replies they
get alone. -/
theorem trace_filter_of_simulation
    (hon : ∀ s t op, R s t → p op = true → ok op →
      (stepS op s).1 = (stepT op t).1 ∧ R (stepS op s).2 (stepT op t).2)
    (hoff : ∀ s t op, R s t → p op = false → R (stepS op s).2 t)
    (ops : List ι) (hok : ∀ op ∈ ops, p op = true → ok op) (s : σ) (t : τ) (h : R s t) :
    (trace stepS ops s).filter (fun e => p e.1) = trace stepT (ops.filter p) t := by
  induction ops generalizing s t with
  | nil => rfl
  | cons op ops ih =>
    have hrest := ih fun op' h' => hok op' (List.mem_cons_of_mem _ h')
    cases hp : p op
    · simp [trace, List.filter_cons, hp, hrest _ _ (hoff s t op h hp)]
    · obtain ⟨hr, h'⟩ := hon s t op h hp (hok op (List.mem_cons_self _ _) hp)
      simp [trace, List.filter_cons, hp, hr, hrest _ _ h']

end Projection

/-! ## The Linux backend -/

section Linux

variable {d : Fin maxDevices}

/-- The two Linux runs agree on slot `d`. -/
def LinuxSameSlot (d : Fin maxDevices) (s t : LinuxSim) : Prop :=
  s.Coherent ∧ t.Coherent ∧ s.devices d = t.devices d

theorem LinuxSameSlot.step_on {s t : LinuxSim} {op : SimOp} (h : LinuxSameSlot d s t)
    (hop : op.onDevice d = true) :
    (linuxStep op s).1 = (linuxStep op t).1 ∧
      LinuxSameSlot d (linuxStep op s).2 (linuxStep op t).2 := by
  obtain ⟨hs, ht, hd⟩ := h
  obtain ⟨hs', hsc⟩ := linuxStep_devices (d := d) hs op
  obtain ⟨ht', htc⟩ := linuxStep_devices (d := d) ht op
  exact ⟨linuxStep_reply_congr hop hd, hsc, htc, by rw [hs', ht', hd]⟩

theorem LinuxSameSlot.step_off {s t : LinuxSim} {op : SimOp} (h : LinuxSameSlot d s t)
    (hop : op.onDevice d = false) : LinuxSameSlot d (linuxStep op s).2 t := by
  obtain ⟨hs, ht, hd⟩ := h
  obtain ⟨hs', hsc⟩ := linuxStep_devices (d := d) hs op
  exact ⟨hsc, ht, by rw [hs', linuxSlotStep_of_not_on hop, hd]⟩

/-- A call through another device's handle leaves slot `d` as it was. -/
theorem linuxStep_devices_of_handle {s : LinuxSim} {op : SimOp} {h : PcieSimHandle}
    (hh : op.handle? = some h) (hne : h.deviceId ≠ d) :
    (linuxStep op s).2.devices d = s.devices d := by
  rcases op with ⟨deviceId, m⟩ | (_ | h') | ⟨_ | h', b, z, dir, l⟩ | (_ | h') | (_ | h') <;>
    simp only [SimOp.handle?, reduceCtorEq, Option.some.injEq] at hh
  all_goals subst hh
  · rfl
  · simp only [linuxStep, pcieSimTransferLinux]; split_ifs <;> simp [Ne.symm hne]
  · simp only [linuxStep, pcieSimGetStatsLinux]; split_ifs <;> rfl
  · simp only [linuxStep, pcieSimResetStatsLinux]; split_ifs <;> simp [Ne.symm hne]

end Linux

/-! ## The Windows backend -/

section Windows

variable {env : WindowsEnv} {d : Fin maxDevices}

/-- The two Windows runs agree on what `d`'s calls can observe of slot `d`. -/
def WindowsSameView (d : Fin maxDevices) (s t : WindowsSim) : Prop :=
  s.Normal ∧ t.Normal ∧ s.view d = t.view d

/-- A state answers a call on `d` that runs no failing init like an initialized state whose
slot `d` shows the view. -/
theorem windows_settle {s : WindowsSim} (hs : s.Normal) {op : SimOp}
    (hop : op.onDevice d = true)
    (hopen : ∀ deviceId m, op = .open deviceId m → env.mutexFailsAt = none) :
    ∃ s' : WindowsSim, s'.initialized = true ∧ (s'.devices d).seen = s.view d ∧
      (windowsStep env op s).1 = (windowsStep env op s').1 ∧
      (windowsStep env op s).2.view d = (windowsStep env op s').2.view d := by
  cases hi : s.initialized
  · exact ⟨_, rfl, by simp [WindowsSim.view, hi, WindowsSim.settled, freshDevice,
      WindowsDeviceState.seen], windowsStep_of_not_initialized hs hi hop hopen⟩
  · exact ⟨s, hi, by simp [WindowsSim.view, hi], rfl, rfl⟩

theorem WindowsSameView.step_on {s t : WindowsSim} {op : SimOp}
    (h : WindowsSameView d s t) (hop : op.onDevice d = true)
    (hopen : ∀ deviceId m, op = .open deviceId m → env.mutexFailsAt = none) :
    (windowsStep env op s).1 = (windowsStep env op t).1 ∧
      WindowsSameView d (windowsStep env op s).2 (windowsStep env op t).2 := by
  obtain ⟨hs, ht, hv⟩ := h
  obtain ⟨s', hs'i, hs'd, hsr, hsv⟩ := windows_settle hs hop hopen
  obtain ⟨t', ht'i, ht'd, htr, htv⟩ := windows_settle ht hop hopen
  have hc := windowsStep_congr_on hs'i ht'i (by rw [hs'd, ht'd, hv]) hop env env
  refine ⟨by rw [hsr, htr]; exact hc.1, hs.step env op, ht.step env op, ?_⟩
  rw [hsv, htv]
  simp only [WindowsSim.view, windowsStep_initialized hs'i, windowsStep_initialized ht'i,
    if_true]
  exact hc.2

theorem WindowsSameView.step_off {s t : WindowsSim} {op : SimOp}
    (h : WindowsSameView d s t) (hop : op.onDevice d = false) :
    WindowsSameView d (windowsStep env op s).2 t := by
  obtain ⟨hs, ht, hv⟩ := h
  exact ⟨hs.step env op, ht, by rw [windowsStep_view_of_not_on hs hop, hv]⟩

/-- A call through another device's handle leaves slot `d` as it was. -/
theorem windowsStep_devices_of_handle {s : WindowsSim} {op : SimOp} {h : PcieSimHandle}
    (hh : op.handle? = some h) (hne : h.deviceId ≠ d) :
    (windowsStep env op s).2.devices d = s.devices d := by
  rcases op with ⟨deviceId, m⟩ | (_ | h') | ⟨_ | h', b, z, dir, l⟩ | (_ | h') | (_ | h') <;>
    simp only [SimOp.handle?, reduceCtorEq, Option.some.injEq] at hh
  all_goals subst hh
  · simp [windowsStep, pcieSimCloseImpl, Ne.symm hne]
  · simp only [windowsStep, pcieSimTransferImpl]; split_ifs <;> simp [Ne.symm hne]
  · simp only [windowsStep, pcieSimGetStatsImpl]; split_ifs <;> rfl
  · simp only [windowsStep, pcieSimResetStatsImpl]; split_ifs <;> simp [Ne.symm hne]

end Windows

/-! ## Independence -/

/-- In both simulation backends a call through a handle of another device leaves `d`'s slot
unchanged. On Linux, the calls made on device `d` get the same replies, result codes and
statistics snapshots inside any program as they get when run alone from program start. On
Windows, where each call gets its own answers from the Windows APIs, the same holds of every
program in which no open of `d` meets a failing `CreateMutex`, whatever the opens of the
other devices meet. -/
theorem device_independence (d : Fin maxDevices) (ops : List SimOp)
    (calls : List (WindowsEnv × SimOp))
    (hmutex : ∀ (env : WindowsEnv) (m : Bool), (env, SimOp.open d m) ∈ calls →
      env.mutexFailsAt = none) :
    (trace linuxStep ops LinuxSim.initial).filter (fun e => e.1.onDevice d) =
        trace linuxStep (ops.filter (SimOp.onDevice d)) LinuxSim.initial ∧
      (trace windowsCall calls WindowsSim.initial).filter (fun e => e.1.2.onDevice d) =
        trace windowsCall (calls.filter fun c => c.2.onDevice d) WindowsSim.initial ∧
      (∀ (s : LinuxSim) (op : SimOp) (h : PcieSimHandle), op.handle? = some h →
        h.deviceId ≠ d → (linuxStep op s).2.devices d = s.devices d) ∧
      (∀ (env : WindowsEnv) (s : WindowsSim) (op : SimOp) (h : PcieSimHandle),
        op.handle? = some h → h.deviceId ≠ d → (windowsStep env op s).2.devices d = s.devices d) := by
  have hopen : ∀ c ∈ calls, c.2.onDevice d = true →
      ∀ deviceId m, c.2 = .open deviceId m → c.1.mutexFailsAt = none := by
    rintro ⟨env, op⟩ hc hop deviceId m rfl
    obtain rfl : deviceId = d := by simpa [SimOp.onDevice, SimOp.device?] using hop
    exact hmutex env m hc
  exact ⟨trace_filter_of_simulation linuxStep linuxStep (SimOp.onDevice d) (LinuxSameSlot d)
      (fun _ => True) (fun _ _ _ h hop _ => h.step_on hop) (fun _ _ _ h hop => h.step_off hop)
      ops (fun _ _ _ => trivial) _ _ ⟨LinuxSim.coherent_initial, LinuxSim.coherent_initial, rfl⟩,
    trace_filter_of_simulation windowsCall windowsCall (fun c => c.2.onDevice d)
      (WindowsSameView d) (fun c => ∀ deviceId m, c.2 = .open deviceId m → c.1.mutexFailsAt = none)
      (fun _ _ _ h hop hok => h.step_on hop hok) (fun _ _ _ h hop => h.step_off hop) calls hopen
      _ _ ⟨WindowsSim.normal_initial, WindowsSim.normal_initial, rfl⟩,
    fun _ _ _ hh hne => linuxStep_devices_of_handle hh hne,
    fun _ _ _ _ hh hne => windowsStep_devices_of_handle hh hne⟩

/-- Device 1's open first fails to create the mutex of slot 2; device 0's open then
initializes the backend, and device 1's next open, whose answers would fail at slot 5,
runs no init. Transfers, a reset and snapshots follow on both devices. -/
theorem device_independence_retried_init :
    (∀ (env : WindowsEnv) (m : Bool), (env, SimOp.open (0 : Fin maxDevices) m) ∈
      [(⟨some 2, none⟩, SimOp.open 1 true), (⟨none, none⟩, .open 0 true),
        (⟨some 5, none⟩, .open 1 true), (⟨none, none⟩, .transfer (some ⟨1⟩) 0x2000 512 0 9000),
        (⟨none, none⟩, .transfer (some ⟨0⟩) 0x1000 4096 0 20000),
        (⟨none, none⟩, .resetStats (some ⟨1⟩)), (⟨none, none⟩, .getStats (some ⟨0⟩))] →
      env.mutexFailsAt = none) ∧
    ((trace linuxStep [.open 1 true, .open 0 true, .transfer (some ⟨0⟩) 0x1000 4096 0 20000,
        .getStats (some ⟨0⟩)] LinuxSim.initial).filter (fun e => e.1.onDevice 0) =
      trace linuxStep ([SimOp.open 1 true, .open 0 true,
        .transfer (some ⟨0⟩) 0x1000 4096 0 20000, .getStats (some ⟨0⟩)].filter
          (SimOp.onDevice 0)) LinuxSim.initial ∧
    (trace windowsCall [(⟨some 2, none⟩, SimOp.open 1 true), (⟨none, none⟩, .open 0 true),
        (⟨some 5, none⟩, .open 1 true), (⟨none, none⟩, .transfer (some ⟨1⟩) 0x2000 512 0 9000),
        (⟨none, none⟩, .transfer (some ⟨0⟩) 0x1000 4096 0 20000),
        (⟨none, none⟩, .resetStats (some ⟨1⟩)), (⟨none, none⟩, .getStats (some ⟨0⟩))]
        WindowsSim.initial).filter (fun e => e.1.2.onDevice 0) =
      trace windowsCall ([(⟨some 2, none⟩, SimOp.open 1 true), (⟨none, none⟩, .open 0 true),
        (⟨some 5, none⟩, .open 1 true), (⟨none, none⟩, .transfer (some ⟨1⟩) 0x2000 512 0 9000),
        (⟨none, none⟩, .transfer (some ⟨0⟩) 0x1000 4096 0 20000),
        (⟨none, none⟩, .resetStats (some ⟨1⟩)), (⟨none, none⟩, .getStats (some ⟨0⟩))].filter
          fun c => c.2.onDevice 0) WindowsSim.initial ∧
    (∀ (s : LinuxSim) (op : SimOp) (h : PcieSimHandle), op.handle? = some h →
      h.deviceId ≠ 0 → (linuxStep op s).2.devices 0 = s.devices 0) ∧
    (∀ (env : WindowsEnv) (s : WindowsSim) (op : SimOp) (h : PcieSimHandle),
      op.handle? = some h → h.deviceId ≠ 0 → (windowsStep env op s).2.devices 0 = s.devices 0)) := by
  refine ⟨?hmutex, device_independence 0 _ _ ?hmutex⟩
  intro env m h
  simp only [List.mem_cons, Prod.mk.injEq, SimOp.open.injEq, reduceCtorEq, and_false,
    List.mem_nil_iff, or_false] at h
  rcases h with ⟨-, h, -⟩ | ⟨rfl, -⟩ | ⟨-, h, -⟩
  · exact absurd h (by decide)
  · rfl
  · exact absurd h (by decide)

/-- Each call with its own answers: device 1's open initializes the backend, so device 0's
open, whose init would fail to create the mutex of slot 0, succeeds inside the program,
while alone it fails with `PCIE_SIM_ERROR_SYSTEM`. -/
theorem windows_retried_init_dependence :
    (trace windowsCall [(⟨none, none⟩, .open 1 true), (⟨some 0, none⟩, .open 0 true)]
        WindowsSim.initial).filter (fun e => e.1.2.onDevice 0) =
      [((⟨some 0, none⟩, .open 0 true), .opened ⟨0⟩)] ∧
    trace windowsCall ([(⟨none, none⟩, SimOp.open 1 true), (⟨some 0, none⟩, .open 0 true)].filter
        fun c => c.2.onDevice 0) WindowsSim.initial =
      [((⟨some 0, none⟩, .open 0 true), .ret .errorSystem)] :=
  ⟨rfl, rfl⟩

end PcieSim.Sim

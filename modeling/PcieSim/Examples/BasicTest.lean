import PcieSim.Lib.Monitor

/-!
# `examples/basic_test.c`: the library's example program

`main` opens one device and resets its statistics. It then makes ten 4096-byte writes and
one 1024-byte read-back, reads the statistics, and closes the device. A failed transfer is
reported and skipped, so once the open has succeeded the calls it makes do not depend on
their replies. The program runs against either backend's step.

* `basicTestSession_run`: against a `StatsView`, the session makes every transfer and
  reports the eleven folded onto a reset block;
* `basicTest_linux` / `basicTest_windows`: on both backends every device id from 0 to 7
  opens and every transfer succeeds. The statistics it prints follow the backend's law for
  the eleven transfers. Ids outside that range fail with `PCIE_SIM_ERROR_PARAM`, and on
  Windows a failed mutex creation fails the open with `PCIE_SIM_ERROR_SYSTEM`.
-/

namespace PcieSim.Sim

/-- A call's reply reports a transfer made. -/
def SimReply.transferred? : SimReply → Bool
  | .transferred _ => true
  | _ => false

/-- The statistics a reply carries. -/
def SimReply.stats? : SimReply → Option PcieSimStats
  | .stats s => some s
  | _ => none

/-- The error code a call returns: `PCIE_SIM_SUCCESS` with the outputs of a call that
succeeded. -/
def SimReply.code : SimReply → PcieSimError
  | .ret e => e
  | _ => .success

end PcieSim.Sim

namespace PcieSim.Examples

open PcieSim.Sim PcieSim.Lib

/-- How `basic_test` ends: the open failed with `e`, or it ran to the end. Running to the
end records whether each write succeeded, whether the read-back did, and the statistics
`pcie_sim_get_stats` returned, if it returned them. -/
inductive BasicTestEnd
  | openFailed (e : PcieSimError)
  | completed (writes : List Bool) (readBack : Bool) (stats : Option PcieSimStats)
deriving Repr, DecidableEq

section Program

variable {σ : Type} (step : SimOp → σ → SimReply × σ)

/-- The first `n` writes of `basic_test`: 4096 bytes from `buffer` to the device, the
`i`-th measuring `latency i`. A failed one is reported and skipped. -/
def basicTestWrites (h : PcieSimHandle) (buffer : UInt64) (latency : ℕ → UInt64) :
    ℕ → StateM σ (List Bool)
  | 0 => pure []
  | n + 1 => do
    let oks ← basicTestWrites h buffer latency n
    let r ← modifyGet (step (.transfer (some h) buffer 4096 pcieSimToDevice (latency n)))
    pure (oks ++ [r.transferred?])

/-- `basic_test` after its open returned the handle `h`. -/
def basicTestSession (h : PcieSimHandle) (buffer : UInt64) (latency : ℕ → UInt64) :
    StateM σ BasicTestEnd := do
  let _ ← modifyGet (step (.resetStats (some h)))
  let writes ← basicTestWrites step h buffer latency 10
  let readBack ← modifyGet (step (.transfer (some h) buffer 1024 pcieSimFromDevice (latency 10)))
  let st ← modifyGet (step (.getStats (some h)))
  let _ ← modifyGet (step (.close (some h)))
  pure (.completed writes readBack.transferred? st.stats?)

/-- `main` of `examples/basic_test.c` on device `deviceId` (`atoi(argv[1])`, `0` without
it). `buffer` is the address of its stack array; the `i`-th transfer measures
`latency i`. -/
def basicTest (deviceId : Int) (mallocOk : Bool) (buffer : UInt64) (latency : ℕ → UInt64) :
    StateM σ BasicTestEnd := do
  match ← modifyGet (step (.open deviceId mallocOk)) with
  | .opened h => basicTestSession step h buffer latency
  | r => pure (.openFailed r.code)

end Program

/-- The transfers `basic_test` makes: ten writes of 4096 bytes, then a read-back of 1024. -/
def basicTestSamples (latency : ℕ → UInt64) : List Sample :=
  benchmarkSamples 4096 latency 10 ++ [⟨1024, latency 10⟩]

section Session

variable {σ : Type} {step : SimOp → σ → SimReply × σ} {h : PcieSimHandle}
  (v : StatsView step h) {buffer : UInt64} (latency : ℕ → UInt64)

theorem basicTestWrites_run {record : PcieSimStats → UInt64 → PcieSimStats}
    (hr : v.Records buffer 4096 .toDevice record) (n : ℕ) (x : PcieSimStats) :
    (basicTestWrites step h buffer latency n).run (v.withStats x) =
      (List.replicate n true,
        v.withStats ((List.range n).foldl (fun st i => record st (latency i)) x)) := by
  induction n with
  | zero => rfl
  | succ n ih =>
    have hstep := hr ((List.range n).foldl (fun st i => record st (latency i)) x) (latency n)
    simp only [basicTestWrites, StateT.run_bind, ih, StateT.run_modifyGet, StateT.run_pure,
      Id.bind_eq, Id.pure_eq]
    rw [show pcieSimToDevice = Direction.toDevice.toUInt32 from rfl, hstep]
    simp [List.range_succ, List.replicate_succ', SimReply.transferred?]

/-- After its open, `basic_test` on a device whose transfers `v` records makes all its
transfers, and reports the read-back folded onto the ten writes from a reset block. -/
theorem basicTestSession_run {record₁ record₂ : PcieSimStats → UInt64 → PcieSimStats}
    (hw : v.Records buffer 4096 .toDevice record₁)
    (hrb : v.Records buffer 1024 .fromDevice record₂) (x : PcieSimStats) :
    ((basicTestSession step h buffer latency).run (v.withStats x)).1 =
      .completed (List.replicate 10 true) true
        (some (record₂ ((List.range 10).foldl (fun st i => record₁ st (latency i)) v.fresh)
          (latency 10))) := by
  simp only [basicTestSession, StateT.run_bind, StateT.run_modifyGet, StateT.run_pure,
    Id.bind_eq, Id.pure_eq, v.reset, basicTestWrites_run v latency hw]
  rw [show pcieSimFromDevice = Direction.fromDevice.toUInt32 from rfl, hrb, v.getStats]
  rfl

end Session

/-! ## On the two backends -/

theorem mem_basicTestSamples {latency : ℕ → UInt64} {y : Sample}
    (hy : y ∈ basicTestSamples latency) : ∃ i < 11, y.latency = latency i := by
  simp only [basicTestSamples, benchmarkSamples, List.mem_append, List.mem_map, List.mem_range,
    List.mem_singleton] at hy
  rcases hy with ⟨i, hi, rfl⟩ | rfl
  · exact ⟨i, by omega, rfl⟩
  · exact ⟨10, by omega, rfl⟩

/-- On the Linux backend, from any state, `basic_test` on every device id from 0 to 7 opens
the device and makes all eleven transfers. The statistics it prints follow the running law
for exactly those transfers, while their latencies stay below `2^63`. Any other id fails its
open with `PCIE_SIM_ERROR_PARAM`. -/
theorem basicTest_linux {buffer : UInt64} (hb : buffer ≠ 0) (latency : ℕ → UInt64)
    (hlat : ∀ i < 11, (latency i).toNat < 2 ^ 63) (s : LinuxSim) :
    (∀ d : Fin maxDevices, ∃ snap,
      ((basicTest linuxStep d true buffer latency).run s).1 =
        .completed (List.replicate 10 true) true (some snap) ∧
      RunningLaw snap (basicTestSamples latency)) ∧
    (∀ deviceId mallocOk, deviceSlot? deviceId = none →
      ((basicTest linuxStep deviceId mallocOk buffer latency).run s).1 =
        .openFailed .errorParam) := by
  refine ⟨fun d => ?_, fun deviceId mallocOk hslot => ?_⟩
  · have hopen : (linuxStep (.open d true) s).1 = .opened ⟨d⟩ := by
      simpa using linuxStep_open_of_lt d.isLt true s
    have hrun : ((basicTest linuxStep d true buffer latency).run s).1 =
        ((basicTestSession linuxStep ⟨d⟩ buffer latency).run
          (linuxStep (.open d true) s).2).1 := by
      simp only [basicTest, StateT.run_bind, StateT.run_modifyGet, Id.bind_eq, Id.pure_eq, hopen]
    rw [hrun, ← linuxView_self (linuxStep (.open d true) s).2 d, basicTestSession_run _ latency
      (linuxView_records _ d .toDevice hb (by decide))
      (linuxView_records _ d .fromDevice hb (by decide))]
    have hlaw := linux_benchmark_law 4096 latency 10 (by decide) fun i hi => hlat i (by omega)
    refine ⟨_, rfl, linuxRecordTransfer_law hlaw ⟨1024, latency 10⟩ (by simp) fun y hy => ?_⟩
    obtain ⟨i, hi, hy⟩ := mem_basicTestSamples hy
    exact hy ▸ hlat i hi
  · simp [basicTest, linuxStep, pcieSimOpenLinux, hslot, SimReply.code]

/-- Every transfer taking 20 µs, from program start. -/
theorem basicTest_linux_fixed_clock :
    (∀ d : Fin maxDevices, ∃ snap,
      ((basicTest linuxStep d true 1 fun _ => 20000).run LinuxSim.initial).1 =
        .completed (List.replicate 10 true) true (some snap) ∧
      RunningLaw snap (basicTestSamples fun _ => 20000)) ∧
    (∀ deviceId mallocOk, deviceSlot? deviceId = none →
      ((basicTest linuxStep deviceId mallocOk 1 fun _ => 20000).run LinuxSim.initial).1 =
        .openFailed .errorParam) :=
  basicTest_linux (by decide) _ (fun _ _ => by decide) _

theorem windowsStep_open_initial {env : WindowsEnv} (he : env.mutexFailsAt = none)
    (d : Fin maxDevices) :
    (windowsStep env (.open d true) WindowsSim.initial).1 = .opened ⟨d⟩ ∧
      ((windowsStep env (.open d true) WindowsSim.initial).2.devices d).active = true := by
  simp [windowsStep, pcieSimOpenImpl, deviceSlot?_val, windowsSimInit, WindowsSim.initial,
    windowsInitSlot, he]

theorem windowsStep_open_mutex_fails {env : WindowsEnv} (he : env.mutexFailsAt ≠ none)
    (d : Fin maxDevices) (b : Bool) :
    (windowsStep env (.open d b) WindowsSim.initial).1 = .ret .errorSystem := by
  simp [windowsStep, pcieSimOpenImpl, deviceSlot?_val, windowsSimInit, WindowsSim.initial, he]

/-- On the Windows backend, from program start, `basic_test` on every device id from 0 to 7
opens the device and makes all eleven transfers when every mutex is created. The statistics
it prints follow the Windows law for exactly those transfers. When a mutex creation fails,
every open fails with `PCIE_SIM_ERROR_SYSTEM`, and any id outside 0 to 7 fails with
`PCIE_SIM_ERROR_PARAM`. -/
theorem basicTest_windows (env : WindowsEnv) {buffer : UInt64} (hb : buffer ≠ 0)
    (latency : ℕ → UInt64) :
    (env.mutexFailsAt = none → ∀ d : Fin maxDevices, ∃ snap,
      ((basicTest (windowsStep env) d true buffer latency).run .initial).1 =
        .completed (List.replicate 10 true) true (some snap) ∧
      WindowsLaw snap (basicTestSamples latency)) ∧
    (env.mutexFailsAt ≠ none → ∀ (d : Fin maxDevices) mallocOk,
      ((basicTest (windowsStep env) d mallocOk buffer latency).run .initial).1 =
        .openFailed .errorSystem) ∧
    (∀ deviceId mallocOk, deviceSlot? deviceId = none →
      ((basicTest (windowsStep env) deviceId mallocOk buffer latency).run .initial).1 =
        .openFailed .errorParam) := by
  refine ⟨fun he d => ?_, fun he d mallocOk => ?_, fun deviceId mallocOk hslot => ?_⟩
  · obtain ⟨hopen, hact⟩ := windowsStep_open_initial he d
    have hrun : ((basicTest (windowsStep env) d true buffer latency).run .initial).1 =
        ((basicTestSession (windowsStep env) ⟨d⟩ buffer latency).run
          (windowsStep env (.open d true) .initial).2).1 := by
      simp only [basicTest, StateT.run_bind, StateT.run_modifyGet, Id.bind_eq, Id.pure_eq, hopen]
    rw [hrun, ← windowsView_self env _ d hact, basicTestSession_run _ latency
      (windowsView_records env _ d hact .toDevice hb (by decide) (by decide))
      (windowsView_records env _ d hact .fromDevice hb (by decide) (by decide))]
    exact ⟨_, rfl, windowsRecordTransfer_law (windows_benchmark_law 4096 latency 10 (by decide))
      1024 (latency 10) (by simp)⟩
  · simp only [basicTest, StateT.run_bind, StateT.run_modifyGet, Id.bind_eq, Id.pure_eq,
      windowsStep_open_mutex_fails he]
    rfl
  · simp [basicTest, windowsStep, pcieSimOpenImpl, hslot, SimReply.code]

/-- Every transfer taking 20 µs, with every mutex created and the performance counter's
frequency unknown. -/
theorem basicTest_windows_fixed_clock :
    ((⟨none, none⟩ : WindowsEnv).mutexFailsAt = none → ∀ d : Fin maxDevices, ∃ snap,
      ((basicTest (windowsStep ⟨none, none⟩) d true 1 fun _ => 20000).run .initial).1 =
        .completed (List.replicate 10 true) true (some snap) ∧
      WindowsLaw snap (basicTestSamples fun _ => 20000)) ∧
    ((⟨none, none⟩ : WindowsEnv).mutexFailsAt ≠ none → ∀ (d : Fin maxDevices) mallocOk,
      ((basicTest (windowsStep ⟨none, none⟩) d mallocOk 1 fun _ => 20000).run .initial).1 =
        .openFailed .errorSystem) ∧
    (∀ deviceId mallocOk, deviceSlot? deviceId = none →
      ((basicTest (windowsStep ⟨none, none⟩) deviceId mallocOk 1 fun _ => 20000).run
        .initial).1 = .openFailed .errorParam) :=
  basicTest_windows _ (by decide) _

end PcieSim.Examples

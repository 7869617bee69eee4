import PcieSim.Lib.Device
import PcieSim.Sim.WindowsStats

/-!
# `lib/monitor.hpp`: the benchmark runner

`BenchmarkRunner::run_benchmark` resets the statistics, makes the warm-up transfers and
resets again, makes the measured transfers, and reads its metrics off one statistics
snapshot. Its loops throw at the first transfer the backend refuses.

The run is proved once, against a `StatsView`: a backend seen through the statistics
block of one device, with the laws the benchmark's three calls obey there. Each backend
supplies its view, and the spec's laws for its block then give:

* `runBenchmark_linux` / `runBenchmark_windows`: for every configuration the backend
  accepts and every latency its clock measures, the benchmark does not throw, and its
  snapshot holds exactly the measured transfers. The warm-up never shows, and no other
  device changes;
* `runBenchmark_refused_linux` / `runBenchmark_refused_windows`: with a size the backend
  refuses, it throws `PCIE_SIM_ERROR_PARAM` at its first transfer and leaves the block
  reset; on a Windows device that is not open it throws `PCIE_SIM_ERROR_DEVICE` and
  changes nothing.
-/

namespace PcieSim.Lib

open PcieSim.Sim

/-! ## The runner -/

section Runner

variable {σ : Type} (step : SimOp → σ → SimReply × σ)

/-- `for (size_t i = 0; i < n; ++i) device_.transfer(buffer.data(), buffer.size(), direction);`
where the `i`-th transfer measures `latency i`. -/
def transferLoop (h : PcieSimHandle) (buffer size : UInt64) (direction : Direction)
    (latency : ℕ → UInt64) : ℕ → DeviceM σ Unit
  | 0 => pure ()
  | n + 1 => do
    transferLoop h buffer size direction latency n
    let _ ← deviceTransfer step h buffer size direction (latency n)
    pure ()

/-- `BenchmarkRunner::BenchmarkConfig`. -/
structure BenchmarkConfig where
  transferSize : UInt64
  numTransfers : ℕ
  direction : Direction
  warmup : Bool
  warmupTransfers : ℕ
deriving Repr, DecidableEq

/-- Its default constructor. -/
def BenchmarkConfig.default : BenchmarkConfig := ⟨4096, 1000, .toDevice, true, 100⟩

/-- `BenchmarkRunner::run_benchmark` on the device of handle `h`: the snapshot every field of
`PerformanceMetrics` but the wall-clock throughput is read from. `buffer` is `buffer.data()`
of the `std::vector<uint8_t>(transfer_size)`; the `i`-th warm-up transfer measures
`warmupLatency i` and the `i`-th measured one `latency i`. -/
def runBenchmark (h : PcieSimHandle) (config : BenchmarkConfig) (buffer : UInt64)
    (warmupLatency latency : ℕ → UInt64) : DeviceM σ SimReply := do
  let _ ← deviceResetStatistics step h
  if config.warmup then
    transferLoop step h buffer config.transferSize config.direction warmupLatency
      config.warmupTransfers
    let _ ← deviceResetStatistics step h
  transferLoop step h buffer config.transferSize config.direction latency config.numTransfers
  deviceGetStatistics step h

/-- The loop goes on while transfers succeed, and stops at the first that throws. -/
theorem transferLoop_succ_run (h : PcieSimHandle) (buffer size : UInt64) (direction : Direction)
    (latency : ℕ → UInt64) (n : ℕ) {s s' : σ}
    (hn : (transferLoop step h buffer size direction latency n).run.run s = (.ok (), s')) :
    (transferLoop step h buffer size direction latency (n + 1)).run.run s =
      (Except.map (fun _ => ())
          (checkReply (step (.transfer (some h) buffer size direction.toUInt32 (latency n)) s').1),
        (step (.transfer (some h) buffer size direction.toUInt32 (latency n)) s').2) := by
  rw [transferLoop, DeviceM.bind_run_ok hn]
  cases hc : checkReply (step (.transfer (some h) buffer size direction.toUInt32 (latency n)) s').1
  · rw [DeviceM.bind_run_error (by rw [deviceTransfer, libCall_run, hc])]; rfl
  · rw [DeviceM.bind_run_ok (by rw [deviceTransfer, libCall_run, hc])]; rfl

end Runner

/-! ## A backend seen through one device's block -/

/-- A backend seen through the statistics block of the device of handle `h`: `withStats x`
is a state that differs from a fixed one in that block only, which is `x`. A reset leaves
`fresh` there and a read returns the block. -/
structure StatsView {σ : Type} (step : SimOp → σ → SimReply × σ) (h : PcieSimHandle) where
  withStats : PcieSimStats → σ
  fresh : PcieSimStats
  reset : ∀ x, step (.resetStats (some h)) (withStats x) = (.ret .success, withStats fresh)
  getStats : ∀ x, step (.getStats (some h)) (withStats x) = (.stats x, withStats x)

namespace StatsView

variable {σ : Type} {step : SimOp → σ → SimReply × σ} {h : PcieSimHandle}
  (v : StatsView step h)

/-- Every transfer of `size` bytes from `buffer` succeeds, returns the latency measured and
folds it into the block with `record`. -/
def Records (buffer size : UInt64) (direction : Direction)
    (record : PcieSimStats → UInt64 → PcieSimStats) : Prop :=
  ∀ x l, step (.transfer (some h) buffer size direction.toUInt32 l) (v.withStats x) =
    (.transferred l, v.withStats (record x l))

/-- Every transfer of `size` bytes from `buffer` is refused with `e` and changes nothing. -/
def Refuses (buffer size : UInt64) (direction : Direction) (e : PcieSimError) : Prop :=
  ∀ x l, step (.transfer (some h) buffer size direction.toUInt32 l) (v.withStats x) =
    (.ret e, v.withStats x)

theorem reset_run (x : PcieSimStats) :
    (deviceResetStatistics step h).run.run (v.withStats x) =
      (.ok (.ret .success), v.withStats v.fresh) := by
  rw [deviceResetStatistics, libCall_run, v.reset]; rfl

theorem getStats_run (x : PcieSimStats) :
    (deviceGetStatistics step h).run.run (v.withStats x) = (.ok (.stats x), v.withStats x) := by
  rw [deviceGetStatistics, libCall_run, v.getStats]; rfl

variable {buffer size : UInt64} {direction : Direction} (latency : ℕ → UInt64)

theorem transferLoop_run {record : PcieSimStats → UInt64 → PcieSimStats}
    (hr : v.Records buffer size direction record) (n : ℕ) (x : PcieSimStats) :
    (transferLoop step h buffer size direction latency n).run.run (v.withStats x) =
      (.ok (), v.withStats ((List.range n).foldl (fun st i => record st (latency i)) x)) := by
  induction n with
  | zero => rfl
  | succ n ih =>
    rw [transferLoop_succ_run step h buffer size direction latency n ih, hr]
    simp only [List.range_succ, List.foldl_append, List.foldl_cons, List.foldl_nil]
    rfl

theorem transferLoop_refused {e : PcieSimError} (he : e ≠ .success)
    (hr : v.Refuses buffer size direction e) (n : ℕ) (x : PcieSimStats) :
    (transferLoop step h buffer size direction latency (n + 1)).run.run (v.withStats x) =
      (.error e, v.withStats x) := by
  induction n with
  | zero => rw [transferLoop_succ_run step h buffer size direction latency 0 rfl, hr,
      checkReply_ret_of_ne he]; rfl
  | succ n ih => rw [transferLoop, DeviceM.bind_run_error ih]

variable (warmupLatency : ℕ → UInt64)

/-- The snapshot of a benchmark of `config` whose transfers `v` records: the measured
transfers folded from a reset block. -/
theorem runBenchmark_run (config : BenchmarkConfig)
    {record : PcieSimStats → UInt64 → PcieSimStats}
    (hr : v.Records buffer config.transferSize config.direction record) (x : PcieSimStats) :
    let snap := (List.range config.numTransfers).foldl (fun st i => record st (latency i))
      v.fresh
    (runBenchmark step h config buffer warmupLatency latency).run.run (v.withStats x) =
      (.ok (.stats snap), v.withStats snap) := by
  unfold runBenchmark
  rw [DeviceM.bind_run_ok (v.reset_run x)]
  cases config.warmup
  · simp only [if_neg Bool.false_ne_true, pure_bind]
    rw [DeviceM.bind_run_ok (v.transferLoop_run latency hr _ _), v.getStats_run]
  · simp only [if_true, bind_assoc, pure_bind]
    rw [DeviceM.bind_run_ok (v.transferLoop_run warmupLatency hr _ _),
      DeviceM.bind_run_ok (v.reset_run _),
      DeviceM.bind_run_ok (v.transferLoop_run latency hr _ _), v.getStats_run]

/-- A benchmark whose transfers are all refused throws at the first one it makes, and leaves
the block reset. -/
theorem runBenchmark_refused (config : BenchmarkConfig) {e : PcieSimError} (he : e ≠ .success)
    (hr : v.Refuses buffer config.transferSize config.direction e) (x : PcieSimStats) :
    (runBenchmark step h config buffer warmupLatency latency).run.run (v.withStats x) =
      (if (config.warmup ∧ 0 < config.warmupTransfers) ∨ 0 < config.numTransfers then .error e
        else .ok (.stats v.fresh), v.withStats v.fresh) := by
  have measured : (do
      transferLoop step h buffer config.transferSize config.direction latency config.numTransfers
      deviceGetStatistics step h : DeviceM σ SimReply).run.run (v.withStats v.fresh) =
      (if 0 < config.numTransfers then .error e else .ok (.stats v.fresh),
        v.withStats v.fresh) := by
    cases config.numTransfers with
    | zero => exact v.getStats_run _
    | succ n => rw [DeviceM.bind_run_error (v.transferLoop_refused latency he hr n _),
      if_pos n.succ_pos]
  unfold runBenchmark
  rw [DeviceM.bind_run_ok (v.reset_run x)]
  cases config.warmup
  · simpa only [if_neg Bool.false_ne_true, pure_bind, Bool.false_eq_true, false_and, false_or]
      using measured
  · cases config.warmupTransfers with
    | zero =>
      simp only [if_true, bind_assoc, pure_bind, transferLoop, lt_irrefl, and_false, false_or]
      rw [DeviceM.bind_run_ok (v.reset_run _), measured]
    | succ n =>
      simp only [if_true, bind_assoc]
      rw [DeviceM.bind_run_error (v.transferLoop_refused warmupLatency he hr n _)]
      simp

end StatsView

/-- The samples of `n` transfers of `size` bytes, the `i`-th measuring `latency i`. -/
def benchmarkSamples (size : UInt64) (latency : ℕ → UInt64) (n : ℕ) : List Sample :=
  (List.range n).map fun i => ⟨size, latency i⟩

theorem benchmarkSamples_succ (size : UInt64) (latency : ℕ → UInt64) (n : ℕ) :
    benchmarkSamples size latency (n + 1) =
      benchmarkSamples size latency n ++ [⟨size, latency n⟩] := by
  simp [benchmarkSamples, List.range_succ]

@[simp] theorem benchmarkSamples_length (size : UInt64) (latency : ℕ → UInt64) (n : ℕ) :
    (benchmarkSamples size latency n).length = n := by
  simp [benchmarkSamples]

/-! ## The Linux backend -/

/-- Device `d` of the Linux backend in state `s`: a reset zeroes its block. The backend never
checks that the device is open. -/
def linuxView (s : LinuxSim) (d : Fin maxDevices) : StatsView linuxStep ⟨d⟩ where
  withStats x := s.setDevice d { s.devices d with stats := x }
  fresh := .zero
  reset x := by
    simp [linuxStep, pcieSimResetStatsLinux, not_le.2 d.isLt, LinuxSim.setDevice_setDevice]
  getStats x := by simp [linuxStep, pcieSimGetStatsLinux, not_le.2 d.isLt]

theorem linuxView_self (s : LinuxSim) (d : Fin maxDevices) :
    (linuxView s d).withStats (s.devices d).stats = s :=
  LinuxSim.setDevice_devices s d

theorem linuxView_records (s : LinuxSim) (d : Fin maxDevices) {buffer size : UInt64}
    (direction : Direction) (hb : buffer ≠ 0) (hz : size ≠ 0) :
    (linuxView s d).Records buffer size direction fun st l => linuxRecordTransfer st size l :=
  fun x l => by
    simp [linuxView, linuxStep, pcieSimTransferLinux, hb, hz, not_le.2 d.isLt,
      LinuxSim.setDevice_setDevice]

theorem linuxView_refuses (s : LinuxSim) (d : Fin maxDevices) {buffer size : UInt64}
    (direction : Direction) (h0 : buffer = 0 ∨ size = 0) :
    (linuxView s d).Refuses buffer size direction .errorParam := fun x l => by
  obtain ⟨hiff, hsame⟩ := linuxStep_transfer_errorParam (some ⟨d⟩) buffer size
    direction.toUInt32 l ((linuxView s d).withStats x)
  exact Prod.ext (hiff.2 (Or.inr h0)) (hsame (hiff.2 (Or.inr h0)))

/-- `n` transfers recorded from a zeroed block follow the running law, while the count stays
below `2^64` and the latencies below `2^63`. -/
theorem linux_benchmark_law (size : UInt64) (latency : ℕ → UInt64) (n : ℕ) (hn : n < 2 ^ 64)
    (hlat : ∀ i < n, (latency i).toNat < 2 ^ 63) :
    RunningLaw ((List.range n).foldl (fun st i => linuxRecordTransfer st size (latency i)) .zero)
      (benchmarkSamples size latency n) := by
  induction n with
  | zero => exact runningLaw_zero
  | succ n ih =>
    have hlat' : ∀ y ∈ benchmarkSamples size latency (n + 1), y.latency.toNat < 2 ^ 63 := by
      simp only [benchmarkSamples, List.mem_map, List.mem_range]
      rintro _ ⟨i, hi, rfl⟩; exact hlat i hi
    rw [benchmarkSamples_succ] at hlat' ⊢
    rw [List.range_succ, List.foldl_append, List.foldl_cons, List.foldl_nil]
    exact linuxRecordTransfer_law (ih (by omega) fun i hi => hlat i (by omega))
      ⟨size, latency n⟩ (by simpa using hn) hlat'

/-- On the Linux backend, from any state, a benchmark of a positive size from a buffer does
not throw. Its snapshot follows the running law for exactly the measured transfers, whatever
the warm-up measured, and it is what the device's block holds afterwards; no other device
changes. -/
theorem runBenchmark_linux (d : Fin maxDevices) (config : BenchmarkConfig) {buffer : UInt64}
    (warmupLatency latency : ℕ → UInt64) (s : LinuxSim) (hb : buffer ≠ 0)
    (hz : config.transferSize ≠ 0) (hn : config.numTransfers < 2 ^ 64)
    (hlat : ∀ i < config.numTransfers, (latency i).toNat < 2 ^ 63) :
    ∃ snap, (runBenchmark linuxStep ⟨d⟩ config buffer warmupLatency latency).run.run s =
        (.ok (.stats snap), s.setDevice d { s.devices d with stats := snap }) ∧
      RunningLaw snap (benchmarkSamples config.transferSize latency config.numTransfers) := by
  have hrun := (linuxView s d).runBenchmark_run latency warmupLatency config
    (linuxView_records s d config.direction hb hz) (s.devices d).stats
  rw [linuxView_self] at hrun
  exact ⟨_, hrun, linux_benchmark_law _ latency _ hn hlat⟩

/-- The default benchmark on device 0 of a fresh Linux backend, every measured transfer
taking 20 µs. -/
theorem runBenchmark_linux_default :
    ∃ snap, (runBenchmark linuxStep ⟨0⟩ .default 1 (fun _ => 10000) (fun _ => 20000)).run.run
        LinuxSim.initial =
        (.ok (.stats snap),
          LinuxSim.initial.setDevice 0 { LinuxSim.initial.devices 0 with stats := snap }) ∧
      RunningLaw snap (benchmarkSamples 4096 (fun _ => 20000) 1000) :=
  runBenchmark_linux 0 .default _ _ _ (by decide) (by decide) (by decide) fun _ _ => by decide

/-- On the Linux backend a benchmark of size `0`, or from a null buffer, throws
`PCIE_SIM_ERROR_PARAM` at its first transfer, and returns the zeroed block when it makes none.
Either way the device's block is left zeroed. -/
theorem runBenchmark_refused_linux (d : Fin maxDevices) (config : BenchmarkConfig)
    {buffer : UInt64} (warmupLatency latency : ℕ → UInt64) (s : LinuxSim)
    (h0 : buffer = 0 ∨ config.transferSize = 0) :
    (runBenchmark linuxStep ⟨d⟩ config buffer warmupLatency latency).run.run s =
      (if (config.warmup ∧ 0 < config.warmupTransfers) ∨ 0 < config.numTransfers then
        .error .errorParam else .ok (.stats .zero),
        s.setDevice d { s.devices d with stats := .zero }) := by
  have hrun := (linuxView s d).runBenchmark_refused latency warmupLatency config (by decide)
    (linuxView_refuses s d config.direction h0) (s.devices d).stats
  rwa [linuxView_self] at hrun

/-- An empty request with the default counts throws at its first warm-up transfer. -/
theorem runBenchmark_refused_linux_empty :
    (runBenchmark linuxStep ⟨0⟩ { BenchmarkConfig.default with transferSize := 0 } 0
        (fun _ => 0) (fun _ => 0)).run.run LinuxSim.initial =
      (.error .errorParam,
        LinuxSim.initial.setDevice 0 { LinuxSim.initial.devices 0 with stats := .zero }) :=
  runBenchmark_refused_linux 0 _ _ _ _ (Or.inr rfl)

/-! ## The Windows backend -/

/-- Device `d` of the Windows backend in state `s`, where it is open: a reset leaves
`freshStats` in its block. -/
def windowsView (env : WindowsEnv) (s : WindowsSim) (d : Fin maxDevices)
    (hact : (s.devices d).active = true) : StatsView (windowsStep env) ⟨d⟩ where
  withStats x := s.setDevice d { s.devices d with stats := x }
  fresh := freshStats
  reset x := by
    simp [windowsStep, pcieSimResetStatsImpl, hact, WindowsSim.setDevice_setDevice]
  getStats x := by simp [windowsStep, pcieSimGetStatsImpl, hact]

theorem windowsView_self (env : WindowsEnv) (s : WindowsSim) (d : Fin maxDevices)
    (hact : (s.devices d).active = true) :
    (windowsView env s d hact).withStats (s.devices d).stats = s :=
  WindowsSim.setDevice_devices s d

theorem windowsView_records (env : WindowsEnv) (s : WindowsSim) (d : Fin maxDevices)
    (hact : (s.devices d).active = true) {buffer size : UInt64} (direction : Direction)
    (hb : buffer ≠ 0) (hz : size ≠ 0) (hmax : size.toNat ≤ 1048576) :
    (windowsView env s d hact).Records buffer size direction
      fun st l => windowsRecordTransfer st size l := fun x l => by
  simp [windowsView, windowsStep, pcieSimTransferImpl, hb, hz, hmax, hact,
    WindowsSim.setDevice_setDevice]

theorem windowsView_refuses (env : WindowsEnv) (s : WindowsSim) (d : Fin maxDevices)
    (hact : (s.devices d).active = true) {buffer size : UInt64} (direction : Direction)
    (h0 : buffer = 0 ∨ size = 0 ∨ 1048576 < size.toNat) :
    (windowsView env s d hact).Refuses buffer size direction .errorParam := fun x l => by
  obtain ⟨hiff, hsame⟩ := windowsStep_transfer_errorParam env (some ⟨d⟩) buffer size
    direction.toUInt32 l ((windowsView env s d hact).withStats x)
  exact Prod.ext (hiff.2 (Or.inr h0)) (hsame (hiff.2 (Or.inr h0)))

/-- `n` transfers recorded from a reset block follow the Windows law while the count stays
below `2^64`. -/
theorem windows_benchmark_law (size : UInt64) (latency : ℕ → UInt64) (n : ℕ)
    (hn : n < 2 ^ 64) :
    WindowsLaw ((List.range n).foldl (fun st i => windowsRecordTransfer st size (latency i))
      freshStats) (benchmarkSamples size latency n) := by
  induction n with
  | zero => exact windowsLaw_fresh
  | succ n ih =>
    rw [benchmarkSamples_succ, List.range_succ, List.foldl_append, List.foldl_cons,
      List.foldl_nil]
    exact windowsRecordTransfer_law (ih (by omega)) size (latency n) (by simpa using hn)

/-- On the Windows backend, from any state where the device is open, a benchmark of at most
1 MiB from a buffer does not throw. Its snapshot follows the Windows law for exactly the
measured transfers, and it is what the device's block holds afterwards; no other device
changes. -/
theorem runBenchmark_windows (env : WindowsEnv) (d : Fin maxDevices) (config : BenchmarkConfig)
    {buffer : UInt64} (warmupLatency latency : ℕ → UInt64) (s : WindowsSim)
    (hact : (s.devices d).active = true) (hb : buffer ≠ 0) (hz : config.transferSize ≠ 0)
    (hmax : config.transferSize.toNat ≤ 1048576) (hn : config.numTransfers < 2 ^ 64) :
    ∃ snap,
      (runBenchmark (windowsStep env) ⟨d⟩ config buffer warmupLatency latency).run.run s =
        (.ok (.stats snap), s.setDevice d { s.devices d with stats := snap }) ∧
      WindowsLaw snap (benchmarkSamples config.transferSize latency config.numTransfers) := by
  have hrun := (windowsView env s d hact).runBenchmark_run latency warmupLatency config
    (windowsView_records env s d hact config.direction hb hz hmax) (s.devices d).stats
  rw [windowsView_self] at hrun
  exact ⟨_, hrun, windows_benchmark_law _ latency _ hn⟩

/-- The Windows backend with device 0 open after a reset. -/
def windowsOpened : WindowsSim :=
  WindowsSim.initial.setDevice 0 ⟨true, freshStats, 1000000⟩

/-- The default benchmark on device 0 of `windowsOpened`, every measured transfer taking
20 µs. -/
theorem runBenchmark_windows_default :
    ∃ snap, (runBenchmark (windowsStep ⟨none, none⟩) ⟨0⟩ .default 1 (fun _ => 10000)
        (fun _ => 20000)).run.run windowsOpened =
        (.ok (.stats snap),
          windowsOpened.setDevice 0 { windowsOpened.devices 0 with stats := snap }) ∧
      WindowsLaw snap (benchmarkSamples 4096 (fun _ => 20000) 1000) :=
  runBenchmark_windows _ 0 .default _ _ windowsOpened (by decide) (by decide) (by decide)
    (by decide) (by decide)

/-- On the Windows backend a benchmark on a device that is not open throws
`PCIE_SIM_ERROR_DEVICE` at its first reset and changes nothing. On an open device, a size of
`0` or above 1 MiB, or a null buffer, throws `PCIE_SIM_ERROR_PARAM` at the first transfer,
and returns the reset block when it makes none. Either way the block is left reset. -/
theorem runBenchmark_refused_windows (env : WindowsEnv) (d : Fin maxDevices)
    (config : BenchmarkConfig) {buffer : UInt64} (warmupLatency latency : ℕ → UInt64)
    (s : WindowsSim) :
    ((s.devices d).active = false →
      (runBenchmark (windowsStep env) ⟨d⟩ config buffer warmupLatency latency).run.run s =
        (.error .errorDevice, s)) ∧
    ((s.devices d).active = true →
      (buffer = 0 ∨ config.transferSize = 0 ∨ 1048576 < config.transferSize.toNat) →
      (runBenchmark (windowsStep env) ⟨d⟩ config buffer warmupLatency latency).run.run s =
        (if (config.warmup ∧ 0 < config.warmupTransfers) ∨ 0 < config.numTransfers then
          .error .errorParam else .ok (.stats freshStats),
          s.setDevice d { s.devices d with stats := freshStats })) := by
  refine ⟨fun hact => ?_, fun hact h0 => ?_⟩
  · rw [runBenchmark, DeviceM.bind_run_error]
    simp [deviceResetStatistics, libCall_run, windowsStep, pcieSimResetStatsImpl, hact,
      checkReply]
  · have hrun := (windowsView env s d hact).runBenchmark_refused latency warmupLatency config
      (by decide) (windowsView_refuses env s d hact config.direction h0) (s.devices d).stats
    rwa [windowsView_self] at hrun

/-- Two MiB at a time on the open device 0 throws at its first warm-up transfer, and the
same benchmark on a fresh backend, where no device is open, at its first reset. -/
theorem runBenchmark_refused_windows_two_mib :
    (runBenchmark (windowsStep ⟨none, none⟩) ⟨0⟩
        { BenchmarkConfig.default with transferSize := 2097152 } 1 (fun _ => 0)
        (fun _ => 0)).run.run windowsOpened =
      (.error .errorParam,
        windowsOpened.setDevice 0 { windowsOpened.devices 0 with stats := freshStats }) ∧
    (runBenchmark (windowsStep ⟨none, none⟩) ⟨0⟩
        { BenchmarkConfig.default with transferSize := 2097152 } 1 (fun _ => 0)
        (fun _ => 0)).run.run WindowsSim.initial =
      (.error .errorDevice, WindowsSim.initial) :=
  ⟨(runBenchmark_refused_windows _ 0 _ _ _ windowsOpened).2 (by decide) (by decide),
    (runBenchmark_refused_windows _ 0 _ _ _ WindowsSim.initial).1 rfl⟩

end PcieSim.Lib

import PcieSim.Sim.Api

/-!
# `sim/windows_sim.c`: the Windows simulation backend

Eight device slots, each with an `active` flag, a statistics block and the timer frequency,
and one `g_initialized` flag. An open runs `windows_sim_init` until it succeeds once: it
gives every slot fresh statistics (`min_latency_ns = UINT64_MAX`) and the frequency, or
stops at the first mutex it cannot create and fails. An open claims an inactive slot, a
close releases it, and transfers, snapshots and resets are refused on a released slot.
A transfer folds the latency `get_timestamp_ns` measured into the slot's block with
`windowsRecordTransfer`, whose average is the running mean.

* the calls and `windowsStep`, over what the Windows APIs answer one call (`WindowsEnv`);
  a program is a list of calls each with its own answers (`windowsCall`), so an init that
  failed at one open is run again at the next with new answers;
* `getTimestampNs`, and the 64-bit product in it that wraps after about half an hour of
  uptime at a 10 MHz counter;
* spec lemmas for each call, used by the device-independence and backend proofs.

`WaitForSingleObject` is taken to succeed: the calls are made one after another, so no
device mutex is ever held when another call asks for it.
-/

namespace PcieSim.Sim

/-! ## State and calls -/

/-- What `QueryPerformanceFrequency` reports when it succeeds: a positive `LONGLONG`. -/
abbrev PerformanceFrequency := {f : ℕ // 0 < f ∧ f < 2 ^ 63}

/-- What the Windows APIs answer to one call: the slot whose `CreateMutex` fails in the init
the call runs, if any, and what `QueryPerformanceFrequency` reports (`none` when the query
fails). An init that fails leaves `g_initialized` clear, so a later open runs it again and
gets answers of its own. -/
structure WindowsEnv where
  mutexFailsAt : Option (Fin maxDevices)
  performanceFrequency : Option PerformanceFrequency

/-- The frequency `windows_sim_init` stores: the query's, or 1 MHz when it fails. -/
def WindowsEnv.frequency (env : WindowsEnv) : Int :=
  match env.performanceFrequency with
  | some f => f.1
  | none => 1000000

/-- `struct windows_device_state`; the mutex handle and `device_name` are read by no
modelled function. -/
structure WindowsDeviceState where
  active : Bool
  stats : PcieSimStats
  frequency : Int
deriving Repr, DecidableEq

/-- The backend's globals `g_devices` and `g_initialized`. -/
structure WindowsSim where
  devices : Fin maxDevices → WindowsDeviceState
  initialized : Bool

/-- Program start: static storage is zero. -/
def WindowsSim.initial : WindowsSim := ⟨fun _ => ⟨false, .zero, 0⟩, false⟩

/-- The state with device `d`'s slot replaced. -/
def WindowsSim.setDevice (s : WindowsSim) (d : Fin maxDevices) (x : WindowsDeviceState) :
    WindowsSim :=
  { s with devices := Function.update s.devices d x }

@[simp] theorem WindowsSim.setDevice_self (s : WindowsSim) (d : Fin maxDevices)
    (x : WindowsDeviceState) : (s.setDevice d x).devices d = x := by
  simp [WindowsSim.setDevice]

@[simp] theorem WindowsSim.setDevice_of_ne (s : WindowsSim) {d d' : Fin maxDevices}
    (h : d' ≠ d) (x : WindowsDeviceState) : (s.setDevice d x).devices d' = s.devices d' := by
  simp [WindowsSim.setDevice, h]

@[simp] theorem WindowsSim.setDevice_initialized (s : WindowsSim) (d : Fin maxDevices)
    (x : WindowsDeviceState) : (s.setDevice d x).initialized = s.initialized := rfl

theorem WindowsSim.setDevice_setDevice (s : WindowsSim) (d : Fin maxDevices)
    (x y : WindowsDeviceState) : (s.setDevice d x).setDevice d y = s.setDevice d y := by
  simp [WindowsSim.setDevice]

theorem WindowsSim.setDevice_devices (s : WindowsSim) (d : Fin maxDevices) :
    s.setDevice d (s.devices d) = s := by
  simp [WindowsSim.setDevice]

/-- `UINT64_MAX`, the minimum of no latency. -/
def uint64Max : UInt64 := 18446744073709551615

/-- Statistics as `windows_sim_init` and `pcie_sim_reset_stats_impl` leave them. -/
def freshStats : PcieSimStats := { PcieSimStats.zero with minLatencyNs := uint64Max }

/-- A slot as the loop of `windows_sim_init` leaves it. -/
def freshDevice (env : WindowsEnv) : WindowsDeviceState := ⟨false, freshStats, env.frequency⟩

@[simp] theorem freshDevice_active (env : WindowsEnv) : (freshDevice env).active = false := rfl

@[simp] theorem freshDevice_stats (env : WindowsEnv) : (freshDevice env).stats = freshStats := rfl

/-- Slot `i` after a run of the init loop: set up, or, at the slot whose mutex fails, only
marked inactive, or, past it, untouched. -/
def windowsInitSlot (env : WindowsEnv) (i : Fin maxDevices) (x : WindowsDeviceState) :
    WindowsDeviceState :=
  match env.mutexFailsAt with
  | none => freshDevice env
  | some k => if i < k then freshDevice env else if i = k then { x with active := false } else x

/-- `windows_sim_init`: `0`, or `-1` when a mutex cannot be created; `g_initialized` is set
only on success. -/
def windowsSimInit (env : WindowsEnv) (s : WindowsSim) : Int × WindowsSim :=
  if s.initialized then (0, s)
  else
    (if env.mutexFailsAt = none then 0 else -1,
      ⟨fun i => windowsInitSlot env i (s.devices i), env.mutexFailsAt = none⟩)

/-- `pcie_sim_open_impl`: the slot is claimed before the handle is allocated and released
again when that fails. -/
def pcieSimOpenImpl (env : WindowsEnv) (deviceId : Int) (mallocOk : Bool) (s : WindowsSim) :
    SimReply × WindowsSim :=
  match deviceSlot? deviceId with
  | none => (.ret .errorParam, s)
  | some d =>
    let (r, s) := windowsSimInit env s
    if r ≠ 0 then (.ret .errorSystem, s)
    else if (s.devices d).active then (.ret .errorDevice, s)
    else if mallocOk then (.opened ⟨d⟩, s.setDevice d { s.devices d with active := true })
    else (.ret .errorMemory, s)

/-- `pcie_sim_close_impl`: releases the slot, whoever holds it. -/
def pcieSimCloseImpl (handle : Option PcieSimHandle) (s : WindowsSim) : SimReply × WindowsSim :=
  match handle with
  | some h => (.ret .success, s.setDevice h.deviceId { s.devices h.deviceId with active := false })
  | none => (.ret .errorParam, s)

/-- The statistics update of `pcie_sim_transfer_impl`: min and max against the sentinels,
then the running mean `(avg * (n - 1) + latency) / n` over the new count `n`. -/
def windowsRecordTransfer (s : PcieSimStats) (size transferLatency : UInt64) : PcieSimStats :=
  let s := { s with totalTransfers := s.totalTransfers + 1, totalBytes := s.totalBytes + size }
  let s := if transferLatency < s.minLatencyNs then { s with minLatencyNs := transferLatency }
    else s
  let s := if transferLatency > s.maxLatencyNs then { s with maxLatencyNs := transferLatency }
    else s
  if s.totalTransfers = 1 then { s with avgLatencyNs := transferLatency }
  else
    { s with avgLatencyNs :=
        (s.avgLatencyNs * (s.totalTransfers - 1) + transferLatency) / s.totalTransfers }

section RecordFields

variable (s : PcieSimStats) (size transferLatency : UInt64)

@[simp] theorem windowsRecordTransfer_totalTransfers :
    (windowsRecordTransfer s size transferLatency).totalTransfers = s.totalTransfers + 1 := by
  simp only [windowsRecordTransfer]; split_ifs <;> rfl

@[simp] theorem windowsRecordTransfer_totalBytes :
    (windowsRecordTransfer s size transferLatency).totalBytes = s.totalBytes + size := by
  simp only [windowsRecordTransfer]; split_ifs <;> rfl

@[simp] theorem windowsRecordTransfer_totalErrors :
    (windowsRecordTransfer s size transferLatency).totalErrors = s.totalErrors := by
  simp only [windowsRecordTransfer]; split_ifs <;> rfl

@[simp] theorem windowsRecordTransfer_minLatencyNs :
    (windowsRecordTransfer s size transferLatency).minLatencyNs =
      if transferLatency < s.minLatencyNs then transferLatency else s.minLatencyNs := by
  simp only [windowsRecordTransfer]; split_ifs <;> rfl

@[simp] theorem windowsRecordTransfer_maxLatencyNs :
    (windowsRecordTransfer s size transferLatency).maxLatencyNs =
      if transferLatency > s.maxLatencyNs then transferLatency else s.maxLatencyNs := by
  simp only [windowsRecordTransfer]; split_ifs <;> rfl

@[simp] theorem windowsRecordTransfer_avgLatencyNs :
    (windowsRecordTransfer s size transferLatency).avgLatencyNs =
      if s.totalTransfers + 1 = 1 then transferLatency
      else (s.avgLatencyNs * s.totalTransfers + transferLatency) / (s.totalTransfers + 1) := by
  simp only [windowsRecordTransfer]; split_ifs <;> simp

end RecordFields

/-- `pcie_sim_transfer_impl`; `transferLatency` is `end_time - start_time` from
`getTimestampNs` around the simulated delay. At count `0`, reached after `2^64` transfers,
the C division traps; Lean's `x / 0 = 0` stands in for it. -/
def pcieSimTransferImpl (handle : Option PcieSimHandle) (buffer size : UInt64)
    (_direction : UInt32) (transferLatency : UInt64) (s : WindowsSim) :
    SimReply × WindowsSim :=
  match handle with
  | some h =>
    if buffer = 0 ∨ size = 0 ∨ size > 1024 * 1024 then (.ret .errorParam, s)
    else if !(s.devices h.deviceId).active then (.ret .errorDevice, s)
    else
      (.transferred transferLatency, s.setDevice h.deviceId
        { s.devices h.deviceId with
          stats := windowsRecordTransfer (s.devices h.deviceId).stats size transferLatency })
  | none => (.ret .errorParam, s)

/-- `pcie_sim_get_stats_impl`. -/
def pcieSimGetStatsImpl (handle : Option PcieSimHandle) (s : WindowsSim) :
    SimReply × WindowsSim :=
  match handle with
  | some h =>
    if !(s.devices h.deviceId).active then (.ret .errorDevice, s)
    else (.stats (s.devices h.deviceId).stats, s)
  | none => (.ret .errorParam, s)

/-- `pcie_sim_reset_stats_impl`. -/
def pcieSimResetStatsImpl (handle : Option PcieSimHandle) (s : WindowsSim) :
    SimReply × WindowsSim :=
  match handle with
  | some h =>
    if !(s.devices h.deviceId).active then (.ret .errorDevice, s)
    else (.ret .success, s.setDevice h.deviceId { s.devices h.deviceId with stats := freshStats })
  | none => (.ret .errorParam, s)

/-- The Windows build of `lib/core.c`. -/
def windowsStep (env : WindowsEnv) : SimOp → WindowsSim → SimReply × WindowsSim
  | .open deviceId mallocOk, s => pcieSimOpenImpl env deviceId mallocOk s
  | .close h, s => pcieSimCloseImpl h s
  | .transfer h buffer size direction latency, s =>
    pcieSimTransferImpl h buffer size direction latency s
  | .getStats h, s => pcieSimGetStatsImpl h s
  | .resetStats h, s => pcieSimResetStatsImpl h s

/-- A call of a program on the Windows backend, made with the answers the Windows APIs give
it. -/
def windowsCall (c : WindowsEnv × SimOp) (s : WindowsSim) : SimReply × WindowsSim :=
  windowsStep c.1 c.2 s

/-- `pcie_sim_transfer_impl` refuses with `PCIE_SIM_ERROR_PARAM` exactly a null handle, a
null buffer, an empty request and one above 1 MiB, and a refusal changes nothing. -/
theorem windowsStep_transfer_errorParam (env : WindowsEnv) (handle : Option PcieSimHandle)
    (buffer size : UInt64) (direction : UInt32) (latency : UInt64) (s : WindowsSim) :
    let q := windowsStep env (.transfer handle buffer size direction latency) s
    (q.1 = .ret .errorParam ↔
        handle = none ∨ buffer = 0 ∨ size = 0 ∨ 1048576 < size.toNat) ∧
      (q.1 = .ret .errorParam → q.2 = s) := by
  rcases handle with _ | h
  · simp [windowsStep, pcieSimTransferImpl]
  simp only [windowsStep, pcieSimTransferImpl]
  split_ifs with hw
  · rcases hw with h0 | h0 | h0 <;> simp_all
  all_goals simp_all

/-! ## The clock -/

/-- What `get_timestamp_ns` reads: the performance counter, or `GetTickCount64` in
milliseconds when `QueryPerformanceCounter` fails. -/
inductive ClockReading
  | counter (ticks : Int)
  | tickCount (ms : UInt64)

/-- A signed 64-bit value converted to `uint64_t`. -/
def toUInt64 (x : Int) : UInt64 := UInt64.ofNat (x % 2 ^ 64).toNat

/-- `get_timestamp_ns`: `counter.QuadPart * 1000000000ULL / dev->frequency.QuadPart`, both
`LONGLONG` operands converted to `uint64_t`. The frequency `windows_sim_init` stores is
positive and below `2^63` (`WindowsEnv.frequency`), so the division never takes `0`. -/
def getTimestampNs (frequency : Int) : ClockReading → UInt64
  | .counter ticks => toUInt64 ticks * 1000000000 / toUInt64 frequency
  | .tickCount ms => ms * 1000000

/-- At a 10 MHz counter, a transfer measured from tick `18446744073` to tick `18446744074`
(10 µs, about 30.7 minutes after boot): `ticks * 10^9` passes `2^64` between the two
readings, and the latency comes out near `2^64`. -/
theorem getTimestampNs_wraps :
    getTimestampNs 10000000 (.counter 18446744074) -
      getTimestampNs 10000000 (.counter 18446744073) = 18446742229035144345 := by
  decide

theorem toUInt64_toNat {x : ℕ} (h : x < 2 ^ 64) : (toUInt64 x).toNat = x := by
  unfold toUInt64
  rw [Int.emod_eq_of_lt (by omega) (by omega), Int.toNat_ofNat]
  exact UInt64.toNat_ofNat_of_lt h

/-- For a frequency the query can report, while `c₂ * 10^9` stays below `2^64`, the latency
is the difference of the two truncated nanosecond readings. -/
theorem getTimestampNs_sub_of_no_wrap (f c₁ c₂ : ℕ) (hf : 0 < f ∧ f < 2 ^ 64)
    (h₁₂ : c₁ ≤ c₂) (h₂ : c₂ * 10 ^ 9 < 2 ^ 64) :
    (getTimestampNs f (.counter c₂) - getTimestampNs f (.counter c₁)).toNat =
      c₂ * 10 ^ 9 / f - c₁ * 10 ^ 9 / f := by
  have hts : ∀ c : ℕ, c ≤ c₂ → (getTimestampNs f (.counter c)).toNat = c * 10 ^ 9 / f := by
    intro c hc
    have hc' : c * 10 ^ 9 < 2 ^ 64 := lt_of_le_of_lt (Nat.mul_le_mul_right _ hc) h₂
    simp only [getTimestampNs, UInt64.toNat_div, UInt64.toNat_mul, toUInt64_toNat hf.2,
      toUInt64_toNat (show c < 2 ^ 64 by omega), UInt64.toNat_ofNat, UInt64.size_eq]
    rw [Nat.mod_eq_of_lt (by omega : 1000000000 < 2 ^ 64), Nat.mod_eq_of_lt (by omega)]
    rfl
  have hle : getTimestampNs f (.counter c₁) ≤ getTimestampNs f (.counter c₂) := by
    simp only [UInt64.le_iff_toNat_le, hts c₁ h₁₂, hts c₂ le_rfl]
    exact Nat.div_le_div_right (Nat.mul_le_mul_right _ h₁₂)
  rw [UInt64.toNat_sub_of_le _ _ hle, hts c₁ h₁₂, hts c₂ le_rfl]

/-- At a 10 MHz counter, one tick early after boot measures 100 ns. -/
theorem getTimestampNs_sub_ten_mhz :
    (0 < 10000000 ∧ 10000000 < 2 ^ 64) ∧ 1 ≤ 2 ∧ 2 * 10 ^ 9 < 2 ^ 64 ∧
    (getTimestampNs 10000000 (.counter 2) - getTimestampNs 10000000 (.counter 1)).toNat =
      2 * 10 ^ 9 / 10000000 - 1 * 10 ^ 9 / 10000000 :=
  ⟨by decide, by decide, by decide,
    getTimestampNs_sub_of_no_wrap _ _ _ (by decide) (by decide) (by decide)⟩

/-! ## What the calls do to a device -/

section Steps

variable {env : WindowsEnv} {s t : WindowsSim} {d : Fin maxDevices}

/-- What a call can observe of a slot: whether the device is open, and its statistics. The
frequency is left out: only `get_timestamp_ns` reads it, and its readings are the measured
latency. -/
def WindowsDeviceState.seen (x : WindowsDeviceState) : Bool × PcieSimStats :=
  (x.active, x.stats)

theorem WindowsDeviceState.eq_of_seen {x y : WindowsDeviceState} (h : x.seen = y.seen)
    (hf : x.frequency = y.frequency) : x = y := by
  obtain ⟨a, st, f⟩ := x
  obtain ⟨a', st', f'⟩ := y
  simp only [WindowsDeviceState.seen, Prod.mk.injEq] at h
  simp_all

/-- The states a run can reach: before the first successful init no slot is active. -/
structure WindowsSim.Normal (s : WindowsSim) : Prop where
  inactive : s.initialized = false → ∀ i, (s.devices i).active = false

theorem WindowsSim.normal_initial : WindowsSim.initial.Normal := ⟨fun _ _ => rfl⟩

/-- The state right after a successful init. -/
def WindowsSim.settled (env : WindowsEnv) : WindowsSim := ⟨fun _ => freshDevice env, true⟩

/-- The init on a state that is not yet initialized: every slot fresh, or, when a mutex
fails, still no slot active and still not initialized. -/
theorem windowsSimInit_of_not_initialized (env : WindowsEnv) (hn : s.Normal)
    (hi : s.initialized = false) :
    (env.mutexFailsAt = none ∧ windowsSimInit env s = (0, WindowsSim.settled env)) ∨
      (env.mutexFailsAt ≠ none ∧ (windowsSimInit env s).1 = -1 ∧
        (windowsSimInit env s).2.Normal ∧ (windowsSimInit env s).2.initialized = false) := by
  unfold windowsSimInit
  rcases he : env.mutexFailsAt with _ | k
  · left; simp [hi, windowsInitSlot, he, WindowsSim.settled]
  · right
    refine ⟨by simp, by simp [hi], ⟨fun _ i => ?_⟩, by simp [hi]⟩
    simp only [hi, Bool.false_eq_true, if_false, windowsInitSlot, he]
    split_ifs <;> simp [freshDevice, hn.inactive hi i]

theorem windowsSimInit_of_initialized (hi : s.initialized = true) :
    windowsSimInit env s = (0, s) := by
  simp [windowsSimInit, hi]

/-- Writing a slot of an initialized state, or one that clears `active`, keeps `Normal`. -/
theorem WindowsSim.Normal.setDevice (hn : s.Normal) {x : WindowsDeviceState}
    (hx : s.initialized = true ∨ x.active = false) : (s.setDevice d x).Normal := by
  refine ⟨fun hi i => ?_⟩
  by_cases h : i = d
  · subst h; simp only [WindowsSim.setDevice_self]
    rcases hx with hx | hx
    · simp [hx] at hi
    · exact hx
  · simpa [h] using hn.inactive hi i

/-- An active slot belongs to an initialized state. -/
theorem WindowsSim.Normal.initialized_of_active (hn : s.Normal)
    (ha : (s.devices d).active = true) : s.initialized = true := by
  by_contra h; simp [hn.inactive (by simpa using h) d] at ha

theorem WindowsSim.Normal.step (hn : s.Normal) (env : WindowsEnv) (op : SimOp) :
    (windowsStep env op s).2.Normal := by
  rcases op with ⟨deviceId, m⟩ | (_ | h) | ⟨_ | h, b, z, dir, l⟩ | (_ | h) | (_ | h)
  · simp only [windowsStep, pcieSimOpenImpl]
    rcases deviceSlot? deviceId with _ | d'
    · exact hn
    · cases hi : s.initialized
      · rcases windowsSimInit_of_not_initialized env hn hi with
          ⟨-, hinit⟩ | ⟨-, h1, hn1, -⟩
        · have hn1 : (WindowsSim.settled env).Normal := ⟨fun h => by simp [WindowsSim.settled] at h⟩
          simp only [hinit]; split_ifs <;> first | exact hn1 | exact hn1.setDevice (.inl rfl)
        · simp only [h1]; split_ifs <;> simp_all
      · simp only [windowsSimInit_of_initialized hi]
        split_ifs <;> first | exact hn | exact hn.setDevice (.inl hi)
  · exact hn
  · exact hn.setDevice (.inr rfl)
  · exact hn
  · simp only [windowsStep, pcieSimTransferImpl]
    split_ifs with _ ha
    · exact hn
    · exact hn
    · exact hn.setDevice (.inl (hn.initialized_of_active (by simpa using ha)))
  · exact hn
  · simp only [windowsStep, pcieSimGetStatsImpl]; split_ifs <;> exact hn
  · exact hn
  · simp only [windowsStep, pcieSimResetStatsImpl]
    split_ifs with ha
    · exact hn
    · exact hn.setDevice (.inl (hn.initialized_of_active (by simpa using ha)))

/-- Before the first successful init, a call whose init fails leaves the backend
uninitialized. -/
theorem windowsStep_not_initialized (hi : s.initialized = false) (he : env.mutexFailsAt ≠ none)
    (op : SimOp) : (windowsStep env op s).2.initialized = false := by
  have hfail : windowsSimInit env s = ((windowsSimInit env s).1, (windowsSimInit env s).2) ∧
      (windowsSimInit env s).1 = -1 ∧ (windowsSimInit env s).2.initialized = false := by
    simp [windowsSimInit, hi, he]
  rcases op with ⟨deviceId, m⟩ | (_ | h) | ⟨_ | h, b, z, dir, l⟩ | (_ | h) | (_ | h) <;>
    simp only [windowsStep, pcieSimOpenImpl, pcieSimCloseImpl, pcieSimTransferImpl,
      pcieSimGetStatsImpl, pcieSimResetStatsImpl]
  · split
    · exact hi
    · rw [hfail.1, if_pos (by rw [hfail.2.1]; decide)]; exact hfail.2.2
  all_goals first | exact hi | (split_ifs <;> exact hi)

/-- Slot `d` as `d`'s calls find it: the slot once the backend is initialized, and before
that the fresh slot a successful init will give it. -/
def WindowsSim.view (s : WindowsSim) (d : Fin maxDevices) : Bool × PcieSimStats :=
  if s.initialized then (s.devices d).seen else (false, freshStats)

/-- Before the first successful init, a call on `d` that runs no failing init answers and
leaves `d`'s view as it would right after a successful init. -/
theorem windowsStep_of_not_initialized (hn : s.Normal) (hi : s.initialized = false)
    {op : SimOp} (hop : op.onDevice d = true)
    (hopen : ∀ deviceId m, op = .open deviceId m → env.mutexFailsAt = none) :
    (windowsStep env op s).1 = (windowsStep env op (WindowsSim.settled env)).1 ∧
      (windowsStep env op s).2.view d =
        (windowsStep env op (WindowsSim.settled env)).2.view d := by
  have hoff : (s.devices d).active = false := hn.inactive hi d
  rcases op with ⟨deviceId, m⟩ | (_ | h) | ⟨_ | h, b, z, dir, l⟩ | (_ | h) | (_ | h) <;>
    simp only [SimOp.onDevice, SimOp.device?, Option.map_none', beq_iff_eq,
      reduceCtorEq] at hop
  · have hinit : windowsSimInit env s = (0, WindowsSim.settled env) := by
      rcases windowsSimInit_of_not_initialized env hn hi with ⟨-, h⟩ | ⟨he, -⟩
      · exact h
      · exact absurd (hopen _ _ rfl) he
    simp only [windowsStep, pcieSimOpenImpl, deviceSlot?_eq_some_iff.2 (Option.some.inj hop),
      hinit, windowsSimInit_of_initialized (show (WindowsSim.settled env).initialized = true
        from rfl), and_self]
  all_goals
    obtain rfl : h.deviceId = d := by simpa [Fin.val_inj] using hop
  · simp [windowsStep, pcieSimCloseImpl, WindowsSim.view, hi, WindowsSim.settled, freshDevice,
      WindowsDeviceState.seen]
  · by_cases hbad : b = 0 ∨ z = 0 ∨ z > 1024 * 1024
    · simp only [windowsStep, pcieSimTransferImpl, if_pos hbad]
      simp [WindowsSim.view, hi, WindowsSim.settled, WindowsDeviceState.seen]
    · simp only [windowsStep, pcieSimTransferImpl, if_neg hbad, hoff]
      simp [WindowsSim.view, hi, WindowsSim.settled, WindowsDeviceState.seen]
  · simp [windowsStep, pcieSimGetStatsImpl, hoff, WindowsSim.view, hi,
      WindowsSim.settled, freshDevice, WindowsDeviceState.seen]
  · simp [windowsStep, pcieSimResetStatsImpl, hoff, WindowsSim.view, hi,
      WindowsSim.settled, freshDevice, WindowsDeviceState.seen]

/-- A call not made on `d` leaves what `d`'s calls can see as it was. -/
theorem windowsStep_view_of_not_on (hn : s.Normal) {op : SimOp}
    (hop : op.onDevice d = false) : (windowsStep env op s).2.view d = s.view d := by
  rcases op with ⟨deviceId, m⟩ | (_ | h) | ⟨_ | h, b, z, dir, l⟩ | (_ | h) | (_ | h)
  · simp only [windowsStep, pcieSimOpenImpl]
    rcases hslot : deviceSlot? deviceId with _ | d'
    · rfl
    have hne : d' ≠ d := by
      rintro rfl
      simp [SimOp.onDevice, SimOp.device?, eq_of_deviceSlot? hslot] at hop
    cases hi : s.initialized
    · rcases windowsSimInit_of_not_initialized env hn hi with
        ⟨-, hinit⟩ | ⟨-, h1, -, hi1⟩
      · simp only [hinit]
        split_ifs <;> simp [WindowsSim.view, WindowsSim.settled, hi, Ne.symm hne, freshDevice,
          WindowsDeviceState.seen]
      · simp only [h1]
        simp [WindowsSim.view, hi, hi1]
    · simp only [windowsSimInit_of_initialized hi]
      split_ifs <;> simp [WindowsSim.view, hi, Ne.symm hne]
  all_goals first | rfl | skip
  all_goals
    have hne : d ≠ h.deviceId := by
      rintro rfl; simp [SimOp.onDevice, SimOp.device?] at hop
  · simp [windowsStep, pcieSimCloseImpl, WindowsSim.view, hne]
  · simp only [windowsStep, pcieSimTransferImpl]; split_ifs <;> simp [WindowsSim.view, hne]
  · simp only [windowsStep, pcieSimGetStatsImpl]; split_ifs <;> rfl
  · simp only [windowsStep, pcieSimResetStatsImpl]; split_ifs <;> simp [WindowsSim.view, hne]

theorem windowsStep_initialized (hs : s.initialized = true) (op : SimOp) :
    (windowsStep env op s).2.initialized = true := by
  rcases op with ⟨deviceId, m⟩ | (_ | h) | ⟨_ | h, b, z, dir, l⟩ | (_ | h) | (_ | h) <;>
    simp only [windowsStep, pcieSimOpenImpl, pcieSimCloseImpl, pcieSimTransferImpl,
      pcieSimGetStatsImpl, pcieSimResetStatsImpl, windowsSimInit_of_initialized hs]
  all_goals first | exact hs | (split <;> (try split_ifs) <;> simp [hs])

/-- Once initialized, a call on `d` answers from what can be observed of `d`'s slot alone,
whatever the answers it gets, and leaves the same to observe. -/
theorem windowsStep_congr_on (hs : s.initialized = true) (ht : t.initialized = true)
    (hd : (s.devices d).seen = (t.devices d).seen) {op : SimOp} (hop : op.onDevice d = true)
    (env env' : WindowsEnv) :
    (windowsStep env op s).1 = (windowsStep env' op t).1 ∧
      ((windowsStep env op s).2.devices d).seen = ((windowsStep env' op t).2.devices d).seen := by
  simp only [WindowsDeviceState.seen, Prod.mk.injEq] at hd
  rcases op with ⟨deviceId, m⟩ | (_ | h) | ⟨_ | h, b, z, dir, l⟩ | (_ | h) | (_ | h) <;>
    simp only [SimOp.onDevice, SimOp.device?, Option.map_none', beq_iff_eq,
      reduceCtorEq] at hop
  · simp only [windowsStep, pcieSimOpenImpl, deviceSlot?_eq_some_iff.2 (Option.some.inj hop),
      windowsSimInit_of_initialized hs, windowsSimInit_of_initialized ht, hd.1]
    split_ifs <;> simp [WindowsDeviceState.seen, hd]
  all_goals obtain rfl : h.deviceId = d := by simpa [Fin.val_inj] using hop
  · simp [windowsStep, pcieSimCloseImpl, WindowsDeviceState.seen, hd]
  · simp only [windowsStep, pcieSimTransferImpl, hd.1]
    split_ifs <;> simp [WindowsDeviceState.seen, hd]
  · simp only [windowsStep, pcieSimGetStatsImpl, hd.1]
    split_ifs <;> simp [WindowsDeviceState.seen, hd]
  · simp only [windowsStep, pcieSimResetStatsImpl, hd.1]
    split_ifs <;> simp [WindowsDeviceState.seen, hd]

theorem WindowsSim.setDevice_frequency (s : WindowsSim) (d' : Fin maxDevices)
    {x : WindowsDeviceState} (hx : x.frequency = (s.devices d').frequency) (d : Fin maxDevices) :
    ((s.setDevice d' x).devices d).frequency = (s.devices d).frequency := by
  by_cases h : d = d'
  · subst h; simpa using hx
  · simp [h]

/-- Once initialized, no call changes a slot's frequency. -/
theorem windowsStep_frequency (hs : s.initialized = true) (op : SimOp) (d : Fin maxDevices) :
    ((windowsStep env op s).2.devices d).frequency = (s.devices d).frequency := by
  rcases op with ⟨deviceId, m⟩ | (_ | h) | ⟨_ | h, b, z, dir, l⟩ | (_ | h) | (_ | h) <;>
    simp only [windowsStep, pcieSimOpenImpl, pcieSimCloseImpl, pcieSimTransferImpl,
      pcieSimGetStatsImpl, pcieSimResetStatsImpl, windowsSimInit_of_initialized hs]
  all_goals (try split) <;> (try split_ifs) <;>
    first | rfl | (apply WindowsSim.setDevice_frequency; rfl)

end Steps

end PcieSim.Sim

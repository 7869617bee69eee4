import PcieSim.Sim.Api

/-!
# `sim/linux_sim.c`: the Linux simulation backend

Eight device slots, each with an `active` flag and a statistics block, and one
`g_sim_initialized` flag. The first open of any device runs `linux_sim_init`, which marks
every slot inactive; the first open of a device zeroes its statistics and marks it active,
and nothing marks it inactive again (`pcie_sim_close_linux` only frees the handle). A
transfer sleeps for `linuxTransferLatency` and folds the latency its clock measured into
the device's block with `linuxRecordTransfer`.

* the calls and `linuxStep`, with a lemma per call saying what it does;
* `linuxTransferLatency`, the delay computation, and where its rounding wraps;
* `linux_stats_law`: the statistics a device reports follow the spec's running law for the
  transfers since its first open or its last reset.
-/

namespace PcieSim.Sim

/-! ## State and calls -/

/-- `struct linux_device_state`; its mutex, `start_time` and `device_name` are read by no
modelled function. -/
structure LinuxDeviceState where
  active : Bool
  stats : PcieSimStats
deriving Repr, DecidableEq

/-- The backend's globals `g_sim_devices` and `g_sim_initialized`. -/
structure LinuxSim where
  devices : Fin maxDevices → LinuxDeviceState
  initialized : Bool

/-- Program start: static storage is zero. -/
def LinuxSim.initial : LinuxSim := ⟨fun _ => ⟨false, .zero⟩, false⟩

/-- The state with device `d`'s slot replaced. -/
def LinuxSim.setDevice (s : LinuxSim) (d : Fin maxDevices) (x : LinuxDeviceState) :
    LinuxSim :=
  { s with devices := Function.update s.devices d x }

@[simp] theorem LinuxSim.setDevice_self (s : LinuxSim) (d : Fin maxDevices)
    (x : LinuxDeviceState) : (s.setDevice d x).devices d = x := by
  simp [LinuxSim.setDevice]

@[simp] theorem LinuxSim.setDevice_of_ne (s : LinuxSim) {d d' : Fin maxDevices}
    (h : d' ≠ d) (x : LinuxDeviceState) : (s.setDevice d x).devices d' = s.devices d' := by
  simp [LinuxSim.setDevice, h]

@[simp] theorem LinuxSim.setDevice_initialized (s : LinuxSim) (d : Fin maxDevices)
    (x : LinuxDeviceState) : (s.setDevice d x).initialized = s.initialized := rfl

theorem LinuxSim.setDevice_setDevice (s : LinuxSim) (d : Fin maxDevices)
    (x y : LinuxDeviceState) :
    (s.setDevice d x).setDevice d y = s.setDevice d y := by
  simp [LinuxSim.setDevice]

theorem LinuxSim.setDevice_devices (s : LinuxSim) (d : Fin maxDevices) :
    s.setDevice d (s.devices d) = s := by
  simp [LinuxSim.setDevice]

/-- `linux_sim_init`: the first call marks every slot inactive. -/
def linuxSimInit (s : LinuxSim) : LinuxSim :=
  if s.initialized then s else ⟨fun i => { s.devices i with active := false }, true⟩

/-- `pcie_sim_open_linux`: the first open of a device zeroes its statistics. -/
def pcieSimOpenLinux (deviceId : Int) (mallocOk : Bool) (s : LinuxSim) : SimReply × LinuxSim :=
  match deviceSlot? deviceId with
  | none => (.ret .errorParam, s)
  | some d =>
    let s := linuxSimInit s
    if mallocOk then
      (.opened ⟨d⟩, if (s.devices d).active then s else s.setDevice d ⟨true, .zero⟩)
    else (.ret .errorMemory, s)

/-- `pcie_sim_close_linux`: frees the handle and nothing else. -/
def pcieSimCloseLinux (handle : Option PcieSimHandle) (s : LinuxSim) : SimReply × LinuxSim :=
  match handle with
  | some _ => (.ret .success, s)
  | none => (.ret .errorParam, s)

/-- The statistics update of `pcie_sim_transfer_linux`: the transfer that makes the count
`1` sets average, min and max; later ones halve the average toward the latency and widen
min and max. -/
def linuxRecordTransfer (s : PcieSimStats) (size latency : UInt64) : PcieSimStats :=
  let s := { s with totalTransfers := s.totalTransfers + 1, totalBytes := s.totalBytes + size }
  if s.totalTransfers = 1 then
    { s with avgLatencyNs := latency, minLatencyNs := latency, maxLatencyNs := latency }
  else
    { s with
      avgLatencyNs := (s.avgLatencyNs + latency) / 2
      minLatencyNs := if latency < s.minLatencyNs then latency else s.minLatencyNs
      maxLatencyNs := if latency > s.maxLatencyNs then latency else s.maxLatencyNs }

section RecordFields

variable (s : PcieSimStats) (size latency : UInt64)

@[simp] theorem linuxRecordTransfer_totalTransfers :
    (linuxRecordTransfer s size latency).totalTransfers = s.totalTransfers + 1 := by
  simp only [linuxRecordTransfer]; split_ifs <;> rfl

@[simp] theorem linuxRecordTransfer_totalBytes :
    (linuxRecordTransfer s size latency).totalBytes = s.totalBytes + size := by
  simp only [linuxRecordTransfer]; split_ifs <;> rfl

@[simp] theorem linuxRecordTransfer_totalErrors :
    (linuxRecordTransfer s size latency).totalErrors = s.totalErrors := by
  simp only [linuxRecordTransfer]; split_ifs <;> rfl

theorem linuxRecordTransfer_minLatencyNs :
    (linuxRecordTransfer s size latency).minLatencyNs =
      if s.totalTransfers + 1 = 1 then latency
      else if latency < s.minLatencyNs then latency else s.minLatencyNs := by
  simp only [linuxRecordTransfer]; split_ifs <;> rfl

theorem linuxRecordTransfer_maxLatencyNs :
    (linuxRecordTransfer s size latency).maxLatencyNs =
      if s.totalTransfers + 1 = 1 then latency
      else if latency > s.maxLatencyNs then latency else s.maxLatencyNs := by
  simp only [linuxRecordTransfer]; split_ifs <;> rfl

end RecordFields

/-- `pcie_sim_transfer_linux`; `currentLatency` is `end_time - start_time` as the monotonic
clock measured it around the sleep. The direction only sets the length of the sleep. -/
def pcieSimTransferLinux (handle : Option PcieSimHandle) (buffer size : UInt64)
    (_direction : UInt32) (currentLatency : UInt64) (s : LinuxSim) : SimReply × LinuxSim :=
  match handle with
  | some h =>
    if buffer = 0 ∨ size = 0 ∨ maxDevices ≤ h.deviceId.val then (.ret .errorParam, s)
    else
      (.transferred currentLatency, s.setDevice h.deviceId
        { s.devices h.deviceId with
          stats := linuxRecordTransfer (s.devices h.deviceId).stats size currentLatency })
  | none => (.ret .errorParam, s)

/-- `pcie_sim_get_stats_linux`. -/
def pcieSimGetStatsLinux (handle : Option PcieSimHandle) (s : LinuxSim) :
    SimReply × LinuxSim :=
  match handle with
  | some h =>
    if maxDevices ≤ h.deviceId.val then (.ret .errorParam, s)
    else (.stats (s.devices h.deviceId).stats, s)
  | none => (.ret .errorParam, s)

/-- `pcie_sim_reset_stats_linux`. -/
def pcieSimResetStatsLinux (handle : Option PcieSimHandle) (s : LinuxSim) :
    SimReply × LinuxSim :=
  match handle with
  | some h =>
    if maxDevices ≤ h.deviceId.val then (.ret .errorParam, s)
    else (.ret .success, s.setDevice h.deviceId { s.devices h.deviceId with stats := .zero })
  | none => (.ret .errorParam, s)

/-- The Linux build of `lib/core.c`. -/
def linuxStep : SimOp → LinuxSim → SimReply × LinuxSim
  | .open deviceId mallocOk, s => pcieSimOpenLinux deviceId mallocOk s
  | .close h, s => pcieSimCloseLinux h s
  | .transfer h buffer size direction latency, s =>
    pcieSimTransferLinux h buffer size direction latency s
  | .getStats h, s => pcieSimGetStatsLinux h s
  | .resetStats h, s => pcieSimResetStatsLinux h s

/-- `pcie_sim_transfer_linux` refuses exactly a null handle, a null buffer and an empty
request, and a refusal changes nothing. -/
theorem linuxStep_transfer_errorParam (handle : Option PcieSimHandle) (buffer size : UInt64)
    (direction : UInt32) (latency : UInt64) (s : LinuxSim) :
    let r := linuxStep (.transfer handle buffer size direction latency) s
    (r.1 = .ret .errorParam ↔ handle = none ∨ buffer = 0 ∨ size = 0) ∧
      (r.1 = .ret .errorParam → r.2 = s) := by
  rcases handle with _ | h
  · simp [linuxStep, pcieSimTransferLinux]
  simp only [linuxStep, pcieSimTransferLinux, not_le.2 h.deviceId.isLt, or_false]
  split_ifs with hl
  · rcases hl with h0 | h0 <;> simp [h0]
  · simp_all

/-! ## The simulated delay -/

/-- The delay `pcie_sim_transfer_linux` hands to `linux_sim_delay`: 10 µs per started MiB,
20% more from the device, in 64-bit arithmetic. -/
def linuxTransferLatency (size : UInt64) (direction : UInt32) : UInt64 :=
  let baseLatencyPerMb : UInt64 := 10000
  let sizeMb := (size + 1024 * 1024 - 1) / (1024 * 1024)
  let sizeMb := if sizeMb = 0 then 1 else sizeMb
  let transferLatency := baseLatencyPerMb * sizeMb
  if direction = pcieSimFromDevice then transferLatency * 12 / 10 else transferLatency

/-- The largest `size_t`: the round-up wraps and the transfer is charged one MiB. -/
theorem linuxTransferLatency_size_max :
    linuxTransferLatency 18446744073709551615 0 = 10000 := by
  decide

/-- Where the round-up cannot wrap, the delay is 10 µs per started MiB, and 12 µs from the
device. -/
theorem linuxTransferLatency_of_no_wrap (size : UInt64) (direction : UInt32)
    (h1 : 1 ≤ size.toNat) (h2 : size.toNat + 1048575 < 2 ^ 64) :
    (linuxTransferLatency size direction).toNat =
      (if direction = pcieSimFromDevice then 12000 else 10000) *
        ((size.toNat + 1048575) / 1048576) := by
  unfold linuxTransferLatency
  obtain ⟨m, hm⟩ : ∃ m, (size + 1024 * 1024 - 1) / (1024 * 1024) = m := ⟨_, rfl⟩
  have hmb : m.toNat = (size.toNat + 1048575) / 1048576 := by
    rw [← hm, UInt64.toNat_div, UInt64.toNat_sub, UInt64.toNat_add, UInt64.toNat_mul]
    simp only [UInt64.toNat_ofNat, UInt64.size_eq, Nat.reducePow, Nat.reduceMod, Nat.reduceMul]
    omega
  have hne : m ≠ 0 := by
    rintro rfl
    simp only [UInt64.toNat_ofNat, UInt64.size_eq] at hmb
    omega
  simp only [hm, hne, if_false]
  split_ifs <;>
    simp only [UInt64.toNat_div, UInt64.toNat_mul, UInt64.toNat_ofNat, UInt64.size_eq, hmb,
      Nat.reducePow, Nat.reduceMod] <;>
    omega

/-- A 1 MiB read from the device waits 12 µs. -/
theorem linuxTransferLatency_one_mib_from_device :
    1 ≤ (1048576 : UInt64).toNat ∧ (1048576 : UInt64).toNat + 1048575 < 2 ^ 64 ∧
    (linuxTransferLatency 1048576 pcieSimFromDevice).toNat =
      (if pcieSimFromDevice = pcieSimFromDevice then 12000 else 10000) *
        (((1048576 : UInt64).toNat + 1048575) / 1048576) :=
  ⟨by decide, by decide, linuxTransferLatency_of_no_wrap _ _ (by decide) (by decide)⟩

/-! ## What each call does to one device slot -/

/-- The effect of a call on slot `d`: what the backend does there when the call is made on
`d`, and nothing otherwise. -/
def linuxSlotStep (d : Fin maxDevices) : SimOp → LinuxDeviceState → LinuxDeviceState
  | .open deviceId true, x =>
    if deviceSlot? deviceId = some d ∧ x.active = false then ⟨true, .zero⟩ else x
  | .transfer (some h) buffer size _ latency, x =>
    if h.deviceId = d ∧ buffer ≠ 0 ∧ size ≠ 0 then
      { x with stats := linuxRecordTransfer x.stats size latency }
    else x
  | .resetStats (some h), x => if h.deviceId = d then { x with stats := .zero } else x
  | _, x => x

theorem linuxSlotStep_of_not_on {d : Fin maxDevices} {op : SimOp}
    (hop : op.onDevice d = false) (x : LinuxDeviceState) : linuxSlotStep d op x = x := by
  rcases op with ⟨deviceId, _ | _⟩ | h | ⟨_ | h, b, z, dir, l⟩ | h | _ | h <;>
    simp only [linuxSlotStep]
  · have : deviceSlot? deviceId ≠ some d := fun h' => by
      simp [SimOp.onDevice, SimOp.device?, eq_of_deviceSlot? h'] at hop
    simp [this]
  · have : h.deviceId ≠ d := by rintro rfl; simp [SimOp.onDevice, SimOp.device?] at hop
    simp [this]
  · have : h.deviceId ≠ d := by rintro rfl; simp [SimOp.onDevice, SimOp.device?] at hop
    simp [this]

/-- Until the first open no slot is active. -/
def LinuxSim.Coherent (s : LinuxSim) : Prop :=
  s.initialized = false → ∀ i, (s.devices i).active = false

theorem LinuxSim.coherent_initial : LinuxSim.initial.Coherent := fun _ _ => rfl

section Steps

variable {s t : LinuxSim} {d : Fin maxDevices}

theorem linuxSimInit_devices (hc : s.Coherent) (i : Fin maxDevices) :
    (linuxSimInit s).devices i = s.devices i := by
  unfold linuxSimInit
  split_ifs with h
  · rfl
  · have := hc (by simpa using h) i
    cases hx : s.devices i
    simp_all

@[simp] theorem linuxSimInit_initialized (s : LinuxSim) : (linuxSimInit s).initialized = true := by
  unfold linuxSimInit; split_ifs <;> simp_all

/-- Writing a slot without touching its `active` flag keeps `Coherent`. -/
theorem LinuxSim.Coherent.setDevice (hc : s.Coherent) {x : LinuxDeviceState}
    (hx : x.active = (s.devices d).active) : (s.setDevice d x).Coherent := by
  intro hi i
  by_cases h : i = d
  · subst h; simpa [hx] using hc hi i
  · simpa [h] using hc hi i

theorem LinuxSim.coherent_of_initialized (h : s.initialized = true) : s.Coherent :=
  fun h' => by simp [h] at h'

/-- An open of slot `d'`: the init, then activation with zeroed statistics when the slot
was inactive and the handle could be allocated. -/
theorem pcieSimOpenLinux_state {deviceId : Int} {d' : Fin maxDevices}
    (hslot : deviceSlot? deviceId = some d') (m : Bool) :
    (pcieSimOpenLinux deviceId m s).2 =
      if m = true ∧ ((linuxSimInit s).devices d').active = false then
        (linuxSimInit s).setDevice d' ⟨true, .zero⟩
      else linuxSimInit s := by
  cases m <;> simp only [pcieSimOpenLinux, hslot] <;> split_ifs <;> simp_all

/-- The one fact every proof about a device uses: a call changes slot `d` as
`linuxSlotStep` says, and leaves `Coherent` true. -/
theorem linuxStep_devices (hc : s.Coherent) (op : SimOp) :
    (linuxStep op s).2.devices d = linuxSlotStep d op (s.devices d) ∧
      (linuxStep op s).2.Coherent := by
  rcases op with ⟨deviceId, m⟩ | h | ⟨_ | h, b, z, dir, l⟩ | (_ | h) | (_ | h)
  · rcases hslot : deviceSlot? deviceId with _ | d'
    · cases m <;> simp [linuxStep, pcieSimOpenLinux, linuxSlotStep, hslot, hc]
    · simp only [linuxStep, pcieSimOpenLinux_state hslot]
      refine ⟨?_, LinuxSim.coherent_of_initialized (by split_ifs <;> simp)⟩
      have hdev := linuxSimInit_devices hc
      by_cases hd : d' = d
      · subst hd; cases m <;> split_ifs <;> simp_all [linuxSlotStep]
      · cases m <;> split_ifs <;> simp [linuxSlotStep, hslot, hd, Ne.symm hd, hdev]
  · exact ⟨by cases h <;> rfl, by cases h <;> exact hc⟩
  · exact ⟨rfl, hc⟩
  · have hlt : ¬maxDevices ≤ h.deviceId.val := not_le.2 h.deviceId.isLt
    simp only [linuxStep, pcieSimTransferLinux, hlt, or_false]
    split_ifs with hbad
    · exact ⟨by simp only [linuxSlotStep]; rw [if_neg (by tauto)], hc⟩
    · refine ⟨?_, hc.setDevice rfl⟩
      by_cases hd : h.deviceId = d
      · subst hd; simp_all [linuxSlotStep]
      · simp [linuxSlotStep, hd, Ne.symm hd]
  · exact ⟨rfl, hc⟩
  · simp only [linuxStep, pcieSimGetStatsLinux]
    split_ifs <;> exact ⟨rfl, hc⟩
  · exact ⟨rfl, hc⟩
  · have hlt : ¬maxDevices ≤ h.deviceId.val := not_le.2 h.deviceId.isLt
    simp only [linuxStep, pcieSimResetStatsLinux, hlt, if_false]
    refine ⟨?_, hc.setDevice rfl⟩
    by_cases hd : h.deviceId = d
    · subst hd; simp [linuxSlotStep]
    · simp [linuxSlotStep, hd, Ne.symm hd]

/-- A call's reply reads only the slot it is made on. -/
theorem linuxStep_reply_congr {op : SimOp} (hop : op.onDevice d = true)
    (hd : s.devices d = t.devices d) : (linuxStep op s).1 = (linuxStep op t).1 := by
  rcases op with ⟨deviceId, m⟩ | (_ | h) | ⟨_ | h, b, z, dir, l⟩ | (_ | h) | (_ | h)
  · simp only [linuxStep, pcieSimOpenLinux]; split <;> cases m <;> rfl
  all_goals try rfl
  · simp only [linuxStep, pcieSimTransferLinux]; split_ifs <;> rfl
  · obtain rfl : h.deviceId = d := by simpa [SimOp.onDevice, SimOp.device?, Fin.val_inj] using hop
    simp only [linuxStep, pcieSimGetStatsLinux, hd]; split_ifs <;> rfl
  · simp only [linuxStep, pcieSimResetStatsLinux]; split_ifs <;> rfl

/-- Over a whole program slot `d` evolves by `linuxSlotStep` alone. -/
theorem linux_exec_devices (hc : s.Coherent) (ops : List SimOp) :
    (exec linuxStep ops s).devices d = ops.foldl (fun x op => linuxSlotStep d op x) (s.devices d) ∧
      (exec linuxStep ops s).Coherent := by
  induction ops generalizing s with
  | nil => exact ⟨rfl, hc⟩
  | cons op ops ih =>
    obtain ⟨hd, hc'⟩ := linuxStep_devices (d := d) hc op
    simpa only [exec, List.foldl_cons, hd] using ih hc'

end Steps

/-! ## The statistics law -/

/-- The sample a call adds to device `d`'s statistics: a transfer on `d` that passes the
backend's check. -/
def linuxSample? (d : Fin maxDevices) : SimOp → Option Sample
  | .transfer (some h) buffer size _ latency =>
    if h.deviceId = d ∧ buffer ≠ 0 ∧ size ≠ 0 then some ⟨size, latency⟩ else none
  | _ => none

/-- The successful transfers on `d` of a program. -/
def linuxSamples (d : Fin maxDevices) (ops : List SimOp) : List Sample :=
  ops.filterMap (linuxSample? d)

@[simp] theorem linuxSamples_nil (d : Fin maxDevices) : linuxSamples d [] = [] := rfl

@[simp] theorem linuxSamples_cons (d : Fin maxDevices) (op : SimOp) (ops : List SimOp) :
    linuxSamples d (op :: ops) = (linuxSample? d op).toList ++ linuxSamples d ops := by
  cases h : linuxSample? d op <;> simp [linuxSamples, List.filterMap_cons, h]

theorem runningLaw_zero : RunningLaw PcieSimStats.zero [] :=
  ⟨rfl, rfl, rfl, fun h => absurd rfl h, fun h => absurd rfl h, rfl, fun _ => ⟨rfl, rfl⟩⟩

/-- One successful transfer keeps the law, while the count stays below `2^64` and the
latencies below `2^63`: the count reaching `1` marks exactly the first sample. -/
theorem linuxRecordTransfer_law {s : PcieSimStats} {ss : List Sample} (h : RunningLaw s ss)
    (x : Sample) (hlen : ss.length + 1 < 2 ^ 64)
    (hlat : ∀ y ∈ ss ++ [x], y.latency.toNat < 2 ^ 63) :
    RunningLaw (linuxRecordTransfer s x.size x.latency) (ss ++ [x]) := by
  have htt : (s.totalTransfers + 1).toNat = ss.length + 1 := by
    rw [UInt64.toNat_add_of_lt] <;> simp only [h.transfers, UInt64.toNat_one]; omega
  have hbytes : s.totalBytes + x.size = ((ss ++ [x]).map Sample.size).sum := by simp [h.bytes]
  rcases eq_or_ne ss [] with rfl | hne
  · have h1 : s.totalTransfers + 1 = 1 := UInt64.eq_iff_toNat_eq.2 (by simpa using htt)
    simp only [linuxRecordTransfer, h1, if_true]
    exact ⟨by simp [htt], hbytes, h.errors, fun _ => isMinOf_singleton _,
      fun _ => isMaxOf_singleton _, by simp, fun h => absurd h (by simp)⟩
  · have h1 : s.totalTransfers + 1 ≠ 1 := fun h1 => by
      have := congrArg UInt64.toNat h1
      rw [htt, UInt64.toNat_one] at this
      exact hne (List.length_eq_zero.1 (by omega))
    have hx : x.latency.toNat < 2 ^ 63 := hlat x (by simp)
    have havg : s.avgLatencyNs.toNat < 2 ^ 63 := by
      rw [h.avg]
      refine lt_of_le_of_lt (halvingAvg_le (b := 2 ^ 63 - 1) fun l hl => ?_) (by omega)
      obtain ⟨y, hy, rfl⟩ := List.mem_map.1 hl
      have := hlat y (by simp [hy]); omega
    simp only [linuxRecordTransfer, h1, if_false]
    refine ⟨by simpa using htt, hbytes, h.errors, fun _ => ?_, fun _ => ?_, ?_,
      fun h => absurd h (by simp)⟩
    · simpa using (h.min hne).snoc x.latency
    · simpa using (h.max hne).snoc x.latency
    · rw [UInt64.toNat_div, UInt64.toNat_add_of_lt (by omega), List.map_append, List.map_singleton,
        halvingAvg_append_singleton (by simpa using hne), h.avg]
      rfl

section Slot

variable {d : Fin maxDevices}

/-- Only an open of `d` with a handle allocated makes the slot active; nothing makes it
inactive. -/
theorem linuxSlotStep_active (op : SimOp) (x : LinuxDeviceState) :
    (linuxSlotStep d op x).active = (x.active || decide (op = .open (d : ℤ) true)) := by
  rcases op with ⟨deviceId, _ | _⟩ | h | ⟨_ | h, b, z, dir, l⟩ | h | (_ | h)
  · simp [linuxSlotStep]
  · simp only [linuxSlotStep, deviceSlot?_eq_some_iff, SimOp.open.injEq, and_true]
    by_cases hd : deviceId = d <;> by_cases ha : x.active <;> simp [hd, ha]
  all_goals simp only [linuxSlotStep]; try split_ifs
  all_goals simp

theorem linuxSlot_active_iff (ops : List SimOp) (x : LinuxDeviceState) :
    (ops.foldl (fun x op => linuxSlotStep d op x) x).active = true ↔
      x.active = true ∨ .open (d : ℤ) true ∈ ops := by
  induction ops generalizing x with
  | nil => simp
  | cons op ops ih =>
    rw [List.foldl_cons, ih, linuxSlotStep_active, List.mem_cons]
    by_cases h : op = .open (d : ℤ) true
    · simp [h]
    · simp [h, Ne.symm h]

/-- Once the slot is active, every call but a reset of `d` adds its sample to the law. -/
theorem linuxSlotStep_law {x : LinuxDeviceState} {ss : List Sample} {op : SimOp}
    (hop : op ≠ .resetStats (some ⟨d⟩)) (hx : x.active = true) (hlaw : RunningLaw x.stats ss)
    (hlat : ∀ y ∈ ss ++ (linuxSample? d op).toList, y.latency.toNat < 2 ^ 63)
    (hlen : (ss ++ (linuxSample? d op).toList).length < 2 ^ 64) :
    RunningLaw (linuxSlotStep d op x).stats (ss ++ (linuxSample? d op).toList) := by
  rcases op with ⟨deviceId, _ | _⟩ | h | ⟨_ | h, b, z, dir, l⟩ | h | (_ | h) <;>
    simp only [linuxSlotStep, linuxSample?, Option.toList, List.append_nil] <;>
    try exact hlaw
  · simp [hx, hlaw]
  · split_ifs with hv
    · simp only [linuxSample?, if_pos hv, Option.toList, List.length_append,
        List.length_singleton] at hlat hlen ⊢
      exact linuxRecordTransfer_law hlaw ⟨z, l⟩ hlen hlat
    · simpa using hlaw
  · have : h.deviceId ≠ d := fun he => hop (by rw [← he])
    simpa [this] using hlaw

/-- From an active slot, a program without a reset of `d` extends the law by its samples. -/
theorem linuxSlot_run_law {x : LinuxDeviceState} {ss : List Sample} {post : List SimOp}
    (hpost : .resetStats (some ⟨d⟩) ∉ post) (hx : x.active = true) (hlaw : RunningLaw x.stats ss)
    (hlat : ∀ y ∈ ss ++ linuxSamples d post, y.latency.toNat < 2 ^ 63)
    (hlen : (ss ++ linuxSamples d post).length < 2 ^ 64) :
    RunningLaw (post.foldl (fun x op => linuxSlotStep d op x) x).stats
      (ss ++ linuxSamples d post) := by
  induction post generalizing x ss with
  | nil => simpa using hlaw
  | cons op post ih =>
    simp only [linuxSamples_cons, ← List.append_assoc] at hlat hlen ⊢
    have hop : op ≠ .resetStats (some ⟨d⟩) := fun h => hpost (h ▸ List.mem_cons_self _ _)
    refine ih (fun h => hpost (List.mem_cons_of_mem _ h)) ?_ ?_ hlat hlen
    · rw [linuxSlotStep_active, hx, Bool.true_or]
    · exact linuxSlotStep_law hop hx hlaw (fun y hy => hlat y (List.mem_append_left _ hy))
        (by simp only [List.length_append] at hlen ⊢; omega)

end Slot

/-- `pcie_sim_get_stats_linux` returns the statistics of its handle's slot. -/
theorem linuxStep_getStats (s : LinuxSim) (d : Fin maxDevices) :
    (linuxStep (.getStats (some ⟨d⟩)) s).1 = .stats (s.devices d).stats := by
  simp [linuxStep, pcieSimGetStatsLinux, not_le.2 d.isLt]

/-- The statistics a device reports follow the running law for the successful transfers
since its first open, or since a reset made after that open, while they number fewer than
`2^64` and each latency is below `2^63`. -/
theorem linux_stats_law (d : Fin maxDevices) (pre post : List SimOp) (start : SimOp)
    (hstart : (start = .open (d : ℤ) true ∧ .open (d : ℤ) true ∉ pre) ∨
      (start = .resetStats (some ⟨d⟩) ∧ .open (d : ℤ) true ∈ pre))
    (hpost : .resetStats (some ⟨d⟩) ∉ post)
    (hlat : ∀ x ∈ linuxSamples d post, x.latency.toNat < 2 ^ 63)
    (hlen : (linuxSamples d post).length < 2 ^ 64) :
    ∃ snap, (linuxStep (.getStats (some ⟨d⟩))
        (exec linuxStep (pre ++ start :: post) LinuxSim.initial)).1 = .stats snap ∧
      RunningLaw snap (linuxSamples d post) := by
  refine ⟨_, linuxStep_getStats _ d, ?_⟩
  rw [(linux_exec_devices LinuxSim.coherent_initial _).1, List.foldl_append, List.foldl_cons]
  have hzero : linuxSlotStep d start
      (pre.foldl (fun x op => linuxSlotStep d op x) (LinuxSim.initial.devices d)) =
        ⟨true, .zero⟩ := by
    have hact := linuxSlot_active_iff (d := d) pre (LinuxSim.initial.devices d)
    generalize pre.foldl _ _ = x at hact ⊢
    rcases hstart with ⟨rfl, hpre⟩ | ⟨rfl, hpre⟩
    · have : x.active = false := by simpa [LinuxSim.initial, hpre] using hact
      simp [linuxSlotStep, deviceSlot?_val, this]
    · have : x.active = true := hact.2 (.inr hpre)
      cases x; simp_all [linuxSlotStep]
  rw [hzero]
  have hlaw : RunningLaw (⟨true, .zero⟩ : LinuxDeviceState).stats [] := runningLaw_zero
  simpa using linuxSlot_run_law hpost rfl hlaw (by simpa using hlat) (by simpa using hlen)

/-- One 4 KiB transfer of latency 20 µs after the first open of device 0. -/
theorem linux_stats_law_one_transfer :
    ∃ snap, (linuxStep (.getStats (some ⟨0⟩)) (exec linuxStep
        ([] ++ .open ((0 : Fin maxDevices) : ℤ) true :: [.transfer (some ⟨0⟩) 4096 4096 0 20000])
        LinuxSim.initial)).1 = .stats snap ∧
      RunningLaw snap (linuxSamples 0 [.transfer (some ⟨0⟩) 4096 4096 0 20000]) :=
  linux_stats_law 0 [] [.transfer (some ⟨0⟩) 4096 4096 0 20000] _ (.inl ⟨rfl, by decide⟩)
    (by decide) (by decide) (by decide)

/-! ## After `2^64` transfers

The count is a 64-bit counter, so the test `total_transfers == 1` that marks the first
sample fires again at transfer `2^64 + 1`, and min, max and average restart from it. -/

/-- After a first transfer of latency 5 and `k` of latency 7 (`1 ≤ k < 2^64`), device 0
holds min 5, max 7 and average 6, and counts `1 + k` modulo `2^64`. -/
theorem linuxSlot_after_sevens (k : ℕ) (hk : 1 ≤ k) (hk' : k < 2 ^ 64) :
    ∃ c : UInt64, (List.replicate k (.transfer (some ⟨0⟩) 1 1 0 7)).foldl
        (fun x op => linuxSlotStep 0 op x) ⟨true, ⟨1, 1, 0, 5, 5, 5⟩⟩ =
        ⟨true, ⟨c, c, 0, 6, 5, 7⟩⟩ ∧ c.toNat = (1 + k) % 2 ^ 64 := by
  induction k with
  | zero => omega
  | succ k ih =>
    rcases Nat.eq_zero_or_pos k with rfl | hk0
    · exact ⟨2, rfl, rfl⟩
    obtain ⟨c, hc, hct⟩ := ih hk0 (by omega)
    have hc1 : (c + 1).toNat = (1 + (k + 1)) % 2 ^ 64 := by
      rw [UInt64.toNat_add, hct]; simp only [UInt64.toNat_one, UInt64.size_eq]; omega
    have hne : c + 1 ≠ 1 := fun h => by
      have := congrArg UInt64.toNat h
      rw [hc1, UInt64.toNat_one] at this
      omega
    refine ⟨c + 1, ?_, hc1⟩
    rw [List.replicate_succ', List.foldl_append, hc]
    simp only [List.foldl_cons, List.foldl_nil, linuxSlotStep, linuxRecordTransfer, hne,
      if_false]
    rfl

/-- `2^64 + 1` transfers on device 0, the first of latency 5: the snapshot reports min,
max and average 7, as if the transfer of latency 5 had not happened. -/
theorem linux_min_forgotten_after_wrap :
    (linuxStep (.getStats (some ⟨0⟩)) (exec linuxStep
      (.open 0 true :: .transfer (some ⟨0⟩) 1 1 0 5 ::
        List.replicate (2 ^ 64) (.transfer (some ⟨0⟩) 1 1 0 7)) LinuxSim.initial)).1 =
        .stats ⟨1, 1, 0, 7, 7, 7⟩ ∧
      (⟨1, 5⟩ : Sample) ∈ linuxSamples 0 (.open 0 true :: .transfer (some ⟨0⟩) 1 1 0 5 ::
        List.replicate (2 ^ 64) (.transfer (some ⟨0⟩) 1 1 0 7)) := by
  refine ⟨?_, List.mem_filterMap.2 ⟨_, List.mem_cons_of_mem _ (List.mem_cons_self _ _), rfl⟩⟩
  rw [linuxStep_getStats, (linux_exec_devices LinuxSim.coherent_initial _).1]
  obtain ⟨c, hc, hct⟩ := linuxSlot_after_sevens (2 ^ 64 - 1) (by omega) (by omega)
  obtain rfl : c = 0 := UInt64.eq_iff_toNat_eq.2 (by rw [hct]; rfl)
  have hfirst : linuxSlotStep 0 (.transfer (some ⟨0⟩) 1 1 0 5)
      (linuxSlotStep 0 (.open 0 true) (LinuxSim.initial.devices 0)) =
        ⟨true, ⟨1, 1, 0, 5, 5, 5⟩⟩ := by decide
  rw [List.foldl_cons, List.foldl_cons, hfirst, show 2 ^ 64 = 2 ^ 64 - 1 + 1 by omega,
    List.replicate_succ', List.foldl_append, hc]
  decide

end PcieSim.Sim

import PcieSim.Kernel.Ioctl
import PcieSim.Sim.Independence

/-!
# The three backends side by side

A session is a sequence of calls on one open handle of one device: transfers, snapshots
and resets. The kernel backend answers them through `pcie_sim_char_ioctl` from the zeroed
block `probe` leaves; the Linux and Windows backends through their calls on the handle of
the device's first open. What a caller observes of a reply is success, an error, or a
snapshot seen through a projection of its fields.

* `SessionAgree`: what the three statistics blocks share after `n` transfers since the
  last reset, and the step lemmas for a transfer and a reset;
* `backends_agree`: on sessions of transfers every backend accepts, the three return the
  same results and agree at every snapshot on the counters and the maximum; Linux and
  Windows also on the minimum once a transfer has been made, and the kernel on it while no
  latency is `0`. The averages follow three different rules;
* the invalid-parameter exit of each backend's transfer entry point: when it is taken,
  and what it does to the statistics.
-/

namespace PcieSim.Backends

open PcieSim.Kernel PcieSim.Sim

/-! ## Sessions -/

/-- One call of a session; a transfer carries the latency the backend's clock measures. -/
inductive SessionOp
  | transfer (buffer size : UInt64) (direction : UInt32) (latency : UInt64)
  | getStats
  | resetStats
deriving Repr, DecidableEq

/-- A transfer request every backend accepts: non-null, 64 bytes to 1 MiB, a known
direction. -/
def SessionOp.Accepted : SessionOp → Prop
  | .transfer buffer size direction _ =>
    buffer ≠ 0 ∧ 64 ≤ size.toNat ∧ size.toNat ≤ 1048576 ∧ direction ≤ 1
  | _ => True

instance : DecidablePred SessionOp.Accepted
  | .transfer .. => inferInstanceAs (Decidable (_ ∧ _ ∧ _ ∧ _))
  | .getStats => inferInstanceAs (Decidable True)
  | .resetStats => inferInstanceAs (Decidable True)

/-- The transfer did not take `0` ns. -/
def SessionOp.Nonzero : SessionOp → Prop
  | .transfer _ _ _ latency => latency ≠ 0
  | _ => True

instance : DecidablePred SessionOp.Nonzero
  | .transfer .. => inferInstanceAs (Decidable (_ ≠ _))
  | .getStats => inferInstanceAs (Decidable True)
  | .resetStats => inferInstanceAs (Decidable True)

/-- A call of the session counted as a transfer. -/
def SessionOp.isTransfer : SessionOp → Bool
  | .transfer .. => true
  | _ => false

/-- The call on the device file: every lock, copy and allocation succeeds, and the DMA
path measures the transfer's latency. -/
def SessionOp.toIoctl : SessionOp → IoctlCall
  | .transfer buffer size direction latency =>
    ⟨⟨true, true, ⟨true, true, latency⟩, true⟩, pcieSimIocTransfer,
      ⟨buffer, size, direction, 0⟩⟩
  | .getStats => ⟨⟨true, true, ⟨true, true, 0⟩, true⟩, pcieSimIocGetStats, ⟨0, 0, 0, 0⟩⟩
  | .resetStats => ⟨⟨true, true, ⟨true, true, 0⟩, true⟩, pcieSimIocResetStats, ⟨0, 0, 0, 0⟩⟩

/-- The library call on the handle of device `d`. -/
def SessionOp.toSim (d : Fin maxDevices) : SessionOp → SimOp
  | .transfer buffer size direction latency =>
    .transfer (some ⟨d⟩) buffer size direction latency
  | .getStats => .getStats (some ⟨d⟩)
  | .resetStats => .resetStats (some ⟨d⟩)

/-- The kernel backend as a step function on `dev->stats`. -/
def kernelStep (op : SessionOp) (s : PcieSimStats) : IoctlOutcome × PcieSimStats :=
  let c := op.toIoctl
  let o := pcieSimCharIoctl c.env c.cmd c.req s
  (o, o.stats)

/-- What a caller sees of a reply, with snapshots seen through a projection. -/
inductive Observed (α : Type)
  | ok
  | error
  | snapshot (a : α)
deriving Repr, DecidableEq

/-- `0` with the copied statistics, `0`, or an error code. -/
def ioctlObserved {α : Type} (f : PcieSimStats → α) (o : IoctlOutcome) : Observed α :=
  if o.ret = 0 then
    match o.copied with
    | .stats s => .snapshot (f s)
    | _ => .ok
  else .error

/-- `PCIE_SIM_SUCCESS` with its output, or an error. -/
def simObserved {α : Type} (f : PcieSimStats → α) : SimReply → Observed α
  | .ret e => if e = .success then .ok else .error
  | .opened _ | .transferred _ => .ok
  | .stats s => .snapshot (f s)

/-- The kernel's replies to a session, from `probe`. -/
def kernelSession {α : Type} (f : PcieSimStats → α) (sess : List SessionOp) : List (Observed α) :=
  (trace kernelStep sess PcieSimStats.zero).map fun e => ioctlObserved f e.2

/-- The Linux backend's replies to a session on the handle of device `d`'s first open. -/
def linuxSession {α : Type} (f : PcieSimStats → α) (d : Fin maxDevices)
    (sess : List SessionOp) : List (Observed α) :=
  (trace (fun op => linuxStep (op.toSim d)) sess
    (linuxStep (.open d true) LinuxSim.initial).2).map fun e => simObserved f e.2

/-- The Windows backend's replies to a session on the handle of device `d`'s first open. -/
def windowsSession {α : Type} (f : PcieSimStats → α) (env : WindowsEnv) (d : Fin maxDevices)
    (sess : List SessionOp) : List (Observed α) :=
  (trace (fun op => windowsStep env (op.toSim d)) sess
    (windowsStep env (.open d true) WindowsSim.initial).2).map fun e => simObserved f e.2

/-- Transfers, bytes, errors and the maximum latency. -/
def counters (s : PcieSimStats) : UInt64 × UInt64 × UInt64 × UInt64 :=
  (s.totalTransfers, s.totalBytes, s.totalErrors, s.maxLatencyNs)

/-- The counters, and the minimum once a transfer has been made. -/
def countersMin (s : PcieSimStats) :
    (UInt64 × UInt64 × UInt64 × UInt64) × Option UInt64 :=
  (counters s, if s.totalTransfers = 0 then none else some s.minLatencyNs)

/-- The counters and the minimum. -/
def countersWithMin (s : PcieSimStats) :
    (UInt64 × UInt64 × UInt64 × UInt64) × UInt64 :=
  (counters s, s.minLatencyNs)

/-! ## Where the backends part -/

/-- A snapshot right after the open, a transfer of 20 µs, and another snapshot: Windows
reports `min_latency_ns = UINT64_MAX` where the others report `0`, and the kernel reports an
average of 10 µs after the first transfer where the others report 20 µs. -/
theorem backends_snapshots_differ :
    let sess := [.getStats, .transfer 0x1000 4096 0 20000, .getStats]
    kernelSession id sess =
        [.snapshot .zero, .ok, .snapshot ⟨1, 4096, 0, 10000, 20000, 20000⟩] ∧
      linuxSession id 0 sess =
        [.snapshot .zero, .ok, .snapshot ⟨1, 4096, 0, 20000, 20000, 20000⟩] ∧
      windowsSession id ⟨none, none⟩ 0 sess =
        [.snapshot freshStats, .ok, .snapshot ⟨1, 4096, 0, 20000, 20000, 20000⟩] := by
  decide

/-! ## One call of a session in each backend -/

section Calls

theorem kernelStep_transfer {buffer size : UInt64} {direction : UInt32} {latency : UInt64}
    (hacc : (SessionOp.transfer buffer size direction latency).Accepted) (k : PcieSimStats) :
    kernelStep (.transfer buffer size direction latency) k =
      (⟨0, updateTransferStats k ⟨buffer, size, direction, 0⟩ latency true,
        .req ⟨buffer, size, direction, latency⟩⟩,
        updateTransferStats k ⟨buffer, size, direction, 0⟩ latency true) := by
  obtain ⟨hb, hz, hz', hd⟩ := hacc
  have hok : DmaOk ⟨true, true, latency⟩ ⟨buffer, size, direction, 0⟩ :=
    ⟨(validateTransferRequest_eq_zero_iff _).2 ⟨hb, by dsimp only; omega, hz', hd⟩, rfl, rfl⟩
  simp only [kernelStep, SessionOp.toIoctl, pcieSimCharIoctl_transfer,
    pcieSimDmaTransfer_of_ok hok]
  simp

theorem kernelStep_getStats (k : PcieSimStats) :
    kernelStep .getStats k = (⟨0, k, .stats k⟩, k) := by
  simp [kernelStep, SessionOp.toIoctl, pcieSimCharIoctl_getStats]

theorem kernelStep_resetStats (k : PcieSimStats) :
    kernelStep .resetStats k = (⟨0, .zero, .nothing⟩, .zero) := by
  simp [kernelStep, SessionOp.toIoctl, pcieSimCharIoctl_resetStats]

variable {d : Fin maxDevices}

section Linux

variable {s : LinuxSim} (hc : s.Coherent)
include hc

theorem linuxStep_sessionTransfer {buffer size : UInt64} {direction : UInt32}
    {latency : UInt64} (hacc : (SessionOp.transfer buffer size direction latency).Accepted) :
    let r := linuxStep ((SessionOp.transfer buffer size direction latency).toSim d) s
    r.1 = .transferred latency ∧
      (r.2.devices d).stats = linuxRecordTransfer (s.devices d).stats size latency ∧
      r.2.Coherent := by
  obtain ⟨hb, hz, -⟩ := hacc
  have hz0 : size ≠ 0 := fun h => by simp [h] at hz
  obtain ⟨hd, hc'⟩ := linuxStep_devices (d := d) hc
    ((SessionOp.transfer buffer size direction latency).toSim d)
  refine ⟨?_, by rw [hd]; simp [SessionOp.toSim, linuxSlotStep, hb, hz0], hc'⟩
  simp [SessionOp.toSim, linuxStep, pcieSimTransferLinux, hb, hz0, not_le.2 d.isLt]

theorem linuxStep_sessionGetStats :
    let r := linuxStep (SessionOp.getStats.toSim d) s
    r.1 = .stats (s.devices d).stats ∧ (r.2.devices d).stats = (s.devices d).stats ∧
      r.2.Coherent := by
  simp [SessionOp.toSim, linuxStep, pcieSimGetStatsLinux, not_le.2 d.isLt, hc]

theorem linuxStep_sessionResetStats :
    let r := linuxStep (SessionOp.resetStats.toSim d) s
    r.1 = .ret .success ∧ (r.2.devices d).stats = .zero ∧ r.2.Coherent := by
  obtain ⟨hd, hc'⟩ := linuxStep_devices (d := d) hc (SessionOp.resetStats.toSim d)
  refine ⟨?_, by rw [hd]; simp [SessionOp.toSim, linuxSlotStep], hc'⟩
  simp [SessionOp.toSim, linuxStep, pcieSimResetStatsLinux, not_le.2 d.isLt]

end Linux

section Windows

variable (env : WindowsEnv) {u : WindowsSim} (ha : (u.devices d).active = true)
include ha

theorem windowsStep_sessionTransfer {buffer size : UInt64} {direction : UInt32}
    {latency : UInt64} (hacc : (SessionOp.transfer buffer size direction latency).Accepted) :
    let r := windowsStep env ((SessionOp.transfer buffer size direction latency).toSim d) u
    r.1 = .transferred latency ∧
      (r.2.devices d).stats = windowsRecordTransfer (u.devices d).stats size latency ∧
      (r.2.devices d).active = true := by
  obtain ⟨hb, hz, hz', -⟩ := hacc
  have hbad : ¬(buffer = 0 ∨ size = 0 ∨ size > 1024 * 1024) := by
    rintro (h | h | h)
    · exact hb h
    · simp [h] at hz
    · simp only [gt_iff_lt, UInt64.lt_iff_toNat_lt] at h; simp at h; omega
  simp only [SessionOp.toSim, windowsStep, pcieSimTransferImpl, if_neg hbad, ha]
  simp

theorem windowsStep_sessionGetStats :
    let r := windowsStep env (SessionOp.getStats.toSim d) u
    r.1 = .stats (u.devices d).stats ∧ (r.2.devices d).stats = (u.devices d).stats ∧
      (r.2.devices d).active = true := by
  simp [SessionOp.toSim, windowsStep, pcieSimGetStatsImpl, ha]

theorem windowsStep_sessionResetStats :
    let r := windowsStep env (SessionOp.resetStats.toSim d) u
    r.1 = .ret .success ∧ (r.2.devices d).stats = freshStats ∧
      (r.2.devices d).active = true := by
  simp [SessionOp.toSim, windowsStep, pcieSimResetStatsImpl, ha]

end Windows

end Calls

/-! ## What the three statistics blocks share -/

/-- The three blocks after `n` transfers since the last reset: the same counters, the
zeroed and fresh blocks while `n = 0`, one minimum in Linux and Windows after that, and,
while no latency is `0` (`nz`), the kernel's minimum equal to Linux's. -/
structure SessionAgree (nz : Prop) (k l w : PcieSimStats) (n : ℕ) : Prop where
  count : l.totalTransfers.toNat = n
  kernel_linux : counters k = counters l
  linux_windows : counters l = counters w
  idle : n = 0 → l.minLatencyNs = 0 ∧ l.maxLatencyNs = 0 ∧ w.minLatencyNs = uint64Max
  min : n ≠ 0 → l.minLatencyNs = w.minLatencyNs
  kernel_min : nz → k.minLatencyNs = l.minLatencyNs ∧ (n ≠ 0 → l.minLatencyNs ≠ 0)

section Agree

variable {nz : Prop} {k l w : PcieSimStats} {n : ℕ}

theorem sessionAgree_reset (nz : Prop) : SessionAgree nz .zero .zero freshStats 0 :=
  ⟨rfl, rfl, rfl, fun _ => ⟨rfl, rfl, rfl⟩, fun h => absurd rfl h,
    fun _ => ⟨rfl, fun h => absurd rfl h⟩⟩

/-- At a snapshot the blocks agree as `backends_agree` states. -/
theorem SessionAgree.snapshot (h : SessionAgree nz k l w n) :
    counters k = counters l ∧ countersMin l = countersMin w ∧
      (nz → countersWithMin k = countersWithMin l) := by
  refine ⟨h.kernel_linux, ?_, fun hz => ?_⟩
  · have htt : l.totalTransfers = w.totalTransfers := congrArg Prod.fst h.linux_windows
    simp only [countersMin, h.linux_windows, ← htt]
    split_ifs with h0
    · rfl
    · rw [h.min fun hn => h0 (UInt64.eq_iff_toNat_eq.2 (by simp [h.count, hn]))]
  · simp only [countersWithMin, h.kernel_linux, (h.kernel_min hz).1]

/-- From a maximum of `0`, `if (latency > max) max = latency` gives the latency. -/
theorem ite_gt_zero (x : UInt64) : (if x > 0 then x else 0) = x := by
  split_ifs with h
  · rfl
  · exact (UInt64.eq_iff_toNat_eq.2 (by simp at h; simp [h])).symm

/-- From a minimum of `UINT64_MAX`, `if (latency < min) min = latency` gives the latency. -/
theorem ite_lt_uint64Max (x : UInt64) : (if x < uint64Max then x else uint64Max) = x := by
  split_ifs with h
  · rfl
  · have := x.toNat_lt
    exact UInt64.eq_iff_toNat_eq.2 (by simp [uint64Max] at h ⊢; omega)

/-- A transfer accepted everywhere keeps the agreement, one transfer further. -/
theorem SessionAgree.transfer (h : SessionAgree nz k l w n) (req : PcieSimTransferReq)
    (latency : UInt64) (hn : n + 1 < 2 ^ 64) (hnz : nz → latency ≠ 0) :
    SessionAgree nz (updateTransferStats k req latency true)
      (linuxRecordTransfer l req.size latency) (windowsRecordTransfer w req.size latency)
      (n + 1) := by
  have hcount : (l.totalTransfers + 1).toNat = n + 1 := by
    rw [UInt64.toNat_add_of_lt (by simp [h.count]; omega)]; simp [h.count]
  have hfirst : l.totalTransfers + 1 = 1 ↔ n = 0 := by
    rw [UInt64.eq_iff_toNat_eq, hcount]; simp
  have hkl := h.kernel_linux
  have hlw := h.linux_windows
  simp only [counters, Prod.mk.injEq] at hkl hlw
  obtain ⟨hkt, hkb, hke, hkm⟩ := hkl
  obtain ⟨hwt, hwb, hwe, hwm⟩ := hlw
  refine ⟨by rw [linuxRecordTransfer_totalTransfers, hcount], ?_, ?_,
    fun h0 => absurd h0 n.succ_ne_zero, fun _ => ?_, fun hz => ?_⟩ <;>
    simp only [counters, updateTransferStats, if_true, linuxRecordTransfer_totalTransfers,
      linuxRecordTransfer_totalBytes, linuxRecordTransfer_totalErrors,
      linuxRecordTransfer_maxLatencyNs, linuxRecordTransfer_minLatencyNs,
      windowsRecordTransfer_totalTransfers, windowsRecordTransfer_totalBytes,
      windowsRecordTransfer_totalErrors, windowsRecordTransfer_maxLatencyNs,
      windowsRecordTransfer_minLatencyNs, hfirst] <;>
    rcases Nat.eq_zero_or_pos n with rfl | hpos
  · rw [if_pos rfl, hkt, hkb, hke, hkm, (h.idle rfl).2.1, ite_gt_zero]
  · rw [if_neg hpos.ne', hkt, hkb, hke, hkm]
  · rw [if_pos rfl, hwt, hwb, hwe, ← hwm, (h.idle rfl).2.1, ite_gt_zero]
  · rw [if_neg hpos.ne', hwt, hwb, hwe, hwm]
  · rw [if_pos rfl, (h.idle rfl).2.2, ite_lt_uint64Max]
  · rw [if_neg hpos.ne', h.min hpos.ne']
  · rw [if_pos rfl, (h.kernel_min hz).1, (h.idle rfl).1, if_pos (Or.inl rfl)]
    exact ⟨rfl, fun _ => hnz hz⟩
  · obtain ⟨hk, hk0⟩ := h.kernel_min hz
    have hl0 := hk0 hpos.ne'
    rw [if_neg hpos.ne', hk]
    refine ⟨by simp [hl0], fun _ => ?_⟩
    split_ifs
    · exact hnz hz
    · exact hl0

end Agree

/-! ## Sessions on the three backends -/

/-- One accepted call in the three backends: each projection sees the same reply, Linux
stays coherent and slot `d` stays open on Windows, and the blocks still agree, with at most
one more transfer since the last reset. -/
theorem SessionAgree.step (env : WindowsEnv) {nz : Prop} {d : Fin maxDevices} {op : SessionOp}
    {k : PcieSimStats} {s : LinuxSim} {u : WindowsSim} {n : ℕ}
    (hag : SessionAgree nz k (s.devices d).stats (u.devices d).stats n)
    (hc : s.Coherent) (ha : (u.devices d).active = true) (hacc : op.Accepted)
    (hnz : nz → op.Nonzero) (hn : n + (if op.isTransfer then 1 else 0) < 2 ^ 64) :
    let rk := kernelStep op k
    let rl := linuxStep (op.toSim d) s
    let rw := windowsStep env (op.toSim d) u
    (ioctlObserved counters rk.1 = simObserved counters rl.1 ∧
        simObserved countersMin rl.1 = simObserved countersMin rw.1 ∧
        (nz → ioctlObserved countersWithMin rk.1 = simObserved countersWithMin rl.1)) ∧
      rl.2.Coherent ∧ (rw.2.devices d).active = true ∧
      ∃ n', n' ≤ n + (if op.isTransfer then 1 else 0) ∧
        SessionAgree nz rk.2 (rl.2.devices d).stats (rw.2.devices d).stats n' := by
  cases op with
  | transfer b z dir l =>
    obtain ⟨hlr, hls, hlc⟩ := linuxStep_sessionTransfer (d := d) hc hacc
    obtain ⟨hwr, hws, hwa⟩ := windowsStep_sessionTransfer env ha hacc
    dsimp only
    rw [kernelStep_transfer hacc, hlr, hwr, hls, hws]
    exact ⟨⟨rfl, rfl, fun _ => rfl⟩, hlc, hwa, n + 1, le_rfl, hag.transfer ⟨b, z, dir, 0⟩ l hn hnz⟩
  | getStats =>
    obtain ⟨hlr, hls, hlc⟩ := linuxStep_sessionGetStats (d := d) hc
    obtain ⟨hwr, hws, hwa⟩ := windowsStep_sessionGetStats env ha
    obtain ⟨h₁, h₂, h₃⟩ := hag.snapshot
    dsimp only
    rw [kernelStep_getStats, hlr, hwr, hls, hws]
    exact ⟨⟨by simp [ioctlObserved, simObserved, h₁], by simp [simObserved, h₂],
      fun hz => by simp [ioctlObserved, simObserved, h₃ hz]⟩, hlc, hwa, n, Nat.le_add_right _ _,
      hag⟩
  | resetStats =>
    obtain ⟨hlr, hls, hlc⟩ := linuxStep_sessionResetStats (d := d) hc
    obtain ⟨hwr, hws, hwa⟩ := windowsStep_sessionResetStats env ha
    dsimp only
    rw [kernelStep_resetStats, hlr, hwr, hls, hws]
    exact ⟨⟨rfl, rfl, fun _ => rfl⟩, hlc, hwa, 0, Nat.zero_le _, sessionAgree_reset nz⟩

/-- From blocks that agree, with slot `d` open on Windows, the three backends answer a
session of accepted transfers, snapshots and resets alike. -/
theorem session_agree {nz : Prop} (d : Fin maxDevices) (env : WindowsEnv)
    (sess : List SessionOp) (k : PcieSimStats) (s : LinuxSim) (u : WindowsSim) (n : ℕ)
    (hc : s.Coherent) (ha : (u.devices d).active = true)
    (hag : SessionAgree nz k (s.devices d).stats (u.devices d).stats n)
    (hacc : ∀ op ∈ sess, op.Accepted) (hnz : nz → ∀ op ∈ sess, op.Nonzero)
    (hn : n + (sess.filter SessionOp.isTransfer).length < 2 ^ 64) :
    (trace kernelStep sess k).map (fun e => ioctlObserved counters e.2) =
        (trace (fun op => linuxStep (op.toSim d)) sess s).map
          (fun e => simObserved counters e.2) ∧
      (trace (fun op => linuxStep (op.toSim d)) sess s).map
          (fun e => simObserved countersMin e.2) =
        (trace (fun op => windowsStep env (op.toSim d)) sess u).map
          (fun e => simObserved countersMin e.2) ∧
      (nz → (trace kernelStep sess k).map (fun e => ioctlObserved countersWithMin e.2) =
        (trace (fun op => linuxStep (op.toSim d)) sess s).map
          (fun e => simObserved countersWithMin e.2)) := by
  induction sess generalizing k s u n with
  | nil => exact ⟨rfl, rfl, fun _ => rfl⟩
  | cons op sess ih =>
    have hlen : ((op :: sess).filter SessionOp.isTransfer).length =
        (if op.isTransfer then 1 else 0) + (sess.filter SessionOp.isTransfer).length := by
      cases h : op.isTransfer <;> simp [List.filter_cons, h, Nat.add_comm]
    have hop := List.mem_cons_self op sess
    obtain ⟨⟨o₁, o₂, o₃⟩, hc', ha', n', hn', hag'⟩ :=
      hag.step env hc ha (hacc op hop) (fun hz => hnz hz op hop) (by omega)
    obtain ⟨ih₁, ih₂, ih₃⟩ := ih _ _ _ _ hc' ha' hag'
      (fun o ho => hacc o (List.mem_cons_of_mem _ ho))
      (fun hz o ho => hnz hz o (List.mem_cons_of_mem _ ho)) (by omega)
    simp only [trace, List.map_cons]
    exact ⟨by rw [o₁, ih₁], by rw [o₂, ih₂], fun hz => by rw [o₃ hz, ih₃ hz]⟩

/-- Device `d`'s slot right after its first open on Windows: fresh, and claimed. -/
theorem windowsStep_first_open {env : WindowsEnv} (he : env.mutexFailsAt = none)
    (d : Fin maxDevices) :
    ((windowsStep env (.open d true) WindowsSim.initial).2.devices d).active = true ∧
      ((windowsStep env (.open d true) WindowsSim.initial).2.devices d).stats = freshStats := by
  simp [windowsStep, pcieSimOpenImpl, deviceSlot?_val, windowsSimInit, WindowsSim.initial,
    windowsInitSlot, he]

/-- On a session of fewer than `2^64` transfers that every backend accepts, interleaved with
snapshots and resets, the kernel from `probe` and Linux and Windows from the device's first
open return the same result for every call, and at every snapshot agree on
`total_transfers`, `total_bytes`, `total_errors` and `max_latency_ns`. Linux and Windows
also agree on `min_latency_ns` once a transfer has been made since the last reset, and the
kernel agrees with them on it when no transfer took `0` ns. -/
theorem backends_agree (d : Fin maxDevices) (env : WindowsEnv)
    (henv : env.mutexFailsAt = none) (sess : List SessionOp)
    (hacc : ∀ op ∈ sess, op.Accepted)
    (hn : (sess.filter SessionOp.isTransfer).length < 2 ^ 64) :
    kernelSession counters sess = linuxSession counters d sess ∧
      linuxSession countersMin d sess = windowsSession countersMin env d sess ∧
      ((∀ op ∈ sess, op.Nonzero) →
        kernelSession countersWithMin sess = linuxSession countersWithMin d sess) := by
  obtain ⟨hl, hc⟩ := linuxStep_devices (d := d) LinuxSim.coherent_initial (.open d true)
  obtain ⟨hwa, hws⟩ := windowsStep_first_open henv d
  have hls : ((linuxStep (.open d true) LinuxSim.initial).2.devices d).stats = .zero := by
    rw [hl]; simp [linuxSlotStep, deviceSlot?_val, LinuxSim.initial]
  have hag : SessionAgree (∀ op ∈ sess, op.Nonzero) .zero
      ((linuxStep (.open d true) LinuxSim.initial).2.devices d).stats
      ((windowsStep env (.open d true) WindowsSim.initial).2.devices d).stats 0 := by
    rw [hls, hws]; exact sessionAgree_reset _
  exact session_agree d env sess _ _ _ 0 hc hwa hag hacc id (by simpa using hn)

/-- One 4 KiB transfer and a snapshot on device 0. -/
theorem backends_agree_one_transfer :
    let sess := [SessionOp.transfer 0x1000 4096 0 20000, .getStats]
    kernelSession counters sess = linuxSession counters 0 sess ∧
      linuxSession countersMin 0 sess = windowsSession countersMin ⟨none, none⟩ 0 sess ∧
      ((∀ op ∈ sess, op.Nonzero) →
        kernelSession countersWithMin sess = linuxSession countersWithMin 0 sess) :=
  backends_agree 0 ⟨none, none⟩ rfl _ (by decide) (by decide)

/-! ## Rejecting a request -/

/-- A 32-byte request, below the spec's 64-byte minimum, goes through all three backends;
a 2 MiB request, within the spec's 4 MiB, is refused by Windows; and a null buffer costs
the kernel an error count. -/
theorem rejection_bounds_differ :
    (pcieSimCharIoctl ⟨true, true, ⟨true, true, 5000⟩, true⟩ pcieSimIocTransfer
        ⟨0x1000, 32, 0, 0⟩ .zero).ret = 0 ∧
      (linuxStep (.transfer (some ⟨0⟩) 0x1000 32 0 5000) LinuxSim.initial).1 =
        .transferred 5000 ∧
      (windowsStep ⟨none, none⟩ (.transfer (some ⟨0⟩) 0x1000 32 0 5000)
        (windowsStep ⟨none, none⟩ (.open 0 true) WindowsSim.initial).2).1 = .transferred 5000 ∧
      (windowsStep ⟨none, none⟩ (.transfer (some ⟨0⟩) 0x1000 2097152 0 5000)
        (windowsStep ⟨none, none⟩ (.open 0 true) WindowsSim.initial).2).1 = .ret .errorParam ∧
      (pcieSimCharIoctl ⟨true, true, ⟨true, true, 5000⟩, true⟩ pcieSimIocTransfer
        ⟨0, 4096, 0, 0⟩ .zero).stats.totalErrors = 1 := by
  decide

/-- The invalid-parameter exit of each transfer entry point. The kernel returns `-EINVAL`
exactly when the mutex is taken, the request is read, and it is null, empty, above 1 MiB or
of unknown direction; it then counts one error and changes no other field. Linux returns
`PCIE_SIM_ERROR_PARAM` exactly for a null handle or buffer or a size of `0`, Windows also
above 1 MiB, and both then leave their whole state as it was. -/
theorem transfer_rejection (env : IoctlEnv) (req : PcieSimTransferReq) (k : PcieSimStats)
    (handle : Option PcieSimHandle) (buffer size : UInt64) (direction : UInt32)
    (latency : UInt64) (s : LinuxSim) (wenv : WindowsEnv) (u : WindowsSim) :
    let o := pcieSimCharIoctl env pcieSimIocTransfer req k
    let r := linuxStep (.transfer handle buffer size direction latency) s
    let q := windowsStep wenv (.transfer handle buffer size direction latency) u
    (o.ret = -EINVAL ↔ env.lockOk = true ∧ env.copyInOk = true ∧
        (req.buffer = 0 ∨ req.size.toNat < 1 ∨ 1048576 < req.size.toNat ∨
          1 < req.direction.toNat)) ∧
      (o.ret = -EINVAL → o.stats = { k with totalErrors := k.totalErrors + 1 }) ∧
      (r.1 = .ret .errorParam ↔ handle = none ∨ buffer = 0 ∨ size = 0) ∧
      (r.1 = .ret .errorParam → r.2 = s) ∧
      (q.1 = .ret .errorParam ↔
        handle = none ∨ buffer = 0 ∨ size = 0 ∨ 1048576 < size.toNat) ∧
      (q.1 = .ret .errorParam → q.2 = u) := by
  obtain ⟨hk, hks⟩ := pcieSimCharIoctl_einval env req k
  obtain ⟨hl, hls⟩ := linuxStep_transfer_errorParam handle buffer size direction latency s
  obtain ⟨hw, hws⟩ := windowsStep_transfer_errorParam wenv handle buffer size direction latency u
  exact ⟨by rw [hk, validateTransferRequest_ne_zero_iff], hks, hl, hls, hw, hws⟩

end PcieSim.Backends

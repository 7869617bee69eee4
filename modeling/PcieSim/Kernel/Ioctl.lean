import PcieSim.Kernel.Dma

/-!
# `pcie_sim_char_ioctl`: the kernel backend's control channel

The device file's `ioctl` checks the command's magic, takes the device mutex, and then
transfers, copies the statistics out, or zeroes them. The environment's answers are inputs
(`IoctlEnv`): whether the mutex wait was interrupted, whether each user-memory copy goes
through, and what the DMA path meets.

* `pcieSimCharIoctl_transfer`: what a `PCIE_SIM_IOC_TRANSFER` call does, by cases;
* the accounting of a transfer against the value returned, including the exit where the
  transfer is recorded and the copy of the request back to the caller then faults, and the
  `-EINVAL` exit, which counts one error;
* `KernelLaw`: what a whole session of calls leaves in `dev->stats`, relative to the
  transfers made since the last `PCIE_SIM_IOC_RESET_STATS`.
-/

namespace PcieSim.Kernel

/-! ## Commands -/

/-- `_IOC(dir, type, nr, size)` in the generic layout: `nr` in bits 0–7, `type` in 8–15,
`size` in 16–29, `dir` in 30–31. -/
def ioc (dir type nr size : UInt32) : UInt32 :=
  (dir <<< 30) ||| (size <<< 16) ||| (type <<< 8) ||| nr

/-- `_IOC_TYPE(cmd)`. -/
def iocType (cmd : UInt32) : UInt32 := (cmd >>> 8) &&& 0xff

/-- `PCIE_SIM_IOC_MAGIC`, the character `'P'`. -/
def pcieSimIocMagic : UInt32 := 0x50

/-- `_IOWR('P', 1, struct pcie_sim_transfer_req)`: the request is 32 bytes on a 64-bit
kernel. -/
def pcieSimIocTransfer : UInt32 := ioc 3 pcieSimIocMagic 1 32

/-- `_IOR('P', 2, struct pcie_sim_stats)`: six 8-byte words. -/
def pcieSimIocGetStats : UInt32 := ioc 2 pcieSimIocMagic 2 48

/-- `_IO('P', 3)`. -/
def pcieSimIocResetStats : UInt32 := ioc 0 pcieSimIocMagic 3 0

theorem iocType_transfer : iocType pcieSimIocTransfer = pcieSimIocMagic := by decide

theorem transfer_ne_getStats : pcieSimIocTransfer ≠ pcieSimIocGetStats := by decide

theorem transfer_ne_resetStats : pcieSimIocTransfer ≠ pcieSimIocResetStats := by decide

theorem getStats_ne_resetStats : pcieSimIocGetStats ≠ pcieSimIocResetStats := by decide

theorem iocType_getStats : iocType pcieSimIocGetStats = pcieSimIocMagic := by decide

theorem iocType_resetStats : iocType pcieSimIocResetStats = pcieSimIocMagic := by decide

/-! ## The handler -/

/-- What the kernel answers during one `ioctl`: the mutex wait is not interrupted, the
request at `arg` can be read, the DMA path's answers, and the copy back to `arg` (of the
completed request or of the statistics) goes through. -/
structure IoctlEnv where
  lockOk : Bool
  copyInOk : Bool
  dma : DmaEnv
  copyOutOk : Bool
deriving Repr, DecidableEq

/-- What the handler leaves at `arg` in user memory. -/
inductive UserCopy
  | nothing
  | req (r : PcieSimTransferReq)
  | stats (s : PcieSimStats)
deriving Repr, DecidableEq

/-- The value returned, `dev->stats` afterwards, and what reached user memory. -/
structure IoctlOutcome where
  ret : Int
  stats : PcieSimStats
  copied : UserCopy
deriving Repr, DecidableEq

/-- `pcie_sim_char_ioctl` on an open device file; `userReq` is the request at `arg`. -/
def pcieSimCharIoctl (env : IoctlEnv) (cmd : UInt32) (userReq : PcieSimTransferReq)
    (s : PcieSimStats) : IoctlOutcome :=
  if iocType cmd ≠ pcieSimIocMagic then ⟨-EINVAL, s, .nothing⟩
  else if !env.lockOk then ⟨-ERESTARTSYS, s, .nothing⟩
  else if cmd = pcieSimIocTransfer then
    if !env.copyInOk then ⟨-EFAULT, s, .nothing⟩
    else
      let r := pcieSimDmaTransfer env.dma s userReq
      if r.ret = 0 then
        if env.copyOutOk then ⟨0, r.stats, .req r.req⟩ else ⟨-EFAULT, r.stats, .nothing⟩
      else ⟨r.ret, r.stats, .nothing⟩
  else if cmd = pcieSimIocGetStats then
    if env.copyOutOk then ⟨0, s, .stats s⟩ else ⟨-EFAULT, s, .nothing⟩
  else if cmd = pcieSimIocResetStats then ⟨0, PcieSimStats.zero, .nothing⟩
  else ⟨-ENOTTY, s, .nothing⟩

/-- A transfer call reaches `pcie_sim_dma_transfer` once the mutex is held and the request
has been read. -/
theorem pcieSimCharIoctl_transfer (env : IoctlEnv) (req : PcieSimTransferReq)
    (s : PcieSimStats) :
    pcieSimCharIoctl env pcieSimIocTransfer req s =
      if env.lockOk ∧ env.copyInOk then
        let r := pcieSimDmaTransfer env.dma s req
        if r.ret = 0 ∧ env.copyOutOk then ⟨0, r.stats, .req r.req⟩
        else ⟨if r.ret = 0 then -EFAULT else r.ret, r.stats, .nothing⟩
      else ⟨if env.lockOk then -EFAULT else -ERESTARTSYS, s, .nothing⟩ := by
  unfold pcieSimCharIoctl
  rw [if_neg (not_not.2 iocType_transfer), if_pos rfl]
  cases env.lockOk <;> cases env.copyInOk <;> cases env.copyOutOk <;> simp <;> split_ifs <;> rfl

theorem pcieSimCharIoctl_getStats (env : IoctlEnv) (req : PcieSimTransferReq)
    (s : PcieSimStats) :
    pcieSimCharIoctl env pcieSimIocGetStats req s =
      if env.lockOk then (if env.copyOutOk then ⟨0, s, .stats s⟩ else ⟨-EFAULT, s, .nothing⟩)
      else ⟨-ERESTARTSYS, s, .nothing⟩ := by
  unfold pcieSimCharIoctl
  rw [if_neg (not_not.2 iocType_getStats), if_neg transfer_ne_getStats.symm, if_pos rfl]
  cases env.lockOk <;> rfl

theorem pcieSimCharIoctl_resetStats (env : IoctlEnv) (req : PcieSimTransferReq)
    (s : PcieSimStats) :
    pcieSimCharIoctl env pcieSimIocResetStats req s =
      if env.lockOk then ⟨0, PcieSimStats.zero, .nothing⟩
      else ⟨-ERESTARTSYS, s, .nothing⟩ := by
  unfold pcieSimCharIoctl
  rw [if_neg (not_not.2 iocType_resetStats), if_neg transfer_ne_resetStats.symm,
    if_neg getStats_ne_resetStats.symm, if_pos rfl]
  cases env.lockOk <;> rfl

/-- The DMA path runs and succeeds. -/
def TransferOk (env : IoctlEnv) (req : PcieSimTransferReq) : Prop :=
  env.lockOk = true ∧ env.copyInOk = true ∧ DmaOk env.dma req

instance (env : IoctlEnv) (req : PcieSimTransferReq) : Decidable (TransferOk env req) :=
  inferInstanceAs (Decidable (_ ∧ _ ∧ _))

/-- What a call does to `dev->stats`: only a transfer that reaches the DMA path and a reset
write them. -/
theorem pcieSimCharIoctl_stats (env : IoctlEnv) (cmd : UInt32) (req : PcieSimTransferReq)
    (s : PcieSimStats) :
    (pcieSimCharIoctl env cmd req s).stats =
      if env.lockOk ∧ cmd = pcieSimIocTransfer ∧ env.copyInOk then
        (pcieSimDmaTransfer env.dma s req).stats
      else if env.lockOk ∧ cmd = pcieSimIocResetStats then PcieSimStats.zero
      else s := by
  by_cases hT : cmd = pcieSimIocTransfer
  · subst hT
    simp only [pcieSimCharIoctl_transfer, transfer_ne_resetStats, true_and, and_false, if_false]
    split_ifs <;> rfl
  by_cases hR : cmd = pcieSimIocResetStats
  · subst hR
    rw [pcieSimCharIoctl_resetStats]
    cases env.lockOk <;> simp [transfer_ne_resetStats.symm]
  unfold pcieSimCharIoctl
  simp only [hT, hR, false_and, and_false, if_false]
  split_ifs <;> rfl

/-! ## Accounting of one transfer -/

/-- The request is valid and readable, the transfer goes through, but `arg` is read-only:
the copy of the completed request back faults after the transfer has been counted. -/
theorem ioctl_transfer_counted_then_faults :
    let o := pcieSimCharIoctl ⟨true, true, ⟨true, true, 20000⟩, false⟩ pcieSimIocTransfer
      ⟨0x1000, 4096, 0, 0⟩ PcieSimStats.zero
    o.ret = -EFAULT ∧ o.stats.totalTransfers = 1 := by
  decide

/-- A transfer call counts the transfer — one more transfer, its bytes, and its latency in
min, max and average — exactly when `pcie_sim_dma_transfer` succeeds; any call that stops
before or in it returns nonzero and leaves those fields alone. It returns `0` exactly when
the transfer succeeds and the completed request is copied back; when that last copy
faults it returns `-EFAULT` with the transfer already counted. -/
theorem ioctl_transfer_accounting (env : IoctlEnv) (req : PcieSimTransferReq)
    (s : PcieSimStats) :
    let o := pcieSimCharIoctl env pcieSimIocTransfer req s
    (TransferOk env req →
        o.stats = updateTransferStats s req env.dma.elapsedNs true ∧
        o.stats.totalTransfers = s.totalTransfers + 1 ∧
        (o.ret = 0 ∨ o.ret = -EFAULT ∧ env.copyOutOk = false)) ∧
    (¬ TransferOk env req →
        o.ret ≠ 0 ∧ o.stats.totalTransfers = s.totalTransfers ∧
        o.stats.totalBytes = s.totalBytes ∧ o.stats.minLatencyNs = s.minLatencyNs ∧
        o.stats.maxLatencyNs = s.maxLatencyNs ∧ o.stats.avgLatencyNs = s.avgLatencyNs) ∧
    (o.ret = 0 ↔ TransferOk env req ∧ env.copyOutOk = true) := by
  simp only [pcieSimCharIoctl_transfer, TransferOk]
  by_cases hok : DmaOk env.dma req
  · have hr := pcieSimDmaTransfer_of_ok hok s
    cases env.lockOk <;> cases env.copyInOk <;> cases env.copyOutOk <;>
      simp [hr, hok, ERESTARTSYS, EFAULT, updateTransferStats]
  · obtain ⟨hret, -, -, hst⟩ := pcieSimDmaTransfer_of_fail hok s
    have hne : (pcieSimDmaTransfer env.dma s req).ret ≠ 0 :=
      fun h => hok ((pcieSimDmaTransfer_ret_eq_zero_iff _ _ _).1 h)
    cases env.lockOk <;> cases env.copyInOk <;>
      simp [hst, hok, hne, ERESTARTSYS, EFAULT]

/-- A transfer call returns `-EINVAL` exactly when it got the mutex and the request, and the
request fails validation; it then counts one error and changes no other field. -/
theorem pcieSimCharIoctl_einval (env : IoctlEnv) (req : PcieSimTransferReq) (s : PcieSimStats) :
    let o := pcieSimCharIoctl env pcieSimIocTransfer req s
    (o.ret = -EINVAL ↔
        env.lockOk = true ∧ env.copyInOk = true ∧ validateTransferRequest req ≠ 0) ∧
      (o.ret = -EINVAL → o.stats = { s with totalErrors := s.totalErrors + 1 }) := by
  rw [pcieSimCharIoctl_transfer]
  by_cases hok : DmaOk env.dma req
  · rw [pcieSimDmaTransfer_of_ok hok]
    cases env.lockOk <;> cases env.copyInOk <;> cases env.copyOutOk <;>
      simp [hok.1, EINVAL, EFAULT, ERESTARTSYS]
  · obtain ⟨-, hret, -, hst⟩ := pcieSimDmaTransfer_of_fail hok s
    have hne : (pcieSimDmaTransfer env.dma s req).ret ≠ 0 :=
      fun h => hok ((pcieSimDmaTransfer_ret_eq_zero_iff _ _ _).1 h)
    simp only [EINVAL] at hret
    cases env.lockOk <;> cases env.copyInOk <;>
      simp [hret, hst, hne, EINVAL, EFAULT, ERESTARTSYS]

/-! ## A session of calls -/

/-- One `ioctl` on the open device file. -/
structure IoctlCall where
  env : IoctlEnv
  cmd : UInt32
  req : PcieSimTransferReq
deriving Repr, DecidableEq

/-- `dev->stats` after a sequence of calls. -/
def ioctlRun : List IoctlCall → PcieSimStats → PcieSimStats
  | [], s => s
  | c :: cs, s => ioctlRun cs (pcieSimCharIoctl c.env c.cmd c.req s).stats

/-- What one call adds to the record kept since the last reset: the transfers counted, as
samples, and the number of failed transfers. -/
def IoctlCall.advance (c : IoctlCall) (w : List Sample × ℕ) : List Sample × ℕ :=
  if c.env.lockOk ∧ c.cmd = pcieSimIocTransfer ∧ c.env.copyInOk then
    if DmaOk c.env.dma c.req then (w.1 ++ [⟨c.req.size, c.env.dma.elapsedNs⟩], w.2)
    else (w.1, w.2 + 1)
  else if c.env.lockOk ∧ c.cmd = pcieSimIocResetStats then ([], 0)
  else w

/-- The transfers and failures since the last reset, after a sequence of calls. -/
def ioctlWindow : List IoctlCall → List Sample × ℕ → List Sample × ℕ
  | [], w => w
  | c :: cs, w => ioctlWindow cs (c.advance w)

/-- What `update_transfer_stats` leaves in `dev->stats` after the transfers `ss` and `errs`
failures since the last reset. Unlike the spec's law the average halves from the zeroed
block even for the first sample, and `0` doubles as the unset minimum, so the minimum is
the least latency only while no latency is `0`. -/
structure KernelLaw (s : PcieSimStats) (ss : List Sample) (errs : ℕ) : Prop where
  transfers : s.totalTransfers.toNat = ss.length % 2 ^ 64
  bytes : s.totalBytes = (ss.map Sample.size).sum
  errors : s.totalErrors.toNat = errs % 2 ^ 64
  max : IsMaxOf s.maxLatencyNs (0 :: ss.map Sample.latency)
  idle : ss = [] → s.minLatencyNs = 0 ∧ s.avgLatencyNs = 0
  min : (∀ x ∈ ss, x.latency ≠ 0) → ss ≠ [] → IsMinOf s.minLatencyNs (ss.map Sample.latency)
  avg : (∀ x ∈ ss, x.latency.toNat < 2 ^ 63) →
    s.avgLatencyNs.toNat = halveFrom 0 (ss.map fun x => x.latency.toNat)

theorem kernelLaw_zero : KernelLaw PcieSimStats.zero [] 0 :=
  ⟨rfl, rfl, rfl, isMaxOf_singleton 0, fun _ => ⟨rfl, rfl⟩, by simp, fun _ => rfl⟩

/-- A counted transfer adds its sample. -/
theorem KernelLaw.record {s : PcieSimStats} {ss : List Sample} {errs : ℕ}
    (h : KernelLaw s ss errs) (req : PcieSimTransferReq) (l : UInt64) :
    KernelLaw (updateTransferStats s req l true) (ss ++ [⟨req.size, l⟩]) errs where
  transfers := by
    simp only [updateTransferStats, if_true, UInt64.toNat_add, h.transfers,
      List.length_append, List.length_singleton, UInt64.toNat_one, UInt64.size_eq]
    omega
  bytes := by simp [updateTransferStats, h.bytes]
  errors := h.errors
  max := by simpa [updateTransferStats] using h.max.snoc l
  idle := by simp
  min := by
    intro hnz _
    simp only [updateTransferStats, if_true, List.map_append, List.map_cons, List.map_nil]
    rcases eq_or_ne ss [] with rfl | hne
    · simpa [(h.idle rfl).1] using isMinOf_singleton l
    · have hm := h.min (fun x hx => hnz x (by simp [hx])) hne
      have hm0 : s.minLatencyNs ≠ 0 := by
        obtain ⟨x, hx, hxm⟩ := List.mem_map.1 hm.1
        exact hxm ▸ hnz x (by simp [hx])
      simpa [hm0] using hm.snoc l
  avg := by
    intro hlt
    have hl : l.toNat < 2 ^ 63 := hlt ⟨req.size, l⟩ (by simp)
    have ha := h.avg fun x hx => hlt x (by simp [hx])
    have hle : halveFrom 0 (ss.map fun x => x.latency.toNat) ≤ 2 ^ 63 - 1 :=
      halveFrom_le (Nat.zero_le _) fun y hy => by
        obtain ⟨x, hx, rfl⟩ := List.mem_map.1 hy
        have := hlt x (by simp [hx]); omega
    simp only [updateTransferStats, if_true, UInt64.toNat_div, List.map_append, List.map_cons,
      List.map_nil, halveFrom_append_singleton]
    rw [UInt64.toNat_add_of_lt (by omega), ha]
    rfl

/-- A failed transfer only counts an error. -/
theorem KernelLaw.fail {s : PcieSimStats} {ss : List Sample} {errs : ℕ}
    (h : KernelLaw s ss errs) : KernelLaw { s with totalErrors := s.totalErrors + 1 } ss (errs + 1) :=
  { h with
    errors := by
      simp only [UInt64.toNat_add, h.errors, UInt64.toNat_one, UInt64.size_eq]
      omega }

/-- One call keeps the law, with the record advanced by that call. -/
theorem KernelLaw.step {s : PcieSimStats} {w : List Sample × ℕ} (h : KernelLaw s w.1 w.2)
    (c : IoctlCall) :
    KernelLaw (pcieSimCharIoctl c.env c.cmd c.req s).stats (c.advance w).1 (c.advance w).2 := by
  rw [pcieSimCharIoctl_stats]
  unfold IoctlCall.advance
  split_ifs with hT hok hR
  · rw [pcieSimDmaTransfer_of_ok hok]; exact h.record _ _
  · rw [(pcieSimDmaTransfer_of_fail hok s).2.2.2]; exact h.fail
  · exact kernelLaw_zero
  · exact h

/-- The law holds after every sequence of calls, from any state and record it held for. -/
theorem KernelLaw.run (cs : List IoctlCall) {s : PcieSimStats} {w : List Sample × ℕ}
    (h : KernelLaw s w.1 w.2) :
    KernelLaw (ioctlRun cs s) (ioctlWindow cs w).1 (ioctlWindow cs w).2 := by
  induction cs generalizing s w with
  | nil => exact h
  | cons c cs ih => exact ih (h.step c)

/-- From `probe`, which zeroes `dev->stats`, every sequence of `ioctl` calls leaves the
statistics that `KernelLaw` gives for the transfers and failures since the last reset. -/
theorem kernel_stats_law (cs : List IoctlCall) :
    KernelLaw (ioctlRun cs PcieSimStats.zero) (ioctlWindow cs ([], 0)).1
      (ioctlWindow cs ([], 0)).2 :=
  KernelLaw.run cs kernelLaw_zero

/-- `probe`, then one 4096-byte transfer to the device that takes 20 µs: the kernel reports an
average latency of 10 µs. -/
theorem kernel_first_transfer_avg_halved :
    (pcieSimCharIoctl ⟨true, true, ⟨true, true, 20000⟩, true⟩ pcieSimIocTransfer
      ⟨0x1000, 4096, 0, 0⟩ PcieSimStats.zero).stats.avgLatencyNs = 10000 := by
  decide

end PcieSim.Kernel

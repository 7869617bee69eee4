import PcieSim.Types

/-!
# `kernel/dma.c`: one DMA transfer

`pcie_sim_dma_transfer` validates the request, allocates a bounce buffer, copies between
user memory and it around `simulate_transfer_delay`, and folds the outcome into
`dev->stats` with `update_transfer_stats`. What the kernel's environment answers is an
input (`DmaEnv`): whether `kzalloc` finds memory, whether the user copy of the data goes
through, and the elapsed time between the two `ktime_get` readings. The copies, the fill
pattern and the delay have no other effect on the device.

The statistics are the only part of `struct pcie_sim_device` these functions write, so the
device is modelled by its `PcieSimStats`.

* `validateTransferRequest_eq_zero_iff`: what the validation accepts;
* `pcieSimDmaTransfer_of_ok` / `pcieSimDmaTransfer_of_fail`: the two things a transfer can do,
  from which every later statement about the kernel path is derived.
-/

namespace PcieSim.Kernel

/-! ## Error numbers and the request -/

def EINVAL : Int := 22
def EFAULT : Int := 14
def ENOMEM : Int := 12
def ENOTTY : Int := 25
def ERESTARTSYS : Int := 512

/-- `struct pcie_sim_transfer_req`; the user pointer `buffer` is its address, `0` for NULL. -/
structure PcieSimTransferReq where
  buffer : UInt64
  size : UInt64
  direction : UInt32
  latencyNs : UInt64
deriving Repr, DecidableEq

/-- `MIN_TRANSFER_SIZE` and `MAX_TRANSFER_SIZE` of `dma.c`. -/
def minTransferSize : UInt64 := 1

def maxTransferSize : UInt64 := 1024 * 1024

/-! ## Validation and the statistics update -/

/-- `validate_transfer_request`. -/
def validateTransferRequest (req : PcieSimTransferReq) : Int :=
  if req.buffer = 0 then -EINVAL
  else if req.size < minTransferSize ∨ req.size > maxTransferSize then -EINVAL
  else if req.direction > 1 then -EINVAL
  else 0

theorem validateTransferRequest_eq_zero_iff (req : PcieSimTransferReq) :
    validateTransferRequest req = 0 ↔
      req.buffer ≠ 0 ∧ 1 ≤ req.size.toNat ∧ req.size.toNat ≤ 1048576 ∧ req.direction ≤ 1 := by
  unfold validateTransferRequest minTransferSize maxTransferSize
  split_ifs <;> simp_all [EINVAL, UInt32.le_def, UInt32.lt_def] <;> omega

theorem validateTransferRequest_ne_zero {req : PcieSimTransferReq}
    (h : validateTransferRequest req ≠ 0) : validateTransferRequest req = -EINVAL := by
  unfold validateTransferRequest at *
  split_ifs at * <;> simp_all

theorem validateTransferRequest_ne_zero_iff (req : PcieSimTransferReq) :
    validateTransferRequest req ≠ 0 ↔ req.buffer = 0 ∨ req.size.toNat < 1 ∨
      1048576 < req.size.toNat ∨ 1 < req.direction.toNat := by
  rw [Ne, validateTransferRequest_eq_zero_iff, UInt32.le_iff_toNat_le, UInt32.toNat_one]
  simp only [not_and_or, not_le, not_not]

/-- `update_transfer_stats`: a success counts the transfer and its bytes, takes the latency
into min (where `0` means unset) and max, and halves the average toward it; a failure
only counts an error. -/
def updateTransferStats (s : PcieSimStats) (req : PcieSimTransferReq) (latencyNs : UInt64)
    (success : Bool) : PcieSimStats :=
  if success then
    { s with
      totalTransfers := s.totalTransfers + 1
      totalBytes := s.totalBytes + req.size
      minLatencyNs :=
        if s.minLatencyNs = 0 ∨ latencyNs < s.minLatencyNs then latencyNs else s.minLatencyNs
      maxLatencyNs := if latencyNs > s.maxLatencyNs then latencyNs else s.maxLatencyNs
      avgLatencyNs := (s.avgLatencyNs + latencyNs) / 2 }
  else { s with totalErrors := s.totalErrors + 1 }

/-! ## The transfer -/

/-- What the kernel answers during one transfer. `copyOk` is the outcome of whichever copy
the direction makes: `copy_from_user` to the device, `copy_to_user` from it. -/
structure DmaEnv where
  allocOk : Bool
  copyOk : Bool
  elapsedNs : UInt64
deriving Repr, DecidableEq

/-- Return value, the request as the caller gets it back, and the statistics after. -/
structure DmaOutcome where
  ret : Int
  req : PcieSimTransferReq
  stats : PcieSimStats
deriving Repr, DecidableEq

/-- `pcie_sim_dma_transfer`: every exit after `error_exit` counts one error. -/
def pcieSimDmaTransfer (env : DmaEnv) (s : PcieSimStats) (req : PcieSimTransferReq) :
    DmaOutcome :=
  let ret := validateTransferRequest req
  if ret ≠ 0 then ⟨ret, req, updateTransferStats s req 0 false⟩
  else if !env.allocOk then ⟨-ENOMEM, req, updateTransferStats s req 0 false⟩
  else if !env.copyOk then ⟨-EFAULT, req, updateTransferStats s req 0 false⟩
  else ⟨0, { req with latencyNs := env.elapsedNs },
    updateTransferStats s req env.elapsedNs true⟩

/-- The transfer goes through: the request is valid and the environment cooperates. -/
def DmaOk (env : DmaEnv) (req : PcieSimTransferReq) : Prop :=
  validateTransferRequest req = 0 ∧ env.allocOk = true ∧ env.copyOk = true

instance (env : DmaEnv) (req : PcieSimTransferReq) : Decidable (DmaOk env req) :=
  inferInstanceAs (Decidable (_ ∧ _ ∧ _))

theorem pcieSimDmaTransfer_of_ok {env : DmaEnv} {req : PcieSimTransferReq}
    (h : DmaOk env req) (s : PcieSimStats) :
    pcieSimDmaTransfer env s req =
      ⟨0, { req with latencyNs := env.elapsedNs },
        updateTransferStats s req env.elapsedNs true⟩ := by
  obtain ⟨hv, ha, hc⟩ := h
  simp [pcieSimDmaTransfer, hv, ha, hc]

/-- A failed transfer returns one of its three errors, hands the request back untouched
and counts exactly one error. -/
theorem pcieSimDmaTransfer_of_fail {env : DmaEnv} {req : PcieSimTransferReq}
    (h : ¬ DmaOk env req) (s : PcieSimStats) :
    let o := pcieSimDmaTransfer env s req
    (o.ret = -EINVAL ∨ o.ret = -ENOMEM ∨ o.ret = -EFAULT) ∧
      (o.ret = -EINVAL ↔ validateTransferRequest req ≠ 0) ∧
      o.req = req ∧ o.stats = { s with totalErrors := s.totalErrors + 1 } := by
  unfold DmaOk at h
  by_cases hv : validateTransferRequest req = 0
  · simp only [pcieSimDmaTransfer, hv, updateTransferStats]
    cases ha : env.allocOk <;> cases hc : env.copyOk <;>
      simp_all [EINVAL, ENOMEM, EFAULT]
  · simp [pcieSimDmaTransfer, hv, validateTransferRequest_ne_zero hv, updateTransferStats, EINVAL]

theorem pcieSimDmaTransfer_ret_eq_zero_iff (env : DmaEnv) (s : PcieSimStats)
    (req : PcieSimTransferReq) : (pcieSimDmaTransfer env s req).ret = 0 ↔ DmaOk env req := by
  by_cases h : DmaOk env req
  · simp [pcieSimDmaTransfer_of_ok h, h]
  · simp only [h, iff_false]
    rcases (pcieSimDmaTransfer_of_fail h s).1 with h' | h' | h' <;>
      rw [h'] <;> decide

end PcieSim.Kernel

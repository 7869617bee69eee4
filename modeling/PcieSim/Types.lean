import Mathlib.Data.UInt
import Mathlib.Data.String.Basic
import Mathlib.Data.List.Basic

/-!
# Types shared by the three backends

`struct pcie_sim_stats` is the same six 64-bit words in the kernel module
(`kernel/common.h`, where the three counters are `atomic64_t`) and in the library
(`lib/types.h`). Each backend folds transfer outcomes into one of these by its own rule;
this file holds what the three have in common:

* `UInt64` comparisons and sums read back in `ℕ`, where every counter proof ends up;
* `PcieSimStats`, the all-zero block a `memset` leaves, and the library's
  `pcie_sim_error_t`;
* the spec's running-statistics law (§4.4) over the samples since the last reset:
  the halving average `halvingAvg`, `IsMinOf`/`IsMaxOf`, and `RunningLaw`, which
  the backends' own folds are compared against.
-/

namespace UInt64

@[simp] theorem le_iff_toNat_le {a b : UInt64} : a ≤ b ↔ a.toNat ≤ b.toNat := Iff.rfl

@[simp] theorem lt_iff_toNat_lt {a b : UInt64} : a < b ↔ a.toNat < b.toNat := Iff.rfl

theorem eq_iff_toNat_eq {a b : UInt64} : a = b ↔ a.toNat = b.toNat := UInt64.ext_iff

/-- A 64-bit sum that does not wrap is the sum in `ℕ`. -/
theorem toNat_add_of_lt {a b : UInt64} (h : a.toNat + b.toNat < 2 ^ 64) :
    (a + b).toNat = a.toNat + b.toNat := by
  rw [UInt64.toNat_add]; exact Nat.mod_eq_of_lt h

@[simp] theorem toNat_one : (1 : UInt64).toNat = 1 := rfl

@[simp] theorem size_eq : UInt64.size = 2 ^ 64 := rfl

end UInt64

namespace UInt32

@[simp] theorem le_iff_toNat_le {a b : UInt32} : a ≤ b ↔ a.toNat ≤ b.toNat := Iff.rfl

@[simp] theorem lt_iff_toNat_lt {a b : UInt32} : a < b ↔ a.toNat < b.toNat := Iff.rfl

theorem eq_iff_toNat_eq {a b : UInt32} : a = b ↔ a.toNat = b.toNat := UInt32.ext_iff

@[simp] theorem size_eq : UInt32.size = 2 ^ 32 := rfl

@[simp] theorem toNat_one : (1 : UInt32).toNat = 1 := rfl

end UInt32

namespace PcieSim

/-! ## The statistics block -/

/-- `struct pcie_sim_stats`: the kernel's `atomic64_t` counters have the same 64 bits as
the library's `uint64_t` ones. -/
structure PcieSimStats where
  totalTransfers : UInt64
  totalBytes : UInt64
  totalErrors : UInt64
  avgLatencyNs : UInt64
  minLatencyNs : UInt64
  maxLatencyNs : UInt64
deriving Repr, DecidableEq

/-- The block after `memset(&stats, 0, sizeof(stats))`. -/
def PcieSimStats.zero : PcieSimStats := ⟨0, 0, 0, 0, 0, 0⟩

/-- `pcie_sim_error_t` of `lib/types.h`. -/
inductive PcieSimError
  | success
  | errorDevice
  | errorParam
  | errorMemory
  | errorTimeout
  | errorSystem
deriving Repr, DecidableEq

/-- The enum's values. -/
def PcieSimError.code : PcieSimError → Int
  | .success => 0
  | .errorDevice => -1
  | .errorParam => -2
  | .errorMemory => -3
  | .errorTimeout => -4
  | .errorSystem => -5

/-- `PCIE_SIM_TO_DEVICE` and `PCIE_SIM_FROM_DEVICE`. -/
def pcieSimToDevice : UInt32 := 0

def pcieSimFromDevice : UInt32 := 1

/-- `MAX_DEVICES` of both simulation backends. -/
def maxDevices : ℕ := 8

/-- The instance `(0 : Fin maxDevices)` needs, stated with the `Zero ℕ` that `Fin.instOfNat`
asks for, so that it is the same whichever algebraic instances are in scope. -/
instance : @NeZero ℕ (@Zero.ofOfNat0 ℕ (instOfNatNat 0)) maxDevices := ⟨Nat.succ_ne_zero 7⟩

/-! ## The spec's running-statistics law -/

/-- One successful transfer as the aggregator sees it: its size and measured latency. -/
structure Sample where
  size : UInt64
  latency : UInt64
deriving Repr, DecidableEq

/-- Halving toward each latency in turn, from the average `a`. -/
def halveFrom (a : ℕ) (ls : List ℕ) : ℕ := ls.foldl (fun a x => (a + x) / 2) a

@[simp] theorem halveFrom_nil (a : ℕ) : halveFrom a [] = a := rfl

@[simp] theorem halveFrom_append_singleton (a : ℕ) (ls : List ℕ) (x : ℕ) :
    halveFrom a (ls ++ [x]) = (halveFrom a ls + x) / 2 := by
  simp [halveFrom, List.foldl_append]

/-- Halving never leaves a bound that the start and every latency respect. -/
theorem halveFrom_le {a b : ℕ} {ls : List ℕ} (ha : a ≤ b) (h : ∀ x ∈ ls, x ≤ b) :
    halveFrom a ls ≤ b := by
  induction ls using List.reverseRecOn with
  | nil => simpa using ha
  | append_singleton ls x ih =>
    have hx : x ≤ b := h x (by simp)
    have hls : halveFrom a ls ≤ b := ih fun y hy => h y (by simp [hy])
    rw [halveFrom_append_singleton]; omega

/-- The spec's running average over latencies `L₁ … Lₙ`, computed in `ℕ`:
`a₁ = L₁` and `aₖ = (aₖ₋₁ + Lₖ) / 2`; `0` while there are none. -/
def halvingAvg : List ℕ → ℕ
  | [] => 0
  | l :: ls => halveFrom l ls

@[simp] theorem halvingAvg_singleton (x : ℕ) : halvingAvg [x] = x := rfl

/-- A later sample halves the running average toward itself. -/
theorem halvingAvg_append_singleton {ls : List ℕ} (h : ls ≠ []) (x : ℕ) :
    halvingAvg (ls ++ [x]) = (halvingAvg ls + x) / 2 := by
  cases ls with
  | nil => exact absurd rfl h
  | cons l ls => exact halveFrom_append_singleton l ls x

/-- The halving average never exceeds the largest sample. -/
theorem halvingAvg_le {ls : List ℕ} {b : ℕ} (h : ∀ x ∈ ls, x ≤ b) : halvingAvg ls ≤ b := by
  cases ls with
  | nil => simp [halvingAvg]
  | cons l ls => exact halveFrom_le (h l (by simp)) fun x hx => h x (by simp [hx])

/-- `m` is the least of `ls`: one of them, and below every one. -/
def IsMinOf (m : UInt64) (ls : List UInt64) : Prop := m ∈ ls ∧ ∀ l ∈ ls, m ≤ l

/-- `m` is the greatest of `ls`. -/
def IsMaxOf (m : UInt64) (ls : List UInt64) : Prop := m ∈ ls ∧ ∀ l ∈ ls, l ≤ m

theorem isMinOf_singleton (x : UInt64) : IsMinOf x [x] := by simp [IsMinOf]

theorem isMaxOf_singleton (x : UInt64) : IsMaxOf x [x] := by simp [IsMaxOf]

/-- The `if (latency < min) min = latency` update keeps the least sample. -/
theorem IsMinOf.snoc {m : UInt64} {ls : List UInt64} (h : IsMinOf m ls) (x : UInt64) :
    IsMinOf (if x < m then x else m) (ls ++ [x]) := by
  obtain ⟨hm, hle⟩ := h
  split <;> rename_i hx
  · refine ⟨by simp, fun l hl => ?_⟩
    rcases List.mem_append.1 hl with hl | hl
    · have := hle l hl; simp at hx this ⊢; omega
    · simp_all
  · refine ⟨by simp [hm], fun l hl => ?_⟩
    rcases List.mem_append.1 hl with hl | hl
    · exact hle l hl
    · simp_all

/-- The `if (latency > max) max = latency` update keeps the greatest sample. -/
theorem IsMaxOf.snoc {m : UInt64} {ls : List UInt64} (h : IsMaxOf m ls) (x : UInt64) :
    IsMaxOf (if x > m then x else m) (ls ++ [x]) := by
  obtain ⟨hm, hle⟩ := h
  split <;> rename_i hx
  · refine ⟨by simp, fun l hl => ?_⟩
    rcases List.mem_append.1 hl with hl | hl
    · have := hle l hl; simp at hx this ⊢; omega
    · simp_all
  · refine ⟨by simp [hm], fun l hl => ?_⟩
    rcases List.mem_append.1 hl with hl | hl
    · exact hle l hl
    · simp_all

theorem IsMinOf.unique {a b : UInt64} {ls : List UInt64} (ha : IsMinOf a ls)
    (hb : IsMinOf b ls) : a = b := by
  have h₁ := ha.2 b hb.1
  have h₂ := hb.2 a ha.1
  simp only [UInt64.le_iff_toNat_le] at h₁ h₂
  exact UInt64.eq_iff_toNat_eq.2 (by omega)

theorem IsMaxOf.unique {a b : UInt64} {ls : List UInt64} (ha : IsMaxOf a ls)
    (hb : IsMaxOf b ls) : a = b := by
  have h₁ := ha.2 b hb.1
  have h₂ := hb.2 a ha.1
  simp only [UInt64.le_iff_toNat_le] at h₁ h₂
  exact UInt64.eq_iff_toNat_eq.2 (by omega)

/-- The spec's statistics law (§4.4, §8) for the successful transfers `ss` since the last
reset: one count and the byte total per transfer as 64-bit counters, no errors, and —
once there is a sample — the least and greatest latency and the halving average,
computed without overflow. With no sample the latency fields are `0`. -/
structure RunningLaw (s : PcieSimStats) (ss : List Sample) : Prop where
  transfers : s.totalTransfers.toNat = ss.length
  bytes : s.totalBytes = (ss.map Sample.size).sum
  errors : s.totalErrors = 0
  min : ss ≠ [] → IsMinOf s.minLatencyNs (ss.map Sample.latency)
  max : ss ≠ [] → IsMaxOf s.maxLatencyNs (ss.map Sample.latency)
  avg : s.avgLatencyNs.toNat = halvingAvg (ss.map fun x => x.latency.toNat)
  idle : ss = [] → s.minLatencyNs = 0 ∧ s.maxLatencyNs = 0

end PcieSim

import PcieSim.Kernel.Dma

/-!
# `kernel/ringbuffer.c`: the descriptor ring

A ring is a coherent array of `size` descriptors, a producer index `head`, a consumer
index `tail`, a live `count`, and three 64-bit health counters. `pcie_sim_ring_submit`
writes the descriptor at `head` and advances it; `pcie_sim_ring_complete` reads the one at
`tail`, stamps its status and advances `tail`. The clock (`ktime_get_ns()`) is an input.

Both calls return `none` where the C code has undefined behaviour: a descriptor index
outside the allocation, or `% ring->size` with `size = 0`. A ring is reached either from
`init_ring` (256 zeroed descriptors) or as the all-zero ring of a `kzalloc`'d device whose
`pcie_sim_ring_init` never ran; `RingInv` holds of both and is kept by every call, so no
reachable call is undefined (`ring_reachable_invariant`).
-/

namespace PcieSim.Kernel

def ENOSPC : Int := 28
def ENODATA : Int := 61

/-! ## The ring -/

/-- `struct pcie_sim_ring_desc`; `reserved` is written by no function and left out. -/
structure PcieSimRingDesc where
  bufferAddr : UInt64
  length : UInt32
  flags : UInt32
  timestamp : UInt64
  status : UInt32
deriving Repr, DecidableEq, Inhabited

/-- A descriptor after `memset(ring->descriptors, 0, desc_size)`. -/
def PcieSimRingDesc.zero : PcieSimRingDesc := ⟨0, 0, 0, 0, 0⟩

/-- `struct pcie_sim_ring`. `descriptors` is the coherent allocation, `[]` while the pointer
is NULL; `desc_dma_addr` and `lock` are read by no modelled function. `count` is an
`atomic_t` that every access compares or converts as a `u32`. -/
structure PcieSimRing where
  descriptors : List PcieSimRingDesc
  size : UInt32
  head : UInt32
  tail : UInt32
  count : UInt32
  submissions : UInt64
  completions : UInt64
  overruns : UInt64
deriving Repr, DecidableEq

/-- `RING_SIZE`. -/
def ringSize : UInt32 := 256

/-- `init_ring`: the indices and counters are reset before the allocation, which may fail. -/
def initRing (allocOk : Bool) : Int × PcieSimRing :=
  let r : PcieSimRing := ⟨[], ringSize, 0, 0, 0, 0, 0, 0⟩
  if allocOk then (0, { r with descriptors := List.replicate ringSize.toNat .zero })
  else (-ENOMEM, r)

/-- The ring inside a `kzalloc`'d device before any `pcie_sim_ring_init`. -/
def PcieSimRing.zero : PcieSimRing := ⟨[], 0, 0, 0, 0, 0, 0, 0⟩

/-- `pcie_sim_ring_count`. -/
def pcieSimRingCount (r : PcieSimRing) : UInt32 := r.count

/-- `pcie_sim_ring_space`. -/
def pcieSimRingSpace (r : PcieSimRing) : UInt32 := r.size - r.count

/-- `pcie_sim_ring_submit` at clock reading `now`. -/
def pcieSimRingSubmit (r : PcieSimRing) (bufferAddr : UInt64) (length flags : UInt32)
    (now : UInt64) : Option (Int × PcieSimRing) :=
  if r.count ≥ r.size then some (-ENOSPC, { r with overruns := r.overruns + 1 })
  else if r.head.toNat < r.descriptors.length ∧ r.size ≠ 0 then
    some (0, { r with
      descriptors := r.descriptors.set r.head.toNat ⟨bufferAddr, length, flags, now, 0⟩
      head := (r.head + 1) % r.size
      count := r.count + 1
      submissions := r.submissions + 1 })
  else none

/-- What `pcie_sim_ring_complete` returns, and the `length` and `latency_ns` it writes. -/
structure RingCompletion where
  ret : Int
  written : Option (UInt32 × UInt64)
deriving Repr, DecidableEq

/-- `pcie_sim_ring_complete` at clock reading `now`. -/
def pcieSimRingComplete (r : PcieSimRing) (status : UInt32) (now : UInt64) :
    Option (RingCompletion × PcieSimRing) :=
  if r.count = 0 then some (⟨-ENODATA, none⟩, r)
  else match r.descriptors[r.tail.toNat]? with
    | none => none
    | some d =>
      if r.size = 0 then none
      else some (⟨0, some (d.length, now - d.timestamp)⟩, { r with
        descriptors := r.descriptors.set r.tail.toNat { d with status := status }
        tail := (r.tail + 1) % r.size
        count := r.count - 1
        completions := r.completions + 1 })

/-- One call on the ring, with the clock reading it takes. -/
inductive RingOp
  | submit (bufferAddr : UInt64) (length flags : UInt32) (now : UInt64)
  | complete (status : UInt32) (now : UInt64)
deriving Repr, DecidableEq

/-- The ring after a call, `none` if the call is undefined. -/
def RingOp.apply : RingOp → PcieSimRing → Option PcieSimRing
  | .submit a l f now, r => (pcieSimRingSubmit r a l f now).map Prod.snd
  | .complete st now, r => (pcieSimRingComplete r st now).map Prod.snd

/-- Rings reachable from `init_ring`'s ring or from a zeroed device by defined calls. -/
inductive RingReachable : PcieSimRing → Prop
  | init : RingReachable (initRing true).2
  | zero : RingReachable PcieSimRing.zero
  | step {r r' : PcieSimRing} (op : RingOp) :
      RingReachable r → op.apply r = some r' → RingReachable r'

/-! ## What one call can do -/

section Steps

variable {r : PcieSimRing}

theorem pcieSimRingSubmit_full (h : r.size.toNat ≤ r.count.toNat) (a : UInt64)
    (l f : UInt32) (now : UInt64) :
    pcieSimRingSubmit r a l f now = some (-ENOSPC, { r with overruns := r.overruns + 1 }) :=
  if_pos (UInt32.le_def.2 h)

theorem pcieSimRingSubmit_room (h : r.count.toNat < r.size.toNat)
    (hd : r.head.toNat < r.descriptors.length) (a : UInt64) (l f : UInt32) (now : UInt64) :
    pcieSimRingSubmit r a l f now = some (0, { r with
      descriptors := r.descriptors.set r.head.toNat ⟨a, l, f, now, 0⟩
      head := (r.head + 1) % r.size
      count := r.count + 1
      submissions := r.submissions + 1 }) := by
  have hs : r.size ≠ 0 := fun h0 => by simp [h0] at h
  rw [pcieSimRingSubmit, if_neg (fun h' => absurd (UInt32.le_def.1 h') (by simpa using h)),
    if_pos ⟨hd, hs⟩]

theorem pcieSimRingComplete_empty (h : r.count = 0) (st : UInt32) (now : UInt64) :
    pcieSimRingComplete r st now = some (⟨-ENODATA, none⟩, r) :=
  if_pos h

theorem pcieSimRingComplete_live (h : r.count ≠ 0) (hs : r.size ≠ 0)
    (ht : r.tail.toNat < r.descriptors.length) (st : UInt32) (now : UInt64) :
    let d := r.descriptors[r.tail.toNat]
    pcieSimRingComplete r st now = some (⟨0, some (d.length, now - d.timestamp)⟩, { r with
        descriptors := r.descriptors.set r.tail.toNat { d with status := st }
        tail := (r.tail + 1) % r.size
        count := r.count - 1
        completions := r.completions + 1 }) := by
  simp [pcieSimRingComplete, h, hs, List.getElem?_eq_getElem ht]

end Steps

/-! ## The representation invariant -/

/-- What every reachable ring satisfies: the allocation holds `size` descriptors, `size` is
`0` or `RING_SIZE`, the live count is at most `size` and is the number of submissions not
yet completed, and — for a sized ring — both indices are in range with `head` exactly
`count` slots past `tail`. -/
structure RingInv (r : PcieSimRing) : Prop where
  alloc : r.descriptors.length = r.size.toNat
  sized : r.size = 0 ∨ r.size = ringSize
  count_le : r.count.toNat ≤ r.size.toNat
  counters : (r.submissions - r.completions).toNat = r.count.toNat
  head_lt : 0 < r.size.toNat → r.head.toNat < r.size.toNat
  tail_lt : 0 < r.size.toNat → r.tail.toNat < r.size.toNat
  head_eq : 0 < r.size.toNat → r.head.toNat = (r.tail.toNat + r.count.toNat) % r.size.toNat

theorem ringInv_init : RingInv (initRing true).2 :=
  ⟨by simp only [initRing, if_true, List.length_replicate], .inr rfl, by decide, rfl, fun _ => by decide,
    fun _ => by decide, fun _ => by decide⟩

theorem ringInv_zero : RingInv PcieSimRing.zero :=
  ⟨rfl, .inl rfl, le_rfl, rfl, by decide, by decide, by decide⟩

/-- A sized ring holds `RING_SIZE` descriptors. -/
theorem RingInv.size_toNat {r : PcieSimRing} (h : RingInv r) (hpos : 0 < r.size.toNat) :
    r.size.toNat = 256 := by
  rcases h.sized with h0 | h0 <;> rw [h0] at hpos ⊢ <;> first | rfl | exact absurd hpos (by decide)

/-- A submission with room writes at an allocated slot. -/
theorem RingInv.head_lt_length {r : PcieSimRing} (h : RingInv r)
    (hroom : r.count.toNat < r.size.toNat) : r.head.toNat < r.descriptors.length :=
  h.alloc ▸ h.head_lt (by omega)

/-- A completion on a live ring reads an allocated slot of a sized ring. -/
theorem RingInv.tail_lt_length {r : PcieSimRing} (h : RingInv r) (hc : r.count ≠ 0) :
    r.tail.toNat < r.descriptors.length ∧ r.size ≠ 0 := by
  have hc' : 0 < r.count.toNat := Nat.pos_of_ne_zero fun h0 => hc (UInt32.eq_iff_toNat_eq.2 h0)
  have hs : 0 < r.size.toNat := by have := h.count_le; omega
  exact ⟨h.alloc ▸ h.tail_lt hs, fun h0 => by simp [h0] at hs⟩

theorem RingInv.submit_room {r : PcieSimRing} (h : RingInv r)
    (hroom : r.count.toNat < r.size.toNat) (d : PcieSimRingDesc) :
    RingInv { r with
      descriptors := r.descriptors.set r.head.toNat d
      head := (r.head + 1) % r.size
      count := r.count + 1
      submissions := r.submissions + 1 } := by
  have h256 := h.size_toNat (by omega)
  have hh := h.head_lt (by omega)
  have ht := h.tail_lt (by omega)
  have he := h.head_eq (by omega)
  have hcnt := h.counters
  simp only [UInt64.toNat_sub, UInt64.toNat_add, UInt64.size_eq, UInt64.toNat_one] at hcnt
  refine ⟨by simp [h.alloc], h.sized, ?_, ?_, ?_, ?_, ?_⟩ <;>
    simp only [UInt32.toNat_mod, UInt32.toNat_add, UInt32.toNat_one, UInt32.size_eq,
      UInt64.toNat_sub, UInt64.toNat_add, UInt64.size_eq, UInt64.toNat_one, h256] at * <;>
    omega

theorem RingInv.complete_live {r : PcieSimRing} (h : RingInv r) (hc : r.count ≠ 0)
    (d : PcieSimRingDesc) :
    RingInv { r with
      descriptors := r.descriptors.set r.tail.toNat d
      tail := (r.tail + 1) % r.size
      count := r.count - 1
      completions := r.completions + 1 } := by
  have hc' : 0 < r.count.toNat := Nat.pos_of_ne_zero fun h0 => hc (UInt32.eq_iff_toNat_eq.2 h0)
  have hle := h.count_le
  have h256 := h.size_toNat (by omega)
  have hh := h.head_lt (by omega)
  have ht := h.tail_lt (by omega)
  have he := h.head_eq (by omega)
  have hcnt := h.counters
  have hsub : (r.count - 1).toNat = r.count.toNat - 1 :=
    UInt32.toNat_sub_of_le _ _ (by simp; omega)
  have := r.completions.toNat_lt
  simp only [UInt64.toNat_sub, UInt64.size_eq] at hcnt
  refine ⟨by simp [h.alloc], h.sized, ?_, ?_, ?_, ?_, ?_⟩ <;>
    simp only [hsub, UInt32.toNat_mod, UInt32.toNat_add, UInt32.toNat_one, UInt32.size_eq,
      UInt64.toNat_sub, UInt64.toNat_add, UInt64.size_eq, UInt64.toNat_one, h256] at * <;>
    omega

/-- On an invariant ring no submission is undefined, and each keeps the invariant. -/
theorem RingInv.submit {r : PcieSimRing} (h : RingInv r) (a : UInt64) (l f : UInt32)
    (now : UInt64) :
    ∃ ret r', pcieSimRingSubmit r a l f now = some (ret, r') ∧ RingInv r' := by
  by_cases hroom : r.count.toNat < r.size.toNat
  · exact ⟨_, _, pcieSimRingSubmit_room hroom (h.head_lt_length hroom) a l f now,
      h.submit_room hroom _⟩
  · exact ⟨_, _, pcieSimRingSubmit_full (by omega) a l f now, { h with }⟩

/-- On an invariant ring no completion is undefined, and each keeps the invariant. -/
theorem RingInv.complete {r : PcieSimRing} (h : RingInv r) (st : UInt32) (now : UInt64) :
    ∃ c r', pcieSimRingComplete r st now = some (c, r') ∧ RingInv r' := by
  by_cases hc : r.count = 0
  · exact ⟨_, _, pcieSimRingComplete_empty hc st now, h⟩
  · obtain ⟨ht, hs⟩ := h.tail_lt_length hc
    exact ⟨_, _, pcieSimRingComplete_live hc hs ht st now, h.complete_live hc _⟩

theorem RingInv.apply {r r' : PcieSimRing} (h : RingInv r) {op : RingOp}
    (hop : op.apply r = some r') : RingInv r' := by
  cases op with
  | submit a l f now =>
    obtain ⟨ret, r'', hs, hi⟩ := h.submit a l f now
    simp only [RingOp.apply, hs, Option.map_some', Option.some.injEq] at hop
    exact hop ▸ hi
  | complete st now =>
    obtain ⟨c, r'', hs, hi⟩ := h.complete st now
    simp only [RingOp.apply, hs, Option.map_some', Option.some.injEq] at hop
    exact hop ▸ hi

theorem RingReachable.inv {r : PcieSimRing} (h : RingReachable r) : RingInv r := by
  induction h with
  | init => exact ringInv_init
  | zero => exact ringInv_zero
  | step op _ hop ih => exact ih.apply hop

/-- From a reachable ring every call is defined. -/
theorem RingReachable.apply_eq_some {r : PcieSimRing} (h : RingReachable r) (op : RingOp) :
    ∃ r', op.apply r = some r' := by
  cases op with
  | submit a l f now =>
    obtain ⟨_, r', hs, -⟩ := h.inv.submit a l f now
    exact ⟨r', by simp [RingOp.apply, hs]⟩
  | complete st now =>
    obtain ⟨_, r', hs, -⟩ := h.inv.complete st now
    exact ⟨r', by simp [RingOp.apply, hs]⟩

/-- From a reachable ring, any sequence of calls is defined throughout and ends on a reachable
ring. -/
theorem RingReachable.foldlM {r : PcieSimRing} (h : RingReachable r) (ops : List RingOp) :
    ∃ r', ops.foldlM (fun r (op : RingOp) => op.apply r) r = some r' ∧ RingReachable r' := by
  induction ops generalizing r with
  | nil => exact ⟨r, rfl, h⟩
  | cons op ops ih =>
    obtain ⟨r₁, h₁⟩ := h.apply_eq_some op
    obtain ⟨r', hr', hreach⟩ := ih (.step op h h₁)
    exact ⟨r', by simp [List.foldlM, h₁, hr'], hreach⟩

/-- Every ring reached from `init_ring`'s ring or from a zeroed device keeps its count
between `0` and `size` and equal to submissions minus completions (as the 64-bit counters
compute it); a sized ring has both indices in range and `head ≡ tail + count (mod size)`.
So the next submission or completion indexes only allocated descriptors and never takes
`% 0`, and `pcie_sim_ring_space` does not wrap. -/
theorem ring_reachable_invariant {r : PcieSimRing} (h : RingReachable r) :
    r.count.toNat ≤ r.size.toNat ∧
    (r.submissions - r.completions).toNat = r.count.toNat ∧
    (0 < r.size.toNat → r.head.toNat < r.size.toNat ∧ r.tail.toNat < r.size.toNat ∧
      r.head.toNat % r.size.toNat = (r.tail.toNat + r.count.toNat) % r.size.toNat) ∧
    r.descriptors.length = r.size.toNat ∧
    (∀ a l f now, pcieSimRingSubmit r a l f now ≠ none) ∧
    (∀ st now, pcieSimRingComplete r st now ≠ none) ∧
    (pcieSimRingSpace r).toNat = r.size.toNat - r.count.toNat := by
  have hi := h.inv
  refine ⟨hi.count_le, hi.counters, fun hs => ⟨hi.head_lt hs, hi.tail_lt hs, ?_⟩, hi.alloc,
    fun a l f now => ?_, fun st now => ?_, UInt32.toNat_sub_of_le _ _ hi.count_le⟩
  · rw [hi.head_eq hs, Nat.mod_mod]
  · obtain ⟨_, _, he, _⟩ := hi.submit a l f now; simp [he]
  · obtain ⟨_, _, he, _⟩ := hi.complete st now; simp [he]

/-- `init_ring`, then 256 submissions that fill the ring, a completion, and one more
submission, which wraps `head` round past the last descriptor. -/
theorem ring_reachable_invariant_wrapped :
    ∃ r, (List.replicate 256 (RingOp.submit 0x1000 64 0 10) ++
        [RingOp.complete 1 20, RingOp.submit 0x2000 128 0 30]).foldlM
        (fun r (op : RingOp) => op.apply r) (initRing true).2 = some r ∧ RingReachable r ∧
      (r.count.toNat ≤ r.size.toNat ∧
      (r.submissions - r.completions).toNat = r.count.toNat ∧
      (0 < r.size.toNat → r.head.toNat < r.size.toNat ∧ r.tail.toNat < r.size.toNat ∧
        r.head.toNat % r.size.toNat = (r.tail.toNat + r.count.toNat) % r.size.toNat) ∧
      r.descriptors.length = r.size.toNat ∧
      (∀ a l f now, pcieSimRingSubmit r a l f now ≠ none) ∧
      (∀ st now, pcieSimRingComplete r st now ≠ none) ∧
      (pcieSimRingSpace r).toNat = r.size.toNat - r.count.toNat) := by
  obtain ⟨r, hr, h⟩ := RingReachable.init.foldlM (List.replicate 256
    (RingOp.submit 0x1000 64 0 10) ++ [RingOp.complete 1 20, RingOp.submit 0x2000 128 0 30])
  exact ⟨r, hr, h, ring_reachable_invariant h⟩

end PcieSim.Kernel

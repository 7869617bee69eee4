import PcieSim.Kernel.Ring

/-!
# The descriptor ring refines a bounded FIFO

The spec (§4.1) describes the ring as a bounded queue: `submit` appends or fails with
overflow, `complete` removes the oldest entry or fails with underflow, and the latency
returned is `now - submit_timestamp`. `PcieSimRing.queue` reads that queue off a ring —
the `count` descriptors from `tail` on, oldest first — and `ring_refines_fifo` shows that
every call on a ring reached from `init_ring` moves it exactly as the FIFO moves, as long
as the clock readings the calls take never decrease. `ringRun_refines` lifts this to whole
runs against the abstract queue `fifoRun`.
-/

namespace PcieSim.Kernel

/-! ## The abstract queue -/

/-- An entry of the spec's descriptor queue: what a submission records. -/
structure RingEntry where
  bufferAddr : UInt64
  length : UInt32
  flags : UInt32
  submitTime : UInt64
deriving Repr, DecidableEq

/-- The entry a descriptor stands for; its completion status is not part of it. -/
def PcieSimRingDesc.entry (d : PcieSimRingDesc) : RingEntry :=
  ⟨d.bufferAddr, d.length, d.flags, d.timestamp⟩

/-- The queue a ring holds: the `count` descriptors from `tail` on, oldest first. -/
def PcieSimRing.queue (r : PcieSimRing) : List RingEntry :=
  (List.range r.count.toNat).map fun i =>
    (r.descriptors.getD ((r.tail.toNat + i) % r.size.toNat) .zero).entry

@[simp] theorem PcieSimRing.length_queue (r : PcieSimRing) : r.queue.length = r.count.toNat := by
  simp [PcieSimRing.queue]

/-- The clock reading a call takes. -/
def RingOp.now : RingOp → UInt64
  | .submit _ _ _ now => now
  | .complete _ now => now

/-- Rings reached from `init_ring`'s ring by defined calls whose clock readings never
decrease; `t` is the last reading, `0` before the first call. -/
inductive RingTimed : PcieSimRing → UInt64 → Prop
  | init : RingTimed (initRing true).2 0
  | step {r r' : PcieSimRing} {t : UInt64} (op : RingOp) :
      RingTimed r t → t ≤ op.now → op.apply r = some r' → RingTimed r' op.now

theorem RingTimed.reachable {r : PcieSimRing} {t : UInt64} (h : RingTimed r t) :
    RingReachable r := by
  induction h with
  | init => exact .init
  | step op _ _ hop ih => exact .step op ih hop

/-! ## The queue under each call -/

section Queue

variable {α : Type}

theorem getD_set_of_ne {l : List α} {i j : ℕ} (h : i ≠ j) (a d : α) :
    (l.set i a).getD j d = l.getD j d := by
  simp [List.getElem?_set_ne h]

theorem getD_set_self {l : List α} {i : ℕ} (h : i < l.length) (a d : α) :
    (l.set i a).getD i d = a := by
  simp [List.getElem?_set_self h]

end Queue

/-- A submission with room appends its entry; the live entries keep their slots. -/
theorem RingInv.queue_submit {r : PcieSimRing} (h : RingInv r)
    (hroom : r.count.toNat < r.size.toNat) (a : UInt64) (l f : UInt32) (now : UInt64) :
    ({ r with
      descriptors := r.descriptors.set r.head.toNat ⟨a, l, f, now, 0⟩
      head := (r.head + 1) % r.size
      count := r.count + 1
      submissions := r.submissions + 1 } : PcieSimRing).queue =
      r.queue ++ [⟨a, l, f, now⟩] := by
  have h256 := h.size_toNat (by omega)
  have hh := h.head_lt (by omega)
  have he := h.head_eq (by omega)
  have hc : (r.count + 1).toNat = r.count.toNat + 1 := by
    rw [UInt32.toNat_add, UInt32.toNat_one, UInt32.size_eq]; omega
  rw [h256] at hh he
  simp only [PcieSimRing.queue]
  rw [hc, List.range_succ, List.map_append, List.map_singleton, h256]
  congr 1
  · refine List.map_congr_left fun i hi => ?_
    rw [getD_set_of_ne]
    have := List.mem_range.1 hi
    omega
  · rw [show (r.tail.toNat + r.count.toNat) % 256 = r.head.toNat by omega,
      getD_set_self (by rw [h.alloc]; omega)]
    rfl

/-- A completion on a live ring takes the oldest entry; the status it stamps is not part of
the queue. -/
theorem RingInv.queue_complete {r : PcieSimRing} (h : RingInv r) (hc : r.count ≠ 0)
    (st : UInt32) (ht : r.tail.toNat < r.descriptors.length) :
    r.queue = r.descriptors[r.tail.toNat].entry ::
      ({ r with
        descriptors := r.descriptors.set r.tail.toNat
          { r.descriptors[r.tail.toNat] with status := st }
        tail := (r.tail + 1) % r.size
        count := r.count - 1
        completions := r.completions + 1 } : PcieSimRing).queue := by
  have hc' : 0 < r.count.toNat := Nat.pos_of_ne_zero fun h0 => hc (UInt32.eq_iff_toNat_eq.2 h0)
  have hle := h.count_le
  have h256 := h.size_toNat (by omega)
  have htl := h.tail_lt (by omega)
  have hsub : (r.count - 1).toNat = r.count.toNat - 1 :=
    UInt32.toNat_sub_of_le _ _ (by simp; omega)
  have hentry : ∀ j, ((r.descriptors.set r.tail.toNat
      { r.descriptors[r.tail.toNat] with status := st }).getD j .zero).entry =
      (r.descriptors.getD j .zero).entry := by
    intro j
    rcases eq_or_ne r.tail.toNat j with rfl | hj
    · rw [getD_set_self ht]; simp [List.getElem?_eq_getElem ht, PcieSimRingDesc.entry]
    · rw [getD_set_of_ne hj]
  obtain ⟨n, hn⟩ : ∃ n, r.count.toNat = n + 1 := ⟨r.count.toNat - 1, by omega⟩
  simp only [PcieSimRing.queue, hsub, hn, List.range_succ_eq_map, List.map_cons,
    List.map_map, hentry, h256, Nat.add_zero, Nat.mod_eq_of_lt (show r.tail.toNat < 256 by omega),
    UInt32.toNat_mod, UInt32.toNat_add, UInt32.toNat_one, UInt32.size_eq, Nat.add_sub_cancel]
  congr 1
  · simp [List.getElem?_eq_getElem ht]
  · refine List.map_congr_left fun i _ => ?_
    simp only [Function.comp_apply, Nat.succ_eq_add_one]
    rw [show ((r.tail.toNat + 1) % 2 ^ 32 % 256 + i) % 256 = (r.tail.toNat + (i + 1)) % 256 by
      omega]

/-! ## Refinement -/

/-- What the spec's FIFO asks of a submission of `e` that returned `ret` and left `r'`:
overflow exactly when the queue is full, and then nothing but the overrun counter moves;
otherwise success, with `e` appended. -/
def SubmitRefines (r : PcieSimRing) (e : RingEntry) (ret : Int) (r' : PcieSimRing) : Prop :=
  (ret = -ENOSPC ↔ r.queue.length = r.size.toNat) ∧
  (ret = -ENOSPC → r' = { r with overruns := r.overruns + 1 }) ∧
  (ret ≠ -ENOSPC → ret = 0 ∧ r'.queue = r.queue ++ [e])

/-- What the spec's FIFO asks of a completion at `now`: underflow exactly when the queue is
empty, and then the ring is untouched; otherwise success, handing back the oldest entry's
length and `now` minus its submission time, exact in `ℕ`, and dropping it. -/
def CompleteRefines (r : PcieSimRing) (now : UInt64) (c : RingCompletion)
    (r' : PcieSimRing) : Prop :=
  (c.ret = -ENODATA ↔ r.queue = []) ∧
  (c.ret = -ENODATA → r' = r) ∧
  (∀ e es, r.queue = e :: es → c.ret = 0 ∧ c.written = some (e.length, now - e.submitTime) ∧
    (now - e.submitTime).toNat = now.toNat - e.submitTime.toNat ∧ r'.queue = es)

/-- What a timed ring keeps: the representation invariant, `RING_SIZE` slots, and no queued
entry stamped after the last clock reading. -/
structure TimedInv (r : PcieSimRing) (t : UInt64) : Prop where
  inv : RingInv r
  sized : r.size = ringSize
  stamped : ∀ e ∈ r.queue, e.submitTime ≤ t

theorem timedInv_init : TimedInv (initRing true).2 0 :=
  ⟨ringInv_init, rfl, by simp [PcieSimRing.queue, initRing]⟩

theorem TimedInv.submit {r : PcieSimRing} {t : UInt64} (h : TimedInv r t) {now : UInt64}
    (hnow : t ≤ now) (a : UInt64) (l f : UInt32) :
    ∃ ret r', pcieSimRingSubmit r a l f now = some (ret, r') ∧
      SubmitRefines r ⟨a, l, f, now⟩ ret r' ∧ TimedInv r' now := by
  have hle := h.inv.count_le
  have hlate : ∀ e ∈ r.queue, e.submitTime ≤ now := fun e he =>
    (UInt64.le_iff_toNat_le.2 (le_trans (h.stamped e he) hnow))
  by_cases hroom : r.count.toNat < r.size.toNat
  · refine ⟨_, _, pcieSimRingSubmit_room hroom (h.inv.head_lt_length hroom) a l f now,
      ⟨by simp [ENOSPC]; omega, by simp [ENOSPC], fun _ => ⟨rfl, h.inv.queue_submit hroom ..⟩⟩,
      ⟨h.inv.submit_room hroom _, h.sized, ?_⟩⟩
    rw [h.inv.queue_submit hroom]
    intro e he
    rcases List.mem_append.1 he with he | he
    · exact hlate e he
    · simp_all
  · refine ⟨_, _, pcieSimRingSubmit_full (by omega) a l f now,
      ⟨by simp; omega, fun _ => rfl, fun h' => absurd rfl h'⟩, ⟨{ h.inv with }, h.sized, hlate⟩⟩

theorem TimedInv.complete {r : PcieSimRing} {t : UInt64} (h : TimedInv r t) {now : UInt64}
    (hnow : t ≤ now) (st : UInt32) :
    ∃ c r', pcieSimRingComplete r st now = some (c, r') ∧
      CompleteRefines r now c r' ∧ TimedInv r' now := by
  have hlate : ∀ e ∈ r.queue, e.submitTime ≤ now := fun e he =>
    (UInt64.le_iff_toNat_le.2 (le_trans (h.stamped e he) hnow))
  by_cases hc : r.count = 0
  · have hq : r.queue = [] := List.eq_nil_of_length_eq_zero (by simp [hc])
    exact ⟨_, _, pcieSimRingComplete_empty hc st now,
      ⟨by simp [hq], fun _ => rfl, fun e es he => by simp [hq] at he⟩,
      ⟨h.inv, h.sized, fun e he => hlate e he⟩⟩
  · obtain ⟨ht, hs⟩ := h.inv.tail_lt_length hc
    have hq := h.inv.queue_complete hc st ht
    refine ⟨_, _, pcieSimRingComplete_live hc hs ht st now, ⟨?_, ?_, ?_⟩,
      ⟨h.inv.complete_live hc _, h.sized, fun e he => hlate e (by rw [hq]; simp [he])⟩⟩
    · simp [hq, ENODATA]
    · simp [ENODATA]
    · intro e es he
      rw [hq, List.cons.injEq] at he
      obtain ⟨rfl, rfl⟩ := he
      have hs := hlate _ (hq ▸ List.mem_cons_self _ _)
      exact ⟨rfl, rfl, UInt64.toNat_sub_of_le _ _ hs, rfl⟩

theorem RingTimed.timedInv {r : PcieSimRing} {t : UInt64} (h : RingTimed r t) :
    TimedInv r t := by
  induction h with
  | init => exact timedInv_init
  | step op _ hnow hop ih =>
    cases op with
    | submit a l f now =>
      simp only [RingOp.now] at hnow ⊢
      obtain ⟨ret, r', hs, -, hi⟩ := ih.submit hnow a l f
      simp only [RingOp.apply, hs, Option.map_some', Option.some.injEq] at hop
      exact hop ▸ hi
    | complete st now =>
      simp only [RingOp.now] at hnow ⊢
      obtain ⟨c, r', hs, -, hi⟩ := ih.complete hnow st
      simp only [RingOp.apply, hs, Option.map_some', Option.some.injEq] at hop
      exact hop ▸ hi

/-- From a timed ring every call at a reading no earlier is defined. -/
theorem RingTimed.apply_eq_some {r : PcieSimRing} {t : UInt64} (h : RingTimed r t)
    {op : RingOp} (hnow : t ≤ op.now) : ∃ r', op.apply r = some r' := by
  cases op with
  | submit a l f now =>
    obtain ⟨_, r', hs, -⟩ := h.timedInv.submit (show t ≤ now from hnow) a l f
    exact ⟨r', by simp [RingOp.apply, hs]⟩
  | complete st now =>
    obtain ⟨_, r', hs, -⟩ := h.timedInv.complete (show t ≤ now from hnow) st
    exact ⟨r', by simp [RingOp.apply, hs]⟩

/-- From a timed ring, calls whose clock readings never decrease are defined throughout and
leave a timed ring, at the last call's reading. -/
theorem RingTimed.foldlM {r : PcieSimRing} {t : UInt64} (h : RingTimed r t)
    (ops : List RingOp) (hclock : List.Chain (· ≤ ·) t (ops.map RingOp.now)) :
    ∃ r', ops.foldlM (fun r (op : RingOp) => op.apply r) r = some r' ∧
      RingTimed r' ((ops.map RingOp.now).getLast?.getD t) := by
  induction ops generalizing r t with
  | nil => exact ⟨r, rfl, h⟩
  | cons op ops ih =>
    obtain ⟨hnow, hrest⟩ := List.chain_cons.1 hclock
    obtain ⟨r₁, h₁⟩ := h.apply_eq_some hnow
    obtain ⟨r', hr', h'⟩ := ih (.step op h hnow h₁) hrest
    refine ⟨r', by simp [List.foldlM, h₁, hr'], ?_⟩
    cases ops with
    | nil => exact h'
    | cons op' ops => simpa [List.getLast?_cons_cons] using h'

/-- On every ring reached from `init_ring` by calls with non-decreasing clock readings, the
next call (at a reading no earlier) is defined and moves the ring's queue as the spec's
bounded FIFO of capacity `RING_SIZE` moves: a submission overflows exactly when the queue is
full, touching only the overrun counter, and otherwise appends its entry, so no live
descriptor is overwritten; a completion underflows exactly when the queue is empty, leaving
the ring as it was, and otherwise removes the oldest entry and returns its length and its
exact age. -/
theorem ring_refines_fifo {r : PcieSimRing} {t : UInt64} (h : RingTimed r t) {now : UInt64}
    (hnow : t ≤ now) :
    r.size = ringSize ∧
    (∀ a l f, ∃ ret r', pcieSimRingSubmit r a l f now = some (ret, r') ∧
      SubmitRefines r ⟨a, l, f, now⟩ ret r') ∧
    (∀ st, ∃ c r', pcieSimRingComplete r st now = some (c, r') ∧
      CompleteRefines r now c r') := by
  have hi := h.timedInv
  refine ⟨hi.sized, fun a l f => ?_, fun st => ?_⟩
  · obtain ⟨ret, r', hs, hr, -⟩ := hi.submit hnow a l f
    exact ⟨ret, r', hs, hr⟩
  · obtain ⟨c, r', hs, hr, -⟩ := hi.complete hnow st
    exact ⟨c, r', hs, hr⟩

/-- `init_ring`, then 256 submissions at 10 ns that fill the ring, a completion at 20 ns,
and a submission at 30 ns that wraps `head` round past the last descriptor; the next calls
come at 40 ns, on a full ring whose oldest entry sits in descriptor 1. -/
theorem ring_refines_fifo_wrapped :
    ∃ r, (List.replicate 256 (RingOp.submit 0x1000 64 0 10) ++
        [RingOp.complete 1 20, RingOp.submit 0x2000 128 0 30]).foldlM
        (fun r (op : RingOp) => op.apply r) (initRing true).2 = some r ∧
      RingTimed r 30 ∧ (30 : UInt64) ≤ 40 ∧
      (r.size = ringSize ∧
      (∀ a l f, ∃ ret r', pcieSimRingSubmit r a l f 40 = some (ret, r') ∧
        SubmitRefines r ⟨a, l, f, 40⟩ ret r') ∧
      (∀ st, ∃ c r', pcieSimRingComplete r st 40 = some (c, r') ∧
        CompleteRefines r 40 c r')) := by
  have hclock : ∀ n, List.Chain (· ≤ ·) (10 : UInt64) (List.replicate n 10 ++ [20, 30]) := by
    intro n
    induction n with
    | zero => exact .cons (by decide) (.cons (by decide) .nil)
    | succ n ih => exact .cons (by decide) ih
  obtain ⟨r, hrun, h⟩ := RingTimed.init.foldlM (List.replicate 256
    (RingOp.submit 0x1000 64 0 10) ++ [RingOp.complete 1 20, RingOp.submit 0x2000 128 0 30]) (by
      simp only [List.map_append, List.map_replicate, List.map_cons, List.map_nil, RingOp.now]
      exact .cons (by decide) (hclock 255))
  have hlast : ((List.replicate 256 (RingOp.submit 0x1000 64 0 10) ++ [RingOp.complete 1 20,
      RingOp.submit 0x2000 128 0 30]).map RingOp.now).getLast? = some 30 := by
    rw [List.map_append, List.getLast?_append]; rfl
  have h30 : RingTimed r 30 := by rwa [hlast, Option.getD_some] at h
  exact ⟨r, hrun, h30, by decide, ring_refines_fifo h30 (by decide)⟩

/-! ## Whole runs

The spec's FIFO as a machine of its own: a queue of entries, a capacity, and replies whose
latency is a natural number. A run of the ring from `init_ring` gives, call by call, the
replies of that machine run from the empty queue. -/

/-- The spec's bounded FIFO of capacity `cap`: a call's return value, the length and age it
hands back, and the queue it leaves. -/
def fifoStep (cap : ℕ) : RingOp → List RingEntry → (Int × Option (UInt32 × ℕ)) × List RingEntry
  | .submit a l f now, q =>
    if q.length = cap then ((-ENOSPC, none), q) else ((0, none), q ++ [⟨a, l, f, now⟩])
  | .complete _ _, [] => ((-ENODATA, none), [])
  | .complete _ now, e :: es => ((0, some (e.length, now.toNat - e.submitTime.toNat)), es)

/-- The FIFO's replies to a sequence of calls, and the queue it leaves. -/
def fifoRun (cap : ℕ) : List RingOp → List RingEntry →
    List (Int × Option (UInt32 × ℕ)) × List RingEntry
  | [], q => ([], q)
  | op :: ops, q =>
    let x := fifoStep cap op q
    let y := fifoRun cap ops x.2
    (x.1 :: y.1, y.2)

/-- A ring call's reply and the ring after it: the return value, and the `length` and
`latency_ns` a completion writes. -/
def RingOp.run : RingOp → PcieSimRing →
    Option ((Int × Option (UInt32 × UInt64)) × PcieSimRing)
  | .submit a l f now, r => (pcieSimRingSubmit r a l f now).map fun p => ((p.1, none), p.2)
  | .complete st now, r =>
    (pcieSimRingComplete r st now).map fun p => ((p.1.ret, p.1.written), p.2)

/-- The ring's replies to a sequence of calls and the ring they leave; `none` if a call is
undefined. -/
def ringRun : List RingOp → PcieSimRing →
    Option (List (Int × Option (UInt32 × UInt64)) × PcieSimRing)
  | [], r => some ([], r)
  | op :: ops, r =>
    match op.run r with
    | none => none
    | some (x, r') => (ringRun ops r').map fun y => (x :: y.1, y.2)

/-- A reply with its 64-bit latency read as a natural number. -/
def exactReply (x : Int × Option (UInt32 × UInt64)) : Int × Option (UInt32 × ℕ) :=
  (x.1, x.2.map fun w => (w.1, w.2.toNat))

theorem PcieSimRing.queue_initRing : (initRing true).2.queue = [] := by
  simp [PcieSimRing.queue, initRing]

/-- One call on a timed ring, at a reading no earlier, is the FIFO's step on its queue. -/
theorem RingTimed.run {r : PcieSimRing} {t : UInt64} (h : RingTimed r t) {op : RingOp}
    (hnow : t ≤ op.now) :
    ∃ x r', op.run r = some (x, r') ∧
      exactReply x = (fifoStep ringSize.toNat op r.queue).1 ∧
      r'.queue = (fifoStep ringSize.toNat op r.queue).2 ∧ RingTimed r' op.now := by
  have hi := h.timedInv
  have hcap : r.size.toNat = ringSize.toNat := by rw [hi.sized]
  cases op with
  | submit a l f now =>
    change t ≤ now at hnow
    obtain ⟨ret, r', hs, ⟨hfull, hov, hok⟩, -⟩ := hi.submit hnow a l f
    have hr : RingTimed r' now := .step (.submit a l f now) h hnow (by simp [RingOp.apply, hs])
    refine ⟨(ret, none), r', by simp [RingOp.run, hs], ?_⟩
    by_cases hq : r.queue.length = ringSize.toNat
    · have he : ret = -ENOSPC := hfull.2 (hcap ▸ hq)
      have hr' : r'.queue = r.queue := by rw [hov he]; rfl
      simp only [fifoStep, if_pos hq]
      exact ⟨by simp [exactReply, he], hr', hr⟩
    · have he : ret ≠ -ENOSPC := fun he => hq (hcap ▸ hfull.1 he)
      simp only [fifoStep, if_neg hq]
      exact ⟨by simp [exactReply, (hok he).1], (hok he).2, hr⟩
  | complete st now =>
    change t ≤ now at hnow
    rcases hq : r.queue with _ | ⟨e, es⟩
    · have hc : r.count = 0 := UInt32.eq_iff_toNat_eq.2 (by simpa [hq] using r.length_queue.symm)
      have hs := pcieSimRingComplete_empty hc st now
      exact ⟨(-ENODATA, none), r, by simp [RingOp.run, hs], rfl, hq,
        .step (.complete st now) h hnow (by simp [RingOp.apply, hs])⟩
    · obtain ⟨c, r', hs, ⟨-, -, hlive⟩, -⟩ := hi.complete hnow st
      obtain ⟨hret, hw, hexact, hq'⟩ := hlive e es hq
      refine ⟨(c.ret, c.written), r', by simp [RingOp.run, hs], ?_, hq',
        .step (.complete st now) h hnow (by simp [RingOp.apply, hs])⟩
      simp [exactReply, fifoStep, hret, hw, hexact]

/-- From any timed ring, calls whose clock readings never decrease are defined throughout
and get the FIFO's replies, run from the ring's queue; the ring ends holding the FIFO's
queue. -/
theorem RingTimed.ringRun_fifo {r : PcieSimRing} {t : UInt64} (h : RingTimed r t)
    (ops : List RingOp) (hclock : List.Chain (· ≤ ·) t (ops.map RingOp.now)) :
    ∃ xs r', ringRun ops r = some (xs, r') ∧
      xs.map exactReply = (fifoRun ringSize.toNat ops r.queue).1 ∧
      r'.queue = (fifoRun ringSize.toNat ops r.queue).2 := by
  induction ops generalizing r t with
  | nil => exact ⟨[], r, rfl, rfl, rfl⟩
  | cons op ops ih =>
    obtain ⟨hnow, hrest⟩ := List.chain_cons.1 hclock
    obtain ⟨x, r', hrun, hx, hq, h'⟩ := h.run hnow
    obtain ⟨xs, r'', hrun', hxs, hq'⟩ := ih h' hrest
    refine ⟨x :: xs, r'', by simp [ringRun, hrun, hrun'], ?_, ?_⟩
    · rw [List.map_cons, hx, hxs, hq]; rfl
    · rw [hq', hq]; rfl

/-- The descriptor ring refines the spec's bounded FIFO over whole runs: from `init_ring`,
every sequence of submissions and completions whose clock readings never decrease is
defined at every call, each call returns what the FIFO of capacity `RING_SIZE` run from the
empty queue returns (with the exact latency), and the ring ends holding that FIFO's queue. -/
theorem ringRun_refines (ops : List RingOp)
    (hclock : List.Chain' (· ≤ ·) (ops.map RingOp.now)) :
    ∃ xs r', ringRun ops (initRing true).2 = some (xs, r') ∧
      xs.map exactReply = (fifoRun ringSize.toNat ops []).1 ∧
      r'.queue = (fifoRun ringSize.toNat ops []).2 := by
  have h0 : List.Chain (· ≤ ·) 0 (ops.map RingOp.now) :=
    hclock.cons' fun _ _ => UInt64.le_iff_toNat_le.2 (Nat.zero_le _)
  simpa only [PcieSimRing.queue_initRing] using RingTimed.init.ringRun_fifo ops h0

/-- Two submissions, then two completions read 4 and 6 ns after them. -/
theorem ringRun_refines_two_entries :
    List.Chain' (· ≤ ·) ([RingOp.submit 0x1000 64 0 10, .submit 0x2000 128 0 11,
      .complete 1 14, .complete 1 17].map RingOp.now) ∧
    ∃ xs r', ringRun [.submit 0x1000 64 0 10, .submit 0x2000 128 0 11, .complete 1 14,
        .complete 1 17] (initRing true).2 = some (xs, r') ∧
      xs.map exactReply = (fifoRun ringSize.toNat [.submit 0x1000 64 0 10,
        .submit 0x2000 128 0 11, .complete 1 14, .complete 1 17] []).1 ∧
      r'.queue = (fifoRun ringSize.toNat [.submit 0x1000 64 0 10, .submit 0x2000 128 0 11,
        .complete 1 14, .complete 1 17] []).2 :=
  ⟨by simp [List.chain'_cons]; decide, ringRun_refines _ (by simp [List.chain'_cons]; decide)⟩

end PcieSim.Kernel

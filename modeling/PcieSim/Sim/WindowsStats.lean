import PcieSim.Sim.Windows

/-!
# The Windows backend's statistics

`pcie_sim_transfer_impl` keeps the least latency against the sentinel `UINT64_MAX`, the
greatest against `0`, and the average as the truncated running mean
`(avg * (n - 1) + latency) / n`. A device's statistics are fresh after the init that the
first open runs and after each reset of the open device; a transfer is counted only while
the device is open, and opening it again keeps what was counted. So the law is stated over
what a caller was told: the transfers on the device reported done since the last reset
reported done.

* `runningMean`, the mean the code keeps, and `WindowsLaw`;
* `windowsWindow`: the samples a caller has seen, folded over the replies;
* the step lemma for one call, on an initialized backend and then on any reachable one
  (until an init succeeds no transfer or reset is reported done),
  and the run lemma for a program;
* `windows_stats_law`.
-/

namespace PcieSim.Sim

/-! ## The running mean -/

/-- The mean after `n` samples of mean `a` and then the samples `xs` in turn, each one
taken in as `(a * n + x) / (n + 1)`. -/
def meanFrom (a n : ℕ) : List ℕ → ℕ
  | [] => a
  | x :: xs => meanFrom ((a * n + x) / (n + 1)) (n + 1) xs

/-- The running mean of `L₁ … Lₙ`: `a₁ = L₁` and `aₖ = (aₖ₋₁ * (k - 1) + Lₖ) / k`. -/
def runningMean (ls : List ℕ) : ℕ := meanFrom 0 0 ls

theorem meanFrom_append_singleton (a n : ℕ) (xs : List ℕ) (x : ℕ) :
    meanFrom a n (xs ++ [x]) =
      (meanFrom a n xs * (n + xs.length) + x) / (n + xs.length + 1) := by
  induction xs generalizing a n with
  | nil => rfl
  | cons y ys ih =>
    show meanFrom ((a * n + y) / (n + 1)) (n + 1) (ys ++ [x]) = _
    rw [ih, List.length_cons, meanFrom, show n + 1 + ys.length = n + (ys.length + 1) by omega]

theorem runningMean_append_singleton (ls : List ℕ) (x : ℕ) :
    runningMean (ls ++ [x]) = (runningMean ls * ls.length + x) / (ls.length + 1) := by
  simpa using meanFrom_append_singleton 0 0 ls x

/-- The mean never passes a bound that the start and every sample respect. -/
theorem meanFrom_le {a n M : ℕ} {xs : List ℕ} (ha : a ≤ M) (h : ∀ x ∈ xs, x ≤ M) :
    meanFrom a n xs ≤ M := by
  induction xs generalizing a n with
  | nil => exact ha
  | cons x xs ih =>
    refine ih (Nat.div_le_of_le_mul ?_) fun y hy => h y (List.mem_cons_of_mem _ hy)
    have hx := h x (List.mem_cons_self _ _)
    have han : a * n ≤ M * n := Nat.mul_le_mul_right n ha
    rw [Nat.add_mul, Nat.one_mul, Nat.mul_comm n M]
    omega

/-! ## The law -/

/-- What `pcie_sim_transfer_impl` leaves after the samples `ss` since the last reset: one
count and the byte total per transfer, no errors, the least latency against `UINT64_MAX`
and the greatest against `0`, and, while no latency times the count reaches `2^64`, the
running mean. -/
structure WindowsLaw (s : PcieSimStats) (ss : List Sample) : Prop where
  transfers : s.totalTransfers.toNat = ss.length
  bytes : s.totalBytes = (ss.map Sample.size).sum
  errors : s.totalErrors = 0
  min : IsMinOf s.minLatencyNs (uint64Max :: ss.map Sample.latency)
  max : IsMaxOf s.maxLatencyNs (0 :: ss.map Sample.latency)
  avg : (∀ x ∈ ss, x.latency.toNat * ss.length < 2 ^ 64) →
    s.avgLatencyNs.toNat = runningMean (ss.map fun x => x.latency.toNat)

theorem windowsLaw_fresh : WindowsLaw freshStats [] :=
  ⟨rfl, rfl, rfl, by simp [IsMinOf, freshStats], by simp [IsMaxOf, freshStats, PcieSimStats.zero], fun _ => rfl⟩

/-- A counted transfer adds its sample. -/
theorem windowsRecordTransfer_law {s : PcieSimStats} {ss : List Sample} (h : WindowsLaw s ss)
    (size latency : UInt64) (hlen : ss.length + 1 < 2 ^ 64) :
    WindowsLaw (windowsRecordTransfer s size latency) (ss ++ [⟨size, latency⟩]) where
  transfers := by
    rw [windowsRecordTransfer_totalTransfers, UInt64.toNat_add_of_lt (by simp [h.transfers]; omega)]
    simp [h.transfers]
  bytes := by simp [h.bytes]
  errors := by simp [h.errors]
  min := by simpa using h.min.snoc latency
  max := by simpa using h.max.snoc latency
  avg := by
    intro hlat
    have hlen' : (ss ++ [(⟨size, latency⟩ : Sample)]).length = ss.length + 1 := by simp
    -- every latency is at most `M`, the largest value whose multiple by the count fits
    have hM : ∀ x ∈ ss ++ [⟨size, latency⟩],
        x.latency.toNat ≤ (2 ^ 64 - 1) / (ss.length + 1) := fun x hx =>
      (Nat.le_div_iff_mul_le (by omega)).2 (by have := hlat x hx; rw [hlen'] at this; omega)
    have hMn : (2 ^ 64 - 1) / (ss.length + 1) * (ss.length + 1) ≤ 2 ^ 64 - 1 :=
      Nat.div_mul_le_self _ _
    have ha : s.avgLatencyNs.toNat = runningMean (ss.map fun x => x.latency.toNat) :=
      h.avg fun x hx => lt_of_le_of_lt (Nat.mul_le_mul_left _ (Nat.le_add_right _ 1))
        (hlen' ▸ hlat x (by simp [hx]))
    have haM : s.avgLatencyNs.toNat ≤ (2 ^ 64 - 1) / (ss.length + 1) := by
      rw [ha]
      exact meanFrom_le (Nat.zero_le _) (by simpa using fun x hx => hM x (by simp [hx]))
    have hl : latency.toNat ≤ _ := hM ⟨size, latency⟩ (by simp)
    have hcnt : (s.totalTransfers + 1).toNat = ss.length + 1 := by
      rw [UInt64.toNat_add_of_lt (by simp [h.transfers]; omega), h.transfers, UInt64.toNat_one]
    rw [windowsRecordTransfer_avgLatencyNs, List.map_append, List.map_singleton,
      runningMean_append_singleton, List.length_map, ← ha]
    split_ifs with h1
    · have h0 : ss.length = 0 := by simpa using hcnt.symm.trans (congrArg UInt64.toNat h1)
      simp [h0]
    · have hsum : s.avgLatencyNs.toNat * ss.length + latency.toNat < 2 ^ 64 := by
        have := Nat.mul_le_mul_right ss.length haM
        rw [Nat.mul_add, Nat.mul_one] at hMn
        omega
      have hmul : (s.avgLatencyNs * s.totalTransfers).toNat = s.avgLatencyNs.toNat * ss.length := by
        rw [UInt64.toNat_mul, h.transfers, UInt64.size_eq]; exact Nat.mod_eq_of_lt (by omega)
      rw [UInt64.toNat_div, UInt64.toNat_add_of_lt (by rw [hmul]; exact hsum), hmul, hcnt]

/-! ## What a caller has seen -/

/-- The samples of device `d` a caller has seen, after one more call and its reply: a
transfer reported done adds its size and reported latency, a reset reported done clears
them. -/
def windowsWindow (d : Fin maxDevices) (ss : List Sample) : SimOp × SimReply → List Sample
  | (.transfer (some h) _ size _ _, .transferred latency) =>
    if h.deviceId = d then ss ++ [⟨size, latency⟩] else ss
  | (.resetStats (some h), .ret .success) => if h.deviceId = d then [] else ss
  | _ => ss

/-- The samples of device `d` a caller has seen over a whole program from the start, each
call made with its own answers. -/
def windowsSeen (d : Fin maxDevices) (calls : List (WindowsEnv × SimOp)) : List Sample :=
  (trace windowsCall calls WindowsSim.initial).foldl (fun ss e => windowsWindow d ss (e.1.2, e.2))
    []

theorem windowsWindow_of_not_on {d : Fin maxDevices} {op : SimOp} (hop : op.onDevice d = false)
    (ss : List Sample) (r : SimReply) : windowsWindow d ss (op, r) = ss := by
  rcases op with ⟨deviceId, m⟩ | h | ⟨_ | h, b, z, dir, l⟩ | h | (_ | h) <;>
    try rfl
  all_goals
    have hne : h.deviceId ≠ d := by rintro rfl; simp [SimOp.onDevice, SimOp.device?] at hop
  · cases r <;> simp [windowsWindow, hne]
  · rcases r with e | _ | _ | _ <;> try cases e
    all_goals simp [windowsWindow, hne]

/-- Before the init succeeds every slot is inactive, so no call's reply adds or clears a
sample. -/
theorem windowsWindow_of_not_initialized {env : WindowsEnv} {s : WindowsSim}
    (hn : s.Normal) (hi : s.initialized = false) (d : Fin maxDevices) (op : SimOp)
    (ss : List Sample) : windowsWindow d ss (op, (windowsStep env op s).1) = ss := by
  rcases op with ⟨deviceId, m⟩ | h | ⟨_ | h, b, z, dir, l⟩ | h | (_ | h)
  · simp only [windowsStep, pcieSimOpenImpl]; split <;> (try split_ifs) <;> rfl
  all_goals try rfl
  · simp only [windowsStep, pcieSimTransferImpl, hn.inactive hi, Bool.not_false]
    split_ifs <;> rfl
  · simp [windowsStep, pcieSimResetStatsImpl, hn.inactive hi, windowsWindow]

/-! ## One call, and a whole program -/

section Steps

variable {d : Fin maxDevices}

/-- On an initialized backend a call on `d` keeps the law for `d`'s slot, with the samples
advanced by the call and its reply. -/
theorem windowsStep_law_of_initialized (env : WindowsEnv) {s : WindowsSim}
    (hi : s.initialized = true) {op : SimOp} (hop : op.onDevice d = true) {ss : List Sample}
    (h : ss.length < 2 ^ 64 → WindowsLaw (s.devices d).stats ss) :
    (windowsWindow d ss (op, (windowsStep env op s).1)).length < 2 ^ 64 →
      WindowsLaw ((windowsStep env op s).2.devices d).stats
        (windowsWindow d ss (op, (windowsStep env op s).1)) := by
  rcases op with ⟨deviceId, m⟩ | (_ | h) | ⟨_ | h, b, z, dir, l⟩ | (_ | h) | (_ | h) <;>
    simp only [SimOp.onDevice, SimOp.device?, Option.map_none', beq_iff_eq,
      reduceCtorEq] at hop
  · simp only [windowsStep, pcieSimOpenImpl, deviceSlot?_eq_some_iff.2 (Option.some.inj hop),
      windowsSimInit_of_initialized hi]
    split_ifs <;> simpa [windowsWindow] using h
  all_goals obtain rfl : h.deviceId = d := by simpa [Fin.val_inj] using hop
  · simpa [windowsStep, pcieSimCloseImpl, windowsWindow] using h
  · simp only [windowsStep, pcieSimTransferImpl]
    split_ifs <;> try simpa [windowsWindow] using h
    intro hl
    simp only [windowsWindow, if_true, List.length_append, List.length_singleton,
      WindowsSim.setDevice_self] at hl ⊢
    exact windowsRecordTransfer_law (h (by omega)) z l hl
  · simp only [windowsStep, pcieSimGetStatsImpl]
    split_ifs <;> simpa [windowsWindow] using h
  · simp only [windowsStep, pcieSimResetStatsImpl]
    split_ifs
    · simpa [windowsWindow] using h
    · simpa [windowsWindow] using windowsLaw_fresh

/-- Each call, whatever the answers it gets, keeps the law for what `d`'s calls see, with
the samples advanced by the call and its reply. -/
theorem windowsStep_law (env : WindowsEnv) {s : WindowsSim} (hn : s.Normal) (op : SimOp)
    {ss : List Sample} (h : ss.length < 2 ^ 64 → WindowsLaw (s.view d).2 ss) :
    (windowsWindow d ss (op, (windowsStep env op s).1)).length < 2 ^ 64 →
      WindowsLaw ((windowsStep env op s).2.view d).2
        (windowsWindow d ss (op, (windowsStep env op s).1)) := by
  cases hop : op.onDevice d
  · rw [windowsWindow_of_not_on hop, windowsStep_view_of_not_on hn hop]; exact h
  have hview : ∀ {t : WindowsSim}, t.initialized = true → (t.view d).2 = (t.devices d).stats :=
    fun ht => by simp [WindowsSim.view, ht, WindowsDeviceState.seen]
  cases hi : s.initialized
  · rcases he : env.mutexFailsAt with _ | k
    swap
    · -- the init fails again: nothing becomes visible
      have hi' := windowsStep_not_initialized hi (show env.mutexFailsAt ≠ none by simp [he]) op
      rw [windowsWindow_of_not_initialized hn hi]
      simpa [WindowsSim.view, hi, hi'] using h
    obtain ⟨hr, hv⟩ := windowsStep_of_not_initialized hn hi hop fun _ _ _ => he
    rw [hr, hv, hview (windowsStep_initialized rfl op)]
    exact windowsStep_law_of_initialized env rfl hop
      (by simpa [WindowsSim.view, hi, WindowsSim.settled, freshDevice] using h)
  · rw [hview (windowsStep_initialized hi op)]
    exact windowsStep_law_of_initialized env hi hop (by rwa [← hview hi])

/-- Over a program, each call with its own answers, the backend stays reachable, and the law
for what `d`'s calls see holds for the samples seen since its start. -/
theorem windows_exec_law (calls : List (WindowsEnv × SimOp)) {s : WindowsSim} (hn : s.Normal)
    {ss : List Sample} (h : ss.length < 2 ^ 64 → WindowsLaw (s.view d).2 ss) :
    (exec windowsCall calls s).Normal ∧
      (((trace windowsCall calls s).foldl (fun ss e => windowsWindow d ss (e.1.2, e.2))
          ss).length < 2 ^ 64 →
        WindowsLaw ((exec windowsCall calls s).view d).2
          ((trace windowsCall calls s).foldl (fun ss e => windowsWindow d ss (e.1.2, e.2)) ss)) := by
  induction calls generalizing s ss with
  | nil => exact ⟨hn, h⟩
  | cons c calls ih => exact ih (hn.step c.1 c.2) (windowsStep_law c.1 hn c.2 h)

/-- A snapshot through `d`'s handle reads what `d`'s calls see: the statistics while the
device is open, `PCIE_SIM_ERROR_DEVICE` otherwise. -/
theorem windowsStep_getStats (env : WindowsEnv) {s : WindowsSim} (hn : s.Normal)
    (d : Fin maxDevices) :
    (windowsStep env (.getStats (some ⟨d⟩)) s).1 =
      if (s.view d).1 then .stats (s.view d).2 else .ret .errorDevice := by
  cases hi : s.initialized
  · simp [windowsStep, pcieSimGetStatsImpl, WindowsSim.view, hi, hn.inactive hi d]
  · cases ha : (s.devices d).active <;>
      simp [windowsStep, pcieSimGetStatsImpl, WindowsSim.view, hi, ha, WindowsDeviceState.seen]

end Steps

/-! ## The law over a program -/

/-- On Windows, after any program whose calls each get their own answers from the Windows
APIs (so an init that fails at one open may succeed at a later one), the snapshot through
`d`'s handle is `d`'s statistics while `d` is open and `PCIE_SIM_ERROR_DEVICE` otherwise, and
those statistics obey the law for the transfers on `d` reported done since the last reset of
`d` reported done: their count, byte total, no errors, least latency against `UINT64_MAX`,
greatest against `0`, and, while no latency times the count reaches `2^64`, the truncated
running mean. -/
theorem windows_stats_law (d : Fin maxDevices) (calls : List (WindowsEnv × SimOp))
    (hlen : (windowsSeen d calls).length < 2 ^ 64) (env : WindowsEnv) :
    let s := exec windowsCall calls WindowsSim.initial
    (windowsStep env (.getStats (some ⟨d⟩)) s).1 =
        (if (s.view d).1 then .stats (s.view d).2 else .ret .errorDevice) ∧
      WindowsLaw (s.view d).2 (windowsSeen d calls) := by
  have h0 : ([] : List Sample).length < 2 ^ 64 → WindowsLaw (WindowsSim.initial.view d).2 [] :=
    fun _ => by simpa [WindowsSim.view, WindowsSim.initial] using windowsLaw_fresh
  obtain ⟨hn, hlaw⟩ := windows_exec_law calls WindowsSim.normal_initial h0
  exact ⟨windowsStep_getStats env hn d, hlaw hlen⟩

/-- Device 0's first open fails to create the mutex of slot 3 and its second open runs the
init again with every mutex created; then two transfers of 20 and 10 µs, a reset, one of
30 µs, and a close. -/
theorem windows_stats_law_retried_init :
    (windowsSeen 0 [(⟨some 3, none⟩, .open 0 true), (⟨none, none⟩, .open 0 true),
      (⟨none, none⟩, .transfer (some ⟨0⟩) 0x1000 4096 0 20000),
      (⟨none, none⟩, .transfer (some ⟨0⟩) 0x1000 4096 0 10000),
      (⟨none, none⟩, .resetStats (some ⟨0⟩)),
      (⟨none, none⟩, .transfer (some ⟨0⟩) 0x1000 512 0 30000),
      (⟨none, none⟩, .close (some ⟨0⟩))]).length < 2 ^ 64 ∧
    let s := exec windowsCall [(⟨some 3, none⟩, .open 0 true), (⟨none, none⟩, .open 0 true),
      (⟨none, none⟩, .transfer (some ⟨0⟩) 0x1000 4096 0 20000),
      (⟨none, none⟩, .transfer (some ⟨0⟩) 0x1000 4096 0 10000),
      (⟨none, none⟩, .resetStats (some ⟨0⟩)),
      (⟨none, none⟩, .transfer (some ⟨0⟩) 0x1000 512 0 30000),
      (⟨none, none⟩, .close (some ⟨0⟩))] WindowsSim.initial
    (windowsStep ⟨none, none⟩ (.getStats (some ⟨0⟩)) s).1 =
        (if (s.view 0).1 then .stats (s.view 0).2 else .ret .errorDevice) ∧
      WindowsLaw (s.view 0).2 (windowsSeen 0 [(⟨some 3, none⟩, .open 0 true),
        (⟨none, none⟩, .open 0 true), (⟨none, none⟩, .transfer (some ⟨0⟩) 0x1000 4096 0 20000),
        (⟨none, none⟩, .transfer (some ⟨0⟩) 0x1000 4096 0 10000),
        (⟨none, none⟩, .resetStats (some ⟨0⟩)),
        (⟨none, none⟩, .transfer (some ⟨0⟩) 0x1000 512 0 30000),
        (⟨none, none⟩, .close (some ⟨0⟩))]) :=
  ⟨by decide, windows_stats_law 0 _ (by decide) ⟨none, none⟩⟩

end PcieSim.Sim

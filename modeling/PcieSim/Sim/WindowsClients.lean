import PcieSim.Sim.Independence

/-!
# Concurrent `Device` objects on the Windows backend

`pcie_sim_open_impl` claims its device under `g_global_lock`: it fails with
`PCIE_SIM_ERROR_DEVICE` when the slot is active and marks it active otherwise. The handle's
`malloc` comes after `LeaveCriticalSection`, and a failed `malloc` releases the slot again.
`pcie_sim_close_impl` releases the slot under the same lock. The open is split here at that
lock boundary (`openClaim`, `openAlloc`), and `pcieSimOpenImpl_eq_claim_alloc` shows that the
two parts run back to back give the sequential model.

A client is a `PCIeSimulator::Device` object (`lib/device.hpp`): its constructor opens, and
its destructor closes the handle it holds, once; copies are deleted and a move leaves the
source without a handle, so a move only renames the holder and makes no call. A client is
idle, claiming a device between the two parts of its open, or holding its handle, and any
number of clients take steps in any order (`clientRun`).

* `Exclusive`: the backend is initialized, a slot is active exactly when some client claims
  or holds it, and at most one does; every step keeps it;
* `windows_devices_exclusive`: from an initialized backend with no device open, every
  interleaving keeps `Exclusive`, a holder's calls never fail with `PCIE_SIM_ERROR_DEVICE`,
  and no run of the other clients changes the holder's slot;
* `windows_owners_complete`: objects on distinct devices, each running its whole life
  (`ownerProgram`: open, calls, close), as the workers of `parallel_test` do, finish in every
  interleaving, and each device ends as its own object's calls alone leave it. The proof
  follows each object through its program (`ownerAfter`) with one step lemma
  (`clientStep_owner`) and one induction over the interleaving (`clientRun_owners`).

`windows_sim_init` runs before the lock is taken and takes none itself, so two threads in
their first open can both run its loop; the runs here start from an initialized backend.
Transfers, `get_stats` and `reset_stats` read `active` before taking the device mutex; as
no other client changes a held slot, each is one step here.
-/

namespace PcieSim.Sim

/-! ## `pcie_sim_open_impl` at its lock boundary -/

/-- `pcie_sim_open_impl` up to `LeaveCriticalSection`: a reply, or device `d` claimed. -/
def openClaim (env : WindowsEnv) (deviceId : Int) (s : WindowsSim) :
    Except SimReply (Fin maxDevices) × WindowsSim :=
  match deviceSlot? deviceId with
  | none => (.error (.ret .errorParam), s)
  | some d =>
    let (r, s) := windowsSimInit env s
    if r ≠ 0 then (.error (.ret .errorSystem), s)
    else if (s.devices d).active then (.error (.ret .errorDevice), s)
    else (.ok d, s.setDevice d { s.devices d with active := true })

/-- The rest of `pcie_sim_open_impl`: the handle's `malloc`, whose failure releases the
slot. -/
def openAlloc (d : Fin maxDevices) (mallocOk : Bool) (s : WindowsSim) :
    SimReply × WindowsSim :=
  if mallocOk then (.opened ⟨d⟩, s)
  else (.ret .errorMemory, s.setDevice d { s.devices d with active := false })

/-- Claim and allocation with nothing between them are the sequential open. -/
theorem pcieSimOpenImpl_eq_claim_alloc (env : WindowsEnv) (deviceId : Int) (mallocOk : Bool)
    (s : WindowsSim) :
    pcieSimOpenImpl env deviceId mallocOk s =
      match openClaim env deviceId s with
      | (.error r, s') => (r, s')
      | (.ok d, s') => openAlloc d mallocOk s' := by
  unfold pcieSimOpenImpl openClaim
  rcases deviceSlot? deviceId with _ | d
  · rfl
  obtain ⟨r, s'⟩ := windowsSimInit env s
  by_cases hr : r ≠ 0
  · simp [hr]
  cases ha : (s'.devices d).active
  · cases mallocOk
    · have : { s'.devices d with active := false } = s'.devices d := by rw [← ha]
      simp [hr, ha, openAlloc, WindowsSim.setDevice_setDevice, this,
        WindowsSim.setDevice_devices]
    · simp [hr, ha, openAlloc]
  · simp [hr, ha]

/-- From an initialized backend the claim either answers and changes nothing, or claims a
slot that was free. -/
theorem openClaim_cases (env : WindowsEnv) {s : WindowsSim} (hi : s.initialized = true)
    (deviceId : Int) :
    (∃ r, openClaim env deviceId s = (.error r, s)) ∨
      ∃ d, (s.devices d).active = false ∧
        openClaim env deviceId s = (.ok d, s.setDevice d { s.devices d with active := true }) := by
  unfold openClaim
  rcases deviceSlot? deviceId with _ | d
  · exact .inl ⟨_, rfl⟩
  simp only [windowsSimInit_of_initialized hi, ne_eq, not_true_eq_false, if_false]
  cases ha : (s.devices d).active
  · exact .inr ⟨d, ha, by simp⟩
  · exact .inl ⟨.ret .errorDevice, by simp⟩

/-! ## Clients -/

/-- A call a client makes through the handle it holds. -/
inductive HandleCall
  | transfer (buffer size : UInt64) (direction : UInt32) (latency : UInt64)
  | getStats
  | resetStats
deriving Repr, DecidableEq

/-- The library call a `HandleCall` makes through handle `h`. -/
def HandleCall.toOp (h : PcieSimHandle) : HandleCall → SimOp
  | .transfer buffer size direction latency => .transfer (some h) buffer size direction latency
  | .getStats => .getStats (some h)
  | .resetStats => .resetStats (some h)

@[simp] theorem HandleCall.handle?_toOp (h : PcieSimHandle) (k : HandleCall) :
    (k.toOp h).handle? = some h := by
  cases k <;> rfl

/-- Where a `Device` object is in its life: before or after its handle, between the two
parts of its constructor's open, or holding the handle. -/
inductive ClientState
  | idle
  | claiming (d : Fin maxDevices)
  | holding (d : Fin maxDevices)
deriving Repr, DecidableEq

/-- The device a client claims or holds. -/
def ClientState.device? : ClientState → Option (Fin maxDevices)
  | .idle => none
  | .claiming d => some d
  | .holding d => some d

/-- One step of a client: a part of its open, a call through its handle, or its close. -/
inductive ClientAct
  | claim (deviceId : Int)
  | alloc (mallocOk : Bool)
  | call (k : HandleCall)
  | close
deriving Repr, DecidableEq

/-- The backend and every client. -/
structure Clients where
  backend : WindowsSim
  clients : ℕ → ClientState

/-- A backend before any client. -/
def Clients.start (b : WindowsSim) : Clients := ⟨b, fun _ => .idle⟩

/-- Client `c` takes step `a`; `none` when its state does not allow the step, which a
`Device` object never takes. A failed claim leaves the client idle: its constructor
throws. -/
def clientStep (env : WindowsEnv) (c : ℕ) (a : ClientAct) (sys : Clients) : Option Clients :=
  match a, sys.clients c with
  | .claim deviceId, .idle =>
    match openClaim env deviceId sys.backend with
    | (.error _, b) => some ⟨b, sys.clients⟩
    | (.ok d, b) => some ⟨b, Function.update sys.clients c (.claiming d)⟩
  | .alloc mallocOk, .claiming d =>
    some ⟨(openAlloc d mallocOk sys.backend).2,
      Function.update sys.clients c (if mallocOk then .holding d else .idle)⟩
  | .call k, .holding d => some ⟨(windowsStep env (k.toOp ⟨d⟩) sys.backend).2, sys.clients⟩
  | .close, .holding d =>
    some ⟨(windowsStep env (.close (some ⟨d⟩)) sys.backend).2,
      Function.update sys.clients c .idle⟩
  | _, _ => none

/-- The steps of any clients in the order given; `none` if one is not allowed. -/
def clientRun (env : WindowsEnv) : List (ℕ × ClientAct) → Clients → Option Clients
  | [], sys => some sys
  | (c, a) :: acts, sys => (clientStep env c a sys).bind (clientRun env acts)

/-! ## Exclusive ownership -/

/-- At most one client claims or holds each device, and a slot is active exactly when one
does. -/
structure Exclusive (sys : Clients) : Prop where
  initialized : sys.backend.initialized = true
  active_iff : ∀ d, (sys.backend.devices d).active = true ↔
    ∃ c, (sys.clients c).device? = some d
  unique : ∀ {c c' d}, (sys.clients c).device? = some d → (sys.clients c').device? = some d →
    c = c'

theorem exclusive_start {b : WindowsSim} (hb : b.initialized = true)
    (hfree : ∀ d, (b.devices d).active = false) : Exclusive (Clients.start b) :=
  ⟨hb, fun d => by simp [Clients.start, ClientState.device?, hfree d],
    fun h => by simp [Clients.start, ClientState.device?] at h⟩

theorem device?_update (f : ℕ → ClientState) (c c' : ℕ) (x : ClientState) :
    (Function.update f c x c').device? = if c' = c then x.device? else (f c').device? := by
  by_cases h : c' = c
  · subst h; simp
  · simp [h]

section Invariant

variable {env : WindowsEnv} {sys : Clients}

theorem Exclusive.active_of_device? (h : Exclusive sys) {c : ℕ} {d : Fin maxDevices}
    (hc : (sys.clients c).device? = some d) : (sys.backend.devices d).active = true :=
  (h.active_iff d).2 ⟨c, hc⟩

/-- A step that changes no active flag and no client's device keeps the invariant. -/
theorem Exclusive.of_same (h : Exclusive sys) {sys' : Clients}
    (hi : sys'.backend.initialized = sys.backend.initialized)
    (ha : ∀ d, (sys'.backend.devices d).active = (sys.backend.devices d).active)
    (hc : ∀ c, (sys'.clients c).device? = (sys.clients c).device?) : Exclusive sys' :=
  ⟨hi ▸ h.initialized, fun d => by simp only [ha, hc, h.active_iff],
    fun h₁ h₂ => h.unique ((hc _).symm ▸ h₁) ((hc _).symm ▸ h₂)⟩

/-- An idle client claims a free slot. -/
theorem Exclusive.acquire (h : Exclusive sys) {c : ℕ} (hc : sys.clients c = .idle)
    {d : Fin maxDevices} (hd : (sys.backend.devices d).active = false) :
    Exclusive ⟨sys.backend.setDevice d { sys.backend.devices d with active := true },
      Function.update sys.clients c (.claiming d)⟩ := by
  have hfree : ∀ c', (sys.clients c').device? ≠ some d := fun c' hc' => by
    simp [h.active_of_device? hc'] at hd
  refine ⟨h.initialized, fun d' => ?_, fun {c₁ c₂ d'} h₁ h₂ => ?_⟩
  · simp only [device?_update]
    by_cases hd' : d' = d
    · subst hd'
      simp only [WindowsSim.setDevice_self, true_iff]
      exact ⟨c, by simp [ClientState.device?]⟩
    · rw [WindowsSim.setDevice_of_ne _ hd', h.active_iff]
      refine exists_congr fun c' => ?_
      split_ifs with he
      · subst he; simp [hc, ClientState.device?, Ne.symm hd']
      · rfl
  · simp only [device?_update] at h₁ h₂
    split_ifs at h₁ h₂ with e₁ e₂ e₂
    · exact e₁.trans e₂.symm
    · cases h₁; exact absurd h₂ (hfree c₂)
    · cases h₂; exact absurd h₁ (hfree c₁)
    · exact h.unique h₁ h₂

/-- The client that claims or holds `d` releases it. -/
theorem Exclusive.release (h : Exclusive sys) {c : ℕ} {d : Fin maxDevices}
    (hc : (sys.clients c).device? = some d) :
    Exclusive ⟨sys.backend.setDevice d { sys.backend.devices d with active := false },
      Function.update sys.clients c .idle⟩ := by
  refine ⟨h.initialized, fun d' => ?_, fun {c₁ c₂ d'} h₁ h₂ => ?_⟩
  · simp only [device?_update]
    by_cases hd' : d' = d
    · subst hd'
      simp only [WindowsSim.setDevice_self, Bool.false_eq_true, false_iff, not_exists]
      intro c'
      split_ifs with he
      · simp [ClientState.device?]
      · exact fun hc' => he (h.unique hc' hc)
    · rw [WindowsSim.setDevice_of_ne _ hd', h.active_iff]
      refine exists_congr fun c' => ?_
      split_ifs with he
      · subst he; rw [hc]; simp [ClientState.device?, Ne.symm hd']
      · rfl
  · simp only [device?_update] at h₁ h₂
    split_ifs at h₁ h₂ <;> simp only [ClientState.device?, reduceCtorEq] at h₁ h₂
    exact h.unique h₁ h₂

/-- Calls through a handle change no active flag. -/
theorem windowsStep_toOp_active (k : HandleCall) (h : PcieSimHandle) (s : WindowsSim)
    (d : Fin maxDevices) :
    ((windowsStep env (k.toOp h) s).2.devices d).active = (s.devices d).active := by
  by_cases hd : d = h.deviceId
  · subst hd
    cases k <;> simp only [HandleCall.toOp, windowsStep, pcieSimTransferImpl,
      pcieSimGetStatsImpl, pcieSimResetStatsImpl] <;> split_ifs <;> simp
  · cases k <;> simp only [HandleCall.toOp, windowsStep, pcieSimTransferImpl,
      pcieSimGetStatsImpl, pcieSimResetStatsImpl] <;> split_ifs <;> simp [hd]

theorem windowsStep_toOp_initialized (k : HandleCall) (h : PcieSimHandle) (s : WindowsSim) :
    (windowsStep env (k.toOp h) s).2.initialized = s.initialized := by
  cases k <;> simp only [HandleCall.toOp, windowsStep, pcieSimTransferImpl,
    pcieSimGetStatsImpl, pcieSimResetStatsImpl] <;> split_ifs <;> rfl

/-- What one step can do on an initialized backend: a refused claim changes nothing, a claim
takes a free slot, an allocation turns a claim into a handle, a failed allocation or a close
releases the slot, and a call goes to the backend through the handle. -/
theorem clientStep_cases (hi : sys.backend.initialized = true) {c : ℕ} {a : ClientAct}
    {sys' : Clients} (hs : clientStep env c a sys = some sys') :
    sys' = sys ∨
      (∃ d, sys.clients c = .idle ∧ (sys.backend.devices d).active = false ∧
        sys' = ⟨sys.backend.setDevice d { sys.backend.devices d with active := true },
          Function.update sys.clients c (.claiming d)⟩) ∨
      (∃ d, sys.clients c = .claiming d ∧
        sys' = ⟨sys.backend, Function.update sys.clients c (.holding d)⟩) ∨
      (∃ d, (sys.clients c).device? = some d ∧
        sys' = ⟨sys.backend.setDevice d { sys.backend.devices d with active := false },
          Function.update sys.clients c .idle⟩) ∨
      ∃ (d : Fin maxDevices) (k : HandleCall), sys.clients c = .holding d ∧
        sys' = ⟨(windowsStep env (k.toOp ⟨d⟩) sys.backend).2, sys.clients⟩ := by
  unfold clientStep at hs
  rcases a with deviceId | mallocOk | k | _ <;> cases hc : sys.clients c <;>
    simp only [hc, reduceCtorEq, Option.some.injEq] at hs
  case claim.idle =>
    rcases openClaim_cases env hi deviceId with ⟨r, hr⟩ | ⟨d, hd, hr⟩ <;>
      simp only [hr, Option.some.injEq] at hs <;> subst hs
    · exact .inl rfl
    · exact .inr (.inl ⟨d, rfl, hd, rfl⟩)
  case alloc.claiming d =>
    cases mallocOk <;> simp only [openAlloc] at hs <;> subst hs
    · exact .inr (.inr (.inr (.inl ⟨d, by simp [ClientState.device?], rfl⟩)))
    · exact .inr (.inr (.inl ⟨d, rfl, rfl⟩))
  case call.holding d => exact .inr (.inr (.inr (.inr ⟨d, k, rfl, hs.symm⟩)))
  case close.holding d =>
    exact .inr (.inr (.inr (.inl ⟨d, by simp [ClientState.device?], hs.symm⟩)))

/-- Every step keeps the invariant. -/
theorem Exclusive.step (h : Exclusive sys) {c : ℕ} {a : ClientAct} {sys' : Clients}
    (hs : clientStep env c a sys = some sys') : Exclusive sys' := by
  rcases clientStep_cases h.initialized hs with
    rfl | ⟨d, hc, hd, rfl⟩ | ⟨d, hc, rfl⟩ | ⟨d, hc, rfl⟩ | ⟨d, k, hc, rfl⟩
  · exact h
  · exact h.acquire hc hd
  · refine h.of_same rfl (fun _ => rfl) fun c' => ?_
    rw [device?_update]
    split_ifs with he <;> simp [he, hc, ClientState.device?]
  · exact h.release hc
  · exact h.of_same (windowsStep_toOp_initialized k _ _) (windowsStep_toOp_active k _ _)
      fun _ => rfl

/-- A holder's calls never find its slot inactive. -/
theorem Exclusive.call_ne_errorDevice (h : Exclusive sys) {c : ℕ} {d : Fin maxDevices}
    (hc : sys.clients c = .holding d) (k : HandleCall) :
    (windowsStep env (k.toOp ⟨d⟩) sys.backend).1 ≠ .ret .errorDevice := by
  have ha : (sys.backend.devices d).active = true :=
    h.active_of_device? (c := c) (by simp [hc, ClientState.device?])
  cases k
  case transfer =>
    simp only [HandleCall.toOp, windowsStep, pcieSimTransferImpl, ha, Bool.not_true,
      Bool.false_eq_true, if_false]
    split_ifs <;> simp
  all_goals simp [HandleCall.toOp, windowsStep, pcieSimGetStatsImpl, pcieSimResetStatsImpl, ha]

/-- A step of another client leaves a claimed or held slot, and its client, as they are. -/
theorem Exclusive.step_frame (h : Exclusive sys) {c c' : ℕ} {d : Fin maxDevices}
    (hcd : (sys.clients c).device? = some d) (hne : c' ≠ c) {a : ClientAct} {sys' : Clients}
    (hs : clientStep env c' a sys = some sys') :
    sys'.backend.devices d = sys.backend.devices d ∧ sys'.clients c = sys.clients c := by
  have hother : ∀ {d'}, (sys.clients c').device? = some d' → d ≠ d' := fun h' he =>
    hne (h.unique h' (he ▸ hcd))
  rcases clientStep_cases h.initialized hs with
    rfl | ⟨d', -, hd', rfl⟩ | ⟨d', -, rfl⟩ | ⟨d', hc, rfl⟩ | ⟨d', k, hc, rfl⟩
  · exact ⟨rfl, rfl⟩
  · have hne' : d ≠ d' := fun he => by simp [he ▸ h.active_of_device? hcd] at hd'
    exact ⟨WindowsSim.setDevice_of_ne _ hne' _, Function.update_noteq (Ne.symm hne) _ _⟩
  · exact ⟨rfl, Function.update_noteq (Ne.symm hne) _ _⟩
  · exact ⟨WindowsSim.setDevice_of_ne _ (hother hc) _, Function.update_noteq (Ne.symm hne) _ _⟩
  · exact ⟨windowsStep_devices_of_handle (HandleCall.handle?_toOp _ k)
      (Ne.symm (hother (by simp [hc, ClientState.device?]))), rfl⟩

theorem Exclusive.run (h : Exclusive sys) {acts : List (ℕ × ClientAct)} {sys' : Clients}
    (hr : clientRun env acts sys = some sys') : Exclusive sys' := by
  induction acts generalizing sys with
  | nil => cases hr; exact h
  | cons x acts ih =>
    obtain ⟨mid, hmid, hr⟩ := Option.bind_eq_some.1 hr
    exact ih (h.step hmid) hr

/-- Whatever the other clients do, a claimed or held slot and its client stay as they are. -/
theorem Exclusive.run_frame (h : Exclusive sys) {c : ℕ} {d : Fin maxDevices}
    (hcd : (sys.clients c).device? = some d) {acts : List (ℕ × ClientAct)}
    (hacts : ∀ x ∈ acts, x.1 ≠ c) {sys' : Clients} (hr : clientRun env acts sys = some sys') :
    sys'.backend.devices d = sys.backend.devices d ∧ sys'.clients c = sys.clients c := by
  induction acts generalizing sys with
  | nil => cases hr; exact ⟨rfl, rfl⟩
  | cons x acts ih =>
    obtain ⟨mid, hmid, hr⟩ := Option.bind_eq_some.1 hr
    obtain ⟨hdev, hcl⟩ := h.step_frame hcd (hacts x (List.mem_cons_self _ _)) hmid
    obtain ⟨hdev', hcl'⟩ := ih (h.step hmid) (by rw [hcl]; exact hcd)
      (fun y hy => hacts y (List.mem_cons_of_mem _ hy)) hr
    exact ⟨hdev'.trans hdev, hcl'.trans hcl⟩

end Invariant

/-! ## Objects on distinct devices -/

/-- A `Device` object's whole life on device `d`: its constructor's open, its calls, and its
destructor's close. -/
def ownerProgram (d : Fin maxDevices) (calls : List HandleCall) : List ClientAct :=
  [.claim d, .alloc true] ++ calls.map .call ++ [.close]

/-- The calls of `parallel_worker` in `part_003`: `num_transfers` writes of its 4096-byte
vector at `buffer`, the `i`-th measuring `latency i`. -/
def parallelWorkerCalls (buffer : UInt64) (latency : ℕ → UInt64) (numTransfers : ℕ) :
    List HandleCall :=
  (List.range numTransfers).map fun i => .transfer buffer 4096 pcieSimToDevice (latency i)

/-- The steps of client `c` in a run, in order. -/
def clientActs (acts : List (ℕ × ClientAct)) (c : ℕ) : List ClientAct :=
  (acts.filter fun x => x.1 == c).map Prod.snd

/-- What a call through the handle of `d` leaves in slot `d` of an initialized backend. -/
def callSlot (env : WindowsEnv) (d : Fin maxDevices) (k : HandleCall)
    (x : WindowsDeviceState) : WindowsDeviceState :=
  (windowsStep env (k.toOp ⟨d⟩) ((WindowsSim.settled env).setDevice d x)).2.devices d

/-- An owner's step as seen from its own state and slot. -/
def ownerStep (env : WindowsEnv) (d : Fin maxDevices) :
    ClientAct → ClientState × WindowsDeviceState → ClientState × WindowsDeviceState
  | .claim _, (_, x) => (.claiming d, { x with active := true })
  | .alloc _, (_, x) => (.holding d, x)
  | .call k, (st, x) => (st, callSlot env d k x)
  | .close, (_, x) => (.idle, { x with active := false })

/-- The owner's state and slot after the first `p` steps of its program, from slot `x`. -/
def ownerAfter (env : WindowsEnv) (d : Fin maxDevices) (calls : List HandleCall)
    (x : WindowsDeviceState) (p : ℕ) : ClientState × WindowsDeviceState :=
  ((ownerProgram d calls).take p).foldl (fun q a => ownerStep env d a q) (.idle, x)

section Owners

variable {env : WindowsEnv} {d : Fin maxDevices} {calls : List HandleCall}
  {x : WindowsDeviceState}

theorem windowsStep_toOp_devices_self {s : WindowsSim} (hs : s.initialized = true)
    (k : HandleCall) :
    (windowsStep env (k.toOp ⟨d⟩) s).2.devices d = callSlot env d k (s.devices d) := by
  have ht : ((WindowsSim.settled env).setDevice d (s.devices d)).initialized = true := rfl
  refine WindowsDeviceState.eq_of_seen (windowsStep_congr_on hs ht (by simp)
    (by cases k <;> simp [HandleCall.toOp, SimOp.onDevice, SimOp.device?]) env env).2 ?_
  rw [callSlot, windowsStep_frequency hs, windowsStep_frequency ht,
    WindowsSim.setDevice_self]

@[simp] theorem ownerProgram_length :
    (ownerProgram d calls).length = calls.length + 3 := by
  simp [ownerProgram]

theorem ownerAfter_succ {p : ℕ} (hp : p < (ownerProgram d calls).length) :
    ownerAfter env d calls x (p + 1) =
      ownerStep env d ((ownerProgram d calls)[p]) (ownerAfter env d calls x p) := by
  simp only [ownerAfter, List.take_succ, List.getElem?_eq_getElem hp, Option.toList_some,
    List.foldl_append, List.foldl_cons, List.foldl_nil]

theorem foldl_ownerStep_calls (st : ClientState) (ks : List HandleCall)
    (y : WindowsDeviceState) :
    (ks.map ClientAct.call).foldl (fun q a => ownerStep env d a q) (st, y) =
      (st, ks.foldl (fun y k => callSlot env d k y) y) := by
  induction ks generalizing y with
  | nil => rfl
  | cons k ks ih => exact ih _

/-- Between its open and its close the owner holds `d`, and the slot has its calls so far. -/
theorem ownerAfter_calls {j : ℕ} (hj : j ≤ calls.length) :
    ownerAfter env d calls x (j + 2) =
      (.holding d,
        (calls.take j).foldl (fun y k => callSlot env d k y) { x with active := true }) := by
  have htake : (ownerProgram d calls).take (j + 2) =
      [.claim d, .alloc true] ++ (calls.take j).map .call := by
    rw [ownerProgram, List.append_assoc, show j + 2 = [ClientAct.claim d, .alloc true].length + j
      from by simp [Nat.add_comm], List.take_append, List.take_append_of_le_length (by simpa),
      List.map_take]
  rw [ownerAfter, htake, List.foldl_append]
  exact foldl_ownerStep_calls _ _ _

/-- After its close the owner is idle and the slot, free again, has all its calls. -/
theorem ownerAfter_done :
    ownerAfter env d calls x (calls.length + 3) =
      (.idle, { calls.foldl (fun y k => callSlot env d k y) { x with active := true } with
        active := false }) := by
  rw [ownerAfter_succ (by simp), ownerAfter_calls le_rfl, List.take_length]
  simp [ownerProgram, List.getElem_append_right, ownerStep]

/-- Every step of the program is one the owner's state allows, and it acts on the state and
slot `d` only as `ownerStep` says. -/
theorem clientStep_owner {sys : Clients} (hi : sys.backend.initialized = true) {c p : ℕ}
    (hp : p < (ownerProgram d calls).length) (hx : x.active = false)
    (hc : (sys.clients c, sys.backend.devices d) = ownerAfter env d calls x p) :
    ∃ sys', clientStep env c ((ownerProgram d calls)[p]) sys = some sys' ∧
      (sys'.clients c, sys'.backend.devices d) = ownerAfter env d calls x (p + 1) ∧
      sys'.backend.initialized = true ∧
      (∀ c', c' ≠ c → sys'.clients c' = sys.clients c') ∧
      ∀ d', d' ≠ d → sys'.backend.devices d' = sys.backend.devices d' := by
  rw [ownerAfter_succ hp, ← hc]
  simp only [ownerProgram_length] at hp
  match p, hp with
  | 0, _ =>
    simp only [ownerAfter, List.take_zero, List.foldl_nil, Prod.mk.injEq] at hc
    obtain ⟨hcl, hsl⟩ := hc
    have hd : (sys.backend.devices d).active = false := hsl ▸ hx
    refine ⟨⟨sys.backend.setDevice d { sys.backend.devices d with active := true },
      Function.update sys.clients c (.claiming d)⟩, ?_, ?_, hi,
      fun c' hc' => Function.update_noteq hc' _ _,
      fun d' hd' => WindowsSim.setDevice_of_ne _ hd' _⟩
    · simp [ownerProgram, clientStep, hcl, openClaim, deviceSlot?_val,
        windowsSimInit_of_initialized hi, hd]
    · simp [ownerProgram, ownerStep]
  | 1, _ =>
    have hcl : sys.clients c = .claiming d := by
      simpa [ownerAfter, ownerProgram, ownerStep] using congrArg Prod.fst hc
    refine ⟨⟨sys.backend, Function.update sys.clients c (.holding d)⟩, ?_, ?_, hi,
      fun c' hc' => Function.update_noteq hc' _ _, fun _ _ => rfl⟩
    · simp [ownerProgram, clientStep, hcl, openAlloc]
    · simp [ownerProgram, ownerStep]
  | j + 2, hj =>
    have hcl : sys.clients c = .holding d := by
      rw [show sys.clients c = (ownerAfter env d calls x (j + 2)).1 by rw [← hc],
        ownerAfter_calls (by omega)]
    rcases Nat.lt_or_ge j calls.length with hj' | hj'
    · have ha : (ownerProgram d calls)[j + 2] = .call calls[j] := by
        simp [ownerProgram, List.getElem_append_left, List.getElem_append_right, hj']
      rw [ha]
      refine ⟨⟨(windowsStep env (calls[j].toOp ⟨d⟩) sys.backend).2, sys.clients⟩, ?_, ?_,
        (windowsStep_toOp_initialized _ _ _).trans hi, fun _ _ => rfl,
        fun d' hd' => windowsStep_devices_of_handle (HandleCall.handle?_toOp _ _) (Ne.symm hd')⟩
      · simp [clientStep, hcl]
      · simp [ownerStep, windowsStep_toOp_devices_self hi]
    · obtain rfl : j = calls.length := by omega
      have ha : (ownerProgram d calls)[calls.length + 2] = .close := by
        simp [ownerProgram, List.getElem_append_right]
      rw [ha]
      refine ⟨⟨(windowsStep env (.close (some ⟨d⟩)) sys.backend).2,
        Function.update sys.clients c .idle⟩, ?_, ?_, hi,
        fun c' hc' => Function.update_noteq hc' _ _,
        fun d' hd' => WindowsSim.setDevice_of_ne _ hd' _⟩
      · simp [clientStep, hcl]
      · simp [ownerStep, windowsStep, pcieSimCloseImpl]

theorem clientActs_cons (c c' : ℕ) (a : ClientAct) (acts : List (ℕ × ClientAct)) :
    clientActs ((c, a) :: acts) c' =
      if c = c' then a :: clientActs acts c' else clientActs acts c' := by
  by_cases h : c = c' <;> simp [clientActs, List.filter_cons, h]

/-- Owners of distinct devices, each at some point of its program, run the rest of their
programs in any interleaving to the end. -/
theorem clientRun_owners {n : ℕ} {dev : ℕ → Fin maxDevices} {calls : ℕ → List HandleCall}
    {x : ℕ → WindowsDeviceState}
    (hdev : ∀ c c', c < n → c' < n → dev c = dev c' → c = c')
    (hx : ∀ c < n, (x c).active = false) (acts : List (ℕ × ClientAct)) :
    ∀ (sys : Clients) (p : ℕ → ℕ), sys.backend.initialized = true →
      (∀ c < n, p c ≤ (calls c).length + 3 ∧
        (sys.clients c, sys.backend.devices (dev c)) =
          ownerAfter env (dev c) (calls c) (x c) (p c)) →
      (∀ c, clientActs acts c =
        if c < n then (ownerProgram (dev c) (calls c)).drop (p c) else []) →
      ∃ sys', clientRun env acts sys = some sys' ∧ ∀ c < n,
        (sys'.clients c, sys'.backend.devices (dev c)) =
          ownerAfter env (dev c) (calls c) (x c) ((calls c).length + 3) := by
  induction acts with
  | nil =>
    intro sys p _ hinv hacts
    refine ⟨sys, rfl, fun c hc => ?_⟩
    have hdrop := hacts c
    simp only [clientActs, List.filter_nil, List.map_nil, if_pos hc] at hdrop
    have : p c = (calls c).length + 3 := by
      have := List.drop_eq_nil_iff.1 hdrop.symm
      have := (hinv c hc).1
      simp only [ownerProgram_length] at *
      omega
    rw [← this]; exact (hinv c hc).2
  | cons y acts ih =>
    obtain ⟨c, a⟩ := y
    intro sys p hi hinv hacts
    have hc := hacts c
    rw [clientActs_cons, if_pos rfl] at hc
    have hn : c < n := by_contra fun hn => by simp [hn] at hc
    rw [if_pos hn] at hc
    have hp : p c < (ownerProgram (dev c) (calls c)).length :=
      by_contra fun h => by simp [List.drop_eq_nil_of_le (not_lt.1 h)] at hc
    rw [List.drop_eq_getElem_cons hp, List.cons.injEq] at hc
    obtain ⟨rfl, hrest⟩ := hc
    obtain ⟨sys', hstep, hnew, hi', hcl, hdv⟩ :=
      clientStep_owner hi hp (hx c hn) (hinv c hn).2
    have hinv' : ∀ c' < n, Function.update p c (p c + 1) c' ≤ (calls c').length + 3 ∧
        (sys'.clients c', sys'.backend.devices (dev c')) =
          ownerAfter env (dev c') (calls c') (x c') (Function.update p c (p c + 1) c') := by
      intro c' hc'
      by_cases he : c' = c
      · subst he
        simp only [Function.update_same]
        exact ⟨by simp only [ownerProgram_length] at hp; omega, hnew⟩
      · rw [Function.update_noteq he, hcl c' he,
          hdv _ fun h => he (hdev c' c hc' hn h)]
        exact hinv c' hc'
    have hacts' : ∀ c', clientActs acts c' = if c' < n then
        (ownerProgram (dev c') (calls c')).drop (Function.update p c (p c + 1) c') else [] := by
      intro c'
      by_cases he : c' = c
      · subst he; rw [Function.update_same, if_pos hn, hrest]
      · have := hacts c'
        rw [clientActs_cons, if_neg (Ne.symm he)] at this
        rw [Function.update_noteq he, this]
    obtain ⟨sys'', hrun, hfin⟩ := ih sys' _ hi' hinv' hacts'
    exact ⟨sys'', by rw [clientRun, hstep, Option.some_bind, hrun], hfin⟩

end Owners

/-! ## Results -/

/-- On the Windows backend, from an initialized state with no device open, in every
interleaving of the steps of any number of `Device` objects, at most one object claims or
holds each device, and a device is active exactly when one does. A holder's transfers,
`get_stats` and `reset_stats` never fail with `PCIE_SIM_ERROR_DEVICE`, and no sequence of
steps of the other objects changes the slot it holds. -/
theorem windows_devices_exclusive (env : WindowsEnv) (b : WindowsSim)
    (hb : b.initialized = true) (hfree : ∀ d, (b.devices d).active = false)
    (acts : List (ℕ × ClientAct)) {sys : Clients}
    (hrun : clientRun env acts (Clients.start b) = some sys) :
    Exclusive sys ∧
      (∀ c d (k : HandleCall), sys.clients c = .holding d →
        (windowsStep env (k.toOp ⟨d⟩) sys.backend).1 ≠ .ret .errorDevice) ∧
      (∀ c d rest sys', (sys.clients c).device? = some d → (∀ x ∈ rest, x.1 ≠ c) →
        clientRun env rest sys = some sys' →
        sys'.backend.devices d = sys.backend.devices d ∧ sys'.clients c = sys.clients c) := by
  have h := (exclusive_start hb hfree).run hrun
  exact ⟨h, fun _ _ k hc => h.call_ne_errorDevice hc k,
    fun _ _ _ _ hcd hrest hr => h.run_frame hcd hrest hr⟩

/-- Two objects after initialization: the second one's open of device 0 fails while the
first holds it, and it opens device 1 instead. -/
theorem windows_devices_exclusive_two_objects :
    ∃ sys, clientRun ⟨none, none⟩
      [(0, .claim 0), (0, .alloc true), (1, .claim 0), (1, .claim 1),
        (0, .call (.transfer 1 4096 0 1000)), (1, .alloc true), (0, .close)]
      (Clients.start (WindowsSim.settled ⟨none, none⟩)) = some sys ∧
    (WindowsSim.settled ⟨none, none⟩).initialized = true ∧
    (∀ d, ((WindowsSim.settled ⟨none, none⟩).devices d).active = false) ∧
    Exclusive sys ∧
      (∀ c d (k : HandleCall), sys.clients c = .holding d →
        (windowsStep ⟨none, none⟩ (k.toOp ⟨d⟩) sys.backend).1 ≠ .ret .errorDevice) ∧
      (∀ c d rest sys', (sys.clients c).device? = some d → (∀ x ∈ rest, x.1 ≠ c) →
        clientRun ⟨none, none⟩ rest sys = some sys' →
        sys'.backend.devices d = sys.backend.devices d ∧ sys'.clients c = sys.clients c) :=
  ⟨_, rfl, rfl, fun _ => rfl,
    windows_devices_exclusive _ (WindowsSim.settled ⟨none, none⟩) rfl (fun _ => rfl)
      [(0, .claim 0), (0, .alloc true), (1, .claim 0), (1, .claim 1),
      (0, .call (.transfer 1 4096 0 1000)), (1, .alloc true), (0, .close)] rfl⟩

/-- On the Windows backend, from an initialized state with no device open, `Device` objects
on distinct devices, each opening its device, making its calls and closing it, with every
`malloc` succeeding, run to the end in every interleaving of their steps: no open fails and
no step is refused. Every object ends idle, and every device closed with the slot its own
object's calls leave when run alone. -/
theorem windows_owners_complete (env : WindowsEnv) (b : WindowsSim) (hb : b.initialized = true)
    (hfree : ∀ d, (b.devices d).active = false) (n : ℕ) (dev : ℕ → Fin maxDevices)
    (hdev : ∀ c c', c < n → c' < n → dev c = dev c' → c = c')
    (calls : ℕ → List HandleCall) (acts : List (ℕ × ClientAct))
    (hacts : ∀ c, clientActs acts c = if c < n then ownerProgram (dev c) (calls c) else []) :
    ∃ sys, clientRun env acts (Clients.start b) = some sys ∧
      ∀ c < n, sys.clients c = .idle ∧ sys.backend.devices (dev c) =
        { (calls c).foldl (fun y k => callSlot env (dev c) k y)
            { b.devices (dev c) with active := true } with active := false } := by
  obtain ⟨sys, hrun, hfin⟩ := @clientRun_owners env n dev calls (fun c => b.devices (dev c))
    hdev (fun c _ => hfree (dev c)) acts (Clients.start b) (fun _ => 0) hb
    (fun _ _ => ⟨Nat.zero_le _, rfl⟩) (fun c => by simpa using hacts c)
  refine ⟨sys, hrun, fun c hc => ?_⟩
  have := hfin c hc
  rw [ownerAfter_done, Prod.mk.injEq] at this
  exact this

/-- Two workers of `parallel_test` on devices 0 and 1, two writes each, interleaved. -/
theorem windows_owners_complete_parallel_workers :
    (WindowsSim.settled ⟨none, none⟩).initialized = true ∧
    (∀ d, ((WindowsSim.settled ⟨none, none⟩).devices d).active = false) ∧
    (∀ c c', c < 2 → c' < 2 →
      (⟨c % maxDevices, Nat.mod_lt _ (by decide)⟩ : Fin maxDevices) =
        ⟨c' % maxDevices, Nat.mod_lt _ (by decide)⟩ → c = c') ∧
    (∀ c, clientActs
        [(0, .claim 0), (1, .claim 1), (1, .alloc true), (0, .alloc true),
          (0, .call (.transfer 1 4096 0 5000)), (1, .call (.transfer 1 4096 0 5000)),
          (1, .call (.transfer 1 4096 0 6000)), (1, .close), (0, .call (.transfer 1 4096 0 6000)),
          (0, .close)] c =
      if c < 2 then ownerProgram ⟨c % maxDevices, Nat.mod_lt _ (by decide)⟩
        (parallelWorkerCalls 1 (fun i => 5000 + 1000 * UInt64.ofNat i) 2)
      else []) ∧
    ∃ sys, clientRun ⟨none, none⟩
        [(0, .claim 0), (1, .claim 1), (1, .alloc true), (0, .alloc true),
          (0, .call (.transfer 1 4096 0 5000)), (1, .call (.transfer 1 4096 0 5000)),
          (1, .call (.transfer 1 4096 0 6000)), (1, .close), (0, .call (.transfer 1 4096 0 6000)),
          (0, .close)] (Clients.start (WindowsSim.settled ⟨none, none⟩)) = some sys ∧
      ∀ c < 2, sys.clients c = .idle ∧
        sys.backend.devices ⟨c % maxDevices, Nat.mod_lt _ (by decide)⟩ =
          { (parallelWorkerCalls 1 (fun i => 5000 + 1000 * UInt64.ofNat i) 2).foldl
              (fun y k =>
                callSlot ⟨none, none⟩ ⟨c % maxDevices, Nat.mod_lt _ (by decide)⟩ k y)
              { (WindowsSim.settled ⟨none, none⟩).devices
                  ⟨c % maxDevices, Nat.mod_lt _ (by decide)⟩ with active := true } with
            active := false } := by
  refine ⟨rfl, fun _ => rfl, ?hdev, ?hacts,
    windows_owners_complete _ _ rfl (fun _ => rfl) 2 _ ?hdev _ _ ?hacts⟩
  case hdev =>
    intro c c' hc hc' h
    simp only [Fin.mk.injEq, maxDevices] at h
    omega
  case hacts =>
    rintro (_ | _ | c)
    · decide
    · decide
    · simp [clientActs]

end PcieSim.Sim

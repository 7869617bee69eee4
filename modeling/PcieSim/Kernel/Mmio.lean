import PcieSim.Kernel.Dma

/-!
# `part_005`: the simulated BAR0 register file

`pcie_sim_mmio_init` backs BAR0 with a zeroed allocation of `BAR0_SIZE` (0x1000) bytes and
writes five registers. `pcie_sim_mmio_read32` and `pcie_sim_mmio_write32` check
`offset < bar0_size` and then make a 4-byte `readl` / `writel` at `bar0_virt + offset`, with
special cases for STATUS, the two performance counters, CONTROL, the write-1-to-clear
INTERRUPT_STATUS and ERROR_INJECT. `pcie_sim_mmio_update_dma` posts a DMA completion into
STATUS and INTERRUPT_STATUS and raises `pending_interrupts`.

BAR0 is modelled byte by byte, so a 4-byte access at an unaligned offset touches exactly the
bytes it touches in C. `readl` / `writel` are `none` when one of the four bytes lies past the
allocation (undefined behaviour), and so is every entry point that makes such an access.

Two things the bounds check does not give:
* it admits `offset` up to `bar0_size - 1`, so the accesses at 0xFFD .. 0xFFF run past BAR0
  (`mmio_access_past_bar0`); every other offset is safe on every reachable device
  (`mmio_access_defined_iff`);
* INTERRUPT_STATUS is write-1-to-clear only at offset 0x20 itself. A plain write at 0x1D ..
  0x23 overlaps it and changes it without touching `pending_interrupts`
  (`mmio_interrupt_status_desync`); for writes that hit the register exactly or miss it,
  `pending_interrupts = 0 ↔ INTERRUPT_STATUS = 0` holds along every run (`mmio_clean_run`).
-/

namespace UInt32

@[simp] theorem toBitVec_and (a b : UInt32) : (a &&& b).toBitVec = a.toBitVec &&& b.toBitVec :=
  rfl

@[simp] theorem toBitVec_or (a b : UInt32) : (a ||| b).toBitVec = a.toBitVec ||| b.toBitVec :=
  rfl

@[simp] theorem toBitVec_not (a : UInt32) : (~~~a).toBitVec = ~~~a.toBitVec := rfl

theorem toNat_ofNat' (n : ℕ) : (UInt32.ofNat n).toNat = n % 2 ^ 32 := BitVec.toNat_ofNat ..

/-- A word with a bit or-ed in is not zero. -/
theorem or_ne_zero (x : UInt32) {b : UInt32} (hb : b ≠ 0) : x ||| b ≠ 0 := by
  intro h
  apply hb
  apply UInt32.eq_of_toBitVec_eq
  apply BitVec.eq_of_getLsbD_eq
  intro i
  have hi : (x ||| b).toBitVec.getLsbD i = (0 : UInt32).toBitVec.getLsbD i := by rw [h]
  simp only [toBitVec_or, BitVec.getLsbD_or, Bool.or_eq_false_iff, toBitVec_ofNat,
    BitVec.getLsbD_ofNat, Nat.zero_testBit, Bool.and_false] at hi
  rw [hi.2, toBitVec_ofNat, BitVec.getLsbD_ofNat, Nat.zero_testBit, Bool.and_false]

theorem zero_and (x : UInt32) : 0 &&& x = 0 :=
  UInt32.eq_of_toBitVec_eq BitVec.zero_and

end UInt32

theorem UInt8.toNat_ofNat' (n : ℕ) : (UInt8.ofNat n).toNat = n % 2 ^ 8 := BitVec.toNat_ofNat ..

namespace PcieSim.Kernel

/-! ## BAR0 as bytes -/

/-- `BAR0_SIZE`: the bytes `pcie_sim_mmio_init` allocates for BAR0. -/
def bar0Size : ℕ := 0x1000

/-- BAR0's contents byte by byte. Bytes from `bar0Size` on are not part of the allocation;
`readl` and `writel` never reach them. -/
abbrev Bar0 := ℕ → UInt8

/-- Byte `i` of `v`, least significant first: x86 stores words little-endian. -/
def byteOf (v : UInt32) (i : ℕ) : UInt8 := UInt8.ofNat (v.toNat / 256 ^ i)

/-- The little-endian word in bytes `a .. a + 3`. -/
def loadWord (mem : Bar0) (a : ℕ) : UInt32 :=
  UInt32.ofNat ((mem a).toNat + 2 ^ 8 * (mem (a + 1)).toNat + 2 ^ 16 * (mem (a + 2)).toNat
    + 2 ^ 24 * (mem (a + 3)).toNat)

/-- `mem` with bytes `a .. a + 3` holding `v`. -/
def storeWord (mem : Bar0) (a : ℕ) (v : UInt32) : Bar0 :=
  fun b => if a ≤ b ∧ b < a + 4 then byteOf v (b - a) else mem b

/-- A stored word reads back. -/
theorem loadWord_storeWord_self (mem : Bar0) (a : ℕ) (v : UInt32) :
    loadWord (storeWord mem a v) a = v := by
  have hv := UInt32.toNat_lt v
  apply UInt32.eq_of_toBitVec_eq
  apply BitVec.eq_of_toNat_eq
  change (UInt32.ofNat _).toNat = v.toNat
  simp only [loadWord, storeWord, byteOf, le_refl, Nat.le_add_right, true_and,
    Nat.lt_add_right_iff_pos, Nat.add_lt_add_iff_left, Nat.reduceLT, ite_true,
    Nat.add_sub_cancel_left, Nat.sub_self, UInt32.toNat_ofNat', UInt8.toNat_ofNat']
  omega

/-- A store leaves every word that shares no byte with it. -/
theorem loadWord_storeWord_of_disjoint (mem : Bar0) {a b : ℕ} (v : UInt32)
    (h : a + 4 ≤ b ∨ b + 4 ≤ a) : loadWord (storeWord mem a v) b = loadWord mem b := by
  simp only [loadWord, storeWord]
  rw [if_neg (by omega), if_neg (by omega), if_neg (by omega), if_neg (by omega)]

/-- `readl(bar0_virt + a)`: undefined (`none`) when one of the four bytes lies past the
allocation. -/
def readl (mem : Bar0) (a : ℕ) : Option UInt32 :=
  if a + 4 ≤ bar0Size then some (loadWord mem a) else none

/-- `writel(v, bar0_virt + a)`, undefined in the same cases. -/
def writel (mem : Bar0) (v : UInt32) (a : ℕ) : Option Bar0 :=
  if a + 4 ≤ bar0Size then some (storeWord mem a v) else none

section Access

variable {mem : Bar0} {a : ℕ}

theorem readl_of_le (h : a + 4 ≤ bar0Size) : readl mem a = some (loadWord mem a) := if_pos h

theorem writel_of_le (h : a + 4 ≤ bar0Size) (v : UInt32) :
    writel mem v a = some (storeWord mem a v) := if_pos h

theorem readl_of_lt (h : bar0Size < a + 4) : readl mem a = none := if_neg (by omega)

theorem writel_of_lt (h : bar0Size < a + 4) (v : UInt32) : writel mem v a = none :=
  if_neg (by omega)

end Access

/-! ## Registers -/

/-- Register offsets of `part_005`. The DMA address, DMA size and error-status registers are
read or written by no function here and left out. -/
def regDeviceId : UInt32 := 0x000

def regStatus : UInt32 := 0x004

def regControl : UInt32 := 0x008

def regDmaControl : UInt32 := 0x01C

def regInterruptStatus : UInt32 := 0x020

def regInterruptEnable : UInt32 := 0x024

def regPerfLatency : UInt32 := 0x030

def regPerfCount : UInt32 := 0x034

def regErrorInject : UInt32 := 0x044

/-- `BIT(n)` flags of STATUS, CONTROL and INTERRUPT_STATUS / INTERRUPT_ENABLE.
`CONTROL_DMA_START` only triggers a debug message and is left out. -/
def statusDeviceReady : UInt32 := 0x1

def statusDmaBusy : UInt32 := 0x2

def statusError : UInt32 := 0x4

def statusInterruptPending : UInt32 := 0x8

def controlDeviceEnable : UInt32 := 0x1

def controlDmaReset : UInt32 := 0x4

def irqDmaComplete : UInt32 := 0x1

def irqDmaError : UInt32 := 0x2

/-! ## The device -/

/-- The fields of `struct pcie_sim_device` that the MMIO functions read or write. `bar0Virt`
is `none` while the pointer is NULL; `bar0Size` is the `size_t` field `bar0_size` the bounds
checks compare against. `pending_interrupts` and `dma_active` are `atomic_t`s. -/
structure PcieSimDevice where
  bar0Virt : Option Bar0
  bar0Size : UInt64
  pendingInterrupts : Int
  dmaActive : Int
  stats : PcieSimStats
  simulateErrors : Bool
  faultInjectionRate : UInt32

/-- The device as `kzalloc` leaves it in `pcie_sim_probe`. -/
def PcieSimDevice.zero : PcieSimDevice := ⟨none, 0, 0, 0, .zero, false, 0⟩

/-- `pcie_sim_mmio_init`; `allocOk` is the outcome of `kzalloc(BAR0_SIZE, GFP_KERNEL)`. The
five `writel`s are at fixed offsets inside the fresh allocation, so they are plain stores. -/
def pcieSimMmioInit (allocOk : Bool) (dev : PcieSimDevice) : Int × PcieSimDevice :=
  if allocOk then
    let mem := storeWord (fun _ => 0) regDeviceId.toNat 0x1234ABCD
    let mem := storeWord mem regStatus.toNat statusDeviceReady
    let mem := storeWord mem regControl.toNat controlDeviceEnable
    let mem := storeWord mem regDmaControl.toNat 0
    let mem := storeWord mem regInterruptEnable.toNat (irqDmaComplete ||| irqDmaError)
    (0, { dev with bar0Virt := some mem, bar0Size := UInt64.ofNat bar0Size })
  else (-ENOMEM, { dev with bar0Virt := none })

/-- The device `pcie_sim_mmio_init` sets up on a zeroed device when the allocation
succeeds. -/
def mmioInitDevice : PcieSimDevice := (pcieSimMmioInit true .zero).2

/-- INTERRUPT_STATUS as stored: the 32-bit word at `REG_INTERRUPT_STATUS`. -/
def interruptStatus (dev : PcieSimDevice) : Option UInt32 :=
  dev.bar0Virt.map fun mem => loadWord mem regInterruptStatus.toNat

/-- The STATUS word `pcie_sim_mmio_read32` reports: the stored word with DMA_BUSY and
INTERRUPT_PENDING taken from `dma_active` and `pending_interrupts`. -/
def statusReport (value : UInt32) (dmaActive pending : Bool) : UInt32 :=
  let value := value &&& ~~~(statusDmaBusy ||| statusInterruptPending)
  let value := if dmaActive then value ||| statusDmaBusy else value
  if pending then value ||| statusInterruptPending else value

/-- The INTERRUPT_PENDING bit of the reported STATUS word is `pending_interrupts`'s, whatever
the stored word and the busy flag. -/
theorem statusReport_and_pending (value : UInt32) (dmaActive pending : Bool) :
    statusReport value dmaActive pending &&& statusInterruptPending =
      if pending then statusInterruptPending else 0 := by
  apply UInt32.eq_of_toBitVec_eq
  apply BitVec.eq_of_getLsbD_eq
  intro i
  have hdisj : (Nat.testBit 2 i && Nat.testBit 8 i) = false := by
    rw [← Nat.testBit_and]; exact Nat.zero_testBit i
  cases dmaActive <;> cases pending <;>
    simp only [statusReport, statusDmaBusy, statusInterruptPending, UInt32.toBitVec_and,
      UInt32.toBitVec_or, UInt32.toBitVec_not, UInt32.toBitVec_ofNat, BitVec.getLsbD_and,
      BitVec.getLsbD_or, BitVec.getLsbD_not, BitVec.getLsbD_ofNat, Bool.false_eq_true,
      ite_false, ite_true] <;>
    cases h2 : Nat.testBit 2 i <;> cases h8 : Nat.testBit 8 i <;> simp_all

/-- `pcie_sim_mmio_read32`: all ones for a NULL BAR0 or an offset at or past `bar0_size`. -/
def pcieSimMmioRead32 (dev : PcieSimDevice) (offset : UInt32) : Option UInt32 :=
  match dev.bar0Virt with
  | none => some 0xFFFFFFFF
  | some mem =>
    if dev.bar0Size.toNat ≤ offset.toNat then some 0xFFFFFFFF
    else (readl mem offset.toNat).map fun value =>
      if offset = regStatus then
        statusReport value (dev.dmaActive != 0) (dev.pendingInterrupts != 0)
      else if offset = regPerfLatency then (dev.stats.avgLatencyNs / 1000).toUInt32
      else if offset = regPerfCount then dev.stats.totalTransfers.toUInt32
      else value

/-- The `switch` of `pcie_sim_mmio_write32` for CONTROL and ERROR_INJECT: the device fields it
sets and the value then written. Every other offset but INTERRUPT_STATUS writes `value` as
is. -/
def registerWrite (dev : PcieSimDevice) (offset value : UInt32) : PcieSimDevice × UInt32 :=
  if offset = regControl then
    if value &&& controlDmaReset ≠ 0 then
      ({ dev with dmaActive := 0 }, value &&& ~~~controlDmaReset)
    else (dev, value)
  else if offset = regErrorInject then
    if value &&& 0xFF ≠ 0 then
      ({ dev with faultInjectionRate := value &&& 0xFF, simulateErrors := true }, value)
    else ({ dev with simulateErrors := false }, value)
  else (dev, value)

/-- `pcie_sim_mmio_write32`. INTERRUPT_STATUS clears the bits written and returns before the
final `writel`. -/
def pcieSimMmioWrite32 (dev : PcieSimDevice) (offset value : UInt32) : Option PcieSimDevice :=
  match dev.bar0Virt with
  | none => some dev
  | some mem =>
    if dev.bar0Size.toNat ≤ offset.toNat then some dev
    else if offset = regInterruptStatus then do
      let current ← readl mem offset.toNat
      let newStatus := current &&& ~~~value
      let mem ← writel mem newStatus offset.toNat
      pure { dev with
        bar0Virt := some mem
        pendingInterrupts := if newStatus = 0 then 0 else dev.pendingInterrupts }
    else
      let w := registerWrite dev offset value
      (writel mem w.2 offset.toNat).map fun mem => { w.1 with bar0Virt := some mem }

/-- `pcie_sim_mmio_update_dma`: clear STATUS busy (flagging an error on failure), post the
completion or error interrupt, record a successful request's latency and the transfer count,
and raise `pending_interrupts`. -/
def pcieSimMmioUpdateDma (dev : PcieSimDevice) (req : Option PcieSimTransferReq)
    (success : Bool) : Option PcieSimDevice :=
  match dev.bar0Virt with
  | none => some dev
  | some mem => do
    let status ← readl mem regStatus.toNat
    let status := status &&& ~~~statusDmaBusy
    let status := if success then status else status ||| statusError
    let mem ← writel mem status regStatus.toNat
    let irqStatus ← readl mem regInterruptStatus.toNat
    let irqStatus := if success then irqStatus ||| irqDmaComplete else irqStatus ||| irqDmaError
    let mem ← writel mem irqStatus regInterruptStatus.toNat
    let mem ← match success, req with
      | true, some req => do
        let mem ← writel mem (req.latencyNs / 1000).toUInt32 regPerfLatency.toNat
        writel mem dev.stats.totalTransfers.toUInt32 regPerfCount.toNat
      | _, _ => pure mem
    pure { dev with bar0Virt := some mem, pendingInterrupts := 1 }

/-! ## Runs -/

/-- The MMIO entry points that change the device. -/
inductive MmioOp
  | write32 (offset value : UInt32)
  | updateDma (req : Option PcieSimTransferReq) (success : Bool)
deriving Repr, DecidableEq

/-- One call. -/
def MmioOp.apply : MmioOp → PcieSimDevice → Option PcieSimDevice
  | .write32 offset value, dev => pcieSimMmioWrite32 dev offset value
  | .updateDma req success, dev => pcieSimMmioUpdateDma dev req success

/-- A sequence of calls; `none` once one of them is undefined. -/
def mmioRun : List MmioOp → PcieSimDevice → Option PcieSimDevice
  | [], dev => some dev
  | op :: ops, dev => (op.apply dev).bind (mmioRun ops)

/-! ## One lemma per entry point

On a device whose BAR0 is mapped the way `pcie_sim_mmio_init` maps it, each entry point is
one of a few stores; everything below is derived from these lemmas. -/

/-- BAR0 allocated with `bar0_size = BAR0_SIZE`, as `pcie_sim_mmio_init` leaves it. -/
structure Mapped (dev : PcieSimDevice) (mem : Bar0) : Prop where
  virt : dev.bar0Virt = some mem
  size : dev.bar0Size.toNat = bar0Size

/-- Initialisation maps BAR0 with INTERRUPT_STATUS and `pending_interrupts` both 0. -/
theorem mmioInitDevice_mapped : ∃ mem, Mapped mmioInitDevice mem ∧
    loadWord mem regInterruptStatus.toNat = 0 ∧ mmioInitDevice.pendingInterrupts = 0 :=
  ⟨_, ⟨rfl, rfl⟩, by decide, rfl⟩

@[simp] theorem registerWrite_bar0Virt (dev : PcieSimDevice) (offset value : UInt32) :
    (registerWrite dev offset value).1.bar0Virt = dev.bar0Virt := by
  unfold registerWrite; split_ifs <;> rfl

@[simp] theorem registerWrite_bar0Size (dev : PcieSimDevice) (offset value : UInt32) :
    (registerWrite dev offset value).1.bar0Size = dev.bar0Size := by
  unfold registerWrite; split_ifs <;> rfl

@[simp] theorem registerWrite_pendingInterrupts (dev : PcieSimDevice) (offset value : UInt32) :
    (registerWrite dev offset value).1.pendingInterrupts = dev.pendingInterrupts := by
  unfold registerWrite; split_ifs <;> rfl

section Mapped

variable {dev : PcieSimDevice} {mem : Bar0}

theorem pcieSimMmioRead32_of_size_le (h : Mapped dev mem) {offset : UInt32}
    (ho : bar0Size ≤ offset.toNat) : pcieSimMmioRead32 dev offset = some 0xFFFFFFFF := by
  simp only [pcieSimMmioRead32, h.virt, h.size, if_pos ho]

theorem pcieSimMmioRead32_overrun (h : Mapped dev mem) {offset : UInt32}
    (ho : offset.toNat < bar0Size) (ho' : bar0Size < offset.toNat + 4) :
    pcieSimMmioRead32 dev offset = none := by
  simp only [pcieSimMmioRead32, h.virt, h.size, if_neg (Nat.not_le.mpr ho), readl_of_lt ho',
    Option.map_none']

/-- `REG_STATUS` reads back the stored word with the two dynamic bits replaced. -/
theorem pcieSimMmioRead32_status (h : Mapped dev mem) :
    pcieSimMmioRead32 dev regStatus = some (statusReport (loadWord mem regStatus.toNat)
      (dev.dmaActive != 0) (dev.pendingInterrupts != 0)) := by
  simp only [pcieSimMmioRead32, h.virt, h.size]
  rw [if_neg (by decide), readl_of_le (by decide)]
  rfl

theorem pcieSimMmioWrite32_of_size_le (h : Mapped dev mem) {offset : UInt32}
    (ho : bar0Size ≤ offset.toNat) (value : UInt32) :
    pcieSimMmioWrite32 dev offset value = some dev := by
  simp only [pcieSimMmioWrite32, h.virt, h.size, if_pos ho]

theorem pcieSimMmioWrite32_overrun (h : Mapped dev mem) {offset : UInt32}
    (ho : offset.toNat < bar0Size) (ho' : bar0Size < offset.toNat + 4) (value : UInt32) :
    pcieSimMmioWrite32 dev offset value = none := by
  simp only [pcieSimMmioWrite32, h.virt, h.size, if_neg (Nat.not_le.mpr ho), readl_of_lt ho',
    writel_of_lt ho']
  split_ifs <;> rfl

/-- The write-1-to-clear path: INTERRUPT_STATUS keeps the bits not written, and
`pending_interrupts` drops to 0 once none is left. -/
theorem pcieSimMmioWrite32_interruptStatus (h : Mapped dev mem) (value : UInt32) :
    let newStatus := loadWord mem regInterruptStatus.toNat &&& ~~~value
    pcieSimMmioWrite32 dev regInterruptStatus value = some { dev with
      bar0Virt := some (storeWord mem regInterruptStatus.toNat newStatus)
      pendingInterrupts := if newStatus = 0 then 0 else dev.pendingInterrupts } := by
  simp only [pcieSimMmioWrite32, h.virt, h.size]
  rw [if_neg (by decide), if_pos trivial, readl_of_le (by decide)]
  simp only [Option.bind_eq_bind, Option.some_bind]
  rw [writel_of_le (by decide)]
  rfl

/-- Any other write inside BAR0 stores the value the `switch` leaves at `offset`. -/
theorem pcieSimMmioWrite32_register (h : Mapped dev mem) {offset : UInt32}
    (hne : offset ≠ regInterruptStatus) (hin : offset.toNat + 4 ≤ bar0Size) (value : UInt32) :
    pcieSimMmioWrite32 dev offset value = some { (registerWrite dev offset value).1 with
      bar0Virt := some (storeWord mem offset.toNat (registerWrite dev offset value).2) } := by
  simp only [pcieSimMmioWrite32, h.virt, h.size, if_neg (show ¬ bar0Size ≤ offset.toNat by omega),
    if_neg hne, writel_of_le hin, Option.map_some']

/-- `pcie_sim_mmio_update_dma` or-s the completion or error bit into INTERRUPT_STATUS and
raises `pending_interrupts`; all its accesses are at fixed offsets inside BAR0. -/
theorem pcieSimMmioUpdateDma_spec (h : dev.bar0Virt = some mem)
    (req : Option PcieSimTransferReq) (success : Bool) :
    ∃ mem', pcieSimMmioUpdateDma dev req success =
        some { dev with bar0Virt := some mem', pendingInterrupts := 1 } ∧
      loadWord mem' regInterruptStatus.toNat =
        if success then loadWord mem regInterruptStatus.toNat ||| irqDmaComplete
        else loadWord mem regInterruptStatus.toNat ||| irqDmaError := by
  cases success <;> cases req <;>
    simp (disch := decide) only [pcieSimMmioUpdateDma, h, Option.bind_eq_bind, readl_of_le,
      writel_of_le, Option.some_bind, Option.pure_def, loadWord_storeWord_of_disjoint,
      loadWord_storeWord_self] <;>
    exact ⟨_, rfl, by simp (disch := decide) only [loadWord_storeWord_of_disjoint,
      loadWord_storeWord_self, ite_true, ite_false, Bool.false_eq_true]⟩

/-- What `pcie_sim_mmio_write32` can do on a mapped device: nothing past `bar0_size`,
undefined across the end of BAR0, the write-1-to-clear path at INTERRUPT_STATUS, or a store
of what the `switch` leaves. -/
theorem pcieSimMmioWrite32_cases (h : Mapped dev mem) (offset value : UInt32) :
    (bar0Size ≤ offset.toNat ∧ pcieSimMmioWrite32 dev offset value = some dev) ∨
    (offset.toNat < bar0Size ∧ bar0Size < offset.toNat + 4 ∧
      pcieSimMmioWrite32 dev offset value = none) ∨
    (offset = regInterruptStatus ∧ pcieSimMmioWrite32 dev offset value = some { dev with
      bar0Virt := some (storeWord mem regInterruptStatus.toNat
        (loadWord mem regInterruptStatus.toNat &&& ~~~value))
      pendingInterrupts := if loadWord mem regInterruptStatus.toNat &&& ~~~value = 0 then 0
        else dev.pendingInterrupts }) ∨
    (offset ≠ regInterruptStatus ∧ offset.toNat + 4 ≤ bar0Size ∧
      pcieSimMmioWrite32 dev offset value = some { (registerWrite dev offset value).1 with
        bar0Virt := some (storeWord mem offset.toNat (registerWrite dev offset value).2) }) := by
  by_cases hs : bar0Size ≤ offset.toNat
  · exact .inl ⟨hs, pcieSimMmioWrite32_of_size_le h hs value⟩
  by_cases hin : offset.toNat + 4 ≤ bar0Size
  · by_cases hi : offset = regInterruptStatus
    · subst hi
      exact .inr (.inr (.inl ⟨rfl, pcieSimMmioWrite32_interruptStatus h value⟩))
    · exact .inr (.inr (.inr ⟨hi, hin, pcieSimMmioWrite32_register h hi hin value⟩))
  · exact .inr (.inl ⟨by omega, by omega, pcieSimMmioWrite32_overrun h (by omega) (by omega) value⟩)

/-- On a mapped device `pcie_sim_mmio_read32` is undefined exactly at the offsets that pass the
bounds check but whose four bytes run past BAR0. -/
theorem pcieSimMmioRead32_isSome_iff (h : Mapped dev mem) (offset : UInt32) :
    (pcieSimMmioRead32 dev offset).isSome ↔
      offset.toNat + 4 ≤ bar0Size ∨ bar0Size ≤ offset.toNat := by
  by_cases hs : bar0Size ≤ offset.toNat
  · simp [pcieSimMmioRead32_of_size_le h hs, hs]
  by_cases hin : offset.toNat + 4 ≤ bar0Size
  · simp [pcieSimMmioRead32, h.virt, h.size, hs, readl_of_le hin, hin]
  · rw [pcieSimMmioRead32_overrun h (by omega : offset.toNat < bar0Size) (by omega)]
    simp only [Option.isSome_none, Bool.false_eq_true, false_iff]; omega

/-- The same for `pcie_sim_mmio_write32`. -/
theorem pcieSimMmioWrite32_isSome_iff (h : Mapped dev mem) (offset value : UInt32) :
    (pcieSimMmioWrite32 dev offset value).isSome ↔
      offset.toNat + 4 ≤ bar0Size ∨ bar0Size ≤ offset.toNat := by
  rcases pcieSimMmioWrite32_cases h offset value with
    ⟨hs, he⟩ | ⟨h1, h2, he⟩ | ⟨rfl, he⟩ | ⟨-, hin, he⟩ <;> rw [he]
  · simp [hs]
  · simp only [Option.isSome_none, Bool.false_eq_true, false_iff]; omega
  · simp only [Option.isSome_some, true_iff]; left; decide
  · simp [hin]

/-- Every call keeps BAR0 mapped. -/
theorem MmioOp.apply_mapped (h : Mapped dev mem) (op : MmioOp) {dev' : PcieSimDevice}
    (hop : op.apply dev = some dev') : ∃ mem', Mapped dev' mem' := by
  cases op with
  | write32 offset value =>
    rcases pcieSimMmioWrite32_cases h offset value with
      ⟨-, he⟩ | ⟨-, -, he⟩ | ⟨-, he⟩ | ⟨-, -, he⟩ <;>
      rw [MmioOp.apply, he] at hop <;> cases hop
    · exact ⟨mem, h⟩
    · exact ⟨_, rfl, h.size⟩
    · exact ⟨_, rfl, by simpa using h.size⟩
  | updateDma req success =>
    obtain ⟨mem', he, -⟩ := pcieSimMmioUpdateDma_spec h.virt req success
    rw [MmioOp.apply, he, Option.some.injEq] at hop
    exact ⟨mem', hop ▸ rfl, hop ▸ h.size⟩

/-- Every run keeps BAR0 mapped. -/
theorem mmioRun_mapped (ops : List MmioOp) (h : Mapped dev mem) {dev' : PcieSimDevice}
    (hrun : mmioRun ops dev = some dev') : ∃ mem', Mapped dev' mem' := by
  induction ops generalizing dev mem with
  | nil => exact ⟨mem, Option.some.inj hrun ▸ h⟩
  | cons op ops ih =>
    obtain ⟨d, hd, hrest⟩ := Option.bind_eq_some.mp hrun
    obtain ⟨m, hm⟩ := op.apply_mapped h hd
    exact ih hm hrest

/-! ## The interrupt bookkeeping -/

/-- `pending_interrupts` is 0 exactly when INTERRUPT_STATUS is 0. -/
def PendingAgrees (dev : PcieSimDevice) (mem : Bar0) : Prop :=
  dev.pendingInterrupts = 0 ↔ loadWord mem regInterruptStatus.toNat = 0

/-- A call that keeps the bookkeeping: a write that hits INTERRUPT_STATUS exactly, or shares
no byte with it and does not run past BAR0; and every `update_dma`. -/
def MmioOp.Clean : MmioOp → Prop
  | .write32 offset _ => offset = regInterruptStatus ∨
      (offset.toNat + 4 ≤ regInterruptStatus.toNat ∨ regInterruptStatus.toNat + 4 ≤ offset.toNat) ∧
        (offset.toNat + 4 ≤ bar0Size ∨ bar0Size ≤ offset.toNat)
  | .updateDma _ _ => True

instance : DecidablePred MmioOp.Clean
  | .write32 _ _ => inferInstanceAs (Decidable (_ ∨ _))
  | .updateDma _ _ => inferInstanceAs (Decidable True)

/-- Write-1-to-clear keeps the bookkeeping: the register only loses bits, and
`pending_interrupts` drops exactly when none is left. -/
theorem PendingAgrees.clear (hp : PendingAgrees dev mem) (value : UInt32) :
    let newStatus := loadWord mem regInterruptStatus.toNat &&& ~~~value
    PendingAgrees { dev with
        bar0Virt := some (storeWord mem regInterruptStatus.toNat newStatus)
        pendingInterrupts := if newStatus = 0 then 0 else dev.pendingInterrupts }
      (storeWord mem regInterruptStatus.toNat newStatus) := by
  intro newStatus
  unfold PendingAgrees
  rw [loadWord_storeWord_self]
  by_cases hn : newStatus = 0
  · simp only [hn, ite_true]
  · have hcur : loadWord mem regInterruptStatus.toNat ≠ 0 := fun h0 =>
      hn (by simp only [newStatus, h0, UInt32.zero_and])
    simp only [hn, ite_false, iff_false]
    exact fun hp0 => hcur (hp.mp hp0)

/-- One clean call on a mapped device is defined and keeps the bookkeeping. -/
theorem MmioOp.Clean.keeps {op : MmioOp} (hop : op.Clean) (h : Mapped dev mem)
    (hp : PendingAgrees dev mem) :
    ∃ dev' mem', op.apply dev = some dev' ∧ Mapped dev' mem' ∧ PendingAgrees dev' mem' := by
  cases op with
  | write32 offset value =>
    have hisr : regInterruptStatus.toNat = 0x20 := rfl
    rcases pcieSimMmioWrite32_cases h offset value with
      ⟨-, he⟩ | ⟨h1, h2, -⟩ | ⟨-, he⟩ | ⟨hne, -, he⟩
    · exact ⟨dev, mem, he, h, hp⟩
    · rcases hop with rfl | ⟨-, hin⟩
      · exact absurd h2 (by decide)
      · omega
    · exact ⟨_, _, he, ⟨rfl, h.size⟩, hp.clear value⟩
    · have hdisj := hop.resolve_left hne
      refine ⟨_, _, he, ⟨rfl, by simpa using h.size⟩, ?_⟩
      simpa [PendingAgrees, loadWord_storeWord_of_disjoint _ _ hdisj.1] using hp
  | updateDma req success =>
    obtain ⟨mem', he, hisr⟩ := pcieSimMmioUpdateDma_spec h.virt req success
    refine ⟨_, mem', he, ⟨rfl, h.size⟩, ?_⟩
    have hne : loadWord mem' regInterruptStatus.toNat ≠ 0 := by
      rw [hisr]; split <;> exact UInt32.or_ne_zero _ (by decide)
    simp only [PendingAgrees, one_ne_zero, false_iff]
    exact hne

/-- A run of clean calls from a mapped device with the bookkeeping in order is defined and
keeps it. -/
theorem mmioRun_clean (ops : List MmioOp) (hops : ∀ op ∈ ops, op.Clean) (h : Mapped dev mem)
    (hp : PendingAgrees dev mem) :
    ∃ dev' mem', mmioRun ops dev = some dev' ∧ Mapped dev' mem' ∧ PendingAgrees dev' mem' := by
  induction ops generalizing dev mem with
  | nil => exact ⟨dev, mem, rfl, h, hp⟩
  | cons op ops ih =>
    obtain ⟨d, m, hd, hm, hpm⟩ := (hops op (.head _)).keeps h hp
    obtain ⟨d', m', hrun, hm', hp'⟩ := ih (fun o ho => hops o (.tail _ ho)) hm hpm
    exact ⟨d', m', by simp only [mmioRun, hd, Option.some_bind, hrun], hm', hp'⟩

end Mapped

/-! ## Results -/

/-- From `pcie_sim_mmio_init` on a zeroed device, a write of all ones at 0x21 fills bytes
0x21 .. 0x24, three of them INTERRUPT_STATUS's, without going through the write-1-to-clear
path: the register holds 0xFFFFFF00 while `pending_interrupts` stays 0 and `REG_STATUS` reads
1, INTERRUPT_PENDING clear. The other way round, after a completed DMA (INTERRUPT_STATUS 1,
`pending_interrupts` 1) a write of 0 at 0x1D zeroes byte 0x20: the register is 0 while
`pending_interrupts` stays 1 and `REG_STATUS` reads 9, INTERRUPT_PENDING set. -/
theorem mmio_interrupt_status_desync :
    ((mmioRun [.write32 0x21 0xFFFFFFFF] mmioInitDevice).map fun dev =>
        (dev.pendingInterrupts, interruptStatus dev, pcieSimMmioRead32 dev regStatus)) =
      some (0, some 0xFFFFFF00, some 1) ∧
    ((mmioRun [.updateDma none true, .write32 0x1D 0] mmioInitDevice).map fun dev =>
        (dev.pendingInterrupts, interruptStatus dev, pcieSimMmioRead32 dev regStatus)) =
      some (1, some 0, some 9) := by
  decide

/-- From `pcie_sim_mmio_init` on a zeroed device, every sequence of clean calls is defined; after
it `pending_interrupts` is 0 exactly when INTERRUPT_STATUS is, and the INTERRUPT_PENDING bit that
`pcie_sim_mmio_read32(REG_STATUS)` reports is set exactly when INTERRUPT_STATUS is not 0. -/
theorem mmio_clean_run (ops : List MmioOp) (hops : ∀ op ∈ ops, op.Clean) :
    ∃ dev isr, mmioRun ops mmioInitDevice = some dev ∧ interruptStatus dev = some isr ∧
      (dev.pendingInterrupts = 0 ↔ isr = 0) ∧
      (pcieSimMmioRead32 dev regStatus).map (· &&& statusInterruptPending) =
        some (if isr = 0 then 0 else statusInterruptPending) := by
  obtain ⟨mem, hmap, hisr, hpend⟩ := mmioInitDevice_mapped
  obtain ⟨dev, mem', hrun, hm, hp⟩ :=
    mmioRun_clean ops hops hmap (by simp only [PendingAgrees, hisr, hpend])
  refine ⟨dev, _, hrun, by rw [interruptStatus, hm.virt, Option.map_some'], hp, ?_⟩
  rw [pcieSimMmioRead32_status hm, Option.map_some', statusReport_and_pending]
  by_cases h0 : loadWord mem' regInterruptStatus.toNat = 0
  · simp [h0, hp.mpr h0]
  · simp [h0, mt hp.mp h0]

theorem mmio_clean_run_complete_then_clear :
    (∀ op ∈ [MmioOp.updateDma none true, .write32 regInterruptStatus irqDmaComplete], op.Clean) ∧
    ∃ dev isr, mmioRun [.updateDma none true, .write32 regInterruptStatus irqDmaComplete]
        mmioInitDevice = some dev ∧ interruptStatus dev = some isr ∧
      (dev.pendingInterrupts = 0 ↔ isr = 0) ∧
      (pcieSimMmioRead32 dev regStatus).map (· &&& statusInterruptPending) =
        some (if isr = 0 then 0 else statusInterruptPending) :=
  ⟨by decide, mmio_clean_run _ (by decide)⟩

/-- On the device `pcie_sim_mmio_init` sets up, offset 0xFFF passes the bounds check of
`pcie_sim_mmio_read32` and `pcie_sim_mmio_write32` (0xFFF < `bar0_size` = 0x1000), but the 4-byte
access covers bytes 0xFFF .. 0x1002, three of them past the allocation: both calls are
undefined there. -/
theorem mmio_access_past_bar0 :
    (0xFFF : UInt32).toNat < mmioInitDevice.bar0Size.toNat ∧ bar0Size < 0xFFF + 4 ∧
      pcieSimMmioRead32 mmioInitDevice 0xFFF = none ∧
      ∀ value, pcieSimMmioWrite32 mmioInitDevice 0xFFF value = none := by
  obtain ⟨mem, hmap, -⟩ := mmioInitDevice_mapped
  exact ⟨by decide, by decide, pcieSimMmioRead32_overrun hmap (by decide) (by decide),
    pcieSimMmioWrite32_overrun hmap (by decide) (by decide)⟩

/-- On every device a run of `pcie_sim_mmio_write32` / `pcie_sim_mmio_update_dma` calls reaches
from `pcie_sim_mmio_init`, `pcie_sim_mmio_read32` and `pcie_sim_mmio_write32` are defined
exactly at the offsets whose four bytes lie inside BAR0 or that the bounds check turns away
(all but 0xFFD .. 0xFFF), and `pcie_sim_mmio_update_dma` is always defined. -/
theorem mmio_access_defined_iff (ops : List MmioOp) {dev : PcieSimDevice}
    (hrun : mmioRun ops mmioInitDevice = some dev) (offset value : UInt32)
    (req : Option PcieSimTransferReq) (success : Bool) :
    ((pcieSimMmioRead32 dev offset).isSome ↔
      offset.toNat + 4 ≤ bar0Size ∨ bar0Size ≤ offset.toNat) ∧
    ((pcieSimMmioWrite32 dev offset value).isSome ↔
      offset.toNat + 4 ≤ bar0Size ∨ bar0Size ≤ offset.toNat) ∧
    (pcieSimMmioUpdateDma dev req success).isSome := by
  obtain ⟨mem, hmap, -⟩ := mmioInitDevice_mapped
  obtain ⟨mem', hm⟩ := mmioRun_mapped ops hmap hrun
  obtain ⟨_, he, -⟩ := pcieSimMmioUpdateDma_spec hm.virt req success
  exact ⟨pcieSimMmioRead32_isSome_iff hm offset, pcieSimMmioWrite32_isSome_iff hm offset value,
    by rw [he]; rfl⟩

/-- After a completed DMA, a write at 0x21 that overlaps the interrupt-status register, and
a write past BAR0 that the bounds check turns away, the last word of BAR0 is still defined. -/
theorem mmio_access_defined_iff_after_writes :
    ∃ dev, mmioRun [.updateDma none true, .write32 0x21 0xFFFFFFFF, .write32 0x1000 5]
        mmioInitDevice = some dev ∧
      (((pcieSimMmioRead32 dev 0xFFC).isSome ↔
        (0xFFC : UInt32).toNat + 4 ≤ bar0Size ∨ bar0Size ≤ (0xFFC : UInt32).toNat) ∧
      ((pcieSimMmioWrite32 dev 0xFFC 0).isSome ↔
        (0xFFC : UInt32).toNat + 4 ≤ bar0Size ∨ bar0Size ≤ (0xFFC : UInt32).toNat) ∧
      (pcieSimMmioUpdateDma dev none true).isSome) :=
  ⟨_, rfl, mmio_access_defined_iff [.updateDma none true, .write32 0x21 0xFFFFFFFF,
    .write32 0x1000 5] rfl 0xFFC 0 none true⟩

end PcieSim.Kernel

import Mathlib.Algebra.Order.Field.Rat
import Mathlib.Tactic.NormNum
import PcieSim.Types

/-!
# `utils/config.c`: the test configuration

`struct pcie_sim_test_config` and the C helpers the command-line front end builds it with:
`pcie_sim_config_init` (defaults), the pattern and error-scenario setters, the two string
parsers, and `pcie_sim_config_validate`, whose checks `ConfigValid` restates one field at a
time (`pcieSimConfigValidate_eq_zero_iff`).

The enums are inductive types: every value the modelled code stores in them is one of the
named constants, so the `default:` branches of the setters are not reachable here. The
`float` probability is the rational value of its literal; the validator only compares it
with 0 and 1, which rounding the four literals to `float` does not cross.
-/

namespace PcieSim.Utils

/-! ## The configuration -/

/-- `pcie_sim_pattern_t`. -/
inductive PcieSimPattern
  | smallFast
  | largeBurst
  | mixed
  | custom
deriving Repr, DecidableEq

/-- `pcie_sim_error_scenario_t`. -/
inductive PcieSimErrorScenario
  | none
  | timeout
  | corruption
  | overrun
deriving Repr, DecidableEq

/-- `pcie_sim_load_type_t`. -/
inductive PcieSimLoadType
  | normal
  | stress
  | burst
deriving Repr, DecidableEq

/-- `struct pcie_sim_transfer_config`. -/
structure PcieSimTransferConfig where
  pattern : PcieSimPattern
  minSize : UInt32
  maxSize : UInt32
  rateHz : UInt32
  burstCount : UInt32
  burstIntervalMs : UInt32
deriving Repr, DecidableEq

/-- `struct pcie_sim_error_config`; `inject_after_count` is only ever zeroed and left out. -/
structure PcieSimErrorConfig where
  scenario : PcieSimErrorScenario
  probability : ℚ
  recoveryTimeMs : UInt32
deriving Repr, DecidableEq

/-- `struct pcie_sim_stress_config`; `ramp_up_seconds` is only ever zeroed and left out. -/
structure PcieSimStressConfig where
  loadType : PcieSimLoadType
  numThreads : UInt32
  durationSeconds : UInt32
deriving Repr, DecidableEq

/-- `struct pcie_sim_log_config`; `csvFilename` is the bytes of `csv_filename[256]` before its
terminating NUL. -/
structure PcieSimLogConfig where
  csvFilename : List UInt8
  logIntervalMs : UInt32
  maxEntries : UInt32
  bufferSize : UInt32
deriving Repr, DecidableEq

/-- `struct pcie_sim_test_config`. -/
structure PcieSimTestConfig where
  numDevices : UInt32
  transfer : PcieSimTransferConfig
  error : PcieSimErrorConfig
  stress : PcieSimStressConfig
  logging : PcieSimLogConfig
  flags : UInt32
deriving Repr, DecidableEq

/-- `PCIE_SIM_CONFIG_*` flags, `1 << 0` to `1 << 3`. -/
def pcieSimConfigEnableLogging : UInt32 := 0x1

def pcieSimConfigEnableErrors : UInt32 := 0x2

def pcieSimConfigEnableStress : UInt32 := 0x4

def pcieSimConfigVerbose : UInt32 := 0x8

/-- The three predefined transfer patterns. -/
def pcieSimPatternSmallFastConfig : PcieSimTransferConfig := ⟨.smallFast, 64, 1024, 10000, 1, 0⟩

def pcieSimPatternLargeBurstConfig : PcieSimTransferConfig :=
  ⟨.largeBurst, 1048576, 4194304, 100, 10, 100⟩

def pcieSimPatternMixedConfig : PcieSimTransferConfig := ⟨.mixed, 1024, 65536, 1000, 5, 50⟩

/-! ## The helpers of `config.c`

Each takes a non-NULL `config`, so the `if (!config) return -1;` guards are left out. -/

/-- `pcie_sim_config_init`: the defaults over a `memset` to zero. -/
def pcieSimConfigInit : PcieSimTestConfig where
  numDevices := 1
  transfer := pcieSimPatternMixedConfig
  error := ⟨.none, 0, 0⟩
  stress := ⟨.normal, 1, 10⟩
  logging := ⟨[], 1000, 10000, 4096⟩
  flags := 0

/-- `pcie_sim_config_set_pattern`: a predefined pattern, or `CUSTOM` over the current sizes. -/
def pcieSimConfigSetPattern (config : PcieSimTestConfig) (pattern : PcieSimPattern) :
    Int × PcieSimTestConfig :=
  match pattern with
  | .smallFast => (0, { config with transfer := pcieSimPatternSmallFastConfig })
  | .largeBurst => (0, { config with transfer := pcieSimPatternLargeBurstConfig })
  | .mixed => (0, { config with transfer := pcieSimPatternMixedConfig })
  | .custom => (0, { config with transfer := { config.transfer with pattern := .custom } })

/-- `pcie_sim_config_set_custom_pattern`: one size and a rate, refused out of range. -/
def pcieSimConfigSetCustomPattern (config : PcieSimTestConfig) (size rate : UInt32) :
    Int × PcieSimTestConfig :=
  if size < 64 ∨ size > 4194304 ∨ rate < 1 ∨ rate > 10000 then (-1, config)
  else (0, { config with transfer := ⟨.custom, size, size, rate, 1, 0⟩ })

/-- `pcie_sim_config_set_error_scenario`. -/
def pcieSimConfigSetErrorScenario (config : PcieSimTestConfig)
    (scenario : PcieSimErrorScenario) : Int × PcieSimTestConfig :=
  let error := { config.error with scenario := scenario }
  match scenario with
  | .none => (0, { config with
      error := { error with probability := 0 }
      flags := config.flags &&& ~~~pcieSimConfigEnableErrors })
  | .timeout => (0, { config with
      error := { error with probability := 1 / 100, recoveryTimeMs := 100 }
      flags := config.flags ||| pcieSimConfigEnableErrors })
  | .corruption => (0, { config with
      error := { error with probability := 5 / 1000, recoveryTimeMs := 50 }
      flags := config.flags ||| pcieSimConfigEnableErrors })
  | .overrun => (0, { config with
      error := { error with probability := 2 / 100, recoveryTimeMs := 200 }
      flags := config.flags ||| pcieSimConfigEnableErrors })

/-- `pcie_sim_config_validate`. -/
def pcieSimConfigValidate (config : PcieSimTestConfig) : Int :=
  if config.numDevices < 1 ∨ config.numDevices > 8 then -1
  else if config.transfer.minSize < 64 ∨ config.transfer.maxSize > 4194304 then -1
  else if config.transfer.minSize > config.transfer.maxSize then -1
  else if config.transfer.rateHz < 1 ∨ config.transfer.rateHz > 10000 then -1
  else if config.error.probability < 0 ∨ config.error.probability > 1 then -1
  else if config.stress.numThreads > 64 then -1
  else if config.stress.durationSeconds > 3600 then -1
  else 0

/-- `pcie_sim_parse_pattern`: unknown names fall back to `MIXED`. -/
def pcieSimParsePattern (s : String) : PcieSimPattern :=
  if s = "small-fast" then .smallFast
  else if s = "large-burst" then .largeBurst
  else if s = "mixed" then .mixed
  else if s = "custom" then .custom
  else .mixed

/-- `pcie_sim_parse_error_scenario`: unknown names fall back to `NONE`. -/
def pcieSimParseErrorScenario (s : String) : PcieSimErrorScenario :=
  if s = "timeout" then .timeout
  else if s = "corruption" then .corruption
  else if s = "overrun" then .overrun
  else .none

/-! ## What the validator accepts -/

/-- The transfer checks of `pcie_sim_config_validate`. -/
structure TransferValid (t : PcieSimTransferConfig) : Prop where
  minSize : 64 ≤ t.minSize.toNat
  maxSize : t.maxSize.toNat ≤ 4194304
  sizeOrder : t.minSize.toNat ≤ t.maxSize.toNat
  rateLow : 1 ≤ t.rateHz.toNat
  rateHigh : t.rateHz.toNat ≤ 10000

/-- Every check of `pcie_sim_config_validate`. -/
structure ConfigValid (c : PcieSimTestConfig) : Prop where
  devicesLow : 1 ≤ c.numDevices.toNat
  devicesHigh : c.numDevices.toNat ≤ 8
  transfer : TransferValid c.transfer
  probabilityLow : 0 ≤ c.error.probability
  probabilityHigh : c.error.probability ≤ 1
  numThreads : c.stress.numThreads.toNat ≤ 64
  duration : c.stress.durationSeconds.toNat ≤ 3600

theorem pcieSimConfigValidate_eq_zero_iff (c : PcieSimTestConfig) :
    pcieSimConfigValidate c = 0 ↔ ConfigValid c := by
  constructor
  · intro h
    unfold pcieSimConfigValidate at h
    split_ifs at h with h1 h2 h3 h4 h5 h6 h7
    simp only [not_or, not_lt, gt_iff_lt, UInt32.le_iff_toNat_le, UInt32.lt_iff_toNat_lt,
      UInt32.toNat_ofNat, UInt32.size_eq] at h1 h2 h3 h4 h5 h6 h7
    exact ⟨by omega, by omega, ⟨by omega, by omega, by omega, by omega, by omega⟩,
      h5.1, h5.2, by omega, by omega⟩
  · rintro ⟨d1, d2, ⟨t1, t2, t3, t4, t5⟩, p1, p2, n, du⟩
    simp only [pcieSimConfigValidate, gt_iff_lt, UInt32.lt_iff_toNat_lt, UInt32.toNat_ofNat,
      UInt32.size_eq]
    rw [if_neg (by omega), if_neg (by omega), if_neg (by omega), if_neg (by omega),
      if_neg (by simp only [not_or, not_lt]; exact ⟨p1, p2⟩), if_neg (by omega),
      if_neg (by omega)]

/-! ## The setters -/

theorem pcieSimPatternSmallFastConfig_valid : TransferValid pcieSimPatternSmallFastConfig :=
  ⟨by decide, by decide, by decide, by decide, by decide⟩

theorem pcieSimPatternLargeBurstConfig_valid : TransferValid pcieSimPatternLargeBurstConfig :=
  ⟨by decide, by decide, by decide, by decide, by decide⟩

theorem pcieSimPatternMixedConfig_valid : TransferValid pcieSimPatternMixedConfig :=
  ⟨by decide, by decide, by decide, by decide, by decide⟩

/-- The default stress settings pass the stress checks. -/
theorem pcieSimConfigInit_stress :
    pcieSimConfigInit.stress.numThreads.toNat ≤ 64 ∧
      pcieSimConfigInit.stress.durationSeconds.toNat ≤ 3600 := by
  decide

/-- A predefined pattern passes the transfer checks. -/
theorem pcieSimConfigSetPattern_valid (config : PcieSimTestConfig) {pattern : PcieSimPattern}
    (h : pattern ≠ .custom) : TransferValid (pcieSimConfigSetPattern config pattern).2.transfer := by
  cases pattern
  · exact pcieSimPatternSmallFastConfig_valid
  · exact pcieSimPatternLargeBurstConfig_valid
  · exact pcieSimPatternMixedConfig_valid
  · exact absurd rfl h

/-- The setters touch only the part of the configuration they are named after. -/
@[simp] theorem pcieSimConfigSetPattern_numDevices (config : PcieSimTestConfig)
    (pattern : PcieSimPattern) :
    (pcieSimConfigSetPattern config pattern).2.numDevices = config.numDevices := by
  cases pattern <;> rfl

@[simp] theorem pcieSimConfigSetPattern_stress (config : PcieSimTestConfig)
    (pattern : PcieSimPattern) :
    (pcieSimConfigSetPattern config pattern).2.stress = config.stress := by
  cases pattern <;> rfl

/-- A size and a rate in range make a custom pattern that passes the transfer checks. -/
theorem pcieSimConfigSetCustomPattern_of_valid (config : PcieSimTestConfig) {size rate : UInt32}
    (hs : 64 ≤ size.toNat ∧ size.toNat ≤ 4194304) (hr : 1 ≤ rate.toNat ∧ rate.toNat ≤ 10000) :
    pcieSimConfigSetCustomPattern config size rate =
      (0, { config with transfer := ⟨.custom, size, size, rate, 1, 0⟩ }) := by
  rw [pcieSimConfigSetCustomPattern, if_neg]
  simp only [gt_iff_lt, UInt32.lt_iff_toNat_lt, UInt32.toNat_ofNat, UInt32.size_eq]
  omega

/-- Every error scenario sets a probability in `[0, 1]` and leaves the other parts alone. -/
theorem pcieSimConfigSetErrorScenario_spec (config : PcieSimTestConfig)
    (scenario : PcieSimErrorScenario) :
    let c := (pcieSimConfigSetErrorScenario config scenario).2
    c.numDevices = config.numDevices ∧ c.transfer = config.transfer ∧ c.stress = config.stress ∧
      0 ≤ c.error.probability ∧ c.error.probability ≤ 1 := by
  cases scenario <;> refine ⟨rfl, rfl, rfl, ?_, ?_⟩ <;> dsimp only [pcieSimConfigSetErrorScenario] <;>
    norm_num

end PcieSim.Utils

import PcieSim.Utils.Options

/-!
# The enhanced test application (`part_003`)

`main` parses its arguments with `create_otpu_options` and turns them into a configuration
with `to_config`. It checks that configuration with `pcie_sim_config_validate`, then starts
one pattern test per device and, with more than one thread, one stress worker per thread.
The tests pace their transfers with integer divisions: `1000000 / rate_hz` between the
transfers of a pattern test, and `1000000 / (rate_hz / burst_count)` in a stress worker. Both
draw sizes from `size_dist`, which needs `min_size <= max_size`. The model stops at the
schedule the tests start with, and a division by zero is the outcome `AppRun.undefined`.

* `ParsedTable`: what `parse` leaves. No option is called `help` and `verbose` has the
  default `"false"`, so `has_option("help")` never holds and `has_option("verbose")` always
  does;
* `BurstPaced`: what the stress worker's division needs beyond the validator. Every
  configuration `to_config` returns has it;
* `testApp_main_defined`: for every argument vector, `main` throws out of `std::stoi`, exits
  with status 1, or starts its tests. It never reports an invalid configuration and never
  divides by zero.
-/

namespace UInt32

/-- Or-ing a flag in sets it. -/
theorem or_and_self (x b : UInt32) : (x ||| b) &&& b = b := by
  apply UInt32.eq_of_toBitVec_eq
  show (x.toBitVec ||| b.toBitVec) &&& b.toBitVec = b.toBitVec
  ext i
  simp only [BitVec.getLsbD_and, BitVec.getLsbD_or]
  cases x.toBitVec.getLsbD ↑i <;> cases b.toBitVec.getLsbD ↑i <;> rfl

end UInt32

namespace PcieSim.Utils

/-! ## What `parse` leaves -/

theorem ProgramOptions.addAlias_aliases {po : ProgramOptions} {aliasName option k n : String}
    (h : (po.addAlias aliasName option).aliases k = some n) :
    n = option ∨ po.aliases k = some n := by
  unfold ProgramOptions.addAlias at h
  dsimp only at h
  split_ifs at h
  · exact .inl (Option.some.inj h).symm
  · exact .inr h

/-- Every alias of `create_otpu_options` names one of its options. -/
theorem createOtpuOptions_alias_target {k n : String} (h : createOtpuOptions.aliases k = some n) :
    (createOtpuOptions.options.lookup n).isSome := by
  unfold createOtpuOptions at h
  iterate 9 (rcases ProgramOptions.addAlias_aliases h with rfl | h; · rfl)
  cases h

/-- An argument names an option of the table, directly or through an alias. -/
theorem optionNamed_isOption {po : ProgramOptions} (ho : po.options = createOtpuOptions.options)
    (ha : po.aliases = createOtpuOptions.aliases) {arg name : String}
    (h : po.optionNamed arg = .ok name) : (createOtpuOptions.options.lookup name).isSome := by
  unfold ProgramOptions.optionNamed at h
  split_ifs at h with h1 h2 h3
  · simp only [ho] at h
    split_ifs at h with h4
    cases h
    exact h4
  · rw [ha] at h
    split at h
    · cases h
      exact createOtpuOptions_alias_target (by assumption)
    · cases h

/-- What `parse` leaves of `create_otpu_options`: its table, no value for `help`, which is no
option, and a value for `verbose`, whose default is `"false"`. -/
structure ParsedTable (po : ProgramOptions) : Prop where
  options : po.options = createOtpuOptions.options
  aliases : po.aliases = createOtpuOptions.aliases
  help : po.values "help" = none
  verbose : (po.values "verbose").isSome

theorem ParsedTable.setValue {po : ProgramOptions} (hp : ParsedTable po) {arg name : String}
    (hn : po.optionNamed arg = .ok name) (value : String) :
    ParsedTable (po.setValue name value) where
  options := hp.options
  aliases := hp.aliases
  help := by
    have hname := optionNamed_isOption hp.options hp.aliases hn
    have hne : "help" ≠ name := by rintro rfl; exact absurd hname (by decide)
    simp [ProgramOptions.setValue, hne, hp.help]
  verbose := by
    simp only [ProgramOptions.setValue]
    split_ifs
    · rfl
    · exact hp.verbose

theorem parse_parsedTable (argv : List String) {r : ParseEnd} {po : ProgramOptions}
    (h : createOtpuOptions.parse argv = .ok (r, po)) : ParsedTable po :=
  ProgramOptions.parseArgs_keeps ParsedTable (fun _ _ _ hp hn => hp.setValue hn _)
    (fun _ _ _ _ hp hn _ => hp.setValue hn _) _ _ ⟨rfl, rfl, rfl, rfl⟩ h

/-! ## What `to_config` returns -/

/-- What the test application's pacing needs of the transfer settings beyond
`pcie_sim_config_validate`: bursts of at least one transfer, and no more transfers a burst
than the rate allows a second. -/
structure BurstPaced (t : PcieSimTransferConfig) : Prop where
  burstLow : 1 ≤ t.burstCount.toNat
  burstHigh : t.burstCount.toNat ≤ t.rateHz.toNat

theorem pcieSimPatternSmallFastConfig_paced : BurstPaced pcieSimPatternSmallFastConfig :=
  ⟨by decide, by decide⟩

theorem pcieSimPatternLargeBurstConfig_paced : BurstPaced pcieSimPatternLargeBurstConfig :=
  ⟨by decide, by decide⟩

theorem pcieSimPatternMixedConfig_paced : BurstPaced pcieSimPatternMixedConfig :=
  ⟨by decide, by decide⟩

/-- A predefined pattern is paced. -/
theorem pcieSimConfigSetPattern_paced (config : PcieSimTestConfig) {pattern : PcieSimPattern}
    (h : pattern ≠ .custom) : BurstPaced (pcieSimConfigSetPattern config pattern).2.transfer := by
  cases pattern
  · exact pcieSimPatternSmallFastConfig_paced
  · exact pcieSimPatternLargeBurstConfig_paced
  · exact pcieSimPatternMixedConfig_paced
  · exact absurd rfl h

theorem ReturnsOrInvalid.and {cause : Prop} {α : Type} {x : Except StdException α}
    {p q : α → Prop} (hp : ReturnsOrInvalid cause x p) (hq : ReturnsOrInvalid cause x q) :
    ReturnsOrInvalid cause x fun a => p a ∧ q a := by
  cases x with
  | ok a => exact ⟨hp, hq⟩
  | error e => exact hp

/-- With a value for `verbose`, `to_config` sets `PCIE_SIM_CONFIG_VERBOSE`. -/
theorem ProgramOptions.configLogging_verbose {po : ProgramOptions}
    (h : po.hasOption "verbose" = true) (config : PcieSimTestConfig) :
    (po.configLogging config).flags &&& pcieSimConfigVerbose = pcieSimConfigVerbose := by
  unfold ProgramOptions.configLogging
  dsimp only
  rw [if_pos h]
  exact UInt32.or_and_self _ _

section NumericValues

variable {po : ProgramOptions} (hv : NumericValues po)
include hv

theorem NumericValues.configPattern_paced (config : PcieSimTestConfig) :
    ReturnsOrInvalid (HoldsTrue po) (po.configPattern config) fun c => BurstPaced c.transfer := by
  unfold ProgramOptions.configPattern
  dsimp only
  split_ifs with hp
  · refine (hv.getInt (rfl : numericRange "size" = _)).bind fun size hs => ?_
    refine (hv.getInt (rfl : numericRange "rate" = _)).bind fun rate hr => ?_
    refine ReturnsOrInvalid.pure ?_
    have hr' := toUInt32_toNat (n := rate) (by omega) (by omega)
    rw [pcieSimConfigSetCustomPattern_of_valid config
      (by rw [toUInt32_toNat (by omega) (by omega)]; omega) (by omega)]
    exact ⟨Nat.le_refl 1, by dsimp only; rw [UInt32.toNat_one]; omega⟩
  · exact ReturnsOrInvalid.pure (pcieSimConfigSetPattern_paced config hp)

/-- What the test application reads of a configuration `to_config` returns, beyond
`pcie_sim_config_validate`: paced bursts, and the VERBOSE flag once `verbose` has a value. -/
theorem NumericValues.toConfig_paced (hverb : po.hasOption "verbose" = true) :
    ReturnsOrInvalid (HoldsTrue po) po.toConfig fun c =>
      BurstPaced c.transfer ∧ c.flags &&& pcieSimConfigVerbose = pcieSimConfigVerbose := by
  refine (hv.getInt (rfl : numericRange "num-devices" = _)).bind fun n _ => ?_
  refine ((hv.configPattern _).and (hv.configPattern_paced _)).bind fun c ⟨hc, hp⟩ => ?_
  obtain ⟨-, ht, hs, -, -⟩ := pcieSimConfigSetErrorScenario_spec c
    (pcieSimParseErrorScenario (po.getString "error-scenario"))
  refine (hv.configStress (by rw [hs, hc.2.1]; exact pcieSimConfigInit_stress)).bind
    fun c' hc' => ReturnsOrInvalid.pure ⟨?_, po.configLogging_verbose hverb c'⟩
  rw [ProgramOptions.configLogging_transfer, hc'.2.1, ht]
  exact hp

end NumericValues

/-! ## The application -/

/-- `pattern_based_transfer_test`'s transfer count and pause between transfers, in µs.
`none` where the bounds of `size_dist` are out of order or `1000000 / config.rate_hz`
divides by zero. -/
def patternSchedule (config : PcieSimTransferConfig) : Option (UInt32 × UInt32) :=
  if config.maxSize < config.minSize then none
  else match config.pattern with
    | .smallFast => if config.rateHz = 0 then none else some (100, 1000000 / config.rateHz)
    | .largeBurst => some (config.burstCount, config.burstIntervalMs * 1000)
    | .mixed | .custom => if config.rateHz = 0 then none else some (50, 1000000 / config.rateHz)

/-- The pause `stress_test_worker` makes after each transfer, in µs, if it makes one. `none`
where the bounds of `size_dist` are out of order or
`1000000 / (config.rate_hz / config.burst_count)` divides by zero. -/
def stressDelay (config : PcieSimTransferConfig) : Option (Option UInt32) :=
  if config.maxSize < config.minSize then none
  else if config.rateHz > 0 then
    if config.burstCount = 0 ∨ config.rateHz / config.burstCount = 0 then none
    else some (some (1000000 / (config.rateHz / config.burstCount)))
  else some none

/-- A test `main` starts: a pattern test on a device, or a stress worker. -/
inductive AppTest
  | pattern (deviceId : ℕ) (numTransfers interTransferDelayUs : UInt32)
  | stress (deviceId threadId : ℕ) (delayUs : Option UInt32)
deriving Repr, DecidableEq

/-- Where `main` gets to without throwing: the exit of a `parse` that returned false, the
invalid-configuration exit, the tests it starts, or a division by zero. -/
inductive AppRun
  | exited (code : ℕ)
  | invalidConfig
  | tests (started : List AppTest)
  | undefined
deriving Repr, DecidableEq

/-- `run_pattern_tests`: one pattern test per device. -/
def runPatternTests (config : PcieSimTestConfig) : Option (List AppTest) :=
  (List.range config.numDevices.toNat).mapM fun d =>
    (patternSchedule config.transfer).map fun s => .pattern d s.1 s.2

/-- `run_stress_tests`: with `PCIE_SIM_CONFIG_ENABLE_STRESS`, one worker per thread, on device
`i % num_devices`. -/
def runStressTests (config : PcieSimTestConfig) : Option (List AppTest) :=
  if config.flags &&& pcieSimConfigEnableStress = 0 then some []
  else (List.range config.stress.numThreads.toNat).mapM fun i =>
    if config.numDevices = 0 then none
    else (stressDelay config.transfer).map fun delay =>
      .stress (i % config.numDevices.toNat) i delay

/-- What `main` does with the configuration `to_config` returned. -/
def appRunConfig (config : PcieSimTestConfig) : AppRun :=
  if pcieSimConfigValidate config ≠ 0 then .invalidConfig
  else match runPatternTests config, runStressTests config with
    | some ps, some ss => .tests (ps ++ ss)
    | _, _ => .undefined

/-- `main` of the enhanced test application, up to the calls the tests make; an exception it
does not catch is the `error`. -/
def testAppMain (argv : List String) : Except StdException AppRun :=
  (createOtpuOptions.parse argv).bind fun (r, po) =>
    if r.toBool then po.toConfig.map appRunConfig
    else .ok (.exited (if po.hasOption "help" then 0 else 1))

/-! ## The schedule -/

theorem mapM_eq_some_map {α β : Type} (l : List α) {f : α → Option β} {g : α → β}
    (h : ∀ a, f a = some (g a)) : l.mapM f = some (l.map g) := by
  induction l with
  | nil => rfl
  | cons a l ih => rw [List.mapM_cons, h, ih]; rfl

theorem patternSchedule_isSome {t : PcieSimTransferConfig} (hv : TransferValid t) :
    ∃ s, patternSchedule t = some s := by
  have hmin : ¬ t.maxSize < t.minSize := by
    simp only [UInt32.lt_iff_toNat_lt, not_lt]; exact hv.sizeOrder
  have hr : t.rateHz ≠ 0 := fun h => by
    have := hv.rateLow; rw [h] at this; exact absurd this (by decide)
  unfold patternSchedule
  rw [if_neg hmin]
  cases t.pattern <;> simp [hr]

theorem stressDelay_isSome {t : PcieSimTransferConfig} (hv : TransferValid t)
    (hp : BurstPaced t) : ∃ d, stressDelay t = some d := by
  have hmin : ¬ t.maxSize < t.minSize := by
    simp only [UInt32.lt_iff_toNat_lt, not_lt]; exact hv.sizeOrder
  have hb : t.burstCount ≠ 0 := fun h => by
    have := hp.burstLow; rw [h] at this; exact absurd this (by decide)
  have hq : t.rateHz / t.burstCount ≠ 0 := fun h => by
    have h' := congrArg UInt32.toNat h
    rw [UInt32.toNat_div] at h'
    have := Nat.div_pos hp.burstHigh (by have := hp.burstLow; omega)
    simp only [UInt32.toNat_zero] at h'
    omega
  unfold stressDelay
  rw [if_neg hmin]
  split_ifs with h0 h1
  · exact absurd h1 (by simp [hb, hq])
  · exact ⟨_, rfl⟩
  · exact ⟨_, rfl⟩

/-- A configuration `pcie_sim_config_validate` accepts, with paced bursts, starts its tests
with every division defined. -/
theorem appRunConfig_tests {c : PcieSimTestConfig} (hv : ConfigValid c)
    (hp : BurstPaced c.transfer) : ∃ ts, appRunConfig c = .tests ts := by
  obtain ⟨s, hs⟩ := patternSchedule_isSome hv.transfer
  obtain ⟨d, hd⟩ := stressDelay_isSome hv.transfer hp
  have hn : c.numDevices ≠ 0 := fun h => by
    have := hv.devicesLow; rw [h] at this; exact absurd this (by decide)
  have hps : runPatternTests c = some _ :=
    mapM_eq_some_map _ (g := fun i => .pattern i s.1 s.2) fun i => by rw [hs]; rfl
  have hss : ∃ ss, runStressTests c = some ss := by
    unfold runStressTests
    by_cases hf : c.flags &&& pcieSimConfigEnableStress = 0
    · exact ⟨_, if_pos hf⟩
    · rw [if_neg hf]
      exact ⟨_, mapM_eq_some_map _ (g := fun i => .stress (i % c.numDevices.toNat) i d)
        fun i => by rw [if_neg hn, hd]; rfl⟩
  obtain ⟨ss, hss⟩ := hss
  rw [appRunConfig, if_neg (not_not.2 ((pcieSimConfigValidate_eq_zero_iff c).2 hv)), hps, hss]
  exact ⟨_, rfl⟩

/-! ## Results -/

/-- For every argument vector, `main` throws out of `std::stoi`, exits with status 1 where
`parse` returns false (`--help` included, as no option is called `help`), or starts its tests.
It never reports an invalid configuration, and none of its divisions divides by zero. -/
theorem testApp_main_defined (argv : List String) {run : AppRun}
    (h : testAppMain argv = .ok run) : run = .exited 1 ∨ ∃ ts, run = .tests ts := by
  cases hp : createOtpuOptions.parse argv with
  | error e => rw [testAppMain, hp] at h; cases h
  | ok rp =>
    obtain ⟨r, po⟩ := rp
    have htab := parse_parsedTable argv hp
    obtain ⟨hv, -⟩ := parseArgs_numericValues argv.tail rfl numericValues_createOtpuOptions hp
    rw [testAppMain, hp] at h
    dsimp only [Except.bind] at h
    split_ifs at h with hr hh
    · have hverb : po.hasOption "verbose" = true := htab.verbose
      have hc := hv.toConfig.and (hv.toConfig_paced hverb)
      cases hcfg : po.toConfig with
      | error e => rw [hcfg] at h; cases h
      | ok c =>
        rw [hcfg] at h hc
        cases h
        exact .inr (appRunConfig_tests hc.1 hc.2.1)
    · simp [ProgramOptions.hasOption, htab.help] at hh
    · cases h
      exact .inl rfl

/-- Two stress threads on the large-burst pattern: a pattern test of ten transfers 100 ms
apart on device 0, and two workers on device 0 pausing 100 ms after each transfer. -/
theorem testApp_main_defined_stress :
    testAppMain ["pcie_sim_test", "--threads", "2", "--pattern", "large-burst"] =
      .ok (.tests [.pattern 0 10 100000, .stress 0 0 (some 100000), .stress 0 1 (some 100000)]) ∧
    (AppRun.tests [.pattern 0 10 100000, .stress 0 0 (some 100000), .stress 0 1 (some 100000)] =
        .exited 1 ∨
      ∃ ts, AppRun.tests [.pattern 0 10 100000, .stress 0 0 (some 100000),
        .stress 0 1 (some 100000)] = .tests ts) :=
  have h : testAppMain ["pcie_sim_test", "--threads", "2", "--pattern", "large-burst"] =
      .ok (.tests [.pattern 0 10 100000, .stress 0 0 (some 100000), .stress 0 1 (some 100000)]) :=
    rfl
  ⟨h, testApp_main_defined _ h⟩

/-- Whatever the arguments, every configuration `to_config` returns after `parse` has
`PCIE_SIM_CONFIG_VERBOSE` set. `verbose` has the default value `"false"`, and `to_config` asks
only `has_option("verbose")`. -/
theorem options_always_verbose (argv : List String) {r : ParseEnd} {po : ProgramOptions}
    (hp : createOtpuOptions.parse argv = .ok (r, po)) :
    ∀ c, po.toConfig = .ok c → c.flags &&& pcieSimConfigVerbose = pcieSimConfigVerbose := by
  obtain ⟨hv, -⟩ := parseArgs_numericValues argv.tail rfl numericValues_createOtpuOptions hp
  intro c hc
  have h := hv.toConfig_paced (parse_parsedTable argv hp).verbose
  rw [hc] at h
  exact h.2

theorem options_always_verbose_two_devices :
    createOtpuOptions.parse ["pcie_sim_test", "-d", "2"] =
      .ok (.accepted, createOtpuOptions.setValue "num-devices" "2") ∧
    ∀ c, (createOtpuOptions.setValue "num-devices" "2").toConfig = .ok c →
      c.flags &&& pcieSimConfigVerbose = pcieSimConfigVerbose :=
  have h : createOtpuOptions.parse ["pcie_sim_test", "-d", "2"] =
      .ok (.accepted, createOtpuOptions.setValue "num-devices" "2") := rfl
  ⟨h, options_always_verbose _ h⟩

end PcieSim.Utils

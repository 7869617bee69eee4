import PcieSim.Utils.Config

/-!
# `utils/options.cpp`: the command-line front end

`ProgramOptions::create_otpu_options` builds a table of nine options, five of them numeric,
with a validator that reads the value with `std::stoi`. `parse` walks `argv`, taking the
argument after an option as its value unless there is none or it starts with `-` (the option
then holds `"true"`). `to_config` reads the values back with `get<int>` and
`get<std::string>` into a `pcie_sim_test_config`.

`std::stoi` throws on a value that is not a number in `int` range, and nothing between it
and `main` catches the exception. Both entry points can therefore throw: a validator on
`--num-devices abc`, and `to_config` on a numeric option left holding `"true"`
(`options_stoi_throws`). Those are the only ways: `parse` throws only from `std::stoi` on an
argument given after a numeric option, and every configuration `to_config` returns passes
`pcie_sim_config_validate` (`options_config_valid`).

Each argument is a C string, so it holds no NUL; the model takes any `String`.
-/

namespace PcieSim.Utils

/-! ## `std::stoi` -/

/-- The two exceptions `std::stoi` throws. -/
inductive StdException
  | invalidArgument
  | outOfRange
deriving Repr, DecidableEq

/-- `isspace` in the C locale: space, and `\t \n \v \f \r` (9 to 13). -/
def isSpace (c : Char) : Bool := c.toNat = 32 || (9 ≤ c.toNat && c.toNat ≤ 13)

/-- The value of a run of decimal digits. -/
def digitsValue (digits : List Char) : ℕ :=
  digits.foldl (fun n c => 10 * n + (c.toNat - '0'.toNat)) 0

/-- The sign `strtol` reads, and what follows it. -/
def splitSign : List Char → Bool × List Char
  | '-' :: rest => (true, rest)
  | '+' :: rest => (false, rest)
  | rest => (false, rest)

/-- `std::stoi(s)` in base 10, as `strtol` reads it: leading white space, an optional sign, the
longest run of digits, and nothing after that. No digit throws `std::invalid_argument`; a
value outside `int` throws `std::out_of_range`. -/
def stoi (s : String) : Except StdException Int :=
  let (negative, rest) := splitSign (s.toList.dropWhile isSpace)
  let digits := rest.takeWhile Char.isDigit
  if digits = [] then .error .invalidArgument
  else
    let n : Int := if negative then -(digitsValue digits : Int) else digitsValue digits
    if n < -2 ^ 31 ∨ 2 ^ 31 - 1 < n then .error .outOfRange else .ok n

/-! ## The option table -/

/-- `ProgramOptions::Option` without its help text: the default value, whether the option is
required, and the validator, which may throw. -/
structure CliOption where
  defaultValue : String
  required : Bool
  validator : Option (String → Except StdException Bool)

/-- `ProgramOptions`: `options` lists the entries of `options_`; `aliases` and `values` are the
other two `std::map`s. `program_name_` only feeds the help text and is left out. -/
structure ProgramOptions where
  options : List (String × CliOption)
  aliases : String → Option String
  values : String → Option String

/-- A fresh `ProgramOptions`. -/
def ProgramOptions.empty : ProgramOptions := ⟨[], fun _ => none, fun _ => none⟩

/-- `values_[name] = value`. -/
def ProgramOptions.setValue (po : ProgramOptions) (name value : String) : ProgramOptions :=
  { po with values := fun k => if k = name then some value else po.values k }

/-- `add_option`: the entry, and its default as the value unless the default is empty. -/
def ProgramOptions.addOption (po : ProgramOptions) (name : String) (option : CliOption) :
    ProgramOptions :=
  let po := { po with options := (name, option) :: po.options.filter (·.1 != name) }
  if option.defaultValue.isEmpty then po else po.setValue name option.defaultValue

/-- `add_alias`. -/
def ProgramOptions.addAlias (po : ProgramOptions) (aliasName option : String) : ProgramOptions :=
  { po with aliases := fun k => if k = aliasName then some option else po.aliases k }

/-- The validators of `create_otpu_options` that read their value with `std::stoi` and accept
the range `lo .. hi`. -/
def rangeValidator (lo hi : Int) (value : String) : Except StdException Bool :=
  (stoi value).map fun n => decide (lo ≤ n ∧ n ≤ hi)

/-- The validators that accept one of a list of names. -/
def choiceValidator (choices : List String) (value : String) : Except StdException Bool :=
  .ok (choices.contains value)

/-- `ProgramOptions::create_otpu_options`. -/
def createOtpuOptions : ProgramOptions :=
  ProgramOptions.empty
    |>.addOption "num-devices" ⟨"1", false, some (rangeValidator 1 8)⟩
    |>.addOption "pattern"
      ⟨"mixed", false, some (choiceValidator ["small-fast", "large-burst", "mixed", "custom"])⟩
    |>.addOption "size" ⟨"4096", false, some (rangeValidator 64 4194304)⟩
    |>.addOption "rate" ⟨"1000", false, some (rangeValidator 1 10000)⟩
    |>.addOption "log-csv" ⟨"", false, none⟩
    |>.addOption "verbose" ⟨"false", false, none⟩
    |>.addOption "error-scenario"
      ⟨"none", false, some (choiceValidator ["timeout", "corruption", "overrun", "none"])⟩
    |>.addOption "threads" ⟨"1", false, some (rangeValidator 1 64)⟩
    |>.addOption "duration" ⟨"10", false, some (rangeValidator 1 3600)⟩
    |>.addAlias "d" "num-devices"
    |>.addAlias "p" "pattern"
    |>.addAlias "s" "size"
    |>.addAlias "r" "rate"
    |>.addAlias "l" "log-csv"
    |>.addAlias "v" "verbose"
    |>.addAlias "e" "error-scenario"
    |>.addAlias "t" "threads"
    |>.addAlias "dur" "duration"

/-! ## `parse` -/

/-- How `parse` ends when it does not throw: `true`, or `false` after the help text or a
diagnostic on `std::cerr`. -/
inductive ParseEnd
  | accepted
  | help
  | unknownOption (arg : String)
  | invalidValue (arg value : String)
  | invalidArgument (arg : String)
  | requiredMissing
deriving Repr, DecidableEq

/-- The value `parse` returns. -/
def ParseEnd.toBool : ParseEnd → Bool
  | .accepted => true
  | _ => false

/-- The option an argument names, or how `parse` stops on it: `--help` / `-h`, `--name` of a
known option, `-alias` of a known alias, and anything else. -/
def ProgramOptions.optionNamed (po : ProgramOptions) (arg : String) : Except ParseEnd String :=
  if arg = "--help" ∨ arg = "-h" then .error .help
  else if arg.toList.take 2 = ['-', '-'] then
    let name := String.mk (arg.toList.drop 2)
    if (po.options.lookup name).isSome then .ok name else .error (.unknownOption arg)
  else if arg.toList.take 1 = ['-'] ∧ 1 < arg.length then
    match po.aliases (String.mk (arg.toList.drop 1)) with
    | some name => .ok name
    | none => .error (.unknownOption arg)
  else .error (.invalidArgument arg)

/-- `options_[name].validator` applied to `value`, if there is one: `operator[]` on a name the
table lacks (an alias's target) makes a default `Option`, which has none. -/
def ProgramOptions.validate (po : ProgramOptions) (name value : String) :
    Except StdException Bool :=
  match (po.options.lookup name).bind CliOption.validator with
  | some validator => validator value
  | none => .ok true

/-- Every required option has a value. -/
def ProgramOptions.requiredPresent (po : ProgramOptions) : Bool :=
  po.options.all fun e => !e.2.required || (po.values e.1).isSome

/-- The loop of `parse` over `argv[1..]`. An option takes the next argument as its value unless
there is none or it starts with `-`; it then holds `"true"`, and the loop goes on from that
argument. -/
def ProgramOptions.parseArgs (po : ProgramOptions) :
    List String → Except StdException (ParseEnd × ProgramOptions)
  | [] => .ok (if po.requiredPresent then .accepted else .requiredMissing, po)
  | [arg] =>
    match po.optionNamed arg with
    | .error stop => .ok (stop, po)
    | .ok name => (po.setValue name "true").parseArgs []
  | arg :: value :: rest =>
    match po.optionNamed arg with
    | .error stop => .ok (stop, po)
    | .ok name =>
      if value.front ≠ '-' then
        match po.validate name value with
        | .error e => .error e
        | .ok false => .ok (.invalidValue arg value, po)
        | .ok true => (po.setValue name value).parseArgs rest
      else (po.setValue name "true").parseArgs (value :: rest)

/-- `ProgramOptions::parse(argc, argv)`; `argv[0]` only names the program in the help text. -/
def ProgramOptions.parse (po : ProgramOptions) (argv : List String) :
    Except StdException (ParseEnd × ProgramOptions) :=
  po.parseArgs argv.tail

/-! ## `to_config` -/

/-- `get<int>`: `std::stoi` of the value, 0 if there is none. -/
def ProgramOptions.getInt (po : ProgramOptions) (name : String) : Except StdException Int :=
  match po.values name with
  | some value => stoi value
  | none => .ok 0

/-- `get<std::string>`: the value, `""` if there is none. -/
def ProgramOptions.getString (po : ProgramOptions) (name : String) : String :=
  (po.values name).getD ""

/-- `has_option`. -/
def ProgramOptions.hasOption (po : ProgramOptions) (name : String) : Bool :=
  (po.values name).isSome

/-- An `int` stored into a `uint32_t` field. -/
def toUInt32 (n : Int) : UInt32 := UInt32.ofNat (n % 2 ^ 32).toNat

/-- The transfer pattern of `to_config`. C++ leaves the order of the two `get<int>` calls
unspecified; they are made left to right here. -/
def ProgramOptions.configPattern (po : ProgramOptions) (config : PcieSimTestConfig) :
    Except StdException PcieSimTestConfig :=
  let pattern := pcieSimParsePattern (po.getString "pattern")
  if pattern = .custom then do
    let size ← po.getInt "size"
    let rate ← po.getInt "rate"
    pure (pcieSimConfigSetCustomPattern config (toUInt32 size) (toUInt32 rate)).2
  else pure (pcieSimConfigSetPattern config pattern).2

/-- The stress settings of `to_config`, made only for more than one thread. -/
def ProgramOptions.configStress (po : ProgramOptions) (config : PcieSimTestConfig) :
    Except StdException PcieSimTestConfig := do
  let numThreads ← po.getInt "threads"
  if numThreads > 1 then
    let duration ← po.getInt "duration"
    pure { config with
      stress := { config.stress with
        loadType := .stress
        numThreads := toUInt32 numThreads
        durationSeconds := toUInt32 duration }
      flags := config.flags ||| pcieSimConfigEnableStress }
  else pure config

/-- The CSV log and verbosity settings of `to_config`: `strncpy` copies at most 255 bytes of
the file name. -/
def ProgramOptions.configLogging (po : ProgramOptions) (config : PcieSimTestConfig) :
    PcieSimTestConfig :=
  let csvFile := po.getString "log-csv"
  let config := if csvFile.isEmpty then config else { config with
    logging := { config.logging with csvFilename := csvFile.toUTF8.toList.take 255 }
    flags := config.flags ||| pcieSimConfigEnableLogging }
  if po.hasOption "verbose" then { config with flags := config.flags ||| pcieSimConfigVerbose }
  else config

/-- `ProgramOptions::to_config`. -/
def ProgramOptions.toConfig (po : ProgramOptions) : Except StdException PcieSimTestConfig := do
  let numDevices ← po.getInt "num-devices"
  let config ← po.configPattern { pcieSimConfigInit with numDevices := toUInt32 numDevices }
  let config := (pcieSimConfigSetErrorScenario config
    (pcieSimParseErrorScenario (po.getString "error-scenario"))).2
  let config ← po.configStress config
  pure (po.configLogging config)

/-! ## The parse loop

`parse` changes nothing but `values_`, and only in two ways: an option set to `"true"`, or
set to a value its validator accepted. -/

@[simp] theorem ProgramOptions.setValue_options (po : ProgramOptions) (name value : String) :
    (po.setValue name value).options = po.options := rfl

@[simp] theorem ProgramOptions.validate_setValue (po : ProgramOptions) (name value : String) :
    (po.setValue name value).validate = po.validate := rfl

section Loop

variable (Inv : ProgramOptions → Prop)

/-- Whatever `parse` ends with, the object it leaves keeps every property that storing
`"true"` and storing an accepted value keep, under a name an argument names. -/
theorem ProgramOptions.parseArgs_keeps
    (keepTrue : ∀ po arg name, Inv po → po.optionNamed arg = .ok name →
      Inv (po.setValue name "true"))
    (keepValid : ∀ po arg name value, Inv po → po.optionNamed arg = .ok name →
      po.validate name value = .ok true → Inv (po.setValue name value))
    (po : ProgramOptions) (args : List String) (hinv : Inv po) {r : ParseEnd}
    {po' : ProgramOptions} (h : po.parseArgs args = .ok (r, po')) : Inv po' := by
  induction po, args using ProgramOptions.parseArgs.induct with
  | case1 po =>
    simp only [ProgramOptions.parseArgs, Except.ok.injEq, Prod.mk.injEq] at h
    exact h.2 ▸ hinv
  | case2 po arg stop hn =>
    simp only [ProgramOptions.parseArgs, hn, Except.ok.injEq, Prod.mk.injEq] at h
    exact h.2 ▸ hinv
  | case3 po arg name hn ih =>
    simp only [ProgramOptions.parseArgs, hn] at h
    exact ih (keepTrue po arg name hinv hn) h
  | case4 po arg value rest stop hn =>
    simp only [ProgramOptions.parseArgs, hn, Except.ok.injEq, Prod.mk.injEq] at h
    exact h.2 ▸ hinv
  | case5 po arg value rest name hn hf e hv =>
    simp only [ProgramOptions.parseArgs, hn, if_pos hf, hv, reduceCtorEq] at h
  | case6 po arg value rest name hn hf hv =>
    simp only [ProgramOptions.parseArgs, hn, if_pos hf, hv, Except.ok.injEq, Prod.mk.injEq] at h
    exact h.2 ▸ hinv
  | case7 po arg value rest name hn hf hv ih =>
    simp only [ProgramOptions.parseArgs, hn, if_pos hf, hv] at h
    exact ih (keepValid po arg name value hinv hn hv) h
  | case8 po arg value rest name hn hf ih =>
    simp only [ProgramOptions.parseArgs, hn, if_neg hf] at h
    exact ih (keepTrue po arg name hinv hn) h

end Loop

@[simp] theorem ProgramOptions.optionNamed_setValue (po : ProgramOptions) (name value : String) :
    (po.setValue name value).optionNamed = po.optionNamed := rfl

/-- `parse` throws only what a validator throws on a value given right after an argument
that names its option. -/
theorem ProgramOptions.parseArgs_error (po : ProgramOptions) (args : List String)
    {e : StdException} (h : po.parseArgs args = .error e) :
    ∃ pre arg value rest name, args = pre ++ arg :: value :: rest ∧
      po.optionNamed arg = .ok name ∧ po.validate name value = .error e := by
  induction po, args using ProgramOptions.parseArgs.induct with
  | case1 po => simp only [ProgramOptions.parseArgs, reduceCtorEq] at h
  | case2 po arg stop hn => simp only [ProgramOptions.parseArgs, hn, reduceCtorEq] at h
  | case3 po arg name hn ih =>
    simp only [ProgramOptions.parseArgs, hn] at h
    obtain ⟨pre, _, _, _, _, hargs, -⟩ := ih h
    exact absurd hargs (by simp)
  | case4 po arg value rest stop hn =>
    simp only [ProgramOptions.parseArgs, hn, reduceCtorEq] at h
  | case5 po arg value rest name hn hf e' hv =>
    simp only [ProgramOptions.parseArgs, hn, if_pos hf, hv, Except.error.injEq] at h
    exact ⟨[], arg, value, rest, name, rfl, hn, h ▸ hv⟩
  | case6 po arg value rest name hn hf hv =>
    simp only [ProgramOptions.parseArgs, hn, if_pos hf, hv, reduceCtorEq] at h
  | case7 po arg value rest name hn hf hv ih =>
    simp only [ProgramOptions.parseArgs, hn, if_pos hf, hv] at h
    obtain ⟨pre, a, v, r, n, hargs, hn', he⟩ := ih h
    exact ⟨arg :: value :: pre, a, v, r, n, by simp [hargs], by simpa using hn',
      by simpa using he⟩
  | case8 po arg value rest name hn hf ih =>
    simp only [ProgramOptions.parseArgs, hn, if_neg hf] at h
    obtain ⟨pre, a, v, r, n, hargs, hn', he⟩ := ih h
    exact ⟨arg :: pre, a, v, r, n, by simp [hargs], by simpa using hn', by simpa using he⟩

/-! ## The option table of `create_otpu_options` -/

/-- The numeric options of `create_otpu_options` and the ranges their validators accept. -/
def numericRange (name : String) : Option (Int × Int) :=
  if name = "num-devices" then some (1, 8)
  else if name = "size" then some (64, 4194304)
  else if name = "rate" then some (1, 10000)
  else if name = "threads" then some (1, 64)
  else if name = "duration" then some (1, 3600)
  else none

theorem createOtpuOptions_options : createOtpuOptions.options =
    [("duration", ⟨"10", false, some (rangeValidator 1 3600)⟩),
     ("threads", ⟨"1", false, some (rangeValidator 1 64)⟩),
     ("error-scenario",
       ⟨"none", false, some (choiceValidator ["timeout", "corruption", "overrun", "none"])⟩),
     ("verbose", ⟨"false", false, none⟩),
     ("log-csv", ⟨"", false, none⟩),
     ("rate", ⟨"1000", false, some (rangeValidator 1 10000)⟩),
     ("size", ⟨"4096", false, some (rangeValidator 64 4194304)⟩),
     ("pattern",
       ⟨"mixed", false, some (choiceValidator ["small-fast", "large-burst", "mixed", "custom"])⟩),
     ("num-devices", ⟨"1", false, some (rangeValidator 1 8)⟩)] := rfl

/-- A numeric option is checked by its range validator; any other name by a validator that
cannot throw. -/
theorem createOtpuOptions_validate (name value : String) :
    (∃ lo hi, numericRange name = some (lo, hi) ∧
      createOtpuOptions.validate name value = rangeValidator lo hi value) ∨
    (numericRange name = none ∧ ∃ b, createOtpuOptions.validate name value = .ok b) := by
  by_cases h1 : name = "num-devices"
  · exact .inl ⟨1, 8, by rw [h1]; rfl, by rw [h1]; rfl⟩
  by_cases h2 : name = "size"
  · exact .inl ⟨64, 4194304, by rw [h2]; rfl, by rw [h2]; rfl⟩
  by_cases h3 : name = "rate"
  · exact .inl ⟨1, 10000, by rw [h3]; rfl, by rw [h3]; rfl⟩
  by_cases h4 : name = "threads"
  · exact .inl ⟨1, 64, by rw [h4]; rfl, by rw [h4]; rfl⟩
  by_cases h5 : name = "duration"
  · exact .inl ⟨1, 3600, by rw [h5]; rfl, by rw [h5]; rfl⟩
  refine .inr ⟨by simp [numericRange, h1, h2, h3, h4, h5], ?_⟩
  by_cases h6 : name = "pattern"
  · exact ⟨_, by rw [h6]; rfl⟩
  by_cases h7 : name = "error-scenario"
  · exact ⟨_, by rw [h7]; rfl⟩
  refine ⟨true, ?_⟩
  simp only [ProgramOptions.validate, createOtpuOptions_options, List.lookup_cons,
    beq_eq_false_iff_ne.mpr h1, beq_eq_false_iff_ne.mpr h2, beq_eq_false_iff_ne.mpr h3,
    beq_eq_false_iff_ne.mpr h4, beq_eq_false_iff_ne.mpr h5, beq_eq_false_iff_ne.mpr h6,
    beq_eq_false_iff_ne.mpr h7]
  cases name == "verbose" <;> cases name == "log-csv" <;> rfl

/-- A value a range validator accepts is a number in its range. -/
theorem rangeValidator_eq_ok_true {lo hi : Int} {value : String}
    (h : rangeValidator lo hi value = .ok true) : ∃ n, stoi value = .ok n ∧ lo ≤ n ∧ n ≤ hi := by
  unfold rangeValidator at h
  cases hs : stoi value with
  | error e => simp only [hs, Except.map, reduceCtorEq] at h
  | ok n =>
    simp only [hs, Except.map, Except.ok.injEq, decide_eq_true_eq] at h
    exact ⟨n, rfl, h⟩

/-- A range validator throws only what `std::stoi` throws. -/
theorem rangeValidator_eq_error {lo hi : Int} {value : String} {e : StdException}
    (h : rangeValidator lo hi value = .error e) : stoi value = .error e := by
  unfold rangeValidator at h
  cases hs : stoi value with
  | error e' => simpa only [hs, Except.map, Except.error.injEq] using h
  | ok n => simp only [hs, Except.map, reduceCtorEq] at h

/-- Every numeric option holds a value: `"true"`, or a number its validator accepts. -/
def NumericValues (po : ProgramOptions) : Prop :=
  ∀ name lo hi, numericRange name = some (lo, hi) → ∃ value, po.values name = some value ∧
    (value = "true" ∨ ∃ n, stoi value = .ok n ∧ lo ≤ n ∧ n ≤ hi)

/-- The defaults of `create_otpu_options` are numbers in range. -/
theorem numericValues_createOtpuOptions : NumericValues createOtpuOptions := by
  intro name lo hi h
  simp only [numericRange] at h
  split_ifs at h with h1 h2 h3 h4 h5 <;> cases h <;> subst name <;>
    exact ⟨_, rfl, .inr ⟨_, rfl, by decide, by decide⟩⟩

theorem NumericValues.setValue_true {po : ProgramOptions} (hv : NumericValues po)
    (name : String) : NumericValues (po.setValue name "true") := by
  intro k lo hi hk
  by_cases hkn : k = name
  · exact ⟨"true", by simp [ProgramOptions.setValue, hkn], .inl rfl⟩
  · simpa [ProgramOptions.setValue, hkn] using hv k lo hi hk

theorem NumericValues.setValue_valid {po : ProgramOptions} (hv : NumericValues po)
    (hopt : po.options = createOtpuOptions.options) {name value : String}
    (hval : po.validate name value = .ok true) : NumericValues (po.setValue name value) := by
  intro k lo hi hk
  by_cases hkn : k = name
  · subst hkn
    have hval' : createOtpuOptions.validate k value = .ok true := by
      rw [← hval]; unfold ProgramOptions.validate; rw [hopt]
    rcases createOtpuOptions_validate k value with ⟨lo', hi', hr, he⟩ | ⟨hr, -⟩
    · rw [hk, Option.some.injEq, Prod.mk.injEq] at hr
      obtain ⟨rfl, rfl⟩ := hr
      exact ⟨value, by simp [ProgramOptions.setValue], .inr (rangeValidator_eq_ok_true (he ▸ hval'))⟩
    · rw [hk] at hr; cases hr
  · simpa [ProgramOptions.setValue, hkn] using hv k lo hi hk

/-- `parse` run on `create_otpu_options` keeps its table and `NumericValues`. -/
theorem parseArgs_numericValues (args : List String) {po po' : ProgramOptions} {r : ParseEnd}
    (hopt : po.options = createOtpuOptions.options) (hv : NumericValues po)
    (h : po.parseArgs args = .ok (r, po')) :
    NumericValues po' ∧ po'.options = createOtpuOptions.options :=
  ProgramOptions.parseArgs_keeps (fun po => NumericValues po ∧ po.options = createOtpuOptions.options)
    (fun _ _ name hi _ => ⟨hi.1.setValue_true name, hi.2⟩)
    (fun _ _ _ _ hi _ hval => ⟨hi.1.setValue_valid hi.2 hval, hi.2⟩) po args ⟨hv, hopt⟩ h

/-! ## `to_config` -/

/-- `x` returns a value with property `p`, or throws `std::invalid_argument` while `cause`
holds. -/
def ReturnsOrInvalid {α : Type} (cause : Prop) (x : Except StdException α) (p : α → Prop) :
    Prop :=
  match x with
  | .ok a => p a
  | .error e => e = .invalidArgument ∧ cause

section ReturnsOrInvalid

variable {cause : Prop} {α β : Type} {x : Except StdException α} {p : α → Prop}
  {q : β → Prop}

theorem ReturnsOrInvalid.bind (hx : ReturnsOrInvalid cause x p)
    {f : α → Except StdException β} (hf : ∀ a, p a → ReturnsOrInvalid cause (f a) q) :
    ReturnsOrInvalid cause (x >>= f) q := by
  cases x with
  | error e => exact hx
  | ok a => exact hf a hx

theorem ReturnsOrInvalid.pure {a : α} (h : p a) : ReturnsOrInvalid cause (Pure.pure a) p := h

end ReturnsOrInvalid

/-- A numeric option holds `"true"`, on which `get<int>` throws `std::invalid_argument`. -/
def HoldsTrue (po : ProgramOptions) : Prop :=
  ∃ name lo hi, numericRange name = some (lo, hi) ∧ po.values name = some "true"

/-- The CSV and verbosity settings touch only `logging` and `flags`. -/
@[simp] theorem ProgramOptions.configLogging_numDevices (po : ProgramOptions)
    (config : PcieSimTestConfig) : (po.configLogging config).numDevices = config.numDevices := by
  unfold ProgramOptions.configLogging; dsimp only; split_ifs <;> rfl

@[simp] theorem ProgramOptions.configLogging_transfer (po : ProgramOptions)
    (config : PcieSimTestConfig) : (po.configLogging config).transfer = config.transfer := by
  unfold ProgramOptions.configLogging; dsimp only; split_ifs <;> rfl

@[simp] theorem ProgramOptions.configLogging_error (po : ProgramOptions)
    (config : PcieSimTestConfig) : (po.configLogging config).error = config.error := by
  unfold ProgramOptions.configLogging; dsimp only; split_ifs <;> rfl

@[simp] theorem ProgramOptions.configLogging_stress (po : ProgramOptions)
    (config : PcieSimTestConfig) : (po.configLogging config).stress = config.stress := by
  unfold ProgramOptions.configLogging; dsimp only; split_ifs <;> rfl

/-- An `int` in `0 .. 2^32 - 1` keeps its value in a `uint32_t` field. -/
theorem toUInt32_toNat {n : Int} (h0 : 0 ≤ n) (h1 : n < 2 ^ 32) : (toUInt32 n).toNat = n.toNat := by
  have h : (n % 2 ^ 32).toNat % 2 ^ 32 = n.toNat := by omega
  exact (BitVec.toNat_ofNat _ _).trans h

section NumericValues

variable {po : ProgramOptions} (hv : NumericValues po)
include hv

/-- `get<int>` of a numeric option is a number in its range, unless it holds `"true"`. -/
theorem NumericValues.getInt {name : String} {lo hi : Int} (hr : numericRange name = some (lo, hi)) :
    ReturnsOrInvalid (HoldsTrue po) (po.getInt name) fun n => lo ≤ n ∧ n ≤ hi := by
  obtain ⟨value, hval, hcase⟩ := hv name lo hi hr
  rcases hcase with rfl | ⟨n, hn, hrange⟩
  · simp only [ProgramOptions.getInt, hval]; exact ⟨rfl, name, lo, hi, hr, hval⟩
  · simp only [ProgramOptions.getInt, hval, hn]; exact hrange

/-- The transfer pattern `to_config` sets passes the transfer checks. -/
theorem NumericValues.configPattern (config : PcieSimTestConfig) :
    ReturnsOrInvalid (HoldsTrue po) (po.configPattern config) fun c =>
      c.numDevices = config.numDevices ∧ c.stress = config.stress ∧ TransferValid c.transfer := by
  unfold ProgramOptions.configPattern
  dsimp only
  split_ifs with hp
  · refine (hv.getInt (rfl : numericRange "size" = _)).bind fun size hs => ?_
    refine (hv.getInt (rfl : numericRange "rate" = _)).bind fun rate hr => ?_
    refine ReturnsOrInvalid.pure ?_
    have hs' := toUInt32_toNat (n := size) (by omega) (by omega)
    have hr' := toUInt32_toNat (n := rate) (by omega) (by omega)
    rw [pcieSimConfigSetCustomPattern_of_valid config (by omega) (by omega)]
    exact ⟨rfl, rfl, ⟨by dsimp only; omega, by dsimp only; omega, le_refl _,
      by dsimp only; omega, by dsimp only; omega⟩⟩
  · exact ReturnsOrInvalid.pure ⟨pcieSimConfigSetPattern_numDevices .., pcieSimConfigSetPattern_stress ..,
      pcieSimConfigSetPattern_valid config hp⟩

/-- The stress settings `to_config` makes stay within the checks. -/
theorem NumericValues.configStress {config : PcieSimTestConfig}
    (hc : config.stress.numThreads.toNat ≤ 64 ∧ config.stress.durationSeconds.toNat ≤ 3600) :
    ReturnsOrInvalid (HoldsTrue po) (po.configStress config) fun c =>
      c.numDevices = config.numDevices ∧ c.transfer = config.transfer ∧ c.error = config.error ∧
        c.stress.numThreads.toNat ≤ 64 ∧ c.stress.durationSeconds.toNat ≤ 3600 := by
  refine (hv.getInt (rfl : numericRange "threads" = _)).bind fun threads ht => ?_
  split_ifs with hmore
  · refine (hv.getInt (rfl : numericRange "duration" = _)).bind fun duration hd => ?_
    refine ReturnsOrInvalid.pure ⟨rfl, rfl, rfl, ?_, ?_⟩
    · rw [toUInt32_toNat (by omega) (by omega)]; omega
    · rw [toUInt32_toNat (by omega) (by omega)]; omega
  · exact ReturnsOrInvalid.pure ⟨rfl, rfl, rfl, hc⟩

/-- Every configuration `to_config` returns passes `pcie_sim_config_validate`; otherwise it
throws `std::invalid_argument`, and a numeric option holds `"true"`. -/
theorem NumericValues.toConfig : ReturnsOrInvalid (HoldsTrue po) po.toConfig ConfigValid := by
  refine (hv.getInt (rfl : numericRange "num-devices" = _)).bind fun n hn => ?_
  refine (hv.configPattern _).bind fun c hc => ?_
  obtain ⟨hd, ht, hs, hp0, hp1⟩ := pcieSimConfigSetErrorScenario_spec c
    (pcieSimParseErrorScenario (po.getString "error-scenario"))
  refine (hv.configStress (by rw [hs, hc.2.1]; exact pcieSimConfigInit_stress)).bind
    fun c' hc' => ?_
  obtain ⟨hd', ht', he', hth, hdu⟩ := hc'
  have hnum : (po.configLogging c').numDevices.toNat = n.toNat := by
    rw [ProgramOptions.configLogging_numDevices, hd', hd, hc.1]
    exact toUInt32_toNat (by omega) (by omega)
  refine ReturnsOrInvalid.pure ⟨by omega, by omega, ?_, ?_, ?_, ?_, ?_⟩
  · rw [ProgramOptions.configLogging_transfer, ht', ht]; exact hc.2.2
  · rw [ProgramOptions.configLogging_error, he']; exact hp0
  · rw [ProgramOptions.configLogging_error, he']; exact hp1
  · rw [ProgramOptions.configLogging_stress]; exact hth
  · rw [ProgramOptions.configLogging_stress]; exact hdu

end NumericValues

/-! ## Results -/

/-- On `--num-devices abc`, `parse` throws `std::invalid_argument` out of the validator's
`std::stoi`. With `--num-devices` as the last argument it stores `"true"` and returns true, and
`to_config` then throws `std::invalid_argument` out of `get<int>("num-devices")`. -/
theorem options_stoi_throws :
    (createOtpuOptions.parse ["pcie_sim_test", "--num-devices", "abc"]).map Prod.fst =
      .error .invalidArgument ∧
    (createOtpuOptions.parse ["pcie_sim_test", "--num-devices"]).map Prod.fst = .ok .accepted ∧
    ((createOtpuOptions.parse ["pcie_sim_test", "--num-devices"]).bind fun r => r.2.toConfig) =
      .error .invalidArgument :=
  ⟨rfl, rfl, rfl⟩

/-- Whatever `parse` ends with on `create_otpu_options`, when it does not throw, `to_config`
then returns a configuration that `pcie_sim_config_validate` accepts, or throws
`std::invalid_argument`, and then a numeric option holds `"true"`: one given as the last
argument or before another option, which `parse` stores without validating. -/
theorem options_config_valid (argv : List String) {r : ParseEnd} {po : ProgramOptions}
    (h : createOtpuOptions.parse argv = .ok (r, po)) :
    (∀ c, po.toConfig = .ok c → pcieSimConfigValidate c = 0) ∧
    (∀ e, po.toConfig = .error e → e = .invalidArgument ∧
      ∃ name lo hi, numericRange name = some (lo, hi) ∧ po.values name = some "true") := by
  obtain ⟨hv, -⟩ := parseArgs_numericValues argv.tail rfl numericValues_createOtpuOptions h
  have ht := hv.toConfig
  constructor
  · intro c hc
    rw [hc] at ht
    exact (pcieSimConfigValidate_eq_zero_iff c).mpr ht
  · intro e he
    rw [he] at ht
    exact ht

/-- `--threads` given last: `parse` stores `"true"` for it and returns true, and `to_config`
throws on it. -/
theorem options_config_valid_threads_last :
    createOtpuOptions.parse ["pcie_sim_test", "-d", "4", "--threads"] =
      .ok (.accepted, (createOtpuOptions.setValue "num-devices" "4").setValue "threads" "true") ∧
    (∀ c, ((createOtpuOptions.setValue "num-devices" "4").setValue "threads" "true").toConfig =
        .ok c → pcieSimConfigValidate c = 0) ∧
    (∀ e, ((createOtpuOptions.setValue "num-devices" "4").setValue "threads" "true").toConfig =
        .error e → e = .invalidArgument ∧ ∃ name lo hi, numericRange name = some (lo, hi) ∧
          ((createOtpuOptions.setValue "num-devices" "4").setValue "threads" "true").values name =
            some "true") :=
  have h : createOtpuOptions.parse ["pcie_sim_test", "-d", "4", "--threads"] =
      .ok (.accepted, (createOtpuOptions.setValue "num-devices" "4").setValue "threads" "true") :=
    rfl
  ⟨h, options_config_valid _ h⟩

/-- `parse` on `create_otpu_options` throws only what `std::stoi` throws on a value that
follows, in `argv[1..]`, an argument naming one of the five numeric options. -/
theorem options_parse_throws_only_stoi (argv : List String) {e : StdException}
    (h : createOtpuOptions.parse argv = .error e) :
    ∃ pre arg value rest, argv.tail = pre ++ arg :: value :: rest ∧
      (∃ name lo hi, createOtpuOptions.optionNamed arg = .ok name ∧
        numericRange name = some (lo, hi)) ∧ stoi value = .error e := by
  obtain ⟨pre, arg, value, rest, name, hargs, hn, hval⟩ :=
    createOtpuOptions.parseArgs_error argv.tail h
  refine ⟨pre, arg, value, rest, hargs, ?_⟩
  rcases createOtpuOptions_validate name value with ⟨lo, hi, hr, he⟩ | ⟨-, b, he⟩ <;>
    rw [he] at hval
  · exact ⟨⟨name, lo, hi, hn, hr⟩, rangeValidator_eq_error hval⟩
  · cases hval

theorem options_parse_throws_only_stoi_abc :
    createOtpuOptions.parse ["pcie_sim_test", "-v", "--size", "abc"] = .error .invalidArgument ∧
    ∃ pre arg value rest, ["pcie_sim_test", "-v", "--size", "abc"].tail =
        pre ++ arg :: value :: rest ∧
      (∃ name lo hi, createOtpuOptions.optionNamed arg = .ok name ∧
        numericRange name = some (lo, hi)) ∧ stoi value = .error .invalidArgument :=
  have h : createOtpuOptions.parse ["pcie_sim_test", "-v", "--size", "abc"] =
      .error .invalidArgument := rfl
  ⟨h, options_parse_throws_only_stoi _ h⟩

end PcieSim.Utils

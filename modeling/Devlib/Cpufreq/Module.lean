import Devlib.Target.Sysfs

/-!
# `CpufreqModule`

The methods of `devlib/module/cpufreq.py` as coroutines over the target's
operations, one definition per method under the method's name. A CPU argument
is an `int` or its sysfs name `'cpuN'`; both name the same sysfs directory.

## Implementation notes

`memoized_method` caches only answers of files the kernel never changes
(`scaling_available_governors`, the frequency tables), so a memoized call is
modelled as the read it caches. The `map_concurrently` of
`get_governor_tunables` reads files nothing writes while it runs, and is run
key after key. The tunable cache `self._governor_tunables` is the world's
`cache`; each lookup and each store is an operation of its own.
-/

namespace Devlib.Cpufreq

open Devlib.Async Devlib.Target Devlib.Text

/-- A coroutine of the module. -/
abbrev Asyn := Coro Op Op.Resp Error

/-- The CPU argument every method accepts: an `int`, or the sysfs name `'cpuN'`. -/
inductive CpuId where
  | num (n : ℤ)
  | name (n : ℕ)
  deriving DecidableEq

/-- The CPU number in the sysfs path. -/
def CpuId.index : CpuId → ℤ
  | .num n => n
  | .name n => n

/-- `'cpu{}'.format(cpu)` for an `int`, the string itself for a name. -/
def CpuId.sysfsName (cpu : CpuId) : String := "cpu" ++ toString cpu.index

/-! ## Target operations -/

/-- `target.read_value`. -/
def readValue (f : Sysfile) : Asyn String := .op (.readValue f) .done

/-- `target.read_int`. -/
def readInt (f : Sysfile) : Asyn ℤ := .op (.readInt f) .done

/-- `target.write_value`. -/
def writeValue (f : Sysfile) (v : PyVal) (verify : Bool) : Asyn Unit :=
  .op (.writeValue f v verify) .done

/-- `target.list_directory`. -/
def listDirectory (f : Sysfile) : Asyn (List String) := .op (.listDirectory f) .done

/-- `target.file_exists`. -/
def fileExists (f : Sysfile) : Asyn Bool := .op (.fileExists f) fun b => .done (.ok b)

/-- `target.list_online_cpus`. -/
def listOnlineCpus : Asyn (List ℤ) := .op .listOnlineCpus .done

/-- `self._governor_tunables[governor]`, `None` for a missing key. -/
def cacheGet (governor : String) : Asyn (Option TunableInfo) :=
  .op (.cacheGet governor) fun d => .done (.ok d)

/-- `self._governor_tunables[governor] = data`. -/
def cachePut (governor : String) (data : TunableInfo) : Asyn Unit :=
  .op (.cachePut governor data) fun _ => .done (.ok ())

/-- Await an operation and keep its error as a value, for `try ... except`. -/
def attempt {α : Type} (o : Op) (h : o.Resp = Except Error α) : Asyn (Except Error α) :=
  .op o fun r => .done (.ok (cast h r))

/-- `list(map(int, tokens))`: `ValueError` at the first token that is no integer. -/
def parseInts : List String → Asyn (List ℤ)
  | [] => pure []
  | t :: ts =>
    match parseInt t with
    | some i => do
      let is ← parseInts ts
      pure (i :: is)
    | none => throw (.valueError ("invalid literal for int() with base 10: " ++ quote ++ t ++ quote))

/-! ## Governors and tunables -/

/-- `WRITE_ONLY_TUNABLES`: the tunables of a governor that cannot be read back. -/
def writeOnlyTunables : String → List String
  | "interactive" => ["boostpulse"]
  | _ => []

/-- `list_governors`. -/
def listGovernors (cpu : CpuId) : Asyn (List String) := do
  let output ← readValue (.scalingAvailableGovernors cpu.index)
  pure (split output)

/-- `get_governor`. -/
def getGovernor (cpu : CpuId) : Asyn String := readValue (.scalingGovernor cpu.index)

/-- The directory probe of `_list_governor_tunables`: the per-CPU directory first,
then the global one of older kernels, and no tunables when neither lists. -/
def probeGovernorTunables (cpu : CpuId) (governor : String) : Asyn (Bool × List String) :=
  attempt (.listDirectory (.governorDir cpu.index governor)) rfl >>= fun
    | .ok tunables => pure (true, tunables)
    | .error e =>
      if !e.isTargetStable then throw e else
      attempt (.listDirectory (.globalGovernorDir governor)) rfl >>= fun
        | .ok tunables => pure (false, tunables)
        | .error e => if !e.isTargetStable then throw e else pure (false, [])

/-- `_list_governor_tunables`: the cached entry of the governor, or the probe's
result, which is then cached. -/
def _listGovernorTunables (cpu : CpuId) (governor : Option String) : Asyn TunableInfo :=
  (match governor with
    | some g => pure g
    | none => getGovernor cpu) >>= fun governor =>
  if governor = "" then throw (.targetStable "") else
  cacheGet governor >>= fun
    | some data => pure data
    | none =>
      probeGovernorTunables cpu governor >>= fun probe =>
      cachePut governor (governor, probe.1, probe.2) >>= fun _ =>
      pure (governor, probe.1, probe.2)

/-- `list_governor_tunables`. -/
def listGovernorTunables (cpu : CpuId) : Asyn (List String) :=
  _listGovernorTunables cpu none >>= fun data => pure data.2.2

/-- The inner `get_tunable` of `get_governor_tunables`: the per-CPU file, or the
global one of older kernels. -/
def getTunable (cpu : CpuId) (governor tunable : String) : Asyn String :=
  attempt (.readValue (.governorTunable cpu.index governor tunable)) rfl >>= fun
    | .ok x => pure x
    | .error e =>
      if !e.isTargetStable then throw e else
      readValue (.globalGovernorTunable governor tunable)

/-- `map_concurrently(f, keys)` inside one task: the results keyed in input order. -/
def mapKeys {κ ν : Type} (f : κ → Asyn ν) : List κ → Asyn (List (κ × ν))
  | [] => pure []
  | k :: ks => do
    let v ← f k
    let rest ← mapKeys f ks
    pure ((k, v) :: rest)

/-- `get_governor_tunables`: the readable tunables of the current governor. -/
def getGovernorTunables (cpu : CpuId) : Asyn (List (String × String)) :=
  _listGovernorTunables cpu none >>= fun data =>
  mapKeys (getTunable cpu data.1) (data.2.2.filter fun t => t ∉ writeOnlyTunables data.1)

/-- The message of an unexpected tunable. -/
def unexpectedTunable (tunable governor : String) (cpu : CpuId) (valid : List String) : String :=
  "Unexpected tunable " ++ tunable ++ " for governor " ++ governor ++ " on " ++ cpu.sysfsName ++
    ".\n" ++ "Available tunables are: " ++ pyListRepr valid

/-- The file a tunable of `governor` is written to. -/
def tunablePath (cpu : CpuId) (governor : String) (govPerCpu : Bool) (tunable : String) : Sysfile :=
  if govPerCpu then .governorTunable cpu.index governor tunable
  else .globalGovernorTunable governor tunable

/-- The loop of `set_governor_tunables` over the keyword arguments. -/
def setGovernorTunablesLoop (cpu : CpuId) (governor : String) (perCpu : Option Bool)
    (govPerCpu : Bool) (valid : List String) : List (String × String) → Asyn Unit
  | [] => pure ()
  | (tunable, value) :: rest =>
    if tunable ∈ valid then
      if perCpu.isSome ∧ perCpu ≠ some govPerCpu then
        setGovernorTunablesLoop cpu governor perCpu govPerCpu valid rest
      else do
        writeValue (tunablePath cpu governor govPerCpu tunable) (.str value) true
        setGovernorTunablesLoop cpu governor perCpu govPerCpu valid rest
    else throw (.targetStable (unexpectedTunable tunable governor cpu valid))

/-- `set_governor_tunables`. -/
def setGovernorTunables (cpu : CpuId) (governor : Option String) (perCpu : Option Bool)
    (kwargs : List (String × String)) : Asyn Unit :=
  if kwargs.isEmpty then pure () else
  _listGovernorTunables cpu governor >>= fun data =>
  setGovernorTunablesLoop cpu data.1 perCpu data.2.1 data.2.2 kwargs

/-- `set_governor`. -/
def setGovernor (cpu : CpuId) (governor : String) (kwargs : List (String × String)) :
    Asyn Unit :=
  listGovernors cpu >>= fun supported =>
  if governor ∉ supported then
    throw (.targetStable ("Governor " ++ governor ++ " not supported for cpu " ++ cpu.sysfsName))
  else
    writeValue (.scalingGovernor cpu.index) (.str governor) true >>= fun _ =>
    setGovernorTunables cpu (some governor) none kwargs

/-! ## Frequencies -/

/-- The fallback of `list_frequencies`: the first token of each pair of the split
`stats/time_in_state`, reversed; `none` when the file does not exist. -/
def timeInStateFrequencies (cpu : CpuId) : Asyn (Option (List ℤ)) :=
  attempt (.readValue (.timeInState cpu.index)) rfl >>= fun
    | .ok text =>
      let outIter := split text
      parseInts (((outIter.zip outIter).map Prod.fst).reverse) >>= fun freqs => pure (some freqs)
    | .error e =>
      if !e.isTargetStable then throw e else
      fileExists (.timeInState cpu.index) >>= fun found =>
      if !found then pure none else throw e

/-- `list_frequencies`. -/
def listFrequencies (cpu : CpuId) : Asyn (List ℤ) :=
  attempt (.cat (.scalingAvailableFrequencies cpu.index)) rfl >>= fun
    | .ok output => parseInts (split output) >>= fun available => pure (sorted available)
    | .error e =>
      if !e.isTargetStable then throw e else
      timeInStateFrequencies cpu >>= fun
        | none => pure []
        | some available => pure (sorted available)

/-- `get_max_available_frequency`. -/
def getMaxAvailableFrequency (cpu : CpuId) : Asyn (Option ℤ) := do
  let freqs ← listFrequencies cpu
  pure freqs.max?

/-- `get_min_available_frequency`. -/
def getMinAvailableFrequency (cpu : CpuId) : Asyn (Option ℤ) := do
  let freqs ← listFrequencies cpu
  pure freqs.min?

/-- `get_frequency`. -/
def getFrequency (cpu : CpuId) (cpuinfo : Bool) : Asyn ℤ :=
  readInt (if cpuinfo then .cpuinfoCurFreq cpu.index else .scalingCurFreq cpu.index)

/-- The body of `set_frequency` inside its `try`, after `int(frequency)`. -/
def setFrequencyBody (cpu : CpuId) (value : ℤ) (exact : Bool) : Asyn Unit :=
  (if exact then
    listFrequencies cpu >>= fun available =>
    if !available.isEmpty ∧ value ∉ available then
      throw (.targetStable ("Can" ++ quote ++ "t set " ++ cpu.sysfsName ++ " frequency to " ++
        toString value ++ "\nmust be in " ++ pyIntListRepr available))
    else pure ()
  else pure ()) >>= fun _ =>
  getGovernor cpu >>= fun current =>
  if current ≠ "userspace" then
    throw (.targetStable ("Can" ++ quote ++ "t set " ++ cpu.sysfsName ++
      " frequency; governor must be \"userspace\""))
  else
    writeValue (.scalingSetspeed cpu.index) (.int value) false >>= fun _ =>
    -- the `cpuinfo_cur_freq` read only decides whether to log a warning
    getFrequency cpu true >>= fun _ => pure ()

/-- `set_frequency`: `ValueError` of `int(frequency)` or of the frequency table is
raised again with the message naming `frequency`. -/
def setFrequency (cpu : CpuId) (frequency : PyVal) (exact : Bool) : Asyn Unit :=
  let valueError : Error := .valueError ("Frequency must be an integer; got: \"" ++ frequency.toStr ++ "\"")
  let value : Option ℤ := match frequency with
    | .int i => some i
    | .str s => parseIntStrip s
  match value with
  | none => throw valueError
  | some v =>
    (setFrequencyBody cpu v exact).tryCatch fun e =>
      match e with
      | .valueError _ => throw valueError
      | e => throw e

/-! ## Topology -/

/-- `get_affected_cpus`. -/
def getAffectedCpus (cpu : CpuId) : Asyn (List ℤ) := do
  let content ← readValue (.affectedCpus cpu.index)
  parseInts (split content)

end Devlib.Cpufreq

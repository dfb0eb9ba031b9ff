import Devlib.Async.Coro
import Devlib.Util.Text

/-!
# The cpufreq part of a target

The files the cpufreq module reads and writes, the operations of the target
it calls, and the kernel behaviour behind them. `cpuN/cpufreq` is a link to
the directory of N's policy, so every file under it belongs to the policy:
its governor, its frequencies and, on kernels with per-policy governors, the
governor's tunables. Other kernels keep a governor's tunables in the global
directory `/sys/devices/system/cpu/cpufreq/<governor>`, shared by every
policy that runs it.

## Implementation notes

`target.py` is not part of the sources; its operations follow the interface
of the specification: `read_value` answers the trimmed content or raises,
`write_value` with `verify` reads the file back and raises when it differs,
`list_directory` lists entry names. A governor's directory exists while the
governor runs: on its policy for the per-policy layout, on any policy for the
global one. Entering a governor resets its per-policy tunables, and its global
tunables when no policy ran it before; the frequency the policy then settles
at is a parameter of the kernel.
-/

namespace Devlib.Target

open Devlib.Text

/-- The sysfs nodes the module names, each with the CPU or governor in its path. -/
inductive Sysfile where
  | scalingAvailableGovernors (cpu : ℤ)
  | scalingGovernor (cpu : ℤ)
  | affectedCpus (cpu : ℤ)
  | scalingCurFreq (cpu : ℤ)
  | cpuinfoCurFreq (cpu : ℤ)
  | scalingSetspeed (cpu : ℤ)
  | scalingAvailableFrequencies (cpu : ℤ)
  | timeInState (cpu : ℤ)
  | governorDir (cpu : ℤ) (governor : String)
  | globalGovernorDir (governor : String)
  | governorTunable (cpu : ℤ) (governor tunable : String)
  | globalGovernorTunable (governor tunable : String)
  deriving DecidableEq

/-- The path the module formats for each node. -/
def Sysfile.path : Sysfile → String
  | .scalingAvailableGovernors c =>
    "/sys/devices/system/cpu/cpu" ++ toString c ++ "/cpufreq/scaling_available_governors"
  | .scalingGovernor c => "/sys/devices/system/cpu/cpu" ++ toString c ++ "/cpufreq/scaling_governor"
  | .affectedCpus c => "/sys/devices/system/cpu/cpu" ++ toString c ++ "/cpufreq/affected_cpus"
  | .scalingCurFreq c => "/sys/devices/system/cpu/cpu" ++ toString c ++ "/cpufreq/scaling_cur_freq"
  | .cpuinfoCurFreq c => "/sys/devices/system/cpu/cpu" ++ toString c ++ "/cpufreq/cpuinfo_cur_freq"
  | .scalingSetspeed c => "/sys/devices/system/cpu/cpu" ++ toString c ++ "/cpufreq/scaling_setspeed"
  | .scalingAvailableFrequencies c =>
    "/sys/devices/system/cpu/cpu" ++ toString c ++ "/cpufreq/scaling_available_frequencies"
  | .timeInState c => "/sys/devices/system/cpu/cpu" ++ toString c ++ "/cpufreq/stats/time_in_state"
  | .governorDir c g => "/sys/devices/system/cpu/cpu" ++ toString c ++ "/cpufreq/" ++ g
  | .globalGovernorDir g => "/sys/devices/system/cpu/cpufreq/" ++ g
  | .governorTunable c g t => "/sys/devices/system/cpu/cpu" ++ toString c ++ "/cpufreq/" ++ g ++ "/" ++ t
  | .globalGovernorTunable g t => "/sys/devices/system/cpu/cpufreq/" ++ g ++ "/" ++ t

/-- A Python value handed to `write_value`, which writes its `str()`. -/
inductive PyVal where
  | str (s : String)
  | int (i : ℤ)
  deriving DecidableEq

/-- Python `str()` of the value. -/
def PyVal.toStr : PyVal → String
  | .str s => s
  | .int i => toString i

/-- The exceptions that reach the module. -/
inductive Error where
  /-- `TargetStableError` raised by the module with its message. -/
  | targetStable (msg : String)
  /-- `TargetStableError` raised by the target on a node it cannot read or write. -/
  | io (f : Sysfile)
  /-- `KeyError` of a dictionary lookup. -/
  | keyError (key : ℤ)
  /-- `IndexError` of a list lookup. -/
  | indexError
  /-- `ValueError` with its message. -/
  | valueError (msg : String)
  /-- The error of the runtime's blocking form of a method called from a
  coroutine the runtime is running. -/
  | reentrancy
  /-- `TypeError` of `concurrently` handed a value that is not awaitable. -/
  | typeError
  deriving DecidableEq

/-- The errors `except TargetStableError` catches. -/
def Error.isTargetStable : Error → Bool
  | .targetStable _ | .io _ => true
  | _ => false

/-- What `_list_governor_tunables` caches per governor: its name, whether the
tunables are per-CPU, and the tunable names. -/
abbrev TunableInfo := String × Bool × List String

/-- The operations of the target the module awaits, and its tunable cache. -/
inductive Op where
  | readValue (f : Sysfile)
  | readInt (f : Sysfile)
  | writeValue (f : Sysfile) (value : PyVal) (verify : Bool)
  | listDirectory (f : Sysfile)
  /-- `execute('cat <path>')`. -/
  | cat (f : Sysfile)
  | fileExists (f : Sysfile)
  | listOnlineCpus
  /-- Lookup in `self._governor_tunables`. -/
  | cacheGet (governor : String)
  /-- Store into `self._governor_tunables`. -/
  | cachePut (governor : String) (data : TunableInfo)

/-- The operation may change the target. -/
def Op.IsWrite : Op → Prop
  | .writeValue .. => True
  | _ => False

/-- The file the operation reads, if it reads one. -/
def Op.readFile : Op → Option Sysfile
  | .readValue f | .readInt f | .listDirectory f | .cat f | .fileExists f => some f
  | _ => none

/-- The response each operation resumes with. -/
def Op.Resp : Op → Type
  | .readValue _ | .cat _ => Except Error String
  | .readInt _ => Except Error ℤ
  | .writeValue .. => Except Error Unit
  | .listDirectory _ => Except Error (List String)
  | .fileExists _ => Bool
  | .listOnlineCpus => Except Error (List ℤ)
  | .cacheGet _ => Option TunableInfo
  | .cachePut .. => Unit

/-- The fixed part of a target: topology, the files the kernel never changes,
and the kernel's reaction to a governor change. -/
structure Kernel where
  online : List ℤ
  /-- The policy `cpuN/cpufreq` links to, if the CPU has one. -/
  policyOf : ℤ → Option ℕ
  policies : List ℕ
  policyOf_mem : ∀ c p, policyOf c = some p → p ∈ policies
  availableGovernors : ℕ → String
  affectedCpus : ℕ → String
  availableFrequencies : ℕ → Option String
  timeInState : ℕ → Option String
  /-- Governor tunables live under the policy (otherwise in the global directory). -/
  perPolicy : Bool
  governorTunables : String → List String
  readable : String → String → Bool
  writable : String → String → Bool
  defaults : String → String → String
  /-- The frequency a policy settles at when it enters a governor. -/
  onSwitch : ℕ → String → ℤ

/-- A target's cpufreq state: the kernel and what writes change. -/
@[ext]
structure Device where
  kernel : Kernel
  governor : ℕ → String
  policyValue : ℕ → String → String
  globalValue : String → String → String
  curFreq : ℕ → ℤ

/-- The world the module runs in: the target and the module's tunable cache. -/
structure World where
  device : Device
  cache : String → Option TunableInfo

namespace Device

variable (d : Device)

/-- Some policy runs `g`. -/
def Running (g : String) : Prop := ∃ p ∈ d.kernel.policies, d.governor p = g

instance (g : String) : Decidable (d.Running g) :=
  inferInstanceAs (Decidable (∃ p ∈ d.kernel.policies, d.governor p = g))

/-- Writing a new governor to policy `p`: the kernel starts it with fresh tunables. -/
def switchGovernor (p : ℕ) (g : String) : Device :=
  if d.governor p = g then d else
  { d with
    governor := fun q => if q = p then g else d.governor q
    policyValue := fun q => if q = p then d.kernel.defaults g else d.policyValue q
    globalValue := fun h => if h = g ∧ ¬ d.Running g then d.kernel.defaults g else d.globalValue h
    curFreq := fun q => if q = p then d.kernel.onSwitch p g else d.curFreq q }

/-- The tunable `t` of `g` is a file of policy `p`'s governor directory. -/
def PolicyTunable (p : ℕ) (g t : String) : Prop :=
  d.kernel.perPolicy = true ∧ d.governor p = g ∧ t ∈ d.kernel.governorTunables g

/-- The tunable `t` of `g` is a file of the global governor directory. -/
def GlobalTunable (g t : String) : Prop :=
  d.kernel.perPolicy = false ∧ d.Running g ∧ t ∈ d.kernel.governorTunables g

instance (p : ℕ) (g t : String) : Decidable (d.PolicyTunable p g t) := by
  unfold PolicyTunable; infer_instance

instance (g t : String) : Decidable (d.GlobalTunable g t) := by
  unfold GlobalTunable; infer_instance

/-- `read_value` of a node. -/
def read : Sysfile → Except Error String
  | f@(.scalingAvailableGovernors c) =>
    match d.kernel.policyOf c with
    | some p => .ok (d.kernel.availableGovernors p)
    | none => .error (.io f)
  | f@(.scalingGovernor c) =>
    match d.kernel.policyOf c with
    | some p => .ok (d.governor p)
    | none => .error (.io f)
  | f@(.affectedCpus c) =>
    match d.kernel.policyOf c with
    | some p => .ok (d.kernel.affectedCpus p)
    | none => .error (.io f)
  | f@(.timeInState c) =>
    match (d.kernel.policyOf c).bind d.kernel.timeInState with
    | some s => .ok s
    | none => .error (.io f)
  | f@(.governorTunable c g t) =>
    match d.kernel.policyOf c with
    | some p =>
      if d.PolicyTunable p g t ∧ d.kernel.readable g t then .ok (d.policyValue p t)
      else .error (.io f)
    | none => .error (.io f)
  | f@(.globalGovernorTunable g t) =>
    if d.GlobalTunable g t ∧ d.kernel.readable g t then .ok (d.globalValue g t)
    else .error (.io f)
  | f => .error (.io f)

/-- `read_int` of a node. -/
def readInt : Sysfile → Except Error ℤ
  | f@(.scalingCurFreq c) | f@(.cpuinfoCurFreq c) =>
    match d.kernel.policyOf c with
    | some p => .ok (d.curFreq p)
    | none => .error (.io f)
  | f => .error (.io f)

/-- `execute('cat <path>')`. -/
def cat : Sysfile → Except Error String
  | f@(.scalingAvailableFrequencies c) =>
    match (d.kernel.policyOf c).bind d.kernel.availableFrequencies with
    | some s => .ok s
    | none => .error (.io f)
  | f => .error (.io f)

/-- `list_directory` of a governor directory. -/
def listDirectory : Sysfile → Except Error (List String)
  | f@(.governorDir c g) =>
    match d.kernel.policyOf c with
    | some p =>
      if d.kernel.perPolicy = true ∧ d.governor p = g then .ok (d.kernel.governorTunables g)
      else .error (.io f)
    | none => .error (.io f)
  | f@(.globalGovernorDir g) =>
    if d.kernel.perPolicy = false ∧ d.Running g then .ok (d.kernel.governorTunables g)
    else .error (.io f)
  | f => .error (.io f)

/-- `file_exists` of a node. -/
def fileExists : Sysfile → Bool
  | .timeInState c => ((d.kernel.policyOf c).bind d.kernel.timeInState).isSome
  | f => (d.read f).isOk

/-- The write itself, before any read-back. -/
def write : Sysfile → PyVal → Except Error Device
  | f@(.scalingGovernor c), v =>
    match d.kernel.policyOf c with
    | some p =>
      if v.toStr ∈ split (d.kernel.availableGovernors p) then .ok (d.switchGovernor p v.toStr)
      else .error (.io f)
    | none => .error (.io f)
  | f@(.governorTunable c g t), v =>
    match d.kernel.policyOf c with
    | some p =>
      if d.PolicyTunable p g t ∧ d.kernel.writable g t then
        .ok { d with policyValue := fun q s => if q = p ∧ s = t then v.toStr else d.policyValue q s }
      else .error (.io f)
    | none => .error (.io f)
  | f@(.globalGovernorTunable g t), v =>
    if d.GlobalTunable g t ∧ d.kernel.writable g t then
      .ok { d with globalValue := fun h s => if h = g ∧ s = t then v.toStr else d.globalValue h s }
    else .error (.io f)
  | f@(.scalingSetspeed c), .int i =>
    match d.kernel.policyOf c with
    | some p =>
      if d.governor p = "userspace" ∧ 0 ≤ i then .ok { d with curFreq := fun q => if q = p then i else d.curFreq q }
      else .error (.io f)
    | none => .error (.io f)
  | f, _ => .error (.io f)

/-- Reading `f` succeeds and shows `s`. -/
def shows (f : Sysfile) (s : String) : Bool :=
  match d.read f with
  | .ok x => x == s
  | .error _ => false

/-- `write_value`: the write, then with `verify` a read-back that must show the value. -/
def writeValue (f : Sysfile) (v : PyVal) (verify : Bool) : Except Error Unit × Device :=
  match d.write f v with
  | .ok d' => if verify && !d'.shows f v.toStr then (.error (.io f), d') else (.ok (), d')
  | .error e => (.error e, d)

/-- `affected_cpus` reads only through a CPU with a policy, and shows the policy's list. -/
theorem read_affectedCpus_ok {c : ℤ} {s : String} (h : d.read (.affectedCpus c) = .ok s) :
    ∃ p, d.kernel.policyOf c = some p ∧ s = d.kernel.affectedCpus p := by
  simp only [read] at h
  split at h <;> cases h
  exact ⟨_, ‹_›, rfl⟩

theorem read_scalingGovernor {c : ℤ} {p : ℕ} (hp : d.kernel.policyOf c = some p) :
    d.read (.scalingGovernor c) = .ok (d.governor p) := by
  simp [read, hp]

theorem readInt_scalingCurFreq {c : ℤ} {p : ℕ} (hp : d.kernel.policyOf c = some p) :
    d.readInt (.scalingCurFreq c) = .ok (d.curFreq p) := by
  simp [readInt, hp]

/-- A per-policy tunable file reads the same on two devices that agree on the policy. -/
theorem read_governorTunable_congr {d' : Device} {c : ℤ} {p : ℕ} {g t : String} (hk : d'.kernel = d.kernel)
    (hp : d.kernel.policyOf c = some p) (hg : d'.governor p = d.governor p)
    (hv : d'.policyValue p t = d.policyValue p t) :
    d'.read (.governorTunable c g t) = d.read (.governorTunable c g t) := by
  simp [read, hk, hp, hg, hv, PolicyTunable]

/-- A global tunable file reads the same on two devices that agree on whether the
governor runs and on the tunable's value. -/
theorem read_globalGovernorTunable_congr {d' : Device} {g t : String} (hk : d'.kernel = d.kernel)
    (hr : d'.Running g ↔ d.Running g) (hv : d'.globalValue g t = d.globalValue g t) :
    d'.read (.globalGovernorTunable g t) = d.read (.globalGovernorTunable g t) := by
  simp [read, hk, hr, hv, GlobalTunable]

theorem read_governorTunable_ok {c : ℤ} {g t v : String}
    (h : d.read (.governorTunable c g t) = .ok v) :
    ∃ p, d.kernel.policyOf c = some p ∧ d.PolicyTunable p g t ∧ d.policyValue p t = v := by
  simp only [read] at h
  split at h <;> (try split at h) <;> cases h
  exact ⟨_, ‹_›, ‹_ ∧ _›.1, rfl⟩

theorem read_globalGovernorTunable_ok {g t v : String}
    (h : d.read (.globalGovernorTunable g t) = .ok v) : d.GlobalTunable g t ∧ d.globalValue g t = v := by
  simp only [read] at h
  split at h
  · cases h; exact ⟨‹_ ∧ _›.1, rfl⟩
  · cases h

/-- A per-CPU governor directory lists only on the per-policy layout, and lists the governor's tunables. -/
theorem listDirectory_governorDir_ok {c : ℤ} {g : String} {ts : List String}
    (h : d.listDirectory (.governorDir c g) = .ok ts) :
    d.kernel.perPolicy = true ∧ ts = d.kernel.governorTunables g := by
  simp only [listDirectory] at h
  split at h <;> (try split at h) <;> cases h
  exact ⟨‹_ ∧ _›.1, rfl⟩

/-- The global governor directory lists only on the global layout, and lists the governor's tunables. -/
theorem listDirectory_globalGovernorDir_ok {g : String} {ts : List String}
    (h : d.listDirectory (.globalGovernorDir g) = .ok ts) :
    d.kernel.perPolicy = false ∧ ts = d.kernel.governorTunables g := by
  simp only [listDirectory] at h
  split at h <;> cases h
  exact ⟨‹_ ∧ _›.1, rfl⟩

@[simp] theorem switchGovernor_kernel (p : ℕ) (g : String) : (d.switchGovernor p g).kernel = d.kernel := by
  unfold switchGovernor; split <;> rfl

@[simp] theorem switchGovernor_governor (p : ℕ) (g : String) (q : ℕ) :
    (d.switchGovernor p g).governor q = if q = p then g else d.governor q := by
  unfold switchGovernor
  split
  · split <;> simp_all
  · rfl

@[simp] theorem switchGovernor_policyValue_ne {p q : ℕ} (g : String) (h : q ≠ p) :
    (d.switchGovernor p g).policyValue q = d.policyValue q := by
  unfold switchGovernor; split <;> simp [h]

@[simp] theorem switchGovernor_curFreq_ne {p q : ℕ} (g : String) (h : q ≠ p) :
    (d.switchGovernor p g).curFreq q = d.curFreq q := by
  unfold switchGovernor; split <;> simp [h]

theorem switchGovernor_globalValue (p : ℕ) (g h t : String) :
    (d.switchGovernor p g).globalValue h t = d.globalValue h t ∨
      h = g ∧ ¬ d.Running g ∧ (d.switchGovernor p g).globalValue h t = d.kernel.defaults g t := by
  unfold switchGovernor
  split
  · exact .inl rfl
  · by_cases hc : h = g ∧ ¬ d.Running g
    · exact .inr ⟨hc.1, hc.2, by simp [hc]⟩
    · exact .inl (by simp [hc])

/-- Writing `scaling_governor` switches the CPU's policy. -/
theorem write_scalingGovernor {c : ℤ} {v : PyVal} {d' : Device}
    (h : d.write (.scalingGovernor c) v = .ok d') :
    ∃ p, d.kernel.policyOf c = some p ∧ d' = d.switchGovernor p v.toStr := by
  simp only [write] at h
  split at h <;> (try split at h) <;> cases h
  exact ⟨_, ‹_›, rfl⟩

/-- No other write changes a governor. -/
theorem write_governor {f : Sysfile} {v : PyVal} {d' : Device} (h : d.write f v = .ok d')
    (hf : ∀ c, f ≠ .scalingGovernor c) : d'.governor = d.governor := by
  unfold write at h
  split at h <;> (try split at h) <;> (try split at h) <;> cases h <;>
    first | rfl | exact absurd rfl (hf _)

/-- Writing a per-policy tunable sets it on the CPU's policy, which runs the governor. -/
theorem write_governorTunable {c : ℤ} {g t : String} {v : PyVal} {d' : Device}
    (h : d.write (.governorTunable c g t) v = .ok d') :
    ∃ p, d.kernel.policyOf c = some p ∧ d.PolicyTunable p g t ∧
      d' = { d with policyValue := fun q s => if q = p ∧ s = t then v.toStr else d.policyValue q s } := by
  simp only [write] at h
  split at h <;> (try split at h) <;> cases h
  exact ⟨_, ‹_›, ‹_ ∧ _›.1, rfl⟩

/-- Writing a global tunable sets it, while the governor runs on some policy. -/
theorem write_globalGovernorTunable {g t : String} {v : PyVal} {d' : Device}
    (h : d.write (.globalGovernorTunable g t) v = .ok d') :
    d.GlobalTunable g t ∧
      d' = { d with globalValue := fun h s => if h = g ∧ s = t then v.toStr else d.globalValue h s } := by
  simp only [write] at h
  split at h <;> cases h
  exact ⟨‹_ ∧ _›.1, rfl⟩

/-- Writing `scaling_setspeed` sets the frequency of the CPU's policy, which runs `userspace`. -/
theorem write_scalingSetspeed {c : ℤ} {v : PyVal} {d' : Device}
    (h : d.write (.scalingSetspeed c) v = .ok d') :
    ∃ p i, d.kernel.policyOf c = some p ∧ d.governor p = "userspace" ∧ v = .int i ∧
      d' = { d with curFreq := fun q => if q = p then i else d.curFreq q } := by
  cases v with
  | str s => simp [write] at h
  | int i =>
    simp only [write] at h
    split at h <;> (try split at h) <;> cases h
    exact ⟨_, i, ‹_›, ‹_ ∧ _›.1, rfl, rfl⟩

theorem write_kernel {f : Sysfile} {v : PyVal} {d' : Device} (h : d.write f v = .ok d') :
    d'.kernel = d.kernel := by
  unfold write at h
  split at h <;> (try split at h) <;> (try split at h) <;> cases h <;> simp

@[simp] theorem writeValue_kernel (f : Sysfile) (v : PyVal) (verify : Bool) :
    (d.writeValue f v verify).2.kernel = d.kernel := by
  unfold writeValue
  split
  · split <;> exact write_kernel d ‹_›
  · rfl

/-- `write_value` leaves the device as it was, or as the write made it. -/
theorem writeValue_snd (f : Sysfile) (v : PyVal) (verify : Bool) :
    (d.writeValue f v verify).2 = d ∨ d.write f v = .ok (d.writeValue f v verify).2 := by
  unfold writeValue
  split
  · exact .inr (by split <;> assumption)
  · exact .inl rfl

/-- A `write_value` that succeeds made its write. -/
theorem writeValue_ok {f : Sysfile} {v : PyVal} {verify : Bool} (h : (d.writeValue f v verify).1 = .ok ()) :
    d.write f v = .ok (d.writeValue f v verify).2 := by
  unfold writeValue at h ⊢
  split at h
  · rename_i hw
    simp only [hw]
    split <;> rfl
  · cases h

/-- A verified `write_value` that succeeds reads back its value. -/
theorem writeValue_verify_ok {f : Sysfile} {v : PyVal} (h : (d.writeValue f v true).1 = .ok ()) :
    (d.writeValue f v true).2.read f = .ok v.toStr := by
  unfold writeValue at h ⊢
  cases hw : d.write f v with
  | error e => simp [hw] at h
  | ok d' =>
    have hs : d'.shows f v.toStr = true := by
      by_contra hs; simp [hw, hs] at h
    simp only [hw, hs, Bool.not_true, Bool.and_false, Bool.false_eq_true, if_false]
    unfold shows at hs
    split at hs
    · rename_i x hx; rw [hx, beq_iff_eq.mp hs]
    · cases hs

/-- A successful `write_value` of `scaling_governor` leaves the CPU's policy on the value. -/
theorem writeValue_scalingGovernor_ok {c : ℤ} {v : PyVal} {verify : Bool}
    (h : (d.writeValue (.scalingGovernor c) v verify).1 = .ok ()) :
    ∃ p, d.kernel.policyOf c = some p ∧ (d.writeValue (.scalingGovernor c) v verify).2.governor p = v.toStr := by
  unfold writeValue at h ⊢
  split at h
  · rename_i d' hw
    obtain ⟨p, hp, rfl⟩ := d.write_scalingGovernor hw
    refine ⟨p, hp, ?_⟩
    split <;> simp
  · cases h

/-- Only a `scaling_governor` write changes a governor. -/
theorem writeValue_governor {f : Sysfile} (hf : ∀ c, f ≠ .scalingGovernor c) (v : PyVal)
    (verify : Bool) : (d.writeValue f v verify).2.governor = d.governor := by
  unfold writeValue
  split
  · split <;> exact d.write_governor ‹_› hf
  · rfl

end Device

/-- A kernel with CPUs `0 .. n - 1` online, CPU `c` in policy `group c`, every
policy offering `governors`, and `affected_cpus` listing a policy's CPUs in
ascending order. Tunable layout, tunables and writability are given; every
tunable reads, no frequency table exists, and a fresh governor starts with
tunables `"0"` at frequency `0`. -/
def Kernel.ofGroups (n : ℕ) (group : ℕ → ℕ) (governors : String) (perPolicy : Bool)
    (governorTunables : String → List String) (writable : String → String → Bool) : Kernel where
  online := (List.range n).map Int.ofNat
  policyOf c := if 0 ≤ c ∧ c < n then some (group c.toNat) else none
  policies := (List.range n).map group
  policyOf_mem c p h := by
    simp only at h
    split at h
    · cases h; exact List.mem_map.mpr ⟨c.toNat, List.mem_range.mpr (by omega), rfl⟩
    · cases h
  availableGovernors _ := governors
  affectedCpus p := " ".intercalate (((List.range n).filter (group · = p)).map toString)
  availableFrequencies _ := none
  timeInState _ := none
  perPolicy := perPolicy
  governorTunables := governorTunables
  readable _ _ := true
  writable := writable
  defaults _ _ := "0"
  onSwitch _ _ := 0

/-- One operation against the world. -/
def World.exec (w : World) : (o : Op) → o.Resp × World
  | .readValue f => (w.device.read f, w)
  | .readInt f => (w.device.readInt f, w)
  | .writeValue f v verify =>
    ((w.device.writeValue f v verify).1, { w with device := (w.device.writeValue f v verify).2 })
  | .listDirectory f => (w.device.listDirectory f, w)
  | .cat f => (w.device.cat f, w)
  | .fileExists f => (w.device.fileExists f, w)
  | .listOnlineCpus => (.ok w.device.kernel.online, w)
  | .cacheGet g => (w.cache g, w)
  | .cachePut g data => ((), { w with cache := fun h => if h = g then some data else w.cache h })

/-- Only a write changes the device. -/
theorem World.exec_device_of_not_write (w : World) {o : Op} (ho : ¬ o.IsWrite) :
    (w.exec o).2.device = w.device := by
  cases o <;> first | exact (ho trivial).elim | rfl

/-- No operation changes the kernel. -/
@[simp] theorem World.exec_kernel (w : World) (o : Op) : (w.exec o).2.device.kernel = w.device.kernel := by
  cases o <;> simp [World.exec]

end Devlib.Target

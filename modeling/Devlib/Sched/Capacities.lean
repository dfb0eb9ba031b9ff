import Devlib.Sched.ProcFS

/-!
# CPU capacities

`get_capacities` maps every online CPU to a capacity: its `cpu_capacity` file
when it has one; otherwise, when the `sched_domain` directory has data, the
capacity of the last state of the energy model under `domain0/group0`, or the
default when that CPU has no energy model. Without a default it raises
`RuntimeError` for a CPU it has nothing for. The `sched_domain` tree is built
whole as a `SchedProcFSData`, and each missing CPU is looked up in it as
`sd_info.cpus[cpu]`, so a CPU whose entry the tree lacks raises `KeyError`.

## Implementation notes

The memoized methods are called once per CPU in a call; each is modelled as
its first call. A Python `set` of small integers is iterated here in the
order of the online CPUs, and `int(len(xs) / n)` is computed exactly.
-/

namespace Devlib.Sched

open Devlib.Text

/-! ## The `sched_domain` directory -/

/-- `SchedProcFSData.get_data_root(target)`. -/
def getDataRoot (t : Target) : Except Error String :=
  selectPath t ["/sys/kernel/debug/sched/domains/", "/proc/sys/kernel/sched_domain"]
    "sched_domain debug directory"

/-- `SchedProcFSData.available(target)`: some CPU entry has `domain0/flags`. -/
def available (t : Target) : Except Error Bool :=
  match getDataRoot t with
  | .error e => if e.isTargetStable then .ok false else .error e
  | .ok path => do
    let cpus ← t.listDirectory path
    if cpus.isEmpty then return false
    return cpus.any fun cpu => t.fileExists (pathJoin (pathJoin (pathJoin path cpu) "domain0") "flags")

/-- `SchedProcFSData(target, path)`: the tree under `path`, the data root when
`path` is `None`, read six levels deep and built as a node. -/
def schedProcFSData (t : Target) (path : Option String) : Except Error Value := do
  let path ← match path with
    | some p => pure p
    | none => getDataRoot t
  schedProcFSNode (← t.readTreeValues path 6)

/-- `get_sd_info()`. -/
def getSdInfo (t : Target) : Except Error Value := schedProcFSData t none

/-- `get_cpu_sd_info(cpu)`. -/
def getCpuSdInfo (t : Target) (cpu : ℕ) : Except Error Value := do
  schedProcFSData t (some (pathJoin (← getDataRoot t) ("cpu" ++ toString cpu)))

/-! ## Python operations on built values -/

/-- `bool(v)`: a node defines neither `__bool__` nor `__len__`. -/
def Value.truthy : Value → Bool
  | .int i => i ≠ 0
  | .str s => !s.isEmpty
  | .node .. => true
  | .packed es => !es.isEmpty

/-- The name Python gives the type of a built value. -/
def Value.typeName : Value → String
  | .int _ => "int"
  | .str _ => "str"
  | .node _ _ none => "SchedProcFSNode"
  | .node _ _ (some _) => "SchedDomain"
  | .packed _ => "dict"

/-- `v.name` for the names the module reads: a node answers from
`_dyn_attrs` through `__getattr__`, which raises `KeyError`. -/
def Value.getattr (v : Value) (name : String) : Except Error Value :=
  match v with
  | .node _ attrs _ =>
    match dictGet attrs name with
    | some w => .ok w
    | none => .error (.keyError (.str name))
  | v => .error (.attributeError ("'" ++ v.typeName ++ "' object has no attribute '" ++ name ++ "'"))

/-- `v.procfs`. -/
def Value.procfs (v : Value) : Except Error (List (String × PTree)) :=
  match v with
  | .node procfs _ _ => .ok procfs
  | v => .error (.attributeError ("'" ++ v.typeName ++ "' object has no attribute 'procfs'"))

/-- `v[i]`. -/
def Value.getitem (v : Value) (i : ℕ) : Except Error Value :=
  match v with
  | .packed es =>
    match dictGet es i with
    | some w => .ok w
    | none => .error (.keyError (.int i))
  | .str s =>
    match s.data.get? i with
    | some c => .ok (.str (String.singleton c))
    | none => .error (.indexError "string index out of range")
  | v => .error (.typeError ("'" ++ v.typeName ++ "' object is not subscriptable"))

/-- `v.split('\t')`; a node looks `split` up in `_dyn_attrs`. -/
def Value.splitTab (v : Value) : Except Error (List String) :=
  match v with
  | .str s => .ok (splitOn s '\t')
  | .node .. => .error (.keyError (.str "split"))
  | v => .error (.attributeError ("'" ++ v.typeName ++ "' object has no attribute 'split'"))

/-- `int(n / d)` for an integer `n`. -/
def truncDiv (n : ℕ) (d : Value) : Except Error ℤ :=
  match d with
  | .int d => if d = 0 then .error (.zeroDivisionError "division by zero") else .ok ((n : ℤ).tdiv d)
  | d => .error (.typeError ("unsupported operand type(s) for /: 'int' and '" ++ d.typeName ++ "'"))

/-- `xs[i]` with Python's negative indices. -/
def pyIndex (xs : List String) (i : ℤ) : Except Error String :=
  let j := if i < 0 then i + xs.length else i
  match if 0 ≤ j then xs.get? j.toNat else none with
  | some x => .ok x
  | none => .error (.indexError "list index out of range")

/-- `d.get(key, {})` on an entry of `procfs`. -/
def ptreeGet (d : PTree) (key : String) : Except Error (Option PTree) :=
  match d with
  | .dir es => .ok (dictGet es key)
  | .leaf _ => .error (.attributeError "'str' object has no attribute 'get'")

/-! ## Capacities -/

/-- `if not sd: sd = self.get_cpu_sd_info(cpu)`. -/
def sdOrCpuInfo (t : Target) (cpu : ℕ) (sd : Option Value) : Except Error Value :=
  match sd with
  | some sd => if sd.truthy then .ok sd else getCpuSdInfo t cpu
  | none => getCpuSdInfo t cpu

/-- `has_em(cpu, sd)`: `domain0` has `group0/energy/cap_states`. -/
def hasEm (t : Target) (cpu : ℕ) (sd : Option Value) : Except Error Bool := do
  let procfs ← (← sdOrCpuInfo t cpu sd).procfs
  let domain0 ← match dictGet procfs "domain0" with
    | some d => pure d
    | none => throw (.keyError (.str "domain0"))
  let group0 := (← ptreeGet domain0 "group0").getD (.dir [])
  let energy := (← ptreeGet group0 "energy").getD (.dir [])
  return (← ptreeGet energy "cap_states").isSome

/-- `sd.domains[0].groups[0].energy`. -/
def energyOf (sd : Value) : Except Error Value := do
  let domain0 ← (← sd.getattr "domains").getitem 0
  let group0 ← (← domain0.getattr "groups").getitem 0
  group0.getattr "energy"

/-- `get_em_capacity(cpu, sd)`: the first field of the last capacity state. -/
def getEmCapacity (t : Target) (cpu : ℕ) (sd : Option Value) : Except Error ℤ := do
  let sd ← sdOrCpuInfo t cpu sd
  let capStatesList ← (← (← energyOf sd).getattr "cap_states").splitTab
  let numCapStates ← (← energyOf sd).getattr "nr_cap_states"
  let maxCapIndex := -1 * (← truncDiv capStatesList.length numCapStates)
  Target.pyInt (← pyIndex capStatesList maxCapIndex)

/-- `cpu_dmips_capacity_path(target, cpu)`. -/
def cpuDmipsCapacityPath (cpu : ℕ) : String :=
  pathJoin "/sys/devices/system/cpu" ("cpu" ++ toString cpu ++ "/cpu_capacity")

/-- `has_dmips_capacity(cpu)`. -/
def hasDmipsCapacity (t : Target) (cpu : ℕ) : Bool := t.fileExists (cpuDmipsCapacityPath cpu)

/-- `get_dmips_capacity(cpu)`. -/
def getDmipsCapacity (t : Target) (cpu : ℕ) : Except Error ℤ := t.readInt (cpuDmipsCapacityPath cpu)

/-- The first loop of `get_capacities`: the CPUs with a `cpu_capacity` file. -/
def dmipsLoop (t : Target) : List ℕ → List (ℕ × ℤ) → Except Error (List (ℕ × ℤ))
  | [], caps => .ok caps
  | cpu :: cpus, caps =>
    if hasDmipsCapacity t cpu then do dmipsLoop t cpus (dictInsert caps (cpu, ← getDmipsCapacity t cpu))
    else dmipsLoop t cpus caps

/-- The last loop of `get_capacities`, over the CPUs still missing. -/
def emLoop (t : Target) (default : Option ℤ) (sdInfo : Value) :
    List ℕ → List (ℕ × ℤ) → Except Error (List (ℕ × ℤ))
  | [], caps => .ok caps
  | cpu :: cpus, caps => do
    if ← hasEm t cpu (some (← (← sdInfo.getattr "cpus").getitem cpu)) then
      let c ← getEmCapacity t cpu (some (← (← sdInfo.getattr "cpus").getitem cpu))
      emLoop t default sdInfo cpus (dictInsert caps (cpu, c))
    else
      match default with
      | some d => emLoop t default sdInfo cpus (dictInsert caps (cpu, d))
      | none => throw (.runtimeError ("No capacity data for cpu" ++ toString cpu))

/-- `set(cpus).difference(capacities.keys())`. -/
def missingCpus (cpus : List ℕ) (capacities : List (ℕ × ℤ)) : List ℕ :=
  (cpus.filter fun cpu => cpu ∉ capacities.map Prod.fst).dedup

/-- `get_capacities(default)`. -/
def getCapacities (t : Target) (default : Option ℤ) : Except Error (List (ℕ × ℤ)) := do
  let cpus := t.onlineCpus
  let capacities ← dmipsLoop t cpus []
  let missing := missingCpus cpus capacities
  if missing.isEmpty then return capacities
  if !(← available t) then
    match default with
    | some d => return missing.foldl (fun caps cpu => dictInsert caps (cpu, d)) capacities
    | none => throw (.runtimeError ("No capacity data for cpus " ++ pyIntListRepr (sorted (missing.map (↑)))))
  emLoop t default (← getSdInfo t) missing capacities

/-- `get_capacity(cpu)`: the CPU's entry of `get_capacities()`, `KeyError` for
a CPU it has none for. -/
def getCapacity (t : Target) (cpu : ℕ) : Except Error ℤ := do
  match dictGet (← getCapacities t none) cpu with
  | some c => return c
  | none => throw (.keyError (.int cpu))

/-! ## Targets with CPU capacities -/

/-- A target with the online CPUs `online`, the entries `cpuDir` under
`/sys/devices/system/cpu` and `schedDomain` under `/proc/sys/kernel/sched_domain`. -/
def capacityTarget (online : List ℕ) (cpuDir schedDomain : List (String × PTree)) : Target where
  fs := .dir [("sys", .dir [("devices", .dir [("system", .dir [("cpu", .dir cpuDir)])])]),
    ("proc", .dir [("sys", .dir [("kernel", .dir [("sched_domain", .dir schedDomain)])])])]
  schedFeatures := none
  util := fun cmd => .error (.io cmd)
  onlineCpus := online

/-- CPU 0 with a `cpu_capacity` of 1024. -/
def dmipsCpu0 : List (String × PTree) := [("cpu0", .dir [("cpu_capacity", .leaf "1024\n")])]

/-- A `domain0` of named flags and no energy model. -/
def mcDomain : PTree :=
  .dir [("flags", .leaf "SD_BALANCE_NEWIDLE SD_WAKE_AFFINE\n"), ("name", .leaf "MC\n")]

/-- A `domain0` whose first group has an energy model. -/
def emDomain (capStates nrCapStates : String) : PTree :=
  .dir [("flags", .leaf "SD_BALANCE_NEWIDLE SD_WAKE_AFFINE\n"), ("name", .leaf "MC\n"),
    ("group0", .dir [("energy", .dir [("cap_states", .leaf capStates), ("nr_cap_states", .leaf nrCapStates)])])]

/-- CPU 0 with a `cpu_capacity` file, CPU 1 with an energy model of two states. -/
def emTarget : Target :=
  capacityTarget [0, 1] dmipsCpu0
    [("cpu0", .dir [("domain0", mcDomain)]), ("cpu1", .dir [("domain0", emDomain "100\t50\t430\t200" "2")])]

/-! ## What a returning call gives -/

section Returns

variable {t : Target}

/-- The first loop gives each CPU with a `cpu_capacity` file that file's value
and leaves every other key as it was. -/
theorem dmipsLoop_ok {cpus : List ℕ} {caps₀ caps : List (ℕ × ℤ)} (h : dmipsLoop t cpus caps₀ = .ok caps) :
    (∀ k, k ∉ cpus ∨ hasDmipsCapacity t k = false → dictGet caps k = dictGet caps₀ k) ∧
      ∀ k ∈ cpus, hasDmipsCapacity t k = true → ∃ c, getDmipsCapacity t k = .ok c ∧ dictGet caps k = some c := by
  induction cpus generalizing caps₀ with
  | nil =>
    cases h
    exact ⟨fun _ _ => rfl, fun _ hk => absurd hk (List.not_mem_nil _)⟩
  | cons cpu cpus ih =>
    unfold dmipsLoop at h
    split at h
    case isTrue hd =>
      cases hc : getDmipsCapacity t cpu with
      | error e => simp [hc, bind, Except.bind] at h
      | ok c =>
        simp only [hc, bind, Except.bind] at h
        obtain ⟨ih₁, ih₂⟩ := ih h
        refine ⟨fun k hk => ?_, fun k hk hdk => ?_⟩
        · have hne : cpu ≠ k := by
            rintro rfl
            exact hk.elim (· (List.mem_cons_self _ _)) (Bool.eq_false_iff.mp · hd)
          rw [ih₁ k (hk.imp_left fun h h' => h (List.mem_cons_of_mem _ h')), dictGet_dictInsert, if_neg hne]
        · by_cases hks : k ∈ cpus
          · exact ih₂ k hks hdk
          · obtain rfl : k = cpu := (List.mem_cons.mp hk).resolve_right hks
            exact ⟨c, hc, by rw [ih₁ k (.inl hks), dictGet_dictInsert, if_pos rfl]⟩
    case isFalse hd =>
      obtain ⟨ih₁, ih₂⟩ := ih h
      refine ⟨fun k hk => ih₁ k (hk.imp_left fun h h' => h (List.mem_cons_of_mem _ h')), fun k hk hdk => ?_⟩
      have hne : k ≠ cpu := by rintro rfl; exact hd hdk
      exact ih₂ k ((List.mem_cons.mp hk).resolve_left hne) hdk

/-- One step of the last loop puts some capacity under its CPU. -/
theorem emLoop_cons_ok {default : Option ℤ} {sd : Value} {cpu : ℕ} {cpus : List ℕ} {caps₀ caps : List (ℕ × ℤ)}
    (h : emLoop t default sd (cpu :: cpus) caps₀ = .ok caps) :
    ∃ c, emLoop t default sd cpus (dictInsert caps₀ (cpu, c)) = .ok caps := by
  simp only [emLoop, bind, Except.bind] at h
  repeat' split at h
  all_goals first | exact ⟨_, h⟩ | cases h

/-- The last loop puts a capacity under each of its CPUs and leaves every other key. -/
theorem emLoop_ok {default : Option ℤ} {sd : Value} {cpus : List ℕ} {caps₀ caps : List (ℕ × ℤ)}
    (h : emLoop t default sd cpus caps₀ = .ok caps) :
    (∀ k ∉ cpus, dictGet caps k = dictGet caps₀ k) ∧ ∀ k ∈ cpus, (dictGet caps k).isSome := by
  induction cpus generalizing caps₀ with
  | nil =>
    cases h
    exact ⟨fun _ _ => rfl, fun _ hk => absurd hk (List.not_mem_nil _)⟩
  | cons cpu cpus ih =>
    obtain ⟨c, hc⟩ := emLoop_cons_ok h
    obtain ⟨ih₁, ih₂⟩ := ih hc
    refine ⟨fun k hk => ?_, fun k hk => ?_⟩
    · rw [List.mem_cons, not_or] at hk
      rw [ih₁ k hk.2, dictGet_dictInsert, if_neg (Ne.symm hk.1)]
    · by_cases hks : k ∈ cpus
      · exact ih₂ k hks
      · rw [ih₁ k hks, dictGet_dictInsert, if_pos ((List.mem_cons.mp hk).resolve_right hks).symm]
        rfl

/-- Inserting the default under each missing CPU. -/
theorem foldl_default_ok (missing : List ℕ) (d : ℤ) (caps₀ : List (ℕ × ℤ)) :
    (∀ k ∉ missing, dictGet (missing.foldl (fun caps cpu => dictInsert caps (cpu, d)) caps₀) k =
        dictGet caps₀ k) ∧
      ∀ k ∈ missing, (dictGet (missing.foldl (fun caps cpu => dictInsert caps (cpu, d)) caps₀) k).isSome := by
  rw [← List.foldl_map (fun cpu => (cpu, d)) dictInsert]
  refine ⟨fun k hk => dictGet_foldl_of_not_mem (by simpa using hk) _, fun k hk => ?_⟩
  have hd : ∀ w, (k, w) ∈ missing.map (fun cpu => (cpu, d)) → w = d := fun w hw => by
    obtain ⟨_, -, he⟩ := List.mem_map.mp hw
    exact (Prod.mk.inj he).2.symm
  rw [dictGet_foldl_of_forall hd (by simpa using hk)]
  rfl

/-- A returning call starts from the first loop, keeps what it gave, and puts
a capacity under each missing CPU. -/
theorem getCapacities_ok_cases {default : Option ℤ} {caps : List (ℕ × ℤ)}
    (h : getCapacities t default = .ok caps) :
    ∃ caps₁, dmipsLoop t t.onlineCpus [] = .ok caps₁ ∧
      (∀ k ∉ missingCpus t.onlineCpus caps₁, dictGet caps k = dictGet caps₁ k) ∧
      ∀ k ∈ missingCpus t.onlineCpus caps₁, (dictGet caps k).isSome := by
  cases hd : dmipsLoop t t.onlineCpus [] with
  | error e => simp [getCapacities, hd, bind, Except.bind] at h
  | ok caps₁ =>
    refine ⟨caps₁, rfl, ?_⟩
    simp only [getCapacities, hd, bind, Except.bind] at h
    split at h
    case isTrue hm =>
      cases h
      exact ⟨fun _ _ => rfl, fun k hk => absurd hk (by rw [List.isEmpty_iff.mp hm]; exact List.not_mem_nil k)⟩
    case isFalse =>
      repeat' split at h
      all_goals first
        | exact emLoop_ok h
        | (cases h; exact foldl_default_ok _ _ _)
        | cases h

/-- Whenever `get_capacities` returns, its keys are exactly the online CPUs,
and each online CPU with a `cpu_capacity` file has that file's value. -/
theorem getCapacities_keys {default : Option ℤ} {caps : List (ℕ × ℤ)}
    (h : getCapacities t default = .ok caps) :
    (∀ cpu, cpu ∈ caps.map Prod.fst ↔ cpu ∈ t.onlineCpus) ∧
      ∀ cpu ∈ t.onlineCpus, hasDmipsCapacity t cpu = true →
        ∃ c, getDmipsCapacity t cpu = .ok c ∧ dictGet caps cpu = some c := by
  obtain ⟨caps₁, hd, hframe, hmiss⟩ := getCapacities_ok_cases h
  obtain ⟨hd₁, hd₂⟩ := dmipsLoop_ok hd
  have hmem : ∀ k, k ∈ missingCpus t.onlineCpus caps₁ ↔ k ∈ t.onlineCpus ∧ k ∉ caps₁.map Prod.fst := by
    simp [missingCpus]
  have hkeys₁ : ∀ k ∈ caps₁.map Prod.fst, k ∈ t.onlineCpus := fun k hk => by
    by_contra hko
    have hs := dictGet_isSome.mpr hk
    rw [hd₁ k (.inl hko)] at hs
    exact Bool.false_ne_true hs
  refine ⟨fun cpu => ?_, fun cpu hcpu hdc => ?_⟩
  · rw [← dictGet_isSome]
    by_cases hm : cpu ∈ missingCpus t.onlineCpus caps₁
    · exact ⟨fun _ => ((hmem cpu).mp hm).1, fun _ => hmiss cpu hm⟩
    · rw [hframe cpu hm, dictGet_isSome]
      exact ⟨hkeys₁ cpu, fun ho => by by_contra hk; exact hm ((hmem cpu).mpr ⟨ho, hk⟩)⟩
  · obtain ⟨c, hc, hget⟩ := hd₂ cpu hcpu hdc
    have hm : cpu ∉ missingCpus t.onlineCpus caps₁ := fun hm =>
      ((hmem cpu).mp hm).2 (dictGet_isSome.mp (by rw [hget]; rfl))
    exact ⟨c, hc, by rw [hframe cpu hm, hget]⟩

theorem getCapacities_keys_em :
    getCapacities emTarget (some 256) = .ok [(0, 1024), (1, 430)] ∧
      (∀ cpu, cpu ∈ [(0, 1024), (1, 430)].map Prod.fst ↔ cpu ∈ emTarget.onlineCpus) ∧
      ∀ cpu ∈ emTarget.onlineCpus, hasDmipsCapacity emTarget cpu = true →
        ∃ c, getDmipsCapacity emTarget cpu = .ok c ∧ dictGet [(0, 1024), (1, 430)] cpu = some c :=
  ⟨rfl, @getCapacities_keys emTarget (some 256) [(0, 1024), (1, 430)] rfl⟩

end Returns

/-- With a default, CPU 1 has no `cpu_capacity` file and `get_capacities`
still raises: when the `sched_domain` tree has no entry for it, `KeyError`
from `sd_info.cpus[1]`; when its energy model has a single capacity state,
`AttributeError`, as `cap_states` was built as the `int` 512. -/
theorem getCapacities_raises_with_default :
    getCapacities (capacityTarget [0, 1] dmipsCpu0 [("cpu0", .dir [("domain0", mcDomain)])]) (some 512) =
        .error (.keyError (.int 1)) ∧
      getCapacities (capacityTarget [0, 1] dmipsCpu0 [("cpu0", .dir [("domain0", mcDomain)]),
          ("cpu1", .dir [("domain0", emDomain "512" "1")])]) (some 512) =
        .error (.attributeError "'int' object has no attribute 'split'") :=
  ⟨rfl, rfl⟩

end Devlib.Sched

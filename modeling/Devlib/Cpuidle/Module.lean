import Devlib.Async.Concurrently
import Devlib.Cpuidle.States

/-!
# `Cpuidle`

The methods of `devlib/module/cpuidle.py` that reach the target, as
coroutines over its operations on the file tree: reading, writing and testing
for a file. `enable_all` and `disable_all` hand one write per idle state to
`concurrently`.

## Implementation notes

`write_value` verifies by reading back; on a file of the tree the text read
back is the text written, so the check passes. A path that names no file
makes the write raise, as the shell's redirection fails. `boolean` comes from
`devlib.utils.types`, which is not among the sources, and follows its
documented behaviour; `lower()` is taken on ASCII letters. `list_governors` is
memoized; the governors a kernel offers are fixed at boot, so the call is
modelled as the read it caches, as in the cpufreq module. `perturb_cpus` runs
a shell utility, and `usage` and `time` parse counters with `integer` of
`devlib.utils.types`; they are left out.
-/

namespace Devlib.Cpuidle

open Devlib.Async Devlib.Sched Devlib.Text

/-! ## Target operations -/

/-- The operations of the target the module awaits. -/
inductive Op where
  | readValue (path : String)
  | writeValue (path value : String)
  | fileExists (path : String)

/-- The response each operation resumes with. -/
def Op.Resp : Op → Type
  | .readValue _ => Except Error String
  | .writeValue .. => Except Error Unit
  | .fileExists _ => Bool

/-- A coroutine of the module. -/
abbrev Asyn := Coro Op Op.Resp Error

/-- An operation on the target's files: `read_value` answers the trimmed text
of a file, `write_value` replaces it, `file_exists` tests for an entry. -/
def exec (fs : PTree) : (o : Op) → o.Resp × PTree
  | .readValue p =>
    (match fs.readLeaf (components p) with
      | some s => .ok (strip s)
      | none => .error (.io p), fs)
  | .writeValue p v =>
    match fs.setLeaf (components p) v with
    | some fs' => (.ok (), fs')
    | none => (.error (.io p), fs)
  | .fileExists p => ((fs.find (components p)).isSome, fs)

theorem exec_readValue {fs : PTree} {p t : String} (h : fs.readLeaf (components p) = some t) :
    exec fs (.readValue p) = (.ok (strip t), fs) := by
  simp only [exec, h]

/-- A write replaces the file's text, or raises on a path that names no file
and changes nothing. -/
theorem exec_writeValue (fs : PTree) (p v : String) :
    (∃ fs', fs.setLeaf (components p) v = some fs' ∧ exec fs (.writeValue p v) = (.ok (), fs')) ∨
      exec fs (.writeValue p v) = (.error (.io p), fs) := by
  cases h : fs.setLeaf (components p) v with
  | some fs' => exact .inl ⟨fs', rfl, by simp only [exec, h]⟩
  | none => exact .inr (by simp only [exec, h])

/-- `target.read_value`. -/
def readValue (p : String) : Asyn String := .op (.readValue p) .done

/-- `target.write_value`. -/
def writeValue (p v : String) : Asyn Unit := .op (.writeValue p v) .done

/-- `target.file_exists`. -/
def fileExists (p : String) : Asyn Bool := .op (.fileExists p) fun b => .done (.ok b)

/-- `devlib.utils.types.boolean` of a string. -/
def boolean (value : String) : Bool :=
  let v := lower value
  !(["", "0", "n", "no", "off"].contains v || startswith "false" v)

/-! ## `CpuidleState` -/

namespace CpuidleState

/-- `get(prop)`. -/
def get (s : CpuidleState) (prop : String) : Asyn String := readValue (pathJoin s.path prop)

/-- `set(prop, value)`; `write_value` writes `str(value)`. -/
def set (s : CpuidleState) (prop value : String) : Asyn Unit := writeValue (pathJoin s.path prop) value

/-- `enable()`: `set('disable', 0)`. -/
def enable (s : CpuidleState) : Asyn Unit := s.set "disable" "0"

/-- `disable()`: `set('disable', 1)`. -/
def disable (s : CpuidleState) : Asyn Unit := s.set "disable" "1"

/-- `is_enabled`. -/
def isEnabled (s : CpuidleState) : Asyn Bool := do
  return !boolean (← s.get "disable")

end CpuidleState

/-! ## `Cpuidle` -/

/-- `Cpuidle.root_path`. -/
def rootPath : String := "/sys/devices/system/cpu/cpuidle"

/-- `probe`. -/
def probe : Asyn Bool := fileExists rootPath

/-- `enable(state, cpu)`. -/
def enable (table : List (String × List CpuidleState)) (state : StateArg) (cpu : CpuArg) : Asyn Unit :=
  Coro.done (getState table state cpu) >>= CpuidleState.enable

/-- `disable(state, cpu)`. -/
def disable (table : List (String × List CpuidleState)) (state : StateArg) (cpu : CpuArg) : Asyn Unit :=
  Coro.done (getState table state cpu) >>= CpuidleState.disable

/-- The tasks `enable_all` and `disable_all` hand to `concurrently`: each state
of the CPU sets its `disable` file to `value`. -/
def setAll (table : List (String × List CpuidleState)) (cpu : CpuArg) (value : String) : List (Asyn Unit) :=
  (getStates table cpu).map fun s => s.set "disable" value

/-- `enable_all(cpu)`: `state.enable()` for each state. -/
def enableAll (table : List (String × List CpuidleState)) (cpu : CpuArg) : List (Asyn Unit) :=
  setAll table cpu "0"

/-- `disable_all(cpu)`: `state.disable()` for each state. -/
def disableAll (table : List (String × List CpuidleState)) (cpu : CpuArg) : List (Asyn Unit) :=
  setAll table cpu "1"

/-- `get_driver`. -/
def getDriver : Asyn String := readValue (pathJoin rootPath "current_driver")

/-- `list_governors`. -/
def listGovernors : Asyn (List String) := do
  let output ← readValue (pathJoin rootPath "available_governors")
  return split (strip output)

/-- `get_governor`: `current_governor_ro` if it exists, else `current_governor`. -/
def getGovernor : Asyn String := do
  let ro := pathJoin rootPath "current_governor_ro"
  let path := if ← fileExists ro then ro else pathJoin rootPath "current_governor"
  readValue path

/-- `set_governor(governor)`. -/
def setGovernor (governor : String) : Asyn Unit := do
  let supported ← listGovernors
  if governor ∉ supported then throw (.targetStable ("Governor " ++ governor ++ " not supported"))
  writeValue (pathJoin rootPath "current_governor") governor

/-! ## `enable_all` and `disable_all` -/

section SetAll

variable {files : List (List String)} {value : String}

/-- A step of a task of `setAll`: nothing, or `value` written to one of `files`. -/
def WritesIn (files : List (List String)) (value : String) (fs fs' : PTree) : Prop :=
  fs' = fs ∨ ∃ ks ∈ files, fs.setLeaf ks value = some fs'

/-- What a `set('disable', value)` task leaves: the file holds `value` when the
task returned, and its only exception is the target's on that file. -/
structure SetDone (value : String) (s : CpuidleState) (r : Except Error Unit) (fs : PTree) : Prop where
  ok : r = .ok () → fs.readLeaf (components (pathJoin s.path "disable")) = some value
  error : ∀ e, r = .error e → e = .io (pathJoin s.path "disable")

/-- Another task's write keeps a file that holds `value`: it writes `value` or another file. -/
theorem WritesIn.readLeaf {fs fs' : PTree} (h : WritesIn files value fs fs') {ks : List String}
    (hks : fs.readLeaf ks = some value) : fs'.readLeaf ks = some value := by
  rcases h with rfl | ⟨ks', -, hw⟩
  · exact hks
  · rw [PTree.readLeaf_setLeaf hw]
    split_ifs with h
    · rfl
    · exact hks

/-- A step of a task keeps every entry, and the text of every file but `files`. -/
theorem WritesIn.frame {fs fs' : PTree} (h : WritesIn files value fs fs') (ks : List String) :
    (fs'.find ks).isSome = (fs.find ks).isSome ∧ (ks ∉ files → fs'.readLeaf ks = fs.readLeaf ks) := by
  rcases h with rfl | ⟨ks', hks', hw⟩
  · exact ⟨rfl, fun _ => rfl⟩
  · refine ⟨PTree.find_isSome_setLeaf hw ks, fun hks => ?_⟩
    rw [PTree.readLeaf_setLeaf hw, if_neg]
    rintro rfl
    exact hks hks'

theorem setDone_stable (s : CpuidleState) (r : Except Error Unit) :
    Stable (WritesIn files value) (SetDone value s r) :=
  fun _ _ h hd => ⟨fun hr => h.readLeaf (hd.ok hr), hd.error⟩

/-- A `set('disable', value)` task of a state whose file is one of `files`
writes in `files` and leaves `SetDone`, whatever the other tasks do. -/
theorem set_safe {s : CpuidleState} (hs : components (pathJoin s.path "disable") ∈ files) (fs : PTree) :
    Safe exec (WritesIn files value) (fun w _ w' => WritesIn files value w w') (SetDone value s)
      (s.set "disable" value) fs := by
  refine safe_op (P := fun _ => True) (fun _ _ _ _ => trivial) trivial fun w _ => ?_
  rcases exec_writeValue w (pathJoin s.path "disable") value with ⟨w', hw', he⟩ | he <;> rw [he]
  · exact ⟨.inr ⟨_, hs, hw'⟩, safe_done (setDone_stable s _)
      ⟨fun _ => (PTree.readLeaf_setLeaf hw' _).trans (if_pos rfl), fun _ h => by cases h⟩⟩
  · exact ⟨.inl rfl, safe_done (setDone_stable s _) ⟨fun h => (by cases h), fun _ h => by cases h; rfl⟩⟩

theorem isEnabled_run {s : CpuidleState} {fs : PTree} {v : String}
    (h : fs.readLeaf (components (pathJoin s.path "disable")) = some v) :
    (s.isEnabled.run exec fs).1 = .ok (!boolean (strip v)) := by
  simp only [CpuidleState.isEnabled, CpuidleState.get, readValue, Coro.bind_eq, Coro.op_bind, Coro.run_op,
    exec_readValue h]
  rfl

/-- Every interleaving of the tasks of `enable_all` (`value = '0'`) or
`disable_all` (`value = '1'`): no entry of the tree appears or disappears; no
file but the states' `disable` files changes; the only exception is the
target's on one of those files; when every task returned, each state's
`disable` file holds `value`, and `is_enabled` answers `not boolean(value)`. -/
theorem setAll_run {table : List (String × List CpuidleState)} {cpu : CpuArg} {fs fs' : PTree}
    {res : Except Error (List Unit)} {tr} (run : Concurrently exec fs (setAll table cpu value) fs' res tr) :
    (∀ ks, (fs'.find ks).isSome = (fs.find ks).isSome) ∧
      (∀ ks, (∀ s ∈ getStates table cpu, ks ≠ components (pathJoin s.path "disable")) →
        fs'.readLeaf ks = fs.readLeaf ks) ∧
      (∀ e, res = .error e → ∃ s ∈ getStates table cpu, e = .io (pathJoin s.path "disable")) ∧
      ∀ us, res = .ok us → ∀ s ∈ getStates table cpu,
        fs'.readLeaf (components (pathJoin s.path "disable")) = some value ∧
          (s.isEnabled.run exec fs').1 = .ok (!boolean (strip value)) := by
  set files := (getStates table cpu).map fun s => components (pathJoin s.path "disable")
  obtain ⟨hstep, hok, herr⟩ := run.safe_map (R := WritesIn files value)
    (G := fun _ w _ w' => WritesIn files value w w') (Q := SetDone value) (fun _ _ _ h => h)
    fun s hs => set_safe (List.mem_map_of_mem (fun s => components (pathJoin s.path "disable")) hs) fs
  have hframe := (run.preserves (I := fun w => ∀ ks, (w.find ks).isSome = (fs.find ks).isSome ∧
      (ks ∉ files → w.readLeaf ks = fs.readLeaf ks)) (fun x hx h ks => by
    obtain ⟨_, -, hg⟩ := hstep x hx
    obtain ⟨h₁, h₂⟩ := hg.frame ks
    exact ⟨h₁.trans (h ks).1, fun hks => (h₂ hks).trans ((h ks).2 hks)⟩) fun _ => ⟨rfl, fun _ => rfl⟩).2
  refine ⟨fun ks => (hframe ks).1, fun ks hks => (hframe ks).2 fun h => ?_, fun e he => ?_,
    fun us hus s hs => ?_⟩
  · obtain ⟨s, hs, rfl⟩ := List.mem_map.mp h
    exact hks s hs rfl
  · obtain ⟨s, hs, h⟩ := herr e he
    exact ⟨s, hs, h.error e rfl⟩
  · obtain ⟨_, h⟩ := hok us hus s hs
    exact ⟨h.ok rfl, isEnabled_run (h.ok rfl)⟩

theorem setAll_run_disable :
    ∃ fs' tr, Concurrently exec idleFs (disableAll [("cpu0", [wfiState, sleepState])] (.int 0)) fs'
        (.ok [(), ()]) tr ∧
      ∀ s ∈ getStates [("cpu0", [wfiState, sleepState])] (.int 0),
        fs'.readLeaf (components (pathJoin s.path "disable")) = some "1" ∧
          (s.isEnabled.run exec fs').1 = .ok (!boolean (strip "1")) := by
  obtain ⟨tr, h⟩ := seqRun_concurrently exec (disableAll [("cpu0", [wfiState, sleepState])] (.int 0)) idleFs
  rw [show (seqRun exec (disableAll [("cpu0", [wfiState, sleepState])] (.int 0)) idleFs).1 = .ok [(), ()]
    from rfl] at h
  exact ⟨_, tr, h, (setAll_run h).2.2.2 _ rfl⟩

end SetAll

/-! ## `set_governor` -/

/-- `set_governor` refuses a governor `available_governors` does not list,
raising `TargetStableError` and changing nothing. A listed governor is written
to `current_governor` and no other file changes; `get_governor` then answers it
unless the kernel shows a `current_governor_ro`. -/
theorem setGovernor_spec {fs : PTree} {governor text old : String}
    (havail : fs.readLeaf (components (pathJoin rootPath "available_governors")) = some text)
    (hcur : fs.readLeaf (components (pathJoin rootPath "current_governor")) = some old) :
    (governor ∉ split text →
      (setGovernor governor).run exec fs =
        (.error (.targetStable ("Governor " ++ governor ++ " not supported")), fs)) ∧
      (governor ∈ split text → ∃ fs', (setGovernor governor).run exec fs = (.ok (), fs') ∧
        (∀ ks, fs'.readLeaf ks =
          if ks = components (pathJoin rootPath "current_governor") then some governor else fs.readLeaf ks) ∧
        ((fs.find (components (pathJoin rootPath "current_governor_ro"))).isSome = false →
          getGovernor.run exec fs' = (.ok governor, fs'))) := by
  have hlist : (setGovernor governor).run exec fs =
      (if governor ∉ split text then Coro.done (.error (.targetStable ("Governor " ++ governor ++
        " not supported"))) else writeValue (pathJoin rootPath "current_governor") governor).run exec fs := by
    simp only [setGovernor, listGovernors, readValue, Coro.bind_eq, Coro.op_bind, Coro.run_op,
      exec_readValue havail, split_strip, Coro.done_ok_bind, Coro.pure_eq, Coro.throw_eq, Coro.done_error_bind]
  refine ⟨fun hg => by rw [hlist, if_pos hg]; rfl, fun hg => ?_⟩
  obtain ⟨fs', hw⟩ := Option.isSome_iff_exists.mp (PTree.setLeaf_isSome hcur governor)
  have hread := PTree.readLeaf_setLeaf hw
  refine ⟨fs', by rw [hlist, if_neg (not_not.mpr hg)]; simp only [writeValue, Coro.run_op, exec, hw]; rfl,
    hread, fun hro => ?_⟩
  have hro' : (fs'.find (components (pathJoin rootPath "current_governor_ro"))).isSome = false := by
    rw [PTree.find_isSome_setLeaf hw, hro]
  have hcur' : fs'.readLeaf (components (pathJoin rootPath "current_governor")) = some governor := by
    rw [hread, if_pos rfl]
  simp only [getGovernor, fileExists, readValue, Coro.bind_eq, Coro.op_bind, Coro.run_op, exec, hro',
    Coro.done_ok_bind, if_false, Bool.false_eq_true, hcur', strip_of_mem_split hg]
  rfl

theorem setGovernor_spec_teo :
    ("teo" ∉ split "ladder menu teo\n" →
      (setGovernor "teo").run exec idleFs = (.error (.targetStable ("Governor " ++ "teo" ++ " not supported")), idleFs)) ∧
      ("teo" ∈ split "ladder menu teo\n" → ∃ fs', (setGovernor "teo").run exec idleFs = (.ok (), fs') ∧
        (∀ ks, fs'.readLeaf ks =
          if ks = components (pathJoin rootPath "current_governor") then some "teo" else idleFs.readLeaf ks) ∧
        ((idleFs.find (components (pathJoin rootPath "current_governor_ro"))).isSome = false →
          getGovernor.run exec fs' = (.ok "teo", fs'))) :=
  @setGovernor_spec idleFs "teo" "ladder menu teo\n" "menu\n" rfl rfl

end Devlib.Cpuidle

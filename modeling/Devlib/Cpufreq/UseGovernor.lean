import Devlib.Async.Concurrently
import Devlib.Cpufreq.Module
import Devlib.Util.Dict
import Mathlib.Data.List.Dedup

/-!
# `use_governor`

The context manager captures a snapshot of every CPU it is given, writes the
new governor once per frequency domain, runs the body, and in its `finally`
restores the previous governors, then the previous tunables and frequencies.
Each of these steps is a call of `async_manager.concurrently`, so a run of
`use_governor` is a sequence of interleaved runs (`Concurrently`), one per
phase, with the body between the apply phase and the restore.

## Implementation notes

* `get_cpu_info` runs its four calls concurrently; they only read, and are run
  one after another here.
* The two restore batches are one `concurrently` of two `concurrently` calls;
  they are flattened into one pool of tasks. A failing task cancels every
  other task in both forms.
* A Python `set` is iterated in an order the language leaves open; `domains`
  is kept in first-occurrence order, and no result here depends on it.
* The generator of the governor-restore phase looks `cpus_infos[cpu]` up as
  `concurrently` collects its tasks, so a missing key raises `KeyError` before
  any task starts.
* `list_online_cpus` answers the kernel's online CPUs; it is read when `cpus`
  is empty.
* The body is any move of the world, given as a relation with its outcome.
-/

namespace Devlib.Cpufreq

open Devlib.Async Devlib.Target Devlib.Text

/-! ## The phases -/

/-- What `get_cpu_info` returns: `[affected_cpus, governor, tunables, frequency]`. -/
structure CpuInfo where
  affected : List ℤ
  governor : String
  tunables : List (String × String)
  frequency : ℤ

/-- `get_cpu_info`. -/
def getCpuInfo (cpu : CpuId) : Asyn CpuInfo :=
  getAffectedCpus cpu >>= fun affected =>
  getGovernor cpu >>= fun governor =>
  getGovernorTunables cpu >>= fun tunables =>
  getFrequency cpu false >>= fun frequency =>
  pure ⟨affected, governor, tunables, frequency⟩

/-- `cpus`, or every online CPU when it is empty. -/
def cpusOrOnline (K : Kernel) (cpus : List CpuId) : List CpuId :=
  if cpus.isEmpty then K.online.map .num else cpus

/-- The capture phase: `map_concurrently(get_cpu_info, cpus)`. -/
def captureTasks (cpus : List CpuId) : List (Asyn CpuInfo) := cpus.map getCpuInfo

/-- `cpus_infos`, from the keys and the results of the capture phase. -/
def cpusInfos (cpus : List CpuId) (infos : List CpuInfo) : List (CpuId × CpuInfo) :=
  pyDict (cpus.zip infos)

/-- `info[0][0]`: the first affected CPU of a snapshot, `IndexError` when there is none. -/
def firstAffected (e : CpuId × CpuInfo) : Except Error ℤ :=
  match e.2.affected with
  | c :: _ => .ok c
  | [] => .error .indexError

/-- `set(info[0][0] for info in cpus_infos.values())`. -/
def domainsOf (cpusInfos : List (CpuId × CpuInfo)) : Except Error (List ℤ) :=
  (cpusInfos.mapM firstAffected).map List.dedup

/-- The apply phase: `set_governor(cpu, governor, **kwargs)` for each domain. -/
def applyTasks (governor : String) (kwargs : List (String × String)) (domains : List ℤ) :
    List (Asyn Unit) :=
  domains.map fun cpu => setGovernor (.num cpu) governor kwargs

/-- `set_governor(cpu, cpus_infos[cpu][1])`, with the lookup made as the task is built. -/
def restoreGovernorTask (cpusInfos : List (CpuId × CpuInfo)) (cpu : ℤ) : Except Error (Asyn Unit) :=
  match dictGet cpusInfos (.num cpu) with
  | some info => .ok (setGovernor (.num cpu) info.governor [])
  | none => .error (.keyError cpu)

/-- The governor-restore phase: one task for each domain. -/
def restoreGovernorTasks (cpusInfos : List (CpuId × CpuInfo)) (domains : List ℤ) :
    Except Error (List (Asyn Unit)) :=
  domains.mapM (restoreGovernorTask cpusInfos)

theorem restoreGovernorTask_ok {cpusInfos : List (CpuId × CpuInfo)} {cpu : ℤ} {t : Asyn Unit}
    (h : restoreGovernorTask cpusInfos cpu = .ok t) :
    ∃ info, dictGet cpusInfos (.num cpu) = some info ∧ t = setGovernor (.num cpu) info.governor [] := by
  unfold restoreGovernorTask at h
  split at h
  · cases h; exact ⟨_, ‹_›, rfl⟩
  · cases h

/-- `set_per_cpu_tunables`. -/
def setPerCpuTunables (cpusInfos : List (CpuId × CpuInfo)) (cpu : ℤ) : Asyn Unit :=
  match dictGet cpusInfos (.num cpu) with
  | none => throw (.keyError cpu)
  | some info =>
    setGovernorTunables (.num cpu) (some info.governor) (some true) info.tunables >>= fun _ =>
    if info.governor = "userspace" then setFrequency (.num cpu) (.int info.frequency) true
    else pure ()

/-- `global_tunables_dict`: for each previous governor, the last CPU that had it
and that CPU's tunables. -/
def globalTunablesDict (cpusInfos : List (CpuId × CpuInfo)) :
    List (String × CpuId × List (String × String)) :=
  pyDict (cpusInfos.map fun e => (e.2.governor, e.1, e.2.tunables))

/-- The tunables phase: the per-CPU batch beside the global batch. -/
def restoreTunablesTasks (cpusInfos : List (CpuId × CpuInfo)) (domains : List ℤ) :
    List (Asyn Unit) :=
  domains.map (setPerCpuTunables cpusInfos) ++
    (globalTunablesDict cpusInfos).map fun e => setGovernorTunables e.2.1 (some e.1) (some false) e.2.2

/-! ## Runs -/

/-- The `finally` of `use_governor` from world `w`: its outcome, its end and the
steps of its tasks. -/
inductive Restore (cpusInfos : List (CpuId × CpuInfo)) (domains : List ℤ) :
    World → Except Error Unit → World → List (ℕ × World × Op) → Prop
  | lookupFailed {w : World} {e : Error} :
      restoreGovernorTasks cpusInfos domains = .error e → Restore cpusInfos domains w (.error e) w []
  | governorsFailed {w w' : World} {ts : List (Asyn Unit)} {e : Error} {tr} :
      restoreGovernorTasks cpusInfos domains = .ok ts →
      Concurrently World.exec w ts w' (.error e) tr → Restore cpusInfos domains w (.error e) w' tr
  | tunables {w w₁ w₂ : World} {ts : List (Asyn Unit)} {us : List Unit} {res tr₁ tr₂} :
      restoreGovernorTasks cpusInfos domains = .ok ts →
      Concurrently World.exec w ts w₁ (.ok us) tr₁ →
      Concurrently World.exec w₁ (restoreTunablesTasks cpusInfos domains) w₂ res tr₂ →
      Restore cpusInfos domains w (res.map fun _ => ()) w₂ (tr₁ ++ tr₂)

/-- A run of `use_governor(governor, cpus, **kwargs)` around a body: its outcome,
its end and the steps of its own tasks, phase after phase. -/
inductive UseGovernor (governor : String) (cpus : List CpuId) (kwargs : List (String × String))
    (body : World → Except Error Unit → World → Prop) :
    World → Except Error Unit → World → List (ℕ × World × Op) → Prop
  /-- A capture task raised. -/
  | captureFailed {w w₁ : World} {e : Error} {tr} :
      Concurrently World.exec w (captureTasks (cpusOrOnline w.device.kernel cpus)) w₁ (.error e) tr →
      UseGovernor governor cpus kwargs body w (.error e) w₁ tr
  /-- Some snapshot has no affected CPU. -/
  | domainsFailed {w w₁ : World} {infos : List CpuInfo} {e : Error} {tr} :
      Concurrently World.exec w (captureTasks (cpusOrOnline w.device.kernel cpus)) w₁ (.ok infos) tr →
      domainsOf (cpusInfos (cpusOrOnline w.device.kernel cpus) infos) = .error e →
      UseGovernor governor cpus kwargs body w (.error e) w₁ tr
  /-- An apply task raised: the context is never entered. -/
  | applyFailed {w w₁ w₂ : World} {infos : List CpuInfo} {domains : List ℤ} {e : Error} {tr₁ tr₂} :
      Concurrently World.exec w (captureTasks (cpusOrOnline w.device.kernel cpus)) w₁ (.ok infos) tr₁ →
      domainsOf (cpusInfos (cpusOrOnline w.device.kernel cpus) infos) = .ok domains →
      Concurrently World.exec w₁ (applyTasks governor kwargs domains) w₂ (.error e) tr₂ →
      UseGovernor governor cpus kwargs body w (.error e) w₂ (tr₁ ++ tr₂)
  /-- The body ran and the `finally` restored: an exception of the restore
  replaces the body's. -/
  | exited {w w₁ w₂ w₃ w₄ : World} {infos : List CpuInfo} {domains : List ℤ} {us : List Unit}
      {rb re : Except Error Unit} {tr₁ tr₂ tr₃} :
      Concurrently World.exec w (captureTasks (cpusOrOnline w.device.kernel cpus)) w₁ (.ok infos) tr₁ →
      domainsOf (cpusInfos (cpusOrOnline w.device.kernel cpus) infos) = .ok domains →
      Concurrently World.exec w₁ (applyTasks governor kwargs domains) w₂ (.ok us) tr₂ →
      body w₂ rb w₃ →
      Restore (cpusInfos (cpusOrOnline w.device.kernel cpus) infos) domains w₃ re w₄ tr₃ →
      UseGovernor governor cpus kwargs body w (re.bind fun _ => rb) w₄ (tr₁ ++ tr₂ ++ tr₃)

/-! ## Phase after phase, task after task -/

/-- The `finally` with each phase run task after task. -/
def restoreSeq (cpusInfos : List (CpuId × CpuInfo)) (domains : List ℤ) (w : World) :
    Except Error Unit × World :=
  match restoreGovernorTasks cpusInfos domains with
  | .error e => (.error e, w)
  | .ok ts =>
    match seqRun World.exec ts w with
    | (.error e, w₁) => (.error e, w₁)
    | (.ok _, w₁) =>
      ((seqRun World.exec (restoreTunablesTasks cpusInfos domains) w₁).1.map fun _ => (),
        (seqRun World.exec (restoreTunablesTasks cpusInfos domains) w₁).2)

/-- `use_governor` with each phase run task after task and the body a function of the world. -/
def useGovernorSeq (governor : String) (cpus : List CpuId) (kwargs : List (String × String))
    (body : World → Except Error Unit × World) (w : World) : Except Error Unit × World :=
  let cpus := cpusOrOnline w.device.kernel cpus
  match seqRun World.exec (captureTasks cpus) w with
  | (.error e, w₁) => (.error e, w₁)
  | (.ok infos, w₁) =>
    match domainsOf (cpusInfos cpus infos) with
    | .error e => (.error e, w₁)
    | .ok domains =>
      match seqRun World.exec (applyTasks governor kwargs domains) w₁ with
      | (.error e, w₂) => (.error e, w₂)
      | (.ok _, w₂) =>
        ((restoreSeq (cpusInfos cpus infos) domains (body w₂).2).1.bind fun _ => (body w₂).1,
          (restoreSeq (cpusInfos cpus infos) domains (body w₂).2).2)

theorem restoreSeq_restore (cpusInfos : List (CpuId × CpuInfo)) (domains : List ℤ) (w : World) :
    ∃ tr, Restore cpusInfos domains w (restoreSeq cpusInfos domains w).1
      (restoreSeq cpusInfos domains w).2 tr := by
  unfold restoreSeq
  split
  · exact ⟨[], .lookupFailed ‹_›⟩
  rename_i ts h
  obtain ⟨tr₁, run₁⟩ := seqRun_concurrently World.exec ts w
  split <;> rename_i h₁ <;> rw [h₁] at run₁
  · exact ⟨tr₁, .governorsFailed h run₁⟩
  · obtain ⟨tr₂, run₂⟩ := seqRun_concurrently World.exec (restoreTunablesTasks cpusInfos domains) _
    exact ⟨_, .tunables h run₁ run₂⟩

/-- Running each phase task after task is one run of `use_governor`. -/
theorem useGovernorSeq_useGovernor (governor : String) (cpus : List CpuId)
    (kwargs : List (String × String)) (body : World → Except Error Unit × World) (w : World) :
    ∃ tr, UseGovernor governor cpus kwargs (fun w r w' => body w = (r, w')) w
      (useGovernorSeq governor cpus kwargs body w).1 (useGovernorSeq governor cpus kwargs body w).2 tr := by
  unfold useGovernorSeq
  obtain ⟨tr₁, run₁⟩ := seqRun_concurrently World.exec (captureTasks (cpusOrOnline w.device.kernel cpus)) w
  dsimp only
  split <;> rename_i h₁ <;> rw [h₁] at run₁
  · exact ⟨tr₁, .captureFailed run₁⟩
  split <;> rename_i hd
  · exact ⟨tr₁, .domainsFailed run₁ hd⟩
  rename_i domains
  obtain ⟨tr₂, run₂⟩ := seqRun_concurrently World.exec (applyTasks governor kwargs domains) _
  split <;> rename_i h₂ <;> rw [h₂] at run₂
  · exact ⟨_, .applyFailed run₁ hd run₂⟩
  · obtain ⟨tr₃, h₃⟩ := restoreSeq_restore _ domains (body _).2
    exact ⟨_, .exited run₁ hd run₂ rfl h₃⟩
/-! ## Two runs at fixed inputs -/

/-- CPUs 0 and 1 in one domain of the per-policy layout, running `ondemand`. -/
def pairWorld : World where
  device :=
    { kernel := Kernel.ofGroups 2 (fun _ => 0) "ondemand performance" true (fun _ => [])
        fun _ _ => true
      governor := fun _ => "ondemand"
      policyValue := fun _ _ => "0"
      globalValue := fun _ _ => "0"
      curFreq := fun _ => 0 }
  cache _ := none

/-- `use_governor('performance', cpus=[1])` on the domain `{0, 1}`: the domain is
written through CPU 0, whose snapshot was never taken, so the restore raises
`KeyError(0)` before it restores anything and CPU 1 stays on `performance`. -/
theorem useGovernor_restore_keyError :
    ∃ w' tr, UseGovernor "performance" [.num 1] [] (fun w r w' => (Except.ok (), w) = (r, w'))
        pairWorld (.error (.keyError 0)) w' tr ∧
      pairWorld.device.read (.scalingGovernor 1) = .ok "ondemand" ∧
      w'.device.read (.scalingGovernor 1) = .ok "performance" := by
  obtain ⟨tr, h⟩ := useGovernorSeq_useGovernor "performance" [.num 1] [] (fun w => (.ok (), w)) pairWorld
  exact ⟨_, tr, h, rfl, rfl⟩

/-- CPU 0 alone in a domain of the per-policy layout, running `ondemand`, with
`conservative` available and tunable by `freq_step`. -/
def soloWorld : World where
  device :=
    { kernel := Kernel.ofGroups 1 (fun _ => 0) "ondemand conservative" true
        (fun g => if g = "conservative" then ["freq_step"] else []) fun _ _ => true
      governor := fun _ => "ondemand"
      policyValue := fun _ _ => "0"
      globalValue := fun _ _ => "0"
      curFreq := fun _ => 0 }
  cache _ := none

/-- `use_governor('conservative', cpus=[0], bogus='1')`: the apply phase writes
the governor, then rejects the tunable, and the exception leaves the context
with CPU 0 still on `conservative`. -/
theorem useGovernor_apply_failure_keeps_governor :
    ∃ w' tr, UseGovernor "conservative" [.num 0] [("bogus", "1")]
        (fun w r w' => (Except.ok (), w) = (r, w')) soloWorld
        (.error (.targetStable (unexpectedTunable "bogus" "conservative" (.num 0) ["freq_step"]))) w' tr ∧
      soloWorld.device.read (.scalingGovernor 0) = .ok "ondemand" ∧
      w'.device.read (.scalingGovernor 0) = .ok "conservative" := by
  obtain ⟨tr, h⟩ := useGovernorSeq_useGovernor "conservative" [.num 0] [("bogus", "1")]
    (fun w => (.ok (), w)) soloWorld
  exact ⟨_, tr, h, rfl, rfl⟩

end Devlib.Cpufreq

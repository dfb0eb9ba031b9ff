import Devlib.Cpufreq.Entry

/-!
# The restore of `use_governor`

The `finally` of `use_governor` first writes back each domain's previous
governor, then, in one pool, the per-CPU tunables and frequency of each domain
and the global tunables of each previous governor. A governor-restore task
changes only its own domain's policy, and a tunables task changes no governor.
Once the governors are back, the policy of every captured CPU runs the governor
of its snapshot, and it keeps running it while the tunables are written: so each
tunable is written while its governor runs where it is written, and each
`scaling_setspeed` while `userspace` runs.
-/

namespace Devlib.Cpufreq

open Devlib.Async Devlib.Target

section Restore

variable {K : Kernel}

/-! ## Governors -/

/-- The moves of the other governor-restore tasks, for the task owning `p`:
steps of another policy's owner, each with its own governor. -/
def RestoreRely (p : ℕ) (w w' : World) : Prop := ∃ q ≠ p, ∃ g, ApplyOwn g [] q w w'

theorem base_stable_restore {p : ℕ} : Stable (RestoreRely p) (Base K) :=
  fun _ _ ⟨_, _, _, h⟩ hw => ⟨h.1.2 hw.1, h.1.1.trans hw.2⟩

/-- A governor-restore task: its steps are its own policy's, and when it returns
`g` runs on that policy, whatever the other tasks do around it. -/
theorem setGovernor_restore {r : ℤ} {p : ℕ} (hp : K.policyOf r = some p) (g : String) {w : World}
    (hw : Base K w) :
    Safe World.exec (RestoreRely p) (fun w _ w' => ApplyOwn g [] p w w')
      (fun res w => Base K w ∧ ∀ u, res = .ok u → w.device.governor p = g)
      (setGovernor (.num r) g []) w := by
  have hQ : ∀ res : Except Error Unit, Stable (RestoreRely p)
      fun w => Base K w ∧ ∀ u, res = .ok u → w.device.governor p = g :=
    fun _ w w' h ⟨hb, hg⟩ => ⟨base_stable_restore w w' h hb, fun u hu => by
      obtain ⟨q, hq, _, h⟩ := h
      exact (h.2.frame p (Ne.symm hq)).1.trans (hg u hu)⟩
  have hread : ∀ w (o : Op), Base K w → Query o →
      ApplyOwn g [] p w (w.exec o).2 ∧ Base K (w.exec o).2 := fun w o hw ho =>
    have h : ApplyOwn g [] p w (w.exec o).2 := applyOwn_exec_read w ho.1 ho.2
    ⟨h, h.1.2 hw.1, h.1.1.trans hw.2⟩
  unfold setGovernor
  refine safe_bind (safe_of_opsIn base_stable_restore hread
    (opsIn_listGovernors (P := Query) _ ⟨id, trivial⟩) hw) (fun supported w hw => ?_)
    fun _ _ h => ⟨h, fun _ h' => by cases h'⟩
  split
  · exact safe_done (hQ _) ⟨hw, fun _ h => by cases h⟩
  have hwrite : Safe World.exec (RestoreRely p) (fun w _ w' => ApplyOwn g [] p w w')
      (fun res w => Base K w ∧ ∀ u, res = .ok u → w.device.governor p = g)
      (writeValue (.scalingGovernor r) (.str g) true) w := by
    refine safe_op base_stable_restore hw fun w hb => ?_
    obtain ⟨hown, hg⟩ : ApplyOwn g [] p w _ ∧ _ := writeGovernor_own w (hb.2 ▸ hp)
    exact ⟨hown, safe_done (hQ _) ⟨⟨hown.1.2 hb.1, hown.1.1.trans hb.2⟩, fun _ hu => hg hu⟩⟩
  exact safe_bind hwrite (fun _ w hw => safe_done (hQ _) ⟨hw.1, fun _ _ => hw.2 () rfl⟩)
    fun _ _ h => ⟨h.1, fun _ h' => by cases h'⟩

/-- `set_governor` without tunables writes in order on any device. -/
theorem inOrder_setGovernor_nil (cpu : CpuId) (g : String) :
    Coro.OpsIn (fun o => ∀ d, WriteInOrder d o) (setGovernor cpu g []) :=
  (opsIn_listGovernors cpu fun _ => trivial).bind fun _ =>
    opsIn_ite (.done _) ((opsIn_writeValue fun _ => trivial).bind fun _ => .done _)

theorem restoreGovernorTasks_getElem? {kvs : List (CpuId × CpuInfo)} {domains : List ℤ}
    {ts : List (Asyn Unit)} (hts : restoreGovernorTasks kvs domains = .ok ts) {i : ℕ}
    {t : Asyn Unit} (ht : ts[i]? = some t) :
    ∃ r info, domains[i]? = some r ∧ dictGet kvs (.num r) = some info ∧
      t = setGovernor (.num r) info.governor [] := by
  obtain ⟨r, hr, h⟩ := forall₂_getElem?_right (forall₂_of_mapM_ok hts) ht
  obtain ⟨info, hinfo, rfl⟩ := restoreGovernorTask_ok h
  exact ⟨r, info, hr, hinfo, rfl⟩

/-- The governor-restore phase in any interleaving, over domains in distinct
policies: each step is a step of the owner of a domain's policy, and when every
task returned each domain's policy runs the governor of the domain's snapshot. -/
theorem restoreGovernors_run {kvs : List (CpuId × CpuInfo)} {domains : List ℤ} (hnd : domains.Nodup)
    (hpol : ∀ r ∈ domains, ∃ p, K.policyOf r = some p)
    (hinj : ∀ r ∈ domains, ∀ r' ∈ domains, K.policyOf r = K.policyOf r' → r = r')
    {ts : List (Asyn Unit)} (hts : restoreGovernorTasks kvs domains = .ok ts) {w w' : World} {res tr}
    (run : Concurrently World.exec w ts w' res tr) (hw : Base K w) :
    (∀ x ∈ tr, ∃ r ∈ domains, ∃ p g, K.policyOf r = some p ∧ ApplyOwn g [] p x.2.1 (x.2.1.exec x.2.2).2) ∧
      Base K w' ∧ ∀ us, res = .ok us → ∀ r ∈ domains, ∀ info, dictGet kvs (.num r) = some info →
        ∀ p, K.policyOf r = some p → w'.device.governor p = info.governor := by
  have hlen : ts.length = domains.length := (forall₂_of_mapM_ok hts).length_eq.symm
  have htask : ∀ i t, ts[i]? = some t → ∃ r info, domains[i]? = some r ∧
      K.policyOf r = some (taskPolicy K domains i) ∧ dictGet kvs (.num r) = some info ∧
      t = setGovernor (.num r) info.governor [] := fun i t ht => by
    obtain ⟨r, info, hr, hinfo, rfl⟩ := restoreGovernorTasks_getElem? hts ht
    obtain ⟨p, hp⟩ := hpol r (List.getElem?_mem hr)
    exact ⟨r, info, hr, by simp [taskPolicy, hr, hp], hinfo, rfl⟩
  have hs := run.safe (R := fun i => RestoreRely (taskPolicy K domains i))
    (G := fun i w _ w' => ∃ g, ApplyOwn g [] (taskPolicy K domains i) w w')
    (Q := fun i res w => Base K w ∧ ∀ u, res = .ok u → ∀ r ∈ domains[i]?, ∀ info,
      dictGet kvs (.num r) = some info → w.device.governor (taskPolicy K domains i) = info.governor)
    (fun i j hi hj hij _ _ ⟨g, h⟩ =>
      ⟨_, taskPolicy_ne hnd hpol hinj (hlen ▸ hi) (hlen ▸ hj) hij, g, h⟩)
    fun i t ht => by
      obtain ⟨r, info, hr, hp, hinfo, rfl⟩ := htask i t ht
      exact (setGovernor_restore hp info.governor hw).mono (fun _ _ _ h => ⟨_, h⟩) fun _ _ h =>
        ⟨h.1, fun u hu r' hr' info' hinfo' => by
          rw [hr, Option.mem_def, Option.some_inj] at hr'
          subst hr'
          rw [hinfo, Option.some_inj] at hinfo'
          exact hinfo' ▸ h.2 u hu⟩
  have hstep : ∀ x ∈ tr, ∃ r ∈ domains, ∃ p g, K.policyOf r = some p ∧
      ApplyOwn g [] p x.2.1 (x.2.1.exec x.2.2).2 := by
    intro x hx
    obtain ⟨r, -, hr, hp, -⟩ := htask _ _ (List.getElem?_eq_getElem (run.index_lt x hx))
    obtain ⟨g, hg⟩ := hs.1 x hx
    exact ⟨r, List.getElem?_mem hr, _, g, hp, hg⟩
  refine ⟨hstep, (run.preserves (I := Base K) (fun x hx h => ?_) hw).2, fun us hus r hr info hinfo p hp => ?_⟩
  · obtain ⟨_, -, _, _, -, hg⟩ := hstep x hx
    exact ⟨hg.1.2 h.1, hg.1.1.trans h.2⟩
  · obtain ⟨i, hi⟩ := List.mem_iff_getElem?.mp hr
    have hi' : i < us.length := by
      rw [run.length_ok hus, hlen]; exact (List.getElem?_eq_some_iff.mp hi).1
    have hpi : taskPolicy K domains i = p := by simp [taskPolicy, hi, hp]
    exact hpi ▸ (hs.2.1 us hus i _ (List.getElem?_eq_getElem hi')).2 _ rfl r hi info hinfo

end Restore

/-! ## Tunables and frequencies -/

/-- A move that keeps the kernel, the cache law and the governor of every policy. -/
def KeepsGovernors (w w' : World) : Prop := KeepsCache w w' ∧ w'.device.governor = w.device.governor

/-- The guarantee of a tunables task: each write in order, no governor changed. -/
def TunablesGuar (w : World) (o : Op) (w' : World) : Prop := WriteInOrder w.device o ∧ KeepsGovernors w w'

/-- CPU `c`'s policy runs `g`. -/
def RunsOn (c : CpuId) (g : String) (w : World) : Prop :=
  ∃ p, w.device.kernel.policyOf c.index = some p ∧ w.device.governor p = g

theorem runsOn_of_governor {c : CpuId} {g : String} {w w' : World}
    (hk : w'.device.kernel = w.device.kernel) (hg : w'.device.governor = w.device.governor)
    (h : RunsOn c g w) : RunsOn c g w' := by
  obtain ⟨p, hp, hpg⟩ := h
  exact ⟨p, hk ▸ hp, hg ▸ hpg⟩

/-- A write of any file but `scaling_governor` changes no governor. -/
theorem exec_governor_of_ne (w : World) {f : Sysfile} (hf : ∀ c, f ≠ .scalingGovernor c) (v : PyVal)
    (verify : Bool) : (w.exec (.writeValue f v verify)).2.device.governor = w.device.governor :=
  w.device.writeValue_governor hf v verify

theorem tunablePath_ne_scalingGovernor (c : CpuId) (g : String) (pc : Bool) (t : String) :
    ∀ c', tunablePath c g pc t ≠ .scalingGovernor c' := by
  intro c' h
  cases pc <;> simp [tunablePath] at h

/-! ### What a tunables task issues -/

/-- An operation `set_governor_tunables(cpu, g, per_cpu, **kws)` may issue under
the cache law: a read, or a verified write of a value of `kws` into `g`'s file
through `cpu`, in a layout `per_cpu` admits. -/
def TunablesOp (cpu : CpuId) (g : String) (perCpu : Option Bool) (kws : List (String × String))
    (o : Op) : Prop :=
  ReadOnly o ∨ ∃ pc t v, (t, v) ∈ kws ∧ (∀ b ∈ perCpu, b = pc) ∧
    o = .writeValue (tunablePath cpu g pc t) (.str v) true

/-- Whatever the environment does within the cache law, `set_governor_tunables`
of a named governor issues only its own operations: the governor the cache
answers is the one named. -/
theorem setGovernorTunables_ops (cpu : CpuId) (g : String) (perCpu : Option Bool)
    (kws : List (String × String)) {w : World} (hw : CacheOK w) :
    Safe World.exec KeepsCache (fun w o w' => KeepsCache w w' ∧ TunablesOp cpu g perCpu kws o)
      (fun _ w => CacheOK w) (setGovernorTunables cpu (some g) perCpu kws) w := by
  unfold setGovernorTunables
  split
  · exact safe_done cacheOK_stable hw
  refine safe_bind ((safe_withOps (listGovernorTunables_safe cpu (some g) hw)
    (readOnly_listGovernorTunables cpu (some g))).mono (fun _ _ _ h => ⟨h.1, .inl h.2⟩)
      fun _ _ h => h) (fun data w hw => ?_) fun _ _ h => h.1
  obtain ⟨-, hname⟩ := hw.2 data rfl
  obtain ⟨g', pc, valid⟩ := data
  obtain rfl : g' = g := hname g rfl
  exact safe_withOps
    (cacheSafe_of_opsIn (opsIn_setGovernorTunablesLoop _ _ _ _ _ _ fun _ _ _ _ _ => trivial) w hw.1)
    (opsIn_setGovernorTunablesLoop _ _ _ _ _ _ fun t v h _ hp => .inr ⟨pc, t, v, h, hp, rfl⟩)

/-- An operation `set_per_cpu_tunables(r)` may issue under the cache law, with
`info` the snapshot of `r`: one of its `set_governor_tunables`, or, when `r` ran
`userspace`, a write of `r`'s `scaling_setspeed`. -/
def PerCpuOp (r : ℤ) (info : CpuInfo) (o : Op) : Prop :=
  TunablesOp (.num r) info.governor (some true) info.tunables o ∨
    info.governor = "userspace" ∧ ∃ v, o = .writeValue (.scalingSetspeed r) v false

theorem setPerCpuTunables_ops (kvs : List (CpuId × CpuInfo)) (r : ℤ) {w : World} (hw : CacheOK w) :
    Safe World.exec KeepsCache
      (fun w o w' => KeepsCache w w' ∧ ∃ info, dictGet kvs (.num r) = some info ∧ PerCpuOp r info o)
      (fun _ w => CacheOK w) (setPerCpuTunables kvs r) w := by
  unfold setPerCpuTunables
  split
  · exact safe_done cacheOK_stable hw
  rename_i info hinfo
  have hop : ∀ {P : Op → Prop}, (∀ o, P o → PerCpuOp r info o) → ∀ w o w',
      KeepsCache w w' ∧ P o →
        KeepsCache w w' ∧ ∃ info, dictGet kvs (.num r) = some info ∧ PerCpuOp r info o :=
    fun hP _ o _ h => ⟨h.1, info, hinfo, hP o h.2⟩
  refine safe_bind ((setGovernorTunables_ops _ _ _ _ hw).mono (hop fun _ => .inl) fun _ _ h => h)
    (fun _ w hw => ?_) fun _ _ h => h
  split
  · rename_i huser
    exact (safe_withOps (cacheSafe_of_opsIn (opsIn_setFrequency (.num r) (fun _ ho => ho.1.2)
      (fun _ => trivial) (.int info.frequency) true) w hw) (opsIn_setFrequency (P := PerCpuOp r info)
        (.num r) (fun _ ho => .inl (.inl ho.1.1)) (fun v => .inr ⟨huser, v, rfl⟩) (.int info.frequency) true)).mono (hop fun _ h => h) fun _ _ h => h
  · exact safe_done cacheOK_stable hw

/-- Task `i` of the tunables phase: the per-CPU task of the `i`-th domain, or the
global task of the governor the dictionary lists after the domains. -/
theorem restoreTunablesTasks_getElem? {kvs : List (CpuId × CpuInfo)} {domains : List ℤ} {i : ℕ}
    {t : Asyn Unit} (ht : (restoreTunablesTasks kvs domains)[i]? = some t) :
    (∃ r, domains[i]? = some r ∧ t = setPerCpuTunables kvs r) ∨
      domains.length ≤ i ∧ ∃ e, (globalTunablesDict kvs)[i - domains.length]? = some e ∧
        t = setGovernorTunables e.2.1 (some e.1) (some false) e.2.2 := by
  unfold restoreTunablesTasks at ht
  by_cases hi : i < domains.length
  · rw [List.getElem?_append_left (by simpa using hi), List.getElem?_map] at ht
    obtain ⟨r, hr, rfl⟩ := Option.map_eq_some'.mp ht
    exact .inl ⟨r, hr, rfl⟩
  · rw [List.getElem?_append_right (by simpa using Nat.le_of_not_lt hi), List.getElem?_map,
      List.length_map] at ht
    obtain ⟨e, he, rfl⟩ := Option.map_eq_some'.mp ht
    exact .inr ⟨Nat.le_of_not_lt hi, e, he, rfl⟩

/-- What task `i` of the tunables phase may issue under the cache law: an
operation of the per-CPU task of the `i`-th domain, or of the global task of the
governor listed after the domains. -/
def RestoreTunablesOp (kvs : List (CpuId × CpuInfo)) (domains : List ℤ) (i : ℕ) (o : Op) : Prop :=
  (∃ r, domains[i]? = some r ∧ ∃ info, dictGet kvs (.num r) = some info ∧ PerCpuOp r info o) ∨
    domains.length ≤ i ∧ ∃ e, (globalTunablesDict kvs)[i - domains.length]? = some e ∧
      TunablesOp e.2.1 e.1 (some false) e.2.2 o

/-- The tunables phase, in any interleaving from a world that keeps the cache
law: each step keeps the cache law and is an operation of its task. -/
theorem restoreTunables_taskOps {kvs : List (CpuId × CpuInfo)} {domains : List ℤ} {w w' : World}
    {res tr} (run : Concurrently World.exec w (restoreTunablesTasks kvs domains) w' res tr)
    (hw : CacheOK w) :
    ∀ x ∈ tr, KeepsCache x.2.1 (x.2.1.exec x.2.2).2 ∧ RestoreTunablesOp kvs domains x.1 x.2.2 :=
  (run.safe (R := fun _ => KeepsCache) (Q := fun _ _ w => CacheOK w)
    (G := fun i w o w' => KeepsCache w w' ∧ RestoreTunablesOp kvs domains i o)
    (fun _ _ _ _ _ _ _ h => h.1) fun _ _ ht => by
      rcases restoreTunablesTasks_getElem? ht with ⟨r, hr, rfl⟩ | ⟨hi, e, he, rfl⟩
      · exact (setPerCpuTunables_ops kvs r hw).mono (fun _ _ _ h => ⟨h.1, .inl ⟨r, hr, h.2⟩⟩)
          fun _ _ h => h
      · exact (setGovernorTunables_ops _ _ _ _ hw).mono (fun _ _ _ h => ⟨h.1, .inr ⟨hi, e, he, h.2⟩⟩)
          fun _ _ h => h).1

/-- The tunables phase, in any interleaving from a world that keeps the cache
law: each step keeps the cache law and is an operation of the per-CPU task of a
domain, or of the global task of a captured CPU's previous governor. -/
theorem restoreTunables_ops {kvs : List (CpuId × CpuInfo)} {domains : List ℤ} {w w' : World} {res tr}
    (run : Concurrently World.exec w (restoreTunablesTasks kvs domains) w' res tr) (hw : CacheOK w) :
    ∀ x ∈ tr, KeepsCache x.2.1 (x.2.1.exec x.2.2).2 ∧
      ((∃ r ∈ domains, ∃ info, dictGet kvs (.num r) = some info ∧ PerCpuOp r info x.2.2) ∨
        ∃ e ∈ kvs, TunablesOp e.1 e.2.governor (some false) e.2.tunables x.2.2) := by
  intro x hx
  obtain ⟨hk, ⟨r, hr, h⟩ | ⟨-, e, he, h⟩⟩ := restoreTunables_taskOps run hw x hx
  · exact ⟨hk, .inl ⟨r, List.getElem?_mem hr, h⟩⟩
  · obtain ⟨e', he', rfl⟩ := List.mem_map.mp (mem_of_mem_pyDict (List.getElem?_mem he))
    exact ⟨hk, .inr ⟨e', he', h⟩⟩

/-- An operation of a tunables task changes no governor. -/
theorem governor_of_tunablesOp {c : CpuId} {g : String} {perCpu : Option Bool}
    {kws : List (String × String)} {o : Op} (ho : TunablesOp c g perCpu kws o) (w : World) :
    (w.exec o).2.device.governor = w.device.governor := by
  rcases ho with ho | ⟨pc, t, v, -, -, rfl⟩
  · rw [World.exec_device_of_not_write w ho]
  · exact exec_governor_of_ne w (tunablePath_ne_scalingGovernor c g pc t) _ true

/-- An operation of a tunables task of `g`, through a CPU whose policy runs `g`, is in order. -/
theorem writeInOrder_of_tunablesOp {c : CpuId} {g : String} {perCpu : Option Bool}
    {kws : List (String × String)} {o : Op} (ho : TunablesOp c g perCpu kws o) {w : World}
    (hrun : RunsOn c g w) : WriteInOrder w.device o := by
  rcases ho with ho | ⟨pc, t, v, -, -, rfl⟩
  · exact writeInOrder_of_readOnly ho
  · obtain ⟨p, hp, hg⟩ := hrun
    exact writeInOrder_tunablePath hp hg pc t _ true

/-- The policy of every captured CPU runs the governor of its snapshot. -/
def GovernorsBack (kvs : List (CpuId × CpuInfo)) (w : World) : Prop := ∀ e ∈ kvs, RunsOn e.1 e.2.governor w

/-- The tunables phase, in any interleaving, once the governors are back: no step
changes a governor, so the governors stay back, and each write is in order. -/
theorem restoreTunables_run {kvs : List (CpuId × CpuInfo)} {domains : List ℤ} {w w' : World} {res tr}
    (run : Concurrently World.exec w (restoreTunablesTasks kvs domains) w' res tr) (hw : CacheOK w)
    (hback : GovernorsBack kvs w) : ∀ x ∈ tr, TunablesGuar x.2.1 x.2.2 (x.2.1.exec x.2.2).2 := by
  have hops := restoreTunables_ops run hw
  have hgov : ∀ x ∈ tr, (x.2.1.exec x.2.2).2.device.governor = x.2.1.device.governor := fun x hx => by
    rcases (hops x hx).2 with ⟨r, -, info, -, h | ⟨-, v, h⟩⟩ | ⟨e, -, h⟩
    · exact governor_of_tunablesOp h _
    · rw [h]; exact exec_governor_of_ne _ (fun _ h => by cases h) v false
    · exact governor_of_tunablesOp h _
  have hback' := (run.preserves (I := GovernorsBack kvs)
    (fun x hx h e he => runsOn_of_governor (World.exec_kernel _ _) (hgov x hx) (h e he)) hback).1
  intro x hx
  refine ⟨?_, (hops x hx).1, hgov x hx⟩
  rcases (hops x hx).2 with ⟨r, -, info, hinfo, h | ⟨huser, v, h⟩⟩ | ⟨e, he, h⟩
  · exact writeInOrder_of_tunablesOp h (hback' x hx _ (mem_of_dictGet hinfo))
  · obtain ⟨p, hp, hg⟩ := hback' x hx _ (mem_of_dictGet hinfo)
    rw [h]
    exact ⟨p, hp, hg.trans huser⟩
  · exact writeInOrder_of_tunablesOp h (hback' x hx e he)

/-- Once every domain's policy runs the governor of its snapshot, so does the
policy of every captured CPU: each is the policy of one domain, and snapshots
of one policy agree on its governor. -/
theorem governorsBack {K : Kernel} {kvs : List (CpuId × CpuInfo)} {domains : List ℤ}
    (hD : Domains K kvs domains) {d₀ : Device} (hk₀ : d₀.kernel = K)
    (hs : ∀ e ∈ kvs, Snapshot d₀ e.1 e.2) {ts : List (Asyn Unit)}
    (hts : restoreGovernorTasks kvs domains = .ok ts) {w : World} (hk : w.device.kernel = K)
    (hgov : ∀ r ∈ domains, ∀ info, dictGet kvs (.num r) = some info →
      ∀ p, K.policyOf r = some p → w.device.governor p = info.governor) :
    GovernorsBack kvs w := by
  intro e he
  obtain ⟨r, hr, hl⟩ := hD.cover e he
  obtain ⟨p, hpe, hpr⟩ := lowestOnline_policyOf hl
  obtain ⟨t, -, ht⟩ := forall₂_mem_left (forall₂_of_mapM_ok hts) hr
  obtain ⟨info, hinfo, -⟩ := restoreGovernorTask_ok ht
  obtain ⟨p', hp', -, hg', -⟩ := hs _ (mem_of_dictGet hinfo)
  obtain ⟨p'', hp'', -, hg'', -⟩ := hs e he
  have e₁ : p' = p := Option.some_inj.mp (hp'.symm.trans (by rw [hk₀]; exact hpr))
  have e₂ : p'' = p := Option.some_inj.mp (hp''.symm.trans (by rw [hk₀]; exact hpe))
  subst e₁ e₂
  exact ⟨_, hk ▸ hpe, (hgov r hr info hinfo _ hpr).trans (hg'.trans hg''.symm)⟩

/-! ## The `finally` -/

/-- Whatever the interleaving, the governor-restore phase writes in order. -/
theorem restoreGovernors_inOrder {kvs : List (CpuId × CpuInfo)} {domains : List ℤ}
    {ts : List (Asyn Unit)} (hts : restoreGovernorTasks kvs domains = .ok ts) {w w' : World} {res tr}
    (run : Concurrently World.exec w ts w' res tr) : ∀ x ∈ tr, WriteInOrder x.2.1.device x.2.2 :=
  fun x hx => run.opsIn (P := fun o => ∀ d, WriteInOrder d o) (fun t ht => by
    obtain ⟨r, -, h⟩ := forall₂_mem_right (forall₂_of_mapM_ok hts) ht
    obtain ⟨info, -, rfl⟩ := restoreGovernorTask_ok h
    exact inOrder_setGovernor_nil _ _) x hx _

/-- The `finally` of `use_governor` after a capture of the device `d₀` under
the topology, in any interleaving of each phase: every tunable write is made
while its governor runs where it is written, and every `scaling_setspeed`
write while `userspace` runs on the CPU's policy. -/
theorem restore_inOrder {K : Kernel} {kvs : List (CpuId × CpuInfo)} {domains : List ℤ}
    (hD : Domains K kvs domains) {d₀ : Device} (hk₀ : d₀.kernel = K)
    (hs : ∀ e ∈ kvs, Snapshot d₀ e.1 e.2) {w w' : World} {res tr}
    (run : Restore kvs domains w res w' tr) (hw : Base K w) :
    ∀ x ∈ tr, WriteInOrder x.2.1.device x.2.2 := by
  cases run with
  | lookupFailed => simp
  | governorsFailed hts h => exact restoreGovernors_inOrder hts h
  | tunables hts h₁ h₂ =>
    obtain ⟨-, hB, hgov⟩ := restoreGovernors_run hD.nodup hD.policy hD.inj hts h₁ hw
    have hback := governorsBack hD hk₀ hs hts hB.2 (hgov _ rfl)
    intro x hx
    rcases List.mem_append.mp hx with hx | hx
    · exact restoreGovernors_inOrder hts h₁ x hx
    · exact (restoreTunables_run h₂ hB.1 hback x hx).1

end Devlib.Cpufreq

import Devlib.Cpufreq.RestorePhase

/-!
# Whole runs of `use_governor`

Properties of every run of `use_governor`, from the capture to the end of the
`finally`, in any interleaving of each phase and around any body that keeps the
kernel and the module's cache law, such as a body that calls the module.

## Implementation notes

A body is a relation on worlds; it may change governors, tunables and
frequencies, but it hotplugs no CPU, and it stores into the cache only what the
module's own calls store.
-/

namespace Devlib.Cpufreq

open Devlib.Async Devlib.Target

/-- Governor before tunables: in every run of `use_governor` under the
topology, each tunable write of a governor `g` is made while `g` runs on the
written CPU's policy (for the global directory, on some policy), and each
`scaling_setspeed` write while `userspace` runs on the CPU's policy. -/
theorem useGovernor_writes_in_order {K : Kernel} (hK : Topology K) {G : String}
    {kwargs : List (String × String)} (hkw : (kwargs.map Prod.fst).Nodup) {cpus : List CpuId}
    {body : World → Except Error Unit → World → Prop}
    (hbody : ∀ w rb w', body w rb w' → KeepsCache w w') {w w' : World} {res tr}
    (run : UseGovernor G cpus kwargs body w res w' tr) (hw : CacheOK w) (hk : w.device.kernel = K) :
    ∀ x ∈ tr, WriteInOrder x.2.1.device x.2.2 := by
  have hcap : ∀ {w₁ res₁ tr₁}, Concurrently World.exec w (captureTasks (cpusOrOnline w.device.kernel cpus))
      w₁ res₁ tr₁ → ∀ x ∈ tr₁, WriteInOrder x.2.1.device x.2.2 :=
    fun h x hx => writeInOrder_of_readOnly (capture_readOnly h x hx)
  cases run with
  | captureFailed h => exact hcap h
  | domainsFailed h _ => exact hcap h
  | applyFailed h₁ hdom h₂ =>
    obtain ⟨-, -, -, happly, -⟩ := entry_run hK hkw hw hk h₁ hdom h₂
    intro x hx
    rcases List.mem_append.mp hx with hx | hx
    · exact hcap h₁ x hx
    · obtain ⟨_, -, _, -, hg⟩ := happly x hx
      exact hg.1
  | exited h₁ hdom h₂ hb hr =>
    obtain ⟨hs, hD, -, happly, hB, -⟩ := entry_run hK hkw hw hk h₁ hdom h₂
    have hB₃ : Base K _ := ⟨(hbody _ _ _ hb).2 hB.1, (hbody _ _ _ hb).1.trans hB.2⟩
    intro x hx
    rcases List.mem_append.mp hx with hx | hx
    · rcases List.mem_append.mp hx with hx | hx
      · exact hcap h₁ x hx
      · obtain ⟨_, -, _, -, hg⟩ := happly x hx
        exact hg.1
    · exact restore_inOrder hD hk hs hr hB₃ x hx

/-- `use_governor('conservative', freq_step='20')` on all CPUs of the two
clusters, with a body that does nothing. -/
theorem useGovernor_writes_in_order_clusters :
    ∃ w' tr, UseGovernor "conservative" [] [("freq_step", "20")]
        (fun w r w' => (Except.ok (), w) = (r, w')) clusterWorld (.ok ()) w' tr ∧
      ∀ x ∈ tr, WriteInOrder x.2.1.device x.2.2 := by
  obtain ⟨tr, h⟩ := useGovernorSeq_useGovernor "conservative" [] [("freq_step", "20")]
    (fun w => (.ok (), w)) clusterWorld
  rw [show (useGovernorSeq "conservative" [] [("freq_step", "20")] (fun w => (.ok (), w))
    clusterWorld).1 = .ok () from rfl] at h
  exact ⟨_, tr, h, useGovernor_writes_in_order topology_clusterWorld (by decide)
    (fun w _ _ h => by cases h; exact ⟨rfl, id⟩) h (fun _ _ h => by simp [clusterWorld] at h) rfl⟩

/-- A normal exit of `use_governor` under the topology, opened phase by phase:
the snapshots of the capture of `w` and what they list, their domains, the
lookups of the `finally`, and its tunables phase, in which every task returned
and which starts within the cache law once every captured CPU runs its previous
governor again. -/
theorem useGovernor_ok_run {K : Kernel} (hK : Topology K) {G : String}
    {kwargs : List (String × String)} (hkw : (kwargs.map Prod.fst).Nodup) {cpus : List CpuId}
    {body : World → Except Error Unit → World → Prop}
    (hbody : ∀ w rb w', body w rb w' → KeepsCache w w') {w w' : World} {tr}
    (run : UseGovernor G cpus kwargs body w (.ok ()) w' tr) (hw : CacheOK w) (hk : w.device.kernel = K) :
    ∃ infos domains ts w₄ us tr₄,
      (∀ e ∈ cpusInfos (cpusOrOnline K cpus) infos, Snapshot w.device e.1 e.2 ∧ Lists K w e.2) ∧
      Domains K (cpusInfos (cpusOrOnline K cpus) infos) domains ∧
      (∀ c ∈ cpusOrOnline K cpus, ∃ info, (c, info) ∈ cpusInfos (cpusOrOnline K cpus) infos) ∧
      restoreGovernorTasks (cpusInfos (cpusOrOnline K cpus) infos) domains = .ok ts ∧
      Concurrently World.exec w₄ (restoreTunablesTasks (cpusInfos (cpusOrOnline K cpus) infos) domains) w'
        (.ok us) tr₄ ∧
      Base K w₄ ∧ GovernorsBack (cpusInfos (cpusOrOnline K cpus) infos) w₄ := by
  generalize hres : (Except.ok () : Except Error Unit) = res at run
  cases run with
  | captureFailed => cases hres
  | domainsFailed => cases hres
  | applyFailed => cases hres
  | @exited _ _ w₃ _ _ _ _ rb re _ _ _ h₁ hdom h₂ hb hr =>
    obtain ⟨u, rfl⟩ : ∃ u, re = .ok u := by
      cases re with
      | ok u => exact ⟨u, rfl⟩
      | error e => cases hres
    subst hk
    obtain ⟨-, hs, hD, hkeys⟩ := capture_domains hK hw rfl h₁ hdom
    have hlists := capture_lists h₁ hw
    obtain ⟨-, -, -, -, hB, -⟩ := entry_run hK hkw hw rfl h₁ hdom h₂
    have hB₃ : Base w.device.kernel w₃ := ⟨(hbody _ _ _ hb).2 hB.1, (hbody _ _ _ hb).1.trans hB.2⟩
    generalize hre : (Except.ok u : Except Error Unit) = re at hr
    cases hr with
    | lookupFailed => cases hre
    | governorsFailed => cases hre
    | @tunables _ _ ts _ res _ _ hts hg ht =>
      obtain ⟨us, rfl⟩ : ∃ us, res = .ok us := by
        cases res with
        | ok us => exact ⟨us, rfl⟩
        | error e => cases hre
      obtain ⟨-, hB₄, hgov⟩ := restoreGovernors_run hD.nodup hD.policy hD.inj hts hg hB₃
      exact ⟨_, _, ts, _, us, _, fun e he => ⟨hs e he,
        hlists _ (List.of_mem_zip (mem_of_mem_pyDict he)).2⟩, hD, hkeys, hts, ht, hB₄,
        governorsBack hD rfl hs hts hB₄.2 (hgov _ rfl)⟩

/-- When `use_governor` exits normally, whatever the body did within the kernel
and the cache law, in any interleaving of each phase under the topology: every
CPU of `cpus` reads the `scaling_governor` it read before the call. -/
theorem useGovernor_restores_governors {K : Kernel} (hK : Topology K) {G : String}
    {kwargs : List (String × String)} (hkw : (kwargs.map Prod.fst).Nodup) {cpus : List CpuId}
    {body : World → Except Error Unit → World → Prop}
    (hbody : ∀ w rb w', body w rb w' → KeepsCache w w') {w w' : World} {tr}
    (run : UseGovernor G cpus kwargs body w (.ok ()) w' tr) (hw : CacheOK w) (hk : w.device.kernel = K) :
    ∀ c ∈ cpusOrOnline K cpus,
      w'.device.read (.scalingGovernor c.index) = w.device.read (.scalingGovernor c.index) := by
  obtain ⟨infos, domains, _, w₄, _, tr₄, hs, -, hkeys, -, ht, hB₄, hback⟩ :=
    useGovernor_ok_run hK hkw hbody run hw hk
  have hstep := restoreTunables_run ht hB₄.1 hback
  have hend := (ht.preserves (I := fun u => GovernorsBack _ u ∧ u.device.kernel = K)
    (fun x hx h => ⟨fun e he => runsOn_of_governor (hstep x hx).2.1.1 (hstep x hx).2.2 (h.1 e he),
      (hstep x hx).2.1.1.trans h.2⟩) ⟨hback, hB₄.2⟩).2
  intro c hc
  obtain ⟨info, he⟩ := hkeys c hc
  obtain ⟨p, hp, hpg⟩ := hend.1 _ he
  obtain ⟨p', hp', -, hg', -⟩ := (hs _ he).1
  rw [hend.2, ← hk] at hp
  obtain rfl : p = p' := Option.some_inj.mp (hp.symm.trans hp')
  rw [Device.read_scalingGovernor _ (hend.2.trans hk.symm ▸ hp), w.device.read_scalingGovernor hp', hpg, hg']

/-- `use_governor('conservative', freq_step='20')` on all CPUs of the two clusters,
with a body that does nothing. -/
theorem useGovernor_restores_governors_clusters :
    ∃ w' tr, UseGovernor "conservative" [] [("freq_step", "20")]
        (fun w r w' => (Except.ok (), w) = (r, w')) clusterWorld (.ok ()) w' tr ∧
      ∀ c ∈ cpusOrOnline clusterWorld.device.kernel [],
        w'.device.read (.scalingGovernor c.index) = clusterWorld.device.read (.scalingGovernor c.index) := by
  obtain ⟨tr, h⟩ := useGovernorSeq_useGovernor "conservative" [] [("freq_step", "20")]
    (fun w => (.ok (), w)) clusterWorld
  rw [show (useGovernorSeq "conservative" [] [("freq_step", "20")] (fun w => (.ok (), w))
    clusterWorld).1 = .ok () from rfl] at h
  exact ⟨_, tr, h, useGovernor_restores_governors topology_clusterWorld (by decide)
    (fun w _ _ h => by cases h; exact ⟨rfl, id⟩) h (fun _ _ h => by simp [clusterWorld] at h) rfl⟩

end Devlib.Cpufreq

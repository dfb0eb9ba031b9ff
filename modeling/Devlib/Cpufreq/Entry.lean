import Devlib.Cpufreq.ApplyPhase

/-!
# Entering `use_governor`

What holds when the body starts. The capture left the device as it was, the
domains are the lowest online CPUs of the touched policies, and the apply phase,
in whatever interleaving, wrote the `scaling_governor` file of each of them
once and no other, leaving `G` on every CPU it was given, with every tunable of
`kwargs` reading back its value.
-/

namespace Devlib.Cpufreq

open Devlib.Async Devlib.Target

/-! ## `scaling_governor` writes -/

/-- The entry of `use_governor` to the end of the apply phase, in any
interleaving of each phase and under the topology: the snapshots are of the
device the run began with, the domains are those of the topology, every apply
step is a step of the owner of a domain's policy and in order, and when the
apply phase returned its tasks are done. -/
theorem entry_run {K : Kernel} (hK : Topology K) {G : String} {kwargs : List (String × String)}
    (hkw : (kwargs.map Prod.fst).Nodup) {cpus : List CpuId} {w w₁ w₂ : World} (hw : CacheOK w)
    (hk : w.device.kernel = K) {infos : List CpuInfo} {domains : List ℤ} {res tr₁ tr₂}
    (capture : Concurrently World.exec w (captureTasks cpus) w₁ (.ok infos) tr₁)
    (hdom : domainsOf (cpusInfos cpus infos) = .ok domains)
    (apply : Concurrently World.exec w₁ (applyTasks G kwargs domains) w₂ res tr₂) :
    (∀ e ∈ cpusInfos cpus infos, Snapshot w.device e.1 e.2) ∧ Domains K (cpusInfos cpus infos) domains ∧
      (∀ c ∈ cpus, ∃ r ∈ domains, lowestOnline K c.index = some r) ∧
      (∀ x ∈ tr₂, ∃ r ∈ domains, ∃ p, K.policyOf r = some p ∧
        ApplyGuar G kwargs p x.2.1 x.2.2 (x.2.1.exec x.2.2).2) ∧ Base K w₂ ∧
      ∀ us, res = .ok us → ∀ r ∈ domains, ∀ p, K.policyOf r = some p → ApplyDone K G kwargs p r w₂ := by
  obtain ⟨hshow, hs, hD, hkeys⟩ := capture_domains hK hw hk capture hdom
  have hcpu : ∀ c ∈ cpus, ∃ r ∈ domains, lowestOnline K c.index = some r := fun c hc => by
    obtain ⟨info, he⟩ := hkeys c hc
    exact hD.cover _ he
  exact ⟨hs, hD, hcpu, apply_run hD.nodup hD.policy hD.inj hkw apply ⟨hshow.1, by rw [hshow.2, hk]⟩⟩

/-- Four CPUs in the clusters `{0, 1}` and `{2, 3}` on the per-policy layout,
running `ondemand`, with `conservative` available and tunable by `freq_step`. -/
def clusterWorld : World where
  device :=
    { kernel := Kernel.ofGroups 4 (· / 2) "ondemand conservative" true
        (fun g => if g = "conservative" then ["freq_step"] else []) fun _ _ => true
      governor := fun _ => "ondemand"
      policyValue := fun _ _ => "0"
      globalValue := fun _ _ => "0"
      curFreq := fun _ => 0 }
  cache _ := none

theorem topology_clusterWorld : Topology clusterWorld.device.kernel := by
  intro p hp
  obtain rfl | rfl : p = 0 ∨ p = 1 := by
    simp only [clusterWorld, Kernel.ofGroups, List.mem_map, List.mem_range] at hp
    omega
  all_goals rfl

end Devlib.Cpufreq

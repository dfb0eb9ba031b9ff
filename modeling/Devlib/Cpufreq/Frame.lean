import Devlib.Cpufreq.Runs

/-!
# What `use_governor` leaves alone

A policy that holds no CPU `use_governor` was given keeps, through every run,
its governor, its tunables and its frequency. In the layout with one global
directory per governor, the tunables of its governor are shared with the
policies the call touches. They keep their values too, unless that governor is
`G` and `kwargs` sets some of them: the apply phase then writes them, and the
restore writes back only tunables of the governors the touched CPUs ran before.

Each step of a run keeps the untouched policy `Framed`. The capture and the body
change no file. The apply and governor-restore tasks make only steps of the
owners of other policies. Under the cache law the tunables tasks write only the
files of their own snapshots, with the values the capture read.
-/

namespace Devlib.Cpufreq

open Devlib.Async Devlib.Target

/-! ## The frame of a policy -/

section Frame

variable (d₀ : Device) (q : ℕ) (global : Prop)

/-- Device `d` shows policy `q` as `d₀` does: on the same kernel, the same
governor, tunables and frequency, and, when `global` holds, the same global
tunables of the governor `q` runs. -/
structure Framed (d : Device) : Prop where
  kernel : d.kernel = d₀.kernel
  governor : d.governor q = d₀.governor q
  policyValue : d.policyValue q = d₀.policyValue q
  curFreq : d.curFreq q = d₀.curFreq q
  globalValue : global → d.globalValue (d₀.governor q) = d₀.globalValue (d₀.governor q)

/-- From every world whose device shows `q` framed, the operation leaves it framed. -/
def KeepsFramed (o : Op) : Prop :=
  ∀ w : World, Framed d₀ q global w.device → Framed d₀ q global (w.exec o).2.device

variable {d₀ q global}

theorem framed_refl : Framed d₀ q global d₀ := ⟨rfl, rfl, rfl, rfl, fun _ => rfl⟩

/-- Through a CPU of `q`, a framed device reads the governor and the per-policy
tunables `d₀` reads, and, when `global` holds, the global tunables of `q`'s
governor. -/
theorem Framed.read_eq {d : Device} (h : Framed d₀ q global d) {c : ℤ}
    (hc : d₀.kernel.policyOf c = some q) :
    d.read (.scalingGovernor c) = d₀.read (.scalingGovernor c) ∧
      (∀ g t, d.read (.governorTunable c g t) = d₀.read (.governorTunable c g t)) ∧
      (global → ∀ t, d.read (.globalGovernorTunable (d₀.governor q) t) =
        d₀.read (.globalGovernorTunable (d₀.governor q) t)) := by
  have hq : q ∈ d₀.kernel.policies := d₀.kernel.policyOf_mem c q hc
  refine ⟨by rw [d.read_scalingGovernor (h.kernel ▸ hc), d₀.read_scalingGovernor hc, h.governor],
    fun g t => d₀.read_governorTunable_congr h.kernel hc h.governor (congrFun h.policyValue t),
    fun hg t => d₀.read_globalGovernorTunable_congr h.kernel ?_ (congrFun (h.globalValue hg) t)⟩
  exact ⟨fun _ => ⟨q, hq, rfl⟩, fun _ => ⟨q, h.kernel ▸ hq, h.governor⟩⟩

/-! ### Operations that keep a policy framed -/

theorem keepsFramed_of_readOnly {o : Op} (ho : ReadOnly o) : KeepsFramed d₀ q global o :=
  fun w h => by rw [World.exec_device_of_not_write w ho]; exact h

/-- A tunable write through a CPU of another policy, whose value, when it goes to
the global directory of `q`'s governor, is the one `d₀` shows. -/
theorem keepsFramed_tunablePath {c : CpuId} (hc : d₀.kernel.policyOf c.index ≠ some q)
    {g t v : String} (hv : global → g = d₀.governor q → d₀.globalValue g t = v) (pc verify : Bool) :
    KeepsFramed d₀ q global (.writeValue (tunablePath c g pc t) (.str v) verify) := by
  intro w hf
  show Framed d₀ q global (w.device.writeValue _ _ verify).2
  rcases w.device.writeValue_snd (tunablePath c g pc t) (.str v) verify with h | h
  · rw [h]; exact hf
  cases pc
  · obtain ⟨-, hd⟩ := w.device.write_globalGovernorTunable h
    rw [hd]
    refine ⟨hf.kernel, hf.governor, hf.policyValue, hf.curFreq, fun hg => funext fun s => ?_⟩
    by_cases hs : d₀.governor q = g ∧ s = t
    · obtain ⟨rfl, rfl⟩ := hs
      simpa using (hv hg rfl).symm
    · simpa [hs] using congrFun (hf.globalValue hg) s
  · obtain ⟨p, hp, -, hd⟩ := w.device.write_governorTunable h
    have hpq : q ≠ p := fun e => hc (e ▸ hf.kernel ▸ hp)
    rw [hd]
    exact ⟨hf.kernel, hf.governor, funext fun s => by simpa [hpq] using congrFun hf.policyValue s,
      hf.curFreq, hf.globalValue⟩

/-- A `scaling_setspeed` write through a CPU of another policy. -/
theorem keepsFramed_scalingSetspeed {r : ℤ} (hr : d₀.kernel.policyOf r ≠ some q) (v : PyVal)
    (verify : Bool) : KeepsFramed d₀ q global (.writeValue (.scalingSetspeed r) v verify) := by
  intro w hf
  show Framed d₀ q global (w.device.writeValue _ _ verify).2
  rcases w.device.writeValue_snd (.scalingSetspeed r) v verify with h | h
  · rw [h]; exact hf
  obtain ⟨p, i, hp, -, -, hd⟩ := w.device.write_scalingSetspeed h
  have hpq : q ≠ p := fun e => hr (e ▸ hf.kernel ▸ hp)
  rw [hd]
  exact ⟨hf.kernel, hf.governor, hf.policyValue, by simpa [hpq] using hf.curFreq, hf.globalValue⟩

/-- A step of the owner of another policy `p`, in the apply phase of `G` with
`kwargs` or in the governor restore (`kwargs = []`), keeps `q` framed, unless it
may write the global tunables of `q`'s governor. -/
theorem Framed.of_applyDev {G : String} {kwargs : List (String × String)} {p : ℕ} {d d' : Device}
    (hq : q ∈ d₀.kernel.policies) (hpq : p ≠ q) (hG : global → d₀.governor q = G → kwargs = [])
    (hk : d'.kernel = d.kernel) (h : ApplyDev G kwargs p d d') (hf : Framed d₀ q global d) :
    Framed d₀ q global d' := by
  obtain ⟨hgov, hval, hfreq⟩ := h.frame q (Ne.symm hpq)
  refine ⟨hk.trans hf.kernel, hgov.trans hf.governor, hval.trans hf.policyValue,
    hfreq.trans hf.curFreq, fun hg => funext fun t => ?_⟩
  rcases h.global (d₀.governor q) t with e | ⟨e, hkw | ⟨hrun, -⟩⟩
  · exact e.trans (congrFun (hf.globalValue hg) t)
  · simp [hG hg e] at hkw
  · exact absurd ⟨q, hf.kernel ▸ hq, hf.governor.trans e⟩ hrun

end Frame

/-! ## The frame of the restore -/

section Restore

variable {d₀ : Device} {q : ℕ} {global : Prop}

/-- In the layout with global governor directories, a snapshot's tunables are
the global values of its governor. -/
theorem Snapshot.globalValue {cpu : CpuId} {info : CpuInfo} (hs : Snapshot d₀ cpu info)
    (hgl : d₀.kernel.perPolicy = false) {t v : String} (h : (t, v) ∈ info.tunables) :
    d₀.globalValue info.governor t = v := by
  obtain ⟨-, -, -, -, -, hr⟩ := hs
  rcases hr _ h with hr | hr
  · simp only [Device.read, Device.PolicyTunable, hgl] at hr
    split at hr <;> simp at hr
  · exact (d₀.read_globalGovernorTunable_ok hr).2

/-- An operation of a tunables task through a CPU of another policy, writing the
snapshot of that CPU taken on `d₀`, keeps `q` framed. -/
theorem keepsFramed_tunablesOp {cpu : CpuId} {info : CpuInfo} (hs : Snapshot d₀ cpu info)
    (hc : d₀.kernel.policyOf cpu.index ≠ some q) (hgl : global → d₀.kernel.perPolicy = false)
    {perCpu : Option Bool} {o : Op} (ho : TunablesOp cpu info.governor perCpu info.tunables o) :
    KeepsFramed d₀ q global o := by
  rcases ho with ho | ⟨pc, t, v, h, -, rfl⟩
  · exact keepsFramed_of_readOnly ho
  · exact keepsFramed_tunablePath hc (fun hg _ => hs.globalValue (hgl hg) h) pc true

/-- The tunables phase after a capture of `d₀`, with every domain and every
captured CPU outside `q`: each step keeps `q` framed. -/
theorem restoreTunables_framed {kvs : List (CpuId × CpuInfo)} {domains : List ℤ}
    (hs : ∀ e ∈ kvs, Snapshot d₀ e.1 e.2) (hgl : global → d₀.kernel.perPolicy = false)
    (hdom : ∀ r ∈ domains, d₀.kernel.policyOf r ≠ some q)
    (hkeys : ∀ e ∈ kvs, d₀.kernel.policyOf e.1.index ≠ some q) {w w' : World} {res tr}
    (run : Concurrently World.exec w (restoreTunablesTasks kvs domains) w' res tr) (hw : CacheOK w) :
    ∀ x ∈ tr, KeepsFramed d₀ q global x.2.2 := by
  intro x hx
  rcases (restoreTunables_ops run hw x hx).2 with ⟨r, hr, info, hinfo, h | ⟨-, v, h⟩⟩ | ⟨e, he, h⟩
  · exact keepsFramed_tunablesOp (hs _ (mem_of_dictGet hinfo)) (hdom r hr) hgl h
  · exact h ▸ keepsFramed_scalingSetspeed (hdom r hr) v false
  · exact keepsFramed_tunablesOp (hs e he) (hkeys e he) hgl h

/-- The `finally` of `use_governor` after a capture of `d₀` under the topology,
with every captured CPU outside `q`, in any interleaving of each phase, keeps
`q` framed. -/
theorem restore_framed {kvs : List (CpuId × CpuInfo)} {domains : List ℤ}
    (hD : Domains d₀.kernel kvs domains) (hs : ∀ e ∈ kvs, Snapshot d₀ e.1 e.2)
    (hq : q ∈ d₀.kernel.policies) (hgl : global → d₀.kernel.perPolicy = false)
    (hkeys : ∀ e ∈ kvs, d₀.kernel.policyOf e.1.index ≠ some q) {w w' : World} {res tr}
    (run : Restore kvs domains w res w' tr) (hw : Base d₀.kernel w) (hf : Framed d₀ q global w.device) :
    Framed d₀ q global w'.device := by
  have hdom : ∀ r ∈ domains, d₀.kernel.policyOf r ≠ some q := fun r hr => by
    obtain ⟨e, he, hl⟩ := hD.lowest r hr
    rw [policyOf_lowestOnline hl]
    exact hkeys e he
  have hgov : ∀ {ts w₁ res₁ tr₁}, restoreGovernorTasks kvs domains = .ok ts →
      Concurrently World.exec w ts w₁ res₁ tr₁ → Base d₀.kernel w₁ ∧ Framed d₀ q global w₁.device :=
    fun hts h => by
      obtain ⟨hstep, hB, -⟩ := restoreGovernors_run hD.nodup hD.policy hD.inj hts h hw
      refine ⟨hB, (h.preserves (I := fun w => Framed d₀ q global w.device) (fun x hx hx' => ?_) hf).2⟩
      obtain ⟨r, hr, p, g, hp, hown⟩ := hstep x hx
      exact hx'.of_applyDev hq (fun e => hdom r hr (e ▸ hp)) (fun _ _ => rfl) hown.1.1 hown.2
  cases run with
  | lookupFailed => exact hf
  | governorsFailed hts h => exact (hgov hts h).2
  | tunables hts h₁ h₂ =>
    obtain ⟨hB, hf₁⟩ := hgov hts h₁
    exact (h₂.preserves (I := fun w => Framed d₀ q global w.device)
      (fun x hx hx' => restoreTunables_framed hs hgl hdom hkeys h₂ hB.1 x hx _ hx') hf₁).2

end Restore

/-! ## Whole runs -/

/-- Every run of `use_governor` under the topology, around a body that changes no
file, keeps framed each policy holding no CPU of `cpus`; its governor's global
tunables too, unless that governor is `G` and `kwargs` sets tunables. -/
theorem useGovernor_framed {K : Kernel} (hK : Topology K) {G : String}
    {kwargs : List (String × String)} (hkw : (kwargs.map Prod.fst).Nodup) {cpus : List CpuId}
    {body : World → Except Error Unit → World → Prop}
    (hbody : ∀ w rb w', body w rb w' → KeepsCache w w' ∧ w'.device = w.device) {w w' : World} {res tr}
    (run : UseGovernor G cpus kwargs body w res w' tr) (hw : CacheOK w) (hk : w.device.kernel = K)
    {q : ℕ} (hq : q ∈ K.policies) (hout : ∀ c ∈ cpusOrOnline K cpus, K.policyOf c.index ≠ some q) :
    Framed w.device q (K.perPolicy = false ∧ (w.device.governor q ≠ G ∨ kwargs = [])) w'.device := by
  subst hk
  have hkeys : ∀ {infos}, ∀ e ∈ cpusInfos (cpusOrOnline w.device.kernel cpus) infos,
      w.device.kernel.policyOf e.1.index ≠ some q :=
    fun e he => hout _ (List.of_mem_zip (mem_of_mem_pyDict he)).1
  have hcap : ∀ {global : Prop} {w₁ res₁ tr₁},
      Concurrently World.exec w (captureTasks (cpusOrOnline w.device.kernel cpus)) w₁ res₁ tr₁ →
      Framed w.device q global w₁.device := fun h =>
    (h.preserves (I := fun w' => Framed w.device q _ w'.device)
      (fun x hx hf => keepsFramed_of_readOnly (capture_readOnly h x hx) _ hf) framed_refl).2
  have happly : ∀ {w₁ w₂ infos domains res₂ tr₁ tr₂},
      Concurrently World.exec w (captureTasks (cpusOrOnline w.device.kernel cpus)) w₁ (.ok infos) tr₁ →
      domainsOf (cpusInfos (cpusOrOnline w.device.kernel cpus) infos) = .ok domains →
      Concurrently World.exec w₁ (applyTasks G kwargs domains) w₂ res₂ tr₂ →
      Framed w.device q (w.device.kernel.perPolicy = false ∧ (w.device.governor q ≠ G ∨ kwargs = []))
        w₂.device := fun h₁ hdom h₂ => by
    obtain ⟨-, hD, -, happ, -⟩ := entry_run hK hkw hw rfl h₁ hdom h₂
    refine (h₂.preserves (I := fun w' => Framed w.device q _ w'.device) (fun x hx hf => ?_) (hcap h₁)).2
    obtain ⟨r, hr, p, hp, hg⟩ := happ x hx
    obtain ⟨e, he, hl⟩ := hD.lowest r hr
    exact hf.of_applyDev hq (fun e' => hkeys e he (by rw [← policyOf_lowestOnline hl, hp, e']))
      (fun h e' => h.2.resolve_left (not_not.mpr e')) hg.2.1.1 hg.2.2
  cases run with
  | captureFailed h => exact hcap h
  | domainsFailed h _ => exact hcap h
  | applyFailed h₁ hdom h₂ => exact happly h₁ hdom h₂
  | exited h₁ hdom h₂ hb hr =>
    obtain ⟨hs, hD, -, -, hB, -⟩ := entry_run hK hkw hw rfl h₁ hdom h₂
    obtain ⟨hkc, hdev⟩ := hbody _ _ _ hb
    refine restore_framed hD hs hq (fun h => h.1) hkeys hr ⟨hkc.2 hB.1, hkc.1.trans hB.2⟩ ?_
    rw [hdev]
    exact happly h₁ hdom h₂

/-- A policy `use_governor` is not given a CPU of: through each of its CPUs, every
run under the topology, around a body that changes no file, leaves
`scaling_governor` and every per-policy tunable file reading as before, and, on
the layout with global governor directories, the global tunables of the
policy's governor, unless that governor is `G` and `kwargs` sets tunables. -/
theorem useGovernor_untouched_policy {K : Kernel} (hK : Topology K) {G : String}
    {kwargs : List (String × String)} (hkw : (kwargs.map Prod.fst).Nodup) {cpus : List CpuId}
    {body : World → Except Error Unit → World → Prop}
    (hbody : ∀ w rb w', body w rb w' → KeepsCache w w' ∧ w'.device = w.device) {w w' : World} {res tr}
    (run : UseGovernor G cpus kwargs body w res w' tr) (hw : CacheOK w) (hk : w.device.kernel = K)
    {q : ℕ} (hout : ∀ c ∈ cpusOrOnline K cpus, K.policyOf c.index ≠ some q) (c : ℤ)
    (hc : K.policyOf c = some q) :
    w'.device.read (.scalingGovernor c) = w.device.read (.scalingGovernor c) ∧
      (∀ g t, w'.device.read (.governorTunable c g t) = w.device.read (.governorTunable c g t)) ∧
      (K.perPolicy = false → (w.device.governor q ≠ G ∨ kwargs = []) → ∀ t,
        w'.device.read (.globalGovernorTunable (w.device.governor q) t) =
          w.device.read (.globalGovernorTunable (w.device.governor q) t)) := by
  obtain ⟨h₁, h₂, h₃⟩ := (useGovernor_framed hK hkw hbody run hw hk (K.policyOf_mem c q hc) hout).read_eq
    (hk ▸ hc)
  exact ⟨h₁, h₂, fun hp hg => h₃ ⟨hp, hg⟩⟩

/-- `use_governor('conservative', cpus=[0], freq_step='20')` on the two clusters
leaves the cluster `{2, 3}` reading as before through CPU 2. -/
theorem useGovernor_untouched_policy_clusters :
    ∃ w' tr, UseGovernor "conservative" [.num 0] [("freq_step", "20")]
        (fun w r w' => (Except.ok (), w) = (r, w')) clusterWorld (.ok ()) w' tr ∧
      (∀ c ∈ cpusOrOnline clusterWorld.device.kernel [.num 0], clusterWorld.device.kernel.policyOf c.index ≠ some 1) ∧
      clusterWorld.device.kernel.policyOf 2 = some 1 ∧
      w'.device.read (.scalingGovernor 2) = clusterWorld.device.read (.scalingGovernor 2) ∧
      ∀ g t, w'.device.read (.governorTunable 2 g t) = clusterWorld.device.read (.governorTunable 2 g t) := by
  obtain ⟨tr, h⟩ := useGovernorSeq_useGovernor "conservative" [.num 0] [("freq_step", "20")]
    (fun w => (.ok (), w)) clusterWorld
  rw [show (useGovernorSeq "conservative" [.num 0] [("freq_step", "20")] (fun w => (.ok (), w))
    clusterWorld).1 = .ok () from rfl] at h
  have hout : ∀ c ∈ cpusOrOnline clusterWorld.device.kernel [.num 0],
      clusterWorld.device.kernel.policyOf c.index ≠ some 1 := by decide
  have hc : clusterWorld.device.kernel.policyOf 2 = some 1 := rfl
  obtain ⟨h₁, h₂, -⟩ := useGovernor_untouched_policy topology_clusterWorld (by decide)
    (fun w _ _ h => by cases h; exact ⟨⟨rfl, id⟩, rfl⟩) h (fun _ _ h => by simp [clusterWorld] at h) rfl
    hout 2 hc
  exact ⟨_, tr, h, hout, hc, h₁, h₂⟩

/-! ## A shared governor directory -/

/-- CPUs 0 and 1 in policies of their own on the layout with global governor
directories: policy 0 runs `ondemand`, policy 1 `conservative`, whose
`freq_step` is `5`. -/
def sharedWorld : World where
  device :=
    { kernel := Kernel.ofGroups 2 id "ondemand conservative" false
        (fun g => if g = "conservative" then ["freq_step"] else []) fun _ _ => true
      governor := fun p => if p = 0 then "ondemand" else "conservative"
      policyValue := fun _ _ => "0"
      globalValue := fun _ _ => "5"
      curFreq := fun _ => 0 }
  cache _ := none

theorem topology_sharedWorld : Topology sharedWorld.device.kernel := by
  intro p hp
  obtain rfl | rfl : p = 0 ∨ p = 1 := by
    simp only [sharedWorld, Kernel.ofGroups, List.mem_map, List.mem_range, id] at hp
    omega
  all_goals rfl

/-- `use_governor('conservative', cpus=[0], freq_step='20')` returns, and then
`get_governor_tunables(1)`, of CPU 1 in a policy of its own, reads
`freq_step = 20` where it read `5`: the apply phase wrote the global directory
of `conservative`, which policy 1 runs, and the restore writes back only the
tunables of `ondemand`. -/
theorem useGovernor_shared_tunable_changed :
    ∃ w' tr, UseGovernor "conservative" [.num 0] [("freq_step", "20")]
        (fun w r w' => (Except.ok (), w) = (r, w')) sharedWorld (.ok ()) w' tr ∧
      Topology sharedWorld.device.kernel ∧
      sharedWorld.device.kernel.policyOf 0 = some 0 ∧ sharedWorld.device.kernel.policyOf 1 = some 1 ∧
      ((getGovernorTunables (.num 1)).run World.exec sharedWorld).1 = .ok [("freq_step", "5")] ∧
      ((getGovernorTunables (.num 1)).run World.exec w').1 = .ok [("freq_step", "20")] := by
  obtain ⟨tr, h⟩ := useGovernorSeq_useGovernor "conservative" [.num 0] [("freq_step", "20")]
    (fun w => (.ok (), w)) sharedWorld
  rw [show (useGovernorSeq "conservative" [.num 0] [("freq_step", "20")] (fun w => (.ok (), w))
    sharedWorld).1 = .ok () from rfl] at h
  exact ⟨_, tr, h, topology_sharedWorld, rfl, rfl, rfl, rfl⟩

end Devlib.Cpufreq

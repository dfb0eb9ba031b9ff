import Devlib.Cpufreq.Steps

/-!
# The capture phase

`use_governor` starts with one `get_cpu_info` task per CPU. The tasks only
read, so in any interleaving the device stays as it was, and each snapshot is
what the device showed when the phase began. Under a topology in which
`affected_cpus` lists the online CPUs of the policy in ascending order, the
domains `use_governor` derives from the snapshots are the lowest online CPUs of
the CPUs' policies, one for each policy.
-/

namespace Devlib.Cpufreq

open Devlib.Async Devlib.Target Devlib.Text Relation

/-! ## Topology -/

/-- The online CPUs of policy `p`, in ascending order. -/
def policyCpus (K : Kernel) (p : ℕ) : List ℤ :=
  sorted (K.online.filter fun c => K.policyOf c = some p)

/-- The lowest online CPU of the policy of CPU `c`. -/
def lowestOnline (K : Kernel) (c : ℤ) : Option ℤ :=
  (K.policyOf c).bind fun p => (policyCpus K p).head?

/-- The topology the laws of `use_governor` assume: `get_affected_cpus` of a CPU
answers the online CPUs of its policy in ascending order. -/
def Topology (K : Kernel) : Prop :=
  ∀ p ∈ K.policies, parseInts (split (K.affectedCpus p)) = pure (policyCpus K p)

theorem mem_policyCpus {K : Kernel} {p : ℕ} {c : ℤ} :
    c ∈ policyCpus K p ↔ c ∈ K.online ∧ K.policyOf c = some p := by
  rw [policyCpus, (sorted_perm _).mem_iff, List.mem_filter, decide_eq_true_iff]

/-- The lowest online CPU is a CPU of the same policy. -/
theorem policyOf_lowestOnline {K : Kernel} {c r : ℤ} (h : lowestOnline K c = some r) :
    K.policyOf r = K.policyOf c := by
  obtain ⟨p, hp, hr⟩ := Option.bind_eq_some.mp h
  rw [hp, (mem_policyCpus.mp (List.mem_of_mem_head? hr)).2]

theorem lowestOnline_policyOf {K : Kernel} {c r : ℤ} (h : lowestOnline K c = some r) :
    ∃ p, K.policyOf c = some p ∧ K.policyOf r = some p := by
  obtain ⟨p, hp, -⟩ := Option.bind_eq_some.mp h
  exact ⟨p, hp, (policyOf_lowestOnline h).trans hp⟩

/-- Two CPUs of one policy have one lowest online CPU. -/
theorem lowestOnline_congr {K : Kernel} {c c' : ℤ} (h : K.policyOf c = K.policyOf c') :
    lowestOnline K c = lowestOnline K c' := by
  rw [lowestOnline, lowestOnline, h]

/-! ## The tasks -/

/-- A move that keeps the device and the cache law: what a capture task does
and what it meets. -/
def Frozen (w w' : World) : Prop := KeepsCache w w' ∧ w'.device = w.device

/-- The world shows device `d` and keeps the cache law. -/
def Shows (d : Device) (w : World) : Prop := CacheOK w ∧ w.device = d

/-- The tunable `tv.1` of `g` reads `tv.2` through `cpu`: in the per-CPU
directory, or in the global one. -/
def TunableReads (d : Device) (cpu : CpuId) (g : String) (tv : String × String) : Prop :=
  d.read (.governorTunable cpu.index g tv.1) = .ok tv.2 ∨ d.read (.globalGovernorTunable g tv.1) = .ok tv.2

/-- What `get_cpu_info` tells about `cpu` on device `d`: the parse of its
policy's `affected_cpus`, the policy's governor, its current frequency, and
tunables of the governor with the values they read. -/
def Snapshot (d : Device) (cpu : CpuId) (info : CpuInfo) : Prop :=
  ∃ p, d.kernel.policyOf cpu.index = some p ∧
    parseInts (split (d.kernel.affectedCpus p)) = pure info.affected ∧
    info.governor = d.governor p ∧ info.frequency = d.curFreq p ∧
    ∀ tv ∈ info.tunables, TunableReads d cpu info.governor tv

section Capture

variable {d : Device}

theorem shows_frozen : Stable Frozen (Shows d) := fun _ _ h hw => ⟨h.1.2 hw.1, h.2.trans hw.2⟩

theorem shows_stable (P : Prop) : Stable Frozen fun w => Shows d w ∧ P :=
  fun _ _ h hw => ⟨shows_frozen _ _ h hw.1, hw.2⟩

theorem frozen_exec (w : World) {o : Op} (ho : ReadOnly o) (hs : NoStore o) :
    Frozen w (w.exec o).2 :=
  ⟨keepsCache_of_noStore w hs, World.exec_device_of_not_write w ho⟩

/-- Around moves that keep the device, a read answers what `d` shows. -/
theorem readValue_capture (f : Sysfile) {w : World} (hw : Shows d w) :
    Safe World.exec Frozen (fun w _ w' => Frozen w w') (fun r w => Shows d w ∧ r = d.read f)
      (readValue f) w :=
  safe_op shows_frozen hw
    fun w hw => ⟨frozen_exec w id trivial, safe_done (shows_stable _) ⟨hw, by rw [← hw.2]; rfl⟩⟩

theorem readInt_capture (f : Sysfile) {w : World} (hw : Shows d w) :
    Safe World.exec Frozen (fun w _ w' => Frozen w w') (fun r w => Shows d w ∧ r = d.readInt f)
      (readInt f) w :=
  safe_op shows_frozen hw
    fun w hw => ⟨frozen_exec w id trivial, safe_done (shows_stable _) ⟨hw, by rw [← hw.2]; rfl⟩⟩

theorem getAffectedCpus_capture (cpu : CpuId) {w : World} (hw : Shows d w) :
    Safe World.exec Frozen (fun w _ w' => Frozen w w')
      (fun r w => Shows d w ∧ ∀ a, r = .ok a → ∃ p, d.kernel.policyOf cpu.index = some p ∧
        parseInts (split (d.kernel.affectedCpus p)) = pure a)
      (getAffectedCpus cpu) w := by
  refine safe_bind (readValue_capture _ hw) (fun s w hs => ?_) fun _ _ h => ⟨h.1, fun _ h' => by cases h'⟩
  obtain ⟨p, hp, rfl⟩ := d.read_affectedCpus_ok hs.2.symm
  obtain ⟨r, hr⟩ := parseInts_done (split (d.kernel.affectedCpus p))
  rw [hr]
  exact safe_done (shows_stable _) ⟨hs.1, fun a ha => ⟨p, hp, by rw [hr, ha]; rfl⟩⟩

theorem getTunable_capture (cpu : CpuId) (g t : String) {w : World} (hw : Shows d w) :
    Safe World.exec Frozen (fun w _ w' => Frozen w w')
      (fun r w => Shows d w ∧ ∀ v, r = .ok v → TunableReads d cpu g (t, v)) (getTunable cpu g t) w := by
  refine safe_op shows_frozen hw fun w hw => ⟨frozen_exec w id trivial, ?_⟩
  simp only [World.exec, cast_eq, Coro.done_ok_bind]
  cases h : w.device.read (.governorTunable cpu.index g t) with
  | ok x => exact safe_done (shows_stable _) ⟨hw, fun v hv => .inl (by cases hv; rw [← hw.2]; exact h)⟩
  | error e =>
    dsimp only
    split
    · exact safe_done (shows_stable _) ⟨hw, fun _ h => by cases h⟩
    · exact (readValue_capture _ hw).mono (fun _ _ _ h => h) fun _ _ h =>
        ⟨h.1, fun v hv => .inr (hv ▸ h.2).symm⟩

theorem mapKeys_capture {κ ν : Type} {f : κ → Asyn ν} {P : κ → ν → Prop}
    (hf : ∀ k w, Shows d w → Safe World.exec Frozen (fun w _ w' => Frozen w w')
      (fun r w => Shows d w ∧ ∀ v, r = .ok v → P k v) (f k) w) :
    ∀ ks w, Shows d w → Safe World.exec Frozen (fun w _ w' => Frozen w w')
      (fun r w => Shows d w ∧ ∀ kvs, r = .ok kvs → ∀ kv ∈ kvs, P kv.1 kv.2) (mapKeys f ks) w
  | [], _, hw => safe_done (shows_stable _) ⟨hw, fun _ h _ hkv => by cases h; cases hkv⟩
  | k :: ks, w, hw =>
    safe_bind (hf k w hw) (fun v w hv => safe_bind (mapKeys_capture hf ks w hv.1)
      (fun kvs w hkvs => safe_done (shows_stable _) ⟨hkvs.1, fun _ h kv hkv => by
        cases h
        rcases List.mem_cons.mp hkv with rfl | hkv
        · exact hv.2 v rfl
        · exact hkvs.2 kvs rfl kv hkv⟩)
      fun _ _ h => ⟨h.1, fun _ h' => by cases h'⟩) fun _ _ h => ⟨h.1, fun _ h' => by cases h'⟩

/-- Under a frozen device, `_list_governor_tunables` of the current governor
answers an entry of the governor the CPU reads. -/
theorem listGovernorTunables_capture (cpu : CpuId) {w : World} (hw : Shows d w) :
    Safe World.exec Frozen (fun w _ w' => Frozen w w')
      (fun r w => Shows d w ∧ ∀ data, r = .ok data → d.read (.scalingGovernor cpu.index) = .ok data.1)
      (_listGovernorTunables cpu none) w := by
  refine safe_bind (readValue_capture _ hw) (fun g w hg => ?_) fun _ _ h => ⟨h.1, fun _ h' => by cases h'⟩
  have h := safe_readOnly (R := Frozen) (fun _ _ h => h.1) (I := fun w => w.device = d)
    (fun _ _ h hw => h.2.trans hw) (fun _ _ h hw => h.trans hw) (listGovernorTunables_safe cpu (some g) hg.1.1)
    (readOnly_listGovernorTunables cpu (some g)) hg.1.2
  exact h.mono (fun _ _ _ h => ⟨h.1, h.2.2⟩) fun _ _ h =>
    ⟨⟨h.1.1, h.2⟩, fun data hd => by rw [← hg.2, (h.1.2 data hd).2 g rfl]⟩

/-- Under a frozen device, `get_governor_tunables` answers tunables of the
governor the CPU reads, each with the value it reads. -/
theorem getGovernorTunables_capture (cpu : CpuId) {w : World} (hw : Shows d w) :
    Safe World.exec Frozen (fun w _ w' => Frozen w w')
      (fun r w => Shows d w ∧ ∀ ts, r = .ok ts → ∃ g, d.read (.scalingGovernor cpu.index) = .ok g ∧
        ∀ tv ∈ ts, TunableReads d cpu g tv)
      (getGovernorTunables cpu) w :=
  safe_bind (listGovernorTunables_capture cpu hw) (fun data w hd =>
    (mapKeys_capture (fun t w hw => getTunable_capture cpu data.1 t hw) _ w hd.1).mono
      (fun _ _ _ h => h) fun _ _ h => ⟨h.1, fun ts hts => ⟨data.1, hd.2 data rfl, h.2 ts hts⟩⟩)
    fun _ _ h => ⟨h.1, fun _ h' => by cases h'⟩

/-- A capture task, whatever the other tasks do around it, takes a snapshot of
its CPU on the device the phase began with. -/
theorem getCpuInfo_capture (cpu : CpuId) {w : World} (hw : Shows d w) :
    Safe World.exec Frozen (fun w _ w' => Frozen w w')
      (fun r w => Shows d w ∧ ∀ info, r = .ok info → Snapshot d cpu info) (getCpuInfo cpu) w := by
  refine safe_bind (getAffectedCpus_capture cpu hw) (fun a w ha => ?_) fun _ _ h => ⟨h.1, fun _ h' => by cases h'⟩
  obtain ⟨p, hp, hparse⟩ := ha.2 a rfl
  refine safe_bind (readValue_capture _ ha.1) (fun g w hg => ?_) fun _ _ h => ⟨h.1, fun _ h' => by cases h'⟩
  refine safe_bind (getGovernorTunables_capture cpu hg.1) (fun ts w hts => ?_)
    fun _ _ h => ⟨h.1, fun _ h' => by cases h'⟩
  obtain ⟨g', hg', hts'⟩ := hts.2 ts rfl
  refine safe_bind (readInt_capture (.scalingCurFreq cpu.index) hts.1) (fun f w hf => ?_)
    fun _ _ h => ⟨h.1, fun _ h' => by cases h'⟩
  refine safe_done (shows_stable _) ⟨hf.1, fun info h => ?_⟩
  cases h
  rw [← hg.2, Except.ok.injEq] at hg'
  subst hg'
  rw [d.read_scalingGovernor hp, Except.ok.injEq] at hg
  rw [d.readInt_scalingCurFreq hp, Except.ok.injEq] at hf
  exact ⟨p, hp, hparse, hg.2, hf.2, hts'⟩

end Capture

/-! ## The phase -/

theorem readOnly_getCpuInfo (cpu : CpuId) : Coro.OpsIn ReadOnly (getCpuInfo cpu) :=
  ((readOnly_readValue _).bind fun _ => opsIn_parseInts _).bind fun _ =>
    (readOnly_readValue _).bind fun _ => (readOnly_getGovernorTunables cpu).bind fun _ =>
      (opsIn_readInt id).bind fun _ => .done _

/-- The capture phase writes nothing, in any interleaving. -/
theorem capture_readOnly {cpus : List CpuId} {w w' : World} {res tr}
    (run : Concurrently World.exec w (captureTasks cpus) w' res tr) : ∀ x ∈ tr, ReadOnly x.2.2 :=
  run.opsIn fun t ht => by
    obtain ⟨c, -, rfl⟩ := List.mem_map.mp ht
    exact readOnly_getCpuInfo c

/-- The capture phase in any interleaving that returns: the device is as it
was, every step of it keeps the device, and each snapshot is of its CPU. -/
theorem capture_run {cpus : List CpuId} {w w' : World} {infos : List CpuInfo} {tr}
    (run : Concurrently World.exec w (captureTasks cpus) w' (.ok infos) tr) (hw : CacheOK w) :
    Shows w.device w' ∧ (∀ x ∈ tr, Frozen x.2.1 (x.2.1.exec x.2.2).2) ∧
      infos.length = cpus.length ∧ ∀ e ∈ cpus.zip infos, Snapshot w.device e.1 e.2 := by
  have hs := run.safe (R := fun _ => Frozen) (G := fun _ w _ w' => Frozen w w')
    (Q := fun i r w' => Shows w.device w' ∧ ∀ c ∈ cpus[i]?, ∀ info, r = .ok info → Snapshot w.device c info)
    (fun _ _ _ _ _ _ _ h => h) fun i t ht => by
      obtain ⟨c, hc, rfl⟩ : ∃ c, cpus[i]? = some c ∧ getCpuInfo c = t := by
        simpa [captureTasks] using ht
      exact (getCpuInfo_capture c ⟨hw, rfl⟩).mono (fun _ _ _ h => h)
        fun _ _ h => ⟨h.1, fun c' hc' => by rw [hc, Option.mem_def, Option.some_inj] at hc'; exact hc' ▸ h.2⟩
  have hlen : infos.length = cpus.length := by simpa [captureTasks] using run.length_ok rfl
  refine ⟨(run.preserves (I := Shows w.device) (fun x hx h => ((shows_stable True) _ _ (hs.1 x hx) ⟨h, trivial⟩).1)
    ⟨hw, rfl⟩).2, hs.1, hlen, fun e he => ?_⟩
  obtain ⟨i, hi⟩ := List.mem_iff_getElem?.mp he
  rw [List.getElem?_zip_eq_some] at hi
  exact (hs.2.1 infos rfl i e.2 hi.2).2 e.1 hi.1 e.2 rfl

/-- The snapshot dictionary has an entry for every CPU of the capture. -/
theorem exists_mem_cpusInfos {cpus : List CpuId} {infos : List CpuInfo}
    (hlen : infos.length = cpus.length) {c : CpuId} (hc : c ∈ cpus) :
    ∃ info, (c, info) ∈ cpusInfos cpus infos := by
  rw [← List.map_fst_zip cpus infos hlen.ge, ← mem_keys_pyDict] at hc
  obtain ⟨⟨c', info⟩, he, rfl⟩ := List.mem_map.mp hc
  exact ⟨info, he⟩

/-! ## What the snapshots list

A capture task stores into the cache only what the probe finds through its own
CPU, whose policy runs the governor probed: the governor's full entry. So in
every interleaving each snapshot lists the tunables of the entry the cache held
when the phase began, or of the full entry. -/

/-- The move stores into the cache only full entries of kernel `K`. -/
def StoresFull (K : Kernel) (w w' : World) : Prop :=
  ∀ g data, w'.cache g = some data → w.cache g = some data ∨ data = (g, K.perPolicy, K.governorTunables g)

/-- A move of the capture phase: the device stays, the cache law holds, and the
cache gains only full entries. -/
def Capturing (K : Kernel) (w w' : World) : Prop := Frozen w w' ∧ StoresFull K w w'

/-- The tunables of a snapshot are those `_list_governor_tunables` gives for its
governor, less the write-only ones: of the entry `w₀` caches, or of the full entry. -/
def Lists (K : Kernel) (w₀ : World) (info : CpuInfo) : Prop :=
  ∃ l : Bool × List String,
    (w₀.cache info.governor = some (info.governor, l) ∨ l = (K.perPolicy, K.governorTunables info.governor)) ∧
      info.tunables.map Prod.fst = l.2.filter fun t => t ∉ writeOnlyTunables info.governor

section Lists

variable {d : Device} {w₀ : World}

theorem StoresFull.trans {K : Kernel} {w₁ w₂ w₃ : World} (h₁ : StoresFull K w₁ w₂)
    (h₂ : StoresFull K w₂ w₃) : StoresFull K w₁ w₃ :=
  fun g data h => (h₂ g data h).elim (h₁ g data) .inr

theorem seen_stable : Stable (Capturing d.kernel) fun w => Shows d w ∧ StoresFull d.kernel w₀ w :=
  fun _ _ h hw => ⟨shows_frozen _ _ h.1 hw.1, hw.2.trans h.2⟩

theorem seen_stable_and (P : Prop) :
    Stable (Capturing d.kernel) fun w => (Shows d w ∧ StoresFull d.kernel w₀ w) ∧ P :=
  fun _ _ h hw => ⟨seen_stable _ _ h hw.1, hw.2⟩

theorem capturing_exec {K : Kernel} (w : World) {o : Op} (ho : Query o) : Capturing K w (w.exec o).2 :=
  ⟨frozen_exec w ho.1 ho.2, fun _ _ h => .inl (exec_cache_of_noStore w ho.2 ▸ h)⟩

/-- Storing the full entry of a governor is a move of the capture. -/
theorem capturing_put (w : World) (hw : Shows d w) (g : String) :
    Capturing d.kernel w (w.exec (.cachePut g (g, d.kernel.perPolicy, d.kernel.governorTunables g))).2 := by
  refine ⟨⟨⟨rfl, fun h => cacheOK_put h (.inl (by rw [hw.2]))⟩, rfl⟩, fun g' data h => ?_⟩
  simp only [World.exec] at h
  split at h
  · cases h; exact .inr (by subst g'; rfl)
  · exact .inl h

/-- A task that only queries keeps what the capture's moves keep. -/
theorem safe_query {α : Type} {t : Asyn α} (ht : Coro.OpsIn Query t) {w : World}
    (hw : Shows d w ∧ StoresFull d.kernel w₀ w) :
    Safe World.exec (Capturing d.kernel) (fun w _ w' => Capturing d.kernel w w')
      (fun _ w => Shows d w ∧ StoresFull d.kernel w₀ w) t w := by
  have hstep : ∀ w (o : Op), Shows d w ∧ StoresFull d.kernel w₀ w → Query o →
      Capturing d.kernel w (w.exec o).2 ∧ Shows d (w.exec o).2 ∧ StoresFull d.kernel w₀ (w.exec o).2 :=
    fun w _ hw ho => ⟨capturing_exec w ho, seen_stable _ _ (capturing_exec w ho) hw⟩
  exact safe_of_opsIn seen_stable hstep ht hw

/-- Under the capture's moves, a read answers what `d` shows. -/
theorem readValue_lists (f : Sysfile) {w : World} (hw : Shows d w ∧ StoresFull d.kernel w₀ w) :
    Safe World.exec (Capturing d.kernel) (fun w _ w' => Capturing d.kernel w w')
      (fun r w => (Shows d w ∧ StoresFull d.kernel w₀ w) ∧ r = d.read f) (readValue f) w :=
  safe_op seen_stable hw fun w hw => ⟨capturing_exec w ⟨id, trivial⟩,
    safe_done (seen_stable_and _) ⟨hw, by rw [← hw.1.2]; rfl⟩⟩

/-- Through a CPU whose policy runs `g`, the probe finds the full entry of `g`. -/
theorem probe_lists (cpu : CpuId) {p : ℕ} (hp : d.kernel.policyOf cpu.index = some p) {w : World}
    (hw : Shows d w ∧ StoresFull d.kernel w₀ w) :
    Safe World.exec (Capturing d.kernel) (fun w _ w' => Capturing d.kernel w w')
      (fun r w => (Shows d w ∧ StoresFull d.kernel w₀ w) ∧
        r = .ok (d.kernel.perPolicy, d.kernel.governorTunables (d.governor p)))
      (probeGovernorTunables cpu (d.governor p)) w := by
  refine safe_op seen_stable hw fun w hw => ⟨capturing_exec w ⟨id, trivial⟩, ?_⟩
  simp only [World.exec, cast_eq, Coro.done_ok_bind, hw.1.2]
  cases hpp : d.kernel.perPolicy
  · simp only [Device.listDirectory, hp, hpp, Bool.false_eq_true, false_and, if_false,
      Error.isTargetStable, Bool.not_true]
    refine safe_op seen_stable hw fun w hw => ⟨capturing_exec w ⟨id, trivial⟩, ?_⟩
    have hrun : d.Running (d.governor p) := ⟨p, d.kernel.policyOf_mem _ _ hp, rfl⟩
    simp only [World.exec, cast_eq, Coro.done_ok_bind, hw.1.2, Device.listDirectory, hpp, hrun,
      and_self, if_true]
    exact safe_done (seen_stable_and _) ⟨hw, rfl⟩
  · simp only [Device.listDirectory, hp, hpp, and_self, if_true]
    exact safe_done (seen_stable_and _) ⟨hw, rfl⟩

/-- Under the capture's moves, `_list_governor_tunables` of the current governor
answers the entry cached in `w₀` or the full entry, and stores only the full one. -/
theorem listGovernorTunables_lists (cpu : CpuId) {w : World} (hw : Shows d w ∧ StoresFull d.kernel w₀ w) :
    Safe World.exec (Capturing d.kernel) (fun w _ w' => Capturing d.kernel w w')
      (fun r w => (Shows d w ∧ StoresFull d.kernel w₀ w) ∧ ∀ data, r = .ok data →
        d.read (.scalingGovernor cpu.index) = .ok data.1 ∧
          (w₀.cache data.1 = some data ∨ data = (data.1, d.kernel.perPolicy, d.kernel.governorTunables data.1)))
      (_listGovernorTunables cpu none) w := by
  refine safe_bind (readValue_lists _ hw) (fun g w hg => ?_) fun _ _ h => ⟨h.1, fun _ h' => by cases h'⟩
  obtain ⟨p, hp, rfl⟩ : ∃ p, d.kernel.policyOf cpu.index = some p ∧ d.governor p = g := by
    have h := hg.2.symm
    simp only [Device.read] at h
    split at h <;> cases h
    exact ⟨_, ‹_›, rfl⟩
  split
  · exact safe_done (seen_stable_and _) ⟨hg.1, fun _ h => by cases h⟩
  refine safe_op seen_stable hg.1 fun w hw => ⟨capturing_exec w ⟨id, trivial⟩, ?_⟩
  simp only [World.exec, Coro.done_ok_bind]
  cases hc : w.cache (d.governor p) with
  | some data =>
    have hname : data.1 = d.governor p := by
      rcases hw.1.1 _ _ hc with h | h <;> rw [h]
    refine safe_done (seen_stable_and _) ⟨hw, fun _ h => ?_⟩
    cases h
    rw [hname]
    exact ⟨hg.2.symm, hw.2 _ _ hc⟩
  | none =>
    refine safe_bind (probe_lists cpu hp hw) (fun pr w hpr => ?_) fun _ _ h => ⟨h.1, fun _ h' => by cases h'⟩
    obtain ⟨hw, h⟩ := hpr
    cases h
    refine safe_op seen_stable hw fun w hw => ⟨capturing_put w hw.1 (d.governor p), ?_⟩
    exact safe_done (seen_stable_and _) ⟨seen_stable _ _ (capturing_put w hw.1 _) hw, fun _ h => by
      cases h; exact ⟨hg.2.symm, .inr rfl⟩⟩

/-- `map_concurrently` keys its results by its input. -/
theorem mapKeys_keys {R : World → World → Prop} {G : World → Op → World → Prop} {I : World → Prop}
    (hI : Stable R I) {κ ν : Type} {f : κ → Asyn ν}
    (hf : ∀ k w, I w → Safe World.exec R G (fun _ w => I w) (f k) w) :
    ∀ ks w, I w →
      Safe World.exec R G (fun r w => I w ∧ ∀ kvs, r = .ok kvs → kvs.map Prod.fst = ks) (mapKeys f ks) w
  | [], _, hw => safe_done (fun _ _ h h' => ⟨hI _ _ h h'.1, h'.2⟩) ⟨hw, fun _ h => by cases h; rfl⟩
  | k :: ks, w, hw =>
    safe_bind (hf k w hw) (fun _ w hv => safe_bind (mapKeys_keys hI hf ks w hv)
      (fun kvs w hkvs => safe_done (fun _ _ h h' => ⟨hI _ _ h h'.1, h'.2⟩)
        ⟨hkvs.1, fun _ h => by cases h; rw [List.map_cons, hkvs.2 kvs rfl]⟩)
      fun _ _ h => ⟨h.1, fun _ h' => by cases h'⟩) fun _ _ h => ⟨h, fun _ h' => by cases h'⟩

/-- Under the capture's moves, `get_governor_tunables` lists the tunables of the
entry cached in `w₀`, or of the full entry, of the governor the CPU reads. -/
theorem getGovernorTunables_lists (cpu : CpuId) {w : World} (hw : Shows d w ∧ StoresFull d.kernel w₀ w) :
    Safe World.exec (Capturing d.kernel) (fun w _ w' => Capturing d.kernel w w')
      (fun r w => (Shows d w ∧ StoresFull d.kernel w₀ w) ∧ ∀ ts, r = .ok ts → ∃ data : TunableInfo,
        d.read (.scalingGovernor cpu.index) = .ok data.1 ∧
        (w₀.cache data.1 = some data ∨ data = (data.1, d.kernel.perPolicy, d.kernel.governorTunables data.1)) ∧
        ts.map Prod.fst = data.2.2.filter fun t => t ∉ writeOnlyTunables data.1)
      (getGovernorTunables cpu) w :=
  safe_bind (listGovernorTunables_lists cpu hw) (fun data w hd =>
    (mapKeys_keys seen_stable (fun t w hw => safe_query (opsIn_getTunable (fun _ => ⟨id, trivial⟩) cpu data.1 t) hw)
      _ w hd.1).mono (fun _ _ _ h => h) fun _ _ h =>
        ⟨h.1, fun ts hts => ⟨data, (hd.2 data rfl).1, (hd.2 data rfl).2, h.2 ts hts⟩⟩)
    fun _ _ h => ⟨h.1, fun _ h' => by cases h'⟩

/-- Under the capture's moves, a capture task's snapshot lists the tunables of
the entry cached in `w₀`, or of the full entry. -/
theorem getCpuInfo_lists (cpu : CpuId) {w : World} (hw : Shows d w ∧ StoresFull d.kernel w₀ w) :
    Safe World.exec (Capturing d.kernel) (fun w _ w' => Capturing d.kernel w w')
      (fun r w => (Shows d w ∧ StoresFull d.kernel w₀ w) ∧ ∀ info, r = .ok info → Lists d.kernel w₀ info)
      (getCpuInfo cpu) w := by
  refine safe_bind (safe_query ((opsIn_readValue ⟨id, trivial⟩).bind fun _ => opsIn_parseInts _) hw)
    (fun _ w ha => ?_) fun _ _ h => ⟨h, fun _ h' => by cases h'⟩
  refine safe_bind (readValue_lists _ ha) (fun g w hg => ?_) fun _ _ h => ⟨h.1, fun _ h' => by cases h'⟩
  refine safe_bind (getGovernorTunables_lists cpu hg.1) (fun ts w hts => ?_)
    fun _ _ h => ⟨h.1, fun _ h' => by cases h'⟩
  refine safe_bind (safe_query (opsIn_readInt ⟨id, trivial⟩) hts.1) (fun _ w hf => ?_)
    fun _ _ h => ⟨h, fun _ h' => by cases h'⟩
  obtain ⟨⟨g', l⟩, hg', hl, hnames⟩ := hts.2 ts rfl
  obtain rfl : g' = g := Except.ok.inj (hg'.symm.trans hg.2.symm)
  exact safe_done (seen_stable_and _) ⟨hf, fun info h => by cases h; exact ⟨l, hl.imp_right (congrArg Prod.snd), hnames⟩⟩

end Lists

/-- In every interleaving of the capture that returns, each snapshot lists the
tunables of the entry the cache held when the phase began, or of the full entry. -/
theorem capture_lists {cpus : List CpuId} {w w' : World} {infos : List CpuInfo} {tr}
    (run : Concurrently World.exec w (captureTasks cpus) w' (.ok infos) tr) (hw : CacheOK w) :
    ∀ info ∈ infos, Lists w.device.kernel w info := by
  have hs := run.safe (R := fun _ => Capturing w.device.kernel) (G := fun _ u _ u' => Capturing w.device.kernel u u')
    (Q := fun _ r _ => ∀ info, r = .ok info → Lists w.device.kernel w info)
    (fun _ _ _ _ _ _ _ h => h) fun _ t ht => by
      obtain ⟨c, -, rfl⟩ := List.mem_map.mp (List.getElem?_mem ht)
      exact (getCpuInfo_lists c ⟨⟨hw, rfl⟩, fun _ _ h => .inl h⟩).mono (fun _ _ _ h => h) fun _ _ h => h.2
  intro info hinfo
  obtain ⟨i, hi⟩ := List.mem_iff_getElem?.mp hinfo
  exact hs.2.1 infos rfl i info hi info rfl

/-- A snapshot of `g` lists every tunable of `g` that is not write-only, unless
the cache held the empty entry of `g` when the phase began. -/
theorem Lists.mem {K : Kernel} {w₀ : World} (hw₀ : CacheOK w₀) (hk : w₀.device.kernel = K) {info : CpuInfo}
    (h : Lists K w₀ info) (hne : w₀.cache info.governor ≠ some (info.governor, false, []))
    {t : String} (ht : t ∈ K.governorTunables info.governor) (hwo : t ∉ writeOnlyTunables info.governor) :
    ∃ v, (t, v) ∈ info.tunables := by
  obtain ⟨l, hl, hnames⟩ := h
  obtain rfl : l = (K.perPolicy, K.governorTunables info.governor) := by
    rcases hl with hc | rfl
    · rcases hw₀ _ _ hc with h | h
      · rw [← hk]; exact congrArg Prod.snd h
      · exact absurd (hc.trans (congrArg some h)) hne
    · rfl
  have hmem : t ∈ info.tunables.map Prod.fst := by
    rw [hnames]
    exact List.mem_filter.mpr ⟨ht, decide_eq_true hwo⟩
  obtain ⟨⟨t', v⟩, hm, rfl⟩ := List.mem_map.mp hmem
  exact ⟨v, hm⟩

/-! ## The domains -/

/-- The domains of the snapshots `kvs` under the topology: each listed once,
each the lowest online CPU of the CPU of some snapshot, and one for the CPU of
every snapshot. -/
structure Domains (K : Kernel) (kvs : List (CpuId × CpuInfo)) (domains : List ℤ) : Prop where
  nodup : domains.Nodup
  lowest : ∀ r ∈ domains, ∃ e ∈ kvs, lowestOnline K e.1.index = some r
  cover : ∀ e ∈ kvs, ∃ r ∈ domains, lowestOnline K e.1.index = some r

namespace Domains

variable {K : Kernel} {kvs : List (CpuId × CpuInfo)} {domains : List ℤ}

theorem policy (h : Domains K kvs domains) : ∀ r ∈ domains, ∃ p, K.policyOf r = some p := by
  intro r hr
  obtain ⟨e, -, hl⟩ := h.lowest r hr
  obtain ⟨p, -, hp⟩ := lowestOnline_policyOf hl
  exact ⟨p, hp⟩

/-- Distinct domains lie in distinct policies. -/
theorem inj (h : Domains K kvs domains) :
    ∀ r ∈ domains, ∀ r' ∈ domains, K.policyOf r = K.policyOf r' → r = r' := by
  intro r hr r' hr' hrr
  obtain ⟨e, -, hl⟩ := h.lowest r hr
  obtain ⟨e', -, hl'⟩ := h.lowest r' hr'
  have hc : K.policyOf e.1.index = K.policyOf e'.1.index := by
    rw [← policyOf_lowestOnline hl, ← policyOf_lowestOnline hl', hrr]
  rw [lowestOnline_congr hc, hl'] at hl
  exact (Option.some_inj.mp hl).symm

end Domains

/-- Under the topology, the snapshots of a capture give as domains the lowest
online CPUs of the captured CPUs' policies, each once. -/
theorem domainsOf_topology {K : Kernel} (hK : Topology K) {d : Device} (hk : d.kernel = K)
    {kvs : List (CpuId × CpuInfo)} (hs : ∀ e ∈ kvs, Snapshot d e.1 e.2) {domains : List ℤ}
    (h : domainsOf kvs = .ok domains) : Domains K kvs domains := by
  subst hk
  cases hm : kvs.mapM firstAffected with
  | error e => rw [domainsOf, hm] at h; cases h
  | ok heads =>
    rw [domainsOf, hm] at h
    cases h
    have hf := forall₂_of_mapM_ok hm
    have hhead : ∀ e ∈ kvs, ∀ r, firstAffected e = .ok r ↔ lowestOnline d.kernel e.1.index = some r := by
      intro e he r
      obtain ⟨p, hp, hparse, -⟩ := hs e he
      have hpc : e.2.affected = policyCpus d.kernel p :=
        Except.ok.inj (Coro.done.inj (hparse.symm.trans (hK p (d.kernel.policyOf_mem _ _ hp))))
      rw [lowestOnline, hp, Option.some_bind, firstAffected, hpc]
      cases policyCpus d.kernel p <;> simp
    refine ⟨List.nodup_dedup _, fun r hr => ?_, fun e he => ?_⟩
    · obtain ⟨e, he, hr⟩ := forall₂_mem_right hf (List.mem_dedup.mp hr)
      exact ⟨e, he, (hhead e he r).mp hr⟩
    · obtain ⟨r, hr, he'⟩ := forall₂_mem_left hf he
      exact ⟨r, List.mem_dedup.mpr hr, (hhead e he r).mp he'⟩

/-- A capture that returned, with its domains: the device as it was, every
snapshot of it, and the domains those of the topology. -/
theorem capture_domains {K : Kernel} (hK : Topology K) {cpus : List CpuId} {w w₁ : World}
    (hw : CacheOK w) (hk : w.device.kernel = K) {infos : List CpuInfo} {domains : List ℤ} {tr}
    (capture : Concurrently World.exec w (captureTasks cpus) w₁ (.ok infos) tr)
    (hdom : domainsOf (cpusInfos cpus infos) = .ok domains) :
    Shows w.device w₁ ∧ (∀ e ∈ cpusInfos cpus infos, Snapshot w.device e.1 e.2) ∧
      Domains K (cpusInfos cpus infos) domains ∧
      ∀ c ∈ cpus, ∃ info, (c, info) ∈ cpusInfos cpus infos := by
  obtain ⟨hshow, -, hlen, hsnap⟩ := capture_run capture hw
  have hs : ∀ e ∈ cpusInfos cpus infos, Snapshot w.device e.1 e.2 :=
    fun e he => hsnap e (mem_of_mem_pyDict he)
  exact ⟨hshow, hs, domainsOf_topology hK hk hs hdom, fun c hc => exists_mem_cpusInfos hlen hc⟩

end Devlib.Cpufreq

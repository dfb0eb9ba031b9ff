import Devlib.Cpufreq.Frame

/-!
# What a normal exit of `use_governor` gives back

The tunables phase of the `finally` writes back what the capture read. Each of
its writes puts a file of a captured governor back to its value on the device
the call began with, and no step of the phase does anything else to a tunable
or a governor. So once every task of the phase returned, each file a task wrote
holds its value from before the call, whatever the interleaving.

With the governors back, a normal exit gives every CPU of `cpus` back the
tunables of its previous governor, in the kernel's layout: all of them but the
write-only ones, unless the cache held the governor's empty entry when the call
began, in which case the capture listed none.
-/

namespace Devlib.Cpufreq

open Devlib.Async Devlib.Target

/-! ## Putting values back -/

/-- A move that changes no governor, and changes a tunable only back to its
value on `d₀`. -/
structure Restores (d₀ d d' : Device) : Prop where
  governor : d'.governor = d.governor
  policyValue : ∀ p t, d'.policyValue p t = d.policyValue p t ∨ d'.policyValue p t = d₀.policyValue p t
  globalValue : ∀ g t, d'.globalValue g t = d.globalValue g t ∨ d'.globalValue g t = d₀.globalValue g t

/-- A step of the tunables phase: it keeps the cache law and puts tunables back to `d₀`. -/
def Restoring (d₀ : Device) (w w' : World) : Prop := KeepsCache w w' ∧ Restores d₀ w.device w'.device

/-- The tunable file `f` holds its value on `d₀`. -/
def Restored (d₀ : Device) : Sysfile → Device → Prop
  | .governorTunable c _ t, d => ∀ p, d.kernel.policyOf c = some p → d.policyValue p t = d₀.policyValue p t
  | .globalGovernorTunable g t, d => d.globalValue g t = d₀.globalValue g t
  | _, _ => True

section Restoring

variable {d₀ : Device}

theorem restores_refl (d : Device) : Restores d₀ d d := ⟨rfl, fun _ _ => .inl rfl, fun _ _ => .inl rfl⟩

theorem base_stable_restoring : Stable (Restoring d₀) (Base d₀.kernel) :=
  fun _ _ h hb => ⟨h.1.2 hb.1, h.1.1.trans hb.2⟩

theorem restored_stable (f : Sysfile) : Stable (Restoring d₀) fun w => Restored d₀ f w.device := by
  intro w w' h hf
  cases f <;> simp only [Restored] at hf ⊢
  case governorTunable c g t =>
    intro p hp
    rw [h.1.1] at hp
    exact (h.2.policyValue p t).elim (·.trans (hf p hp)) id
  case globalGovernorTunable g t => exact (h.2.globalValue g t).elim (·.trans hf) id

/-- A write through `c` of a value the capture read for `g`'s tunable puts the
file back to its value on `d₀`, and changes nothing else. -/
theorem restores_write {d d' : Device} (hk : d.kernel = d₀.kernel) {c : CpuId} {g : String} {pc : Bool}
    {t v : String} (hv : TunableReads d₀ c g (t, v)) (h : d.write (tunablePath c g pc t) (.str v) = .ok d') :
    Restores d₀ d d' ∧ Restored d₀ (tunablePath c g pc t) d' := by
  cases pc
  · obtain ⟨hG, rfl⟩ := d.write_globalGovernorTunable h
    have hv' : d₀.globalValue g t = v := by
      rcases hv with hr | hr
      · obtain ⟨_, -, hpt, -⟩ := d₀.read_governorTunable_ok hr
        exact absurd (hk ▸ hG.1) (by rw [hpt.1]; decide)
      · exact (d₀.read_globalGovernorTunable_ok hr).2
    refine ⟨⟨rfl, fun _ _ => .inl rfl, fun h s => ?_⟩, by simp [Restored, tunablePath, hv', PyVal.toStr]⟩
    by_cases hs : h = g ∧ s = t
    · obtain ⟨rfl, rfl⟩ := hs
      exact .inr (by simp [hv', PyVal.toStr])
    · exact .inl (by simp [hs])
  · obtain ⟨p, hp, hpt, rfl⟩ := d.write_governorTunable h
    have hv' : d₀.policyValue p t = v := by
      rcases hv with hr | hr
      · obtain ⟨p', hp', -, e⟩ := d₀.read_governorTunable_ok hr
        rw [← hk, hp, Option.some_inj] at hp'
        exact hp' ▸ e
      · exact absurd (hk ▸ hpt.1) (by rw [(d₀.read_globalGovernorTunable_ok hr).1.1]; decide)
    refine ⟨⟨rfl, fun q s => ?_, fun _ _ => .inl rfl⟩, fun q hq => ?_⟩
    · by_cases hs : q = p ∧ s = t
      · obtain ⟨rfl, rfl⟩ := hs
        exact .inr (by simp [hv', PyVal.toStr])
      · exact .inl (by simp [hs])
    · obtain rfl : q = p := Option.some_inj.mp (hq.symm.trans hp)
      simp [hv', PyVal.toStr]

/-- A verified write of a captured value is a step that puts tunables back, and
when it succeeds the file holds its value on `d₀`. -/
theorem restoring_writeValue (w : World) (hk : w.device.kernel = d₀.kernel) {c : CpuId} {g : String}
    {pc : Bool} {t v : String} (hv : TunableReads d₀ c g (t, v)) :
    Restoring d₀ w (w.exec (.writeValue (tunablePath c g pc t) (.str v) true)).2 ∧
      ((w.exec (.writeValue (tunablePath c g pc t) (.str v) true)).1 = .ok () →
        Restored d₀ (tunablePath c g pc t) (w.exec (.writeValue (tunablePath c g pc t) (.str v) true)).2.device) := by
  refine ⟨⟨keepsCache_of_noStore w trivial, ?_⟩, fun hok => (restores_write hk hv (w.device.writeValue_ok hok)).2⟩
  rcases w.device.writeValue_snd (tunablePath c g pc t) (.str v) true with hd | hd
  · exact hd ▸ restores_refl _
  · exact (restores_write hk hv hd).1

/-- A write of `scaling_setspeed` changes no governor and no tunable. -/
theorem restoring_setspeed (w : World) (c : ℤ) (v : PyVal) (verify : Bool) :
    Restoring d₀ w (w.exec (.writeValue (.scalingSetspeed c) v verify)).2 := by
  refine ⟨keepsCache_of_noStore w trivial, ?_⟩
  rcases w.device.writeValue_snd (.scalingSetspeed c) v verify with hd | hd
  · exact hd ▸ restores_refl _
  · obtain ⟨_, _, -, -, -, e⟩ := w.device.write_scalingSetspeed hd
    show Restores d₀ w.device (w.device.writeValue _ _ _).2
    rw [e]
    exact ⟨rfl, fun _ _ => .inl rfl, fun _ _ => .inl rfl⟩

/-! ## The tasks -/

/-- The loop of a restore task over values the capture read for `g` through
`cpu`: each step puts tunables back, and when the loop returns every tunable of
`kws` is valid and, where `per_cpu` admits the layout `pc`, back in its file. -/
theorem setGovernorTunablesLoop_restores {cpu : CpuId} {g : String} {perCpu : Option Bool} {pc : Bool}
    {valid : List String} :
    ∀ kws : List (String × String), (∀ tv ∈ kws, TunableReads d₀ cpu g tv) → ∀ w, Base d₀.kernel w →
      Safe World.exec (Restoring d₀) (fun w _ w' => Restoring d₀ w w')
        (fun r w => Base d₀.kernel w ∧ (r = .ok () → ∀ tv ∈ kws, tv.1 ∈ valid ∧
          ((∀ b ∈ perCpu, b = pc) → Restored d₀ (tunablePath cpu g pc tv.1) w.device)))
        (setGovernorTunablesLoop cpu g perCpu pc valid kws) w
  | [], _, _, hw => safe_done (fun _ _ h h' => ⟨base_stable_restoring _ _ h h'.1, fun _ _ h => by cases h⟩)
      ⟨hw, fun _ _ h => by cases h⟩
  | (t, v) :: rest, hs, w, hw => by
    have hrest := @setGovernorTunablesLoop_restores cpu g perCpu pc valid rest
      fun tv h => hs tv (List.mem_cons_of_mem _ h)
    simp only [setGovernorTunablesLoop]
    split
    · rename_i hvalid
      split
      · rename_i hskip
        refine (hrest w hw).mono (fun _ _ _ h => h) fun _ _ h => ⟨h.1, fun hr tv htv => ?_⟩
        rcases List.mem_cons.mp htv with rfl | htv
        · refine ⟨hvalid, fun hb => absurd ?_ hskip.2⟩
          obtain ⟨b, hb'⟩ := Option.isSome_iff_exists.mp hskip.1
          exact hb'.trans (congrArg some (hb b hb'))
        · exact h.2 hr tv htv
      · have hwrite : Safe World.exec (Restoring d₀) (fun w _ w' => Restoring d₀ w w')
            (fun r w => Base d₀.kernel w ∧ (r = .ok () → Restored d₀ (tunablePath cpu g pc t) w.device))
            (writeValue (tunablePath cpu g pc t) (.str v) true) w := by
          have hv := hs _ (List.mem_cons_self _ _)
          refine safe_op base_stable_restoring hw fun w hw => ⟨(restoring_writeValue w hw.2 hv).1, ?_⟩
          exact safe_done (fun _ _ h h' => ⟨base_stable_restoring _ _ h h'.1,
            fun hr => restored_stable _ _ _ h (h'.2 hr)⟩) ⟨base_stable_restoring _ _
              (restoring_writeValue w hw.2 hv).1 hw, (restoring_writeValue w hw.2 hv).2⟩
        refine safe_bind hwrite (fun _ w hw => ?_) fun _ _ h => ⟨h.1, fun h' => by cases h'⟩
        refine ((hrest w hw.1).frame (restored_stable _) (fun _ _ h hP => restored_stable _ _ _ h hP)
          (hw.2 rfl)).mono (fun _ _ _ h => h) fun _ _ h => ⟨h.1.1, fun hr tv htv => ?_⟩
        rcases List.mem_cons.mp htv with rfl | htv
        · exact ⟨hvalid, fun _ => h.2⟩
        · exact h.1.2 hr tv htv
    · exact safe_done (fun _ _ h h' => ⟨base_stable_restoring _ _ h h'.1, fun h => by cases h⟩)
        ⟨hw, fun h => by cases h⟩

/-- `set_governor_tunables` of a named governor with values the capture read
through `cpu`: each step puts tunables back, and when it returns every tunable
of `kws` is back in its file of the kernel's layout, if `per_cpu` admits it. -/
theorem setGovernorTunables_restores (cpu : CpuId) (g : String) (perCpu : Option Bool)
    {kws : List (String × String)} (hs : ∀ tv ∈ kws, TunableReads d₀ cpu g tv) {w : World}
    (hw : Base d₀.kernel w) :
    Safe World.exec (Restoring d₀) (fun w _ w' => Restoring d₀ w w')
      (fun r w => Base d₀.kernel w ∧ (r = .ok () → ∀ b ∈ perCpu, b = d₀.kernel.perPolicy →
        ∀ tv ∈ kws, Restored d₀ (tunablePath cpu g b tv.1) w.device))
      (setGovernorTunables cpu (some g) perCpu kws) w := by
  unfold setGovernorTunables
  split
  · rename_i hempty
    have hnil : ∀ tv, tv ∉ kws := fun tv htv => by simp [List.isEmpty_iff.mp hempty] at htv
    exact safe_done (fun _ _ h h' => ⟨base_stable_restoring _ _ h h'.1, fun _ _ _ _ tv htv => absurd htv (hnil tv)⟩)
      ⟨hw, fun _ _ _ _ tv htv => absurd htv (hnil tv)⟩
  have hlgt := safe_readOnly (R := Restoring d₀) (fun _ _ h => h.1) (I := fun w => w.device.kernel = d₀.kernel)
    (fun _ _ h hw => h.1.1.trans hw) (fun _ _ h hw => (congrArg Device.kernel h).trans hw) (listGovernorTunables_safe cpu (some g) hw.1)
    (readOnly_listGovernorTunables cpu (some g)) hw.2
  refine safe_bind (hlgt.mono (fun _ _ _ h => ⟨h.1, h.2.2 ▸ restores_refl _⟩) fun _ _ h => h)
    (fun data w hd => ?_) fun _ _ h => ⟨⟨h.1.1, h.2⟩, fun h' => by cases h'⟩
  obtain ⟨hentry, hname⟩ := hd.1.2 data rfl
  obtain ⟨g', pc, valid⟩ := data
  obtain rfl : g' = g := hname g rfl
  refine (setGovernorTunablesLoop_restores kws hs w ⟨hd.1.1, hd.2⟩).mono (fun _ _ _ h => h)
    fun _ _ h => ⟨h.1, fun hr b hb hbL tv htv => ?_⟩
  obtain ⟨hvalid, hres⟩ := h.2 hr tv htv
  rw [hd.2] at hentry
  rcases hentry with he | he <;> simp only [Prod.mk.injEq, true_and] at he <;> obtain ⟨rfl, rfl⟩ := he
  · rw [hbL]
    exact hres fun b' hb' => (Option.some_inj.mp (hb'.symm.trans hb)).trans hbL
  · cases hvalid

/-- After the per-CPU task of domain `r`: on the per-policy layout, every
tunable of `r`'s snapshot is back in `r`'s policy. -/
def PerCpuBack (d₀ : Device) (kvs : List (CpuId × CpuInfo)) (r : ℤ) (d : Device) : Prop :=
  d₀.kernel.perPolicy = true → ∀ info, dictGet kvs (.num r) = some info →
    ∀ tv ∈ info.tunables, Restored d₀ (.governorTunable r info.governor tv.1) d

/-- After the global task of `e = (g, cpu, tunables)`: on the global layout,
every tunable of `e` is back in `g`'s global directory. -/
def GlobalBack (d₀ : Device) (e : String × CpuId × List (String × String)) (d : Device) : Prop :=
  d₀.kernel.perPolicy = false → ∀ tv ∈ e.2.2, Restored d₀ (.globalGovernorTunable e.1 tv.1) d

theorem perCpuBack_stable (kvs : List (CpuId × CpuInfo)) (r : ℤ) :
    Stable (Restoring d₀) fun w => PerCpuBack d₀ kvs r w.device :=
  fun _ _ h hb hL info hi tv htv => restored_stable _ _ _ h (hb hL info hi tv htv)

/-- The per-CPU task of domain `r`, with the snapshots taken on `d₀`: each step
puts tunables back, and when it returns the tunables of `r`'s snapshot are back. -/
theorem setPerCpuTunables_restores (kvs : List (CpuId × CpuInfo)) (r : ℤ)
    (hs : ∀ e ∈ kvs, Snapshot d₀ e.1 e.2) {w : World} (hw : Base d₀.kernel w) :
    Safe World.exec (Restoring d₀) (fun w _ w' => Restoring d₀ w w')
      (fun res w => Base d₀.kernel w ∧ (res = .ok () → PerCpuBack d₀ kvs r w.device))
      (setPerCpuTunables kvs r) w := by
  have hQ : ∀ res : Except Error Unit, Stable (Restoring d₀) fun w =>
      Base d₀.kernel w ∧ (res = .ok () → PerCpuBack d₀ kvs r w.device) :=
    fun _ _ _ h h' => ⟨base_stable_restoring _ _ h h'.1, fun hr => perCpuBack_stable kvs r _ _ h (h'.2 hr)⟩
  unfold setPerCpuTunables
  split
  · exact safe_done (hQ _) ⟨hw, fun h => by cases h⟩
  rename_i info hinfo
  obtain ⟨-, -, -, -, -, htr⟩ := hs _ (mem_of_dictGet hinfo)
  refine safe_bind (setGovernorTunables_restores (.num r) info.governor (some true) htr hw)
    (fun _ w hw => ?_) fun _ _ h => ⟨h.1, fun h' => by cases h'⟩
  have hback : PerCpuBack d₀ kvs r w.device := by
    intro hL info' hinfo'
    rw [hinfo, Option.some_inj] at hinfo'
    exact hinfo' ▸ hw.2 rfl true rfl hL.symm
  split
  · have hstep : ∀ w (o : Op), Base d₀.kernel w → (Query o ∨ ∃ v, o = .writeValue (.scalingSetspeed r) v false) →
        Restoring d₀ w (w.exec o).2 ∧ Base d₀.kernel (w.exec o).2 := by
      intro w o hw ho
      have h : Restoring d₀ w (w.exec o).2 := by
        rcases ho with ho | ⟨v, rfl⟩
        · exact ⟨keepsCache_of_noStore w ho.2, World.exec_device_of_not_write w ho.1 ▸ restores_refl _⟩
        · exact restoring_setspeed w r v false
      exact ⟨h, base_stable_restoring _ _ h hw⟩
    exact ((safe_of_opsIn base_stable_restoring hstep (opsIn_setFrequency (.num r) (fun _ ho => .inl ho.1)
      (fun v => .inr ⟨v, rfl⟩) (.int info.frequency) true) hw.1).frame (perCpuBack_stable kvs r)
        (fun _ _ h hP => perCpuBack_stable kvs r _ _ h hP) hback).mono (fun _ _ _ h => h)
          fun _ _ h => ⟨h.1, fun _ => h.2⟩
  · exact safe_done (hQ _) ⟨hw.1, fun _ => hback⟩

/-- The global task of an entry `e` of `global_tunables_dict`, with the
snapshots taken on `d₀`: each step puts tunables back, and when it returns the
tunables of `e` are back. -/
theorem globalTask_restores {kvs : List (CpuId × CpuInfo)} (hs : ∀ e ∈ kvs, Snapshot d₀ e.1 e.2)
    {e : String × CpuId × List (String × String)} (he : e ∈ globalTunablesDict kvs) {w : World}
    (hw : Base d₀.kernel w) :
    Safe World.exec (Restoring d₀) (fun w _ w' => Restoring d₀ w w')
      (fun res w => Base d₀.kernel w ∧ (res = .ok () → GlobalBack d₀ e w.device))
      (setGovernorTunables e.2.1 (some e.1) (some false) e.2.2) w := by
  obtain ⟨⟨c, info⟩, hc, rfl⟩ := List.mem_map.mp (mem_of_mem_pyDict he)
  obtain ⟨-, -, -, -, -, htr⟩ := hs _ hc
  exact (setGovernorTunables_restores c info.governor (some false) htr hw).mono (fun _ _ _ h => h)
    fun _ _ h => ⟨h.1, fun hr hL => h.2 hr false rfl hL.symm⟩

end Restoring

/-! ## The phase -/

/-- The tunables phase from a world on `d₀`'s kernel, with the snapshots taken on
`d₀`, in any interleaving in which every task returned: every step puts tunables
back, and at the end the tunables of every task are back. -/
theorem restoreTunables_restored {d₀ : Device} {kvs : List (CpuId × CpuInfo)} {domains : List ℤ}
    (hs : ∀ e ∈ kvs, Snapshot d₀ e.1 e.2) {w w' : World} {us tr}
    (run : Concurrently World.exec w (restoreTunablesTasks kvs domains) w' (.ok us) tr)
    (hw : Base d₀.kernel w) :
    (∀ x ∈ tr, Restoring d₀ x.2.1 (x.2.1.exec x.2.2).2) ∧ (∀ r ∈ domains, PerCpuBack d₀ kvs r w'.device) ∧
      ∀ e ∈ globalTunablesDict kvs, GlobalBack d₀ e w'.device := by
  have hsafe := run.safe (R := fun _ => Restoring d₀) (G := fun _ u _ u' => Restoring d₀ u u')
    (Q := fun i res u => Base d₀.kernel u ∧ (res = .ok () →
      (∀ r ∈ domains[i]?, PerCpuBack d₀ kvs r u.device) ∧
        ∀ e ∈ (globalTunablesDict kvs)[i - domains.length]?, domains.length ≤ i → GlobalBack d₀ e u.device))
    (fun _ _ _ _ _ _ _ h => h) fun i t ht => by
      by_cases hi : i < domains.length
      · rw [restoreTunablesTasks, List.getElem?_append_left (by simpa using hi), List.getElem?_map] at ht
        obtain ⟨r, hr, rfl⟩ := Option.map_eq_some'.mp ht
        refine (setPerCpuTunables_restores kvs r hs hw).mono (fun _ _ _ h => h) fun _ _ h =>
          ⟨h.1, fun hres => ⟨fun r' hr' => ?_, fun _ _ hle => absurd hi (by omega)⟩⟩
        rw [hr, Option.mem_def, Option.some_inj] at hr'
        exact hr' ▸ h.2 hres
      · rw [restoreTunablesTasks, List.getElem?_append_right (by simpa using hi), List.getElem?_map,
          List.length_map] at ht
        obtain ⟨e, he, rfl⟩ := Option.map_eq_some'.mp ht
        refine (globalTask_restores hs (List.getElem?_mem he) hw).mono (fun _ _ _ h => h) fun _ _ h =>
          ⟨h.1, fun hres => ⟨fun r' hr' => ?_, fun e' he' _ => ?_⟩⟩
        · rw [List.getElem?_eq_none (by omega)] at hr'
          cases hr'
        · rw [he, Option.mem_def, Option.some_inj] at he'
          exact he' ▸ h.2 hres
  have hlen : us.length = domains.length + (globalTunablesDict kvs).length := by
    simpa [restoreTunablesTasks] using run.length_ok rfl
  refine ⟨hsafe.1, fun r hr => ?_, fun e he => ?_⟩
  · obtain ⟨i, hi⟩ := List.mem_iff_getElem?.mp hr
    have hi' : i < us.length := by have := (List.getElem?_eq_some_iff.mp hi).1; omega
    exact ((hsafe.2.1 us rfl i _ (List.getElem?_eq_getElem hi')).2 rfl).1 r hi
  · obtain ⟨j, hj⟩ := List.mem_iff_getElem?.mp he
    have hj' : domains.length + j < us.length := by have := (List.getElem?_eq_some_iff.mp hj).1; omega
    exact ((hsafe.2.1 us rfl _ _ (List.getElem?_eq_getElem hj')).2 rfl).2 e (by simpa using hj) (by omega)

/-! ## The round trip -/

/-- When `use_governor` exits normally, whatever the body did within the kernel
and the cache law, in any interleaving of each phase under the topology: every
CPU of `cpus` reads each tunable of its previous governor `g` that is not
write-only, in the kernel's layout, as it read before the call, unless the cache
held the empty entry of `g` when the call began. -/
theorem useGovernor_restores_tunables {K : Kernel} (hK : Topology K) {G : String}
    {kwargs : List (String × String)} (hkw : (kwargs.map Prod.fst).Nodup) {cpus : List CpuId}
    {body : World → Except Error Unit → World → Prop}
    (hbody : ∀ w rb w', body w rb w' → KeepsCache w w') {w w' : World} {tr}
    (run : UseGovernor G cpus kwargs body w (.ok ()) w' tr) (hw : CacheOK w) (hk : w.device.kernel = K) :
    ∀ c ∈ cpusOrOnline K cpus, ∀ g, w.device.read (.scalingGovernor c.index) = .ok g →
      w.cache g ≠ some (g, false, []) → ∀ t ∈ K.governorTunables g, t ∉ writeOnlyTunables g →
        w'.device.read (tunablePath c g K.perPolicy t) = w.device.read (tunablePath c g K.perPolicy t) := by
  obtain ⟨infos, domains, ts, w₄, us, tr₄, hs, hD, hkeys, hts, ht, hB₄, hback⟩ :=
    useGovernor_ok_run hK hkw hbody run hw hk
  subst hk
  obtain ⟨hstep, hpc, hgl⟩ := restoreTunables_restored (fun e he => (hs e he).1) ht hB₄
  have hend := (ht.preserves (I := fun u => GovernorsBack _ u ∧ u.device.kernel = w.device.kernel)
    (fun x hx h => ⟨fun e he => runsOn_of_governor (hstep x hx).1.1 (hstep x hx).2.governor (h.1 e he),
      (hstep x hx).1.1.trans h.2⟩) ⟨hback, hB₄.2⟩).2
  intro c hc g hg hne t ht hwo
  obtain ⟨info, he⟩ := hkeys c hc
  obtain ⟨⟨p, hp, -, hgi, -, -⟩, -⟩ := hs _ he
  have hgp : w.device.governor p = g := Except.ok.inj ((w.device.read_scalingGovernor hp).symm.trans hg)
  obtain ⟨p', hp', hgp'⟩ := hend.1 _ he
  rw [hend.2, hp, Option.some_inj] at hp'
  subst hp'
  have hg' : w'.device.governor p = g := hgp'.trans (hgi.trans hgp)
  cases hL : w.device.kernel.perPolicy
  · -- the global layout: the global task of `g`
    have hkey : g ∈ (globalTunablesDict _).map Prod.fst :=
      mem_keys_pyDict.mpr (List.mem_map.mpr ⟨_, List.mem_map_of_mem _ he, hgi.trans hgp⟩)
    obtain ⟨e, hee, rfl⟩ := List.mem_map.mp hkey
    obtain ⟨⟨c', info'⟩, hc', rfl⟩ := List.mem_map.mp (mem_of_mem_pyDict hee)
    obtain ⟨v, hv⟩ := (hs _ hc').2.mem hw rfl hne ht hwo
    have hrun : ∀ d : Device, d.kernel = w.device.kernel → d.governor p = info'.governor →
        d.Running info'.governor :=
      fun d hk hg => ⟨p, hk ▸ w.device.kernel.policyOf_mem _ _ hp, hg⟩
    exact w.device.read_globalGovernorTunable_congr hend.2 (iff_of_true (hrun _ hend.2 hg') (hrun _ rfl hgp))
      (hgl _ hee hL (t, v) hv)
  · -- the per-policy layout: the per-CPU task of the domain of `c`
    obtain ⟨r, hr, hl⟩ := hD.cover _ he
    obtain ⟨pr, hpc', hpr⟩ := lowestOnline_policyOf hl
    rw [hp, Option.some_inj] at hpc'
    subst hpc'
    obtain ⟨_, -, htask⟩ := forall₂_mem_left (forall₂_of_mapM_ok hts) hr
    obtain ⟨info', hinfo', -⟩ := restoreGovernorTask_ok htask
    obtain ⟨⟨pr, hpr', -, hgr, -, -⟩, hlr⟩ := hs _ (mem_of_dictGet hinfo')
    obtain rfl : p = pr := Option.some_inj.mp (hpr.symm.trans hpr')
    obtain rfl : info'.governor = g := hgr.trans hgp
    obtain ⟨v, hv⟩ := hlr.mem hw rfl hne ht hwo
    exact w.device.read_governorTunable_congr hend.2 hp (hg'.trans hgp.symm)
      (hpc r hr hL info' hinfo' (t, v) hv p (hend.2 ▸ hpr))

/-- `use_governor('ondemand')` on both CPUs of the world with global governor
directories, with a body that does nothing: switching CPU 1 back to
`conservative` resets its `freq_step`, and the tunables phase writes `5` back. -/
theorem useGovernor_restores_tunables_shared :
    ∃ w' tr, UseGovernor "ondemand" [] [] (fun w r w' => (Except.ok (), w) = (r, w')) sharedWorld (.ok ()) w' tr ∧
      ∀ c ∈ cpusOrOnline sharedWorld.device.kernel [], ∀ g,
        sharedWorld.device.read (.scalingGovernor c.index) = .ok g → sharedWorld.cache g ≠ some (g, false, []) →
          ∀ t ∈ sharedWorld.device.kernel.governorTunables g, t ∉ writeOnlyTunables g →
            w'.device.read (tunablePath c g sharedWorld.device.kernel.perPolicy t) =
              sharedWorld.device.read (tunablePath c g sharedWorld.device.kernel.perPolicy t) := by
  obtain ⟨tr, h⟩ := useGovernorSeq_useGovernor "ondemand" [] [] (fun w => (.ok (), w)) sharedWorld
  rw [show (useGovernorSeq "ondemand" [] [] (fun w => (.ok (), w)) sharedWorld).1 = .ok () from rfl] at h
  exact ⟨_, tr, h, useGovernor_restores_tunables topology_sharedWorld (by decide)
    (fun w _ _ h => by cases h; exact ⟨rfl, id⟩) h (fun _ _ h => by simp [sharedWorld] at h) rfl⟩

end Devlib.Cpufreq

import Devlib.Cpufreq.CapturePhase

/-!
# The apply phase

Each task of the apply phase writes `G` to the `scaling_governor` of one
domain, through the domain's representative, then writes the tunables of
`kwargs`. A task changes, of the policies, only its own, and of the global
tunables only those of `G`, always to the value `kwargs` gives or to the
defaults `G` starts with. With one representative per policy the tasks cannot
disturb each other: a task that returns leaves `G` running on its policy and
every tunable of `kwargs` reading its value, whatever the others do around it.
-/

namespace Devlib.Cpufreq

open Devlib.Async Devlib.Target Relation

section Apply

variable (K : Kernel) (G : String) (kwargs : List (String × String))

/-- A change of the device that touches, of the policies, only `p`: it sets
`p`'s governor to `G` if it changes it, and changes global tunables only of
`G`, to a value of `kwargs` or to the defaults `G` starts with. -/
structure ApplyDev (p : ℕ) (d d' : Device) : Prop where
  frame : ∀ q ≠ p, d'.governor q = d.governor q ∧ d'.policyValue q = d.policyValue q ∧
    d'.curFreq q = d.curFreq q
  governor : d'.governor p = d.governor p ∨ d'.governor p = G
  global : ∀ h t, d'.globalValue h t = d.globalValue h t ∨
    h = G ∧ ((t, d'.globalValue h t) ∈ kwargs ∨ ¬ d.Running G ∧ d'.globalValue h t = d.kernel.defaults G t)

/-- A step of the apply task that owns policy `p`. -/
def ApplyOwn (p : ℕ) (w w' : World) : Prop := KeepsCache w w' ∧ ApplyDev G kwargs p w.device w'.device

/-- The moves of the other apply tasks, for the task that owns `p`. -/
def ApplyRely (p : ℕ) (w w' : World) : Prop := ∃ q ≠ p, ApplyOwn G kwargs q w w'

/-- The guarantee of the apply task that owns `p`: its writes in order, its steps its own. -/
def ApplyGuar (p : ℕ) (w : World) (o : Op) (w' : World) : Prop :=
  WriteInOrder w.device o ∧ ApplyOwn G kwargs p w w'

/-- The world runs on kernel `K` and keeps the cache law. -/
def Base (w : World) : Prop := CacheOK w ∧ w.device.kernel = K

/-- Every tunable of `kws` reads its value in the file of `G` through `r`. -/
def ReadsBack (r : ℤ) (kws : List (String × String)) (w : World) : Prop :=
  ∀ t v, (t, v) ∈ kws → w.device.read (tunablePath (.num r) G K.perPolicy t) = .ok v

/-- After the apply task through `r`, of policy `p`: `G` runs on `p` and every
tunable of `kwargs` reads its value. -/
def ApplyDone (p : ℕ) (r : ℤ) (w : World) : Prop :=
  w.device.governor p = G ∧ ReadsBack K G r kwargs w

/-- A step of `p`'s owner that, while `G` runs on `p`, sets `p`'s tunables only
to values of `kwargs`: what a `set_governor` task does to a policy it may share
with other such tasks. -/
def ShareOwn (p : ℕ) (w w' : World) : Prop :=
  ApplyOwn G kwargs p w w' ∧ (w.device.governor p = G →
    ∀ t, w'.device.policyValue p t = w.device.policyValue p t ∨ (t, w'.device.policyValue p t) ∈ kwargs)

/-- The guarantee of a `set_governor` task of policy `p`. -/
def ShareGuar (p : ℕ) (w : World) (o : Op) (w' : World) : Prop :=
  WriteInOrder w.device o ∧ ShareOwn G kwargs p w w'

/-- What a `set_governor` task through `r`, of policy `p`, needs of the moves
around it: they keep the kernel and the cache law, keep `G` on `p`, and keep
the tunables of `kwargs` that read back while `G` runs there. -/
structure TaskRely (R : World → World → Prop) (r : ℤ) (p : ℕ) : Prop where
  keeps : ∀ w w', R w w' → KeepsCache w w'
  governor : Stable R fun w => w.device.governor p = G
  readsBack : ∀ kws : List (String × String), (∀ tv ∈ kws, tv ∈ kwargs) →
    Stable R fun w => Base K w ∧ w.device.governor p = G ∧ ReadsBack K G r kws w

variable {K G kwargs}

/-! ### Steps -/

theorem applyDev_refl (p : ℕ) (d : Device) : ApplyDev G kwargs p d d :=
  ⟨fun _ _ => ⟨rfl, rfl, rfl⟩, .inl rfl, fun _ _ => .inl rfl⟩

theorem applyOwn_of_device {p : ℕ} {w w' : World} (hk : KeepsCache w w') (hd : w'.device = w.device) :
    ApplyOwn G kwargs p w w' :=
  ⟨hk, by rw [hd]; exact applyDev_refl p w.device⟩

theorem applyOwn_exec_read {p : ℕ} (w : World) {o : Op} (ho : ReadOnly o) (hs : NoStore o) :
    ApplyOwn G kwargs p w (w.exec o).2 :=
  applyOwn_of_device (keepsCache_of_noStore w hs) (World.exec_device_of_not_write w ho)

/-- A `write_value` whose successful writes stay in `p`'s part is a step of `p`'s task. -/
theorem applyOwn_writeValue {p : ℕ} (w : World) {f : Sysfile} {v : PyVal} {verify : Bool}
    (h : ∀ d', w.device.write f v = .ok d' → ApplyDev G kwargs p w.device d') :
    ApplyOwn G kwargs p w (w.exec (.writeValue f v verify)).2 := by
  refine ⟨keepsCache_of_noStore w trivial, ?_⟩
  show ApplyDev G kwargs p w.device (w.device.writeValue f v verify).2
  rcases w.device.writeValue_snd f v verify with hd | hd
  · rw [hd]; exact applyDev_refl p w.device
  · exact h _ hd

theorem applyDev_switchGovernor {p : ℕ} (d : Device) :
    ApplyDev G kwargs p d (d.switchGovernor p G) := by
  refine ⟨fun q hq => ⟨by simp [hq], by simp [hq], by simp [hq]⟩, .inr (by simp), fun h t => ?_⟩
  rcases d.switchGovernor_globalValue p G h t with hv | ⟨rfl, hr, hv⟩
  · exact .inl hv
  · exact .inr ⟨rfl, .inr ⟨hr, hv⟩⟩

/-- Writing a tunable of `kwargs` through `r` is a step of the task owning `r`'s policy. -/
theorem applyDev_writeTunable {r : ℤ} {p : ℕ} {d d' : Device} (hp : d.kernel.policyOf r = some p)
    {pc : Bool} {t v : String} (htv : (t, v) ∈ kwargs)
    (h : d.write (tunablePath (.num r) G pc t) (.str v) = .ok d') : ApplyDev G kwargs p d d' := by
  cases pc
  · obtain ⟨-, rfl⟩ := d.write_globalGovernorTunable h
    refine ⟨fun _ _ => ⟨rfl, rfl, rfl⟩, .inl rfl, fun h s => ?_⟩
    by_cases hs : h = G ∧ s = t
    · obtain ⟨rfl, rfl⟩ := hs
      exact .inr ⟨rfl, .inl (by simpa using htv)⟩
    · exact .inl (by simp [hs])
  · obtain ⟨q, hq, -, rfl⟩ := d.write_governorTunable h
    obtain rfl : q = p := Option.some_inj.mp (hq.symm.trans hp)
    exact ⟨fun q' hq' => ⟨rfl, by simp [hq'], rfl⟩, .inl rfl, fun _ _ => .inl rfl⟩

/-- Writing `G` to `scaling_governor` through a CPU of policy `p` is a step of
`p`'s owner, after which, when the write returns, `G` runs on `p`. -/
theorem writeGovernor_own {r : ℤ} {p : ℕ} (w : World) (hp : w.device.kernel.policyOf r = some p) :
    ApplyOwn G kwargs p w (w.exec (.writeValue (.scalingGovernor r) (.str G) true)).2 ∧
      ((w.exec (.writeValue (.scalingGovernor r) (.str G) true)).1 = .ok () →
        (w.exec (.writeValue (.scalingGovernor r) (.str G) true)).2.device.governor p = G) := by
  refine ⟨applyOwn_writeValue w fun _ h => ?_, fun hu => ?_⟩
  · obtain ⟨q, hq, rfl⟩ := w.device.write_scalingGovernor h
    obtain rfl : q = p := Option.some_inj.mp (hq.symm.trans hp)
    exact applyDev_switchGovernor _
  · obtain ⟨q, hq, hg⟩ := w.device.writeValue_scalingGovernor_ok hu
    obtain rfl : q = p := Option.some_inj.mp (hq.symm.trans hp)
    exact hg

/-! ### Stability -/

theorem governor_stable {p : ℕ} : Stable (ApplyRely G kwargs p) fun w => w.device.governor p = G :=
  fun _ _ ⟨_, hq, h⟩ hw => ((h.2.frame p (Ne.symm hq)).1).trans hw

/-- Tunables that read back stay so while `G` runs on `p`: the other tasks write
the same values, and `G` running means no task resets them. -/
theorem readsBack_stable {p : ℕ} {r : ℤ} (hp : K.policyOf r = some p)
    (hkw : (kwargs.map Prod.fst).Nodup) {kws : List (String × String)} (hsub : ∀ tv ∈ kws, tv ∈ kwargs) :
    Stable (ApplyRely G kwargs p) fun w => Base K w ∧ w.device.governor p = G ∧ ReadsBack K G r kws w := by
  rintro w w' ⟨q, hq, hk, hd⟩ ⟨hb, hg, hrb⟩
  have hkern : w'.device.kernel = w.device.kernel := hk.1
  have hp' : w.device.kernel.policyOf r = some p := hb.2 ▸ hp
  have hfr := hd.frame p (Ne.symm hq)
  refine ⟨⟨hk.2 hb.1, hkern.trans hb.2⟩, hfr.1.trans hg, fun t v htv => ?_⟩
  have hr := hrb t v htv
  rw [← hb.2] at hr ⊢
  cases hpp : w.device.kernel.perPolicy <;> rw [hpp] at hr <;> rw [← hr]
  · obtain ⟨-, hv⟩ := w.device.read_globalGovernorTunable_ok hr
    have hrun : w.device.Running G := ⟨p, w.device.kernel.policyOf_mem _ _ hp', hg⟩
    have hrun' : w'.device.Running G := ⟨p, hkern ▸ w.device.kernel.policyOf_mem _ _ hp', hfr.1.trans hg⟩
    refine w.device.read_globalGovernorTunable_congr hkern ⟨fun _ => hrun, fun _ => hrun'⟩ ?_
    rcases hd.global G t with h | ⟨-, h | ⟨h, -⟩⟩
    · exact h
    · rw [hv]; exact (Prod.mk.inj (List.inj_on_of_nodup_map hkw h (hsub _ htv) rfl)).2
    · exact absurd hrun h
  · exact w.device.read_governorTunable_congr hkern hp' hfr.1 (congrFun hfr.2.1 t)

/-- Writing one tunable keeps the others that read back. -/
theorem readsBack_writeValue {d : Device} {r : ℤ} {pc : Bool} {kws : List (String × String)}
    {t v : String} (ht : ∀ tv ∈ kws, tv.1 ≠ t)
    (h : ∀ t' v', (t', v') ∈ kws → d.read (tunablePath (.num r) G pc t') = .ok v') :
    ∀ t' v', (t', v') ∈ kws →
      (d.writeValue (tunablePath (.num r) G pc t) (.str v) true).2.read
        (tunablePath (.num r) G pc t') = .ok v' := by
  intro t' v' hm
  have hne : t' ≠ t := ht _ hm
  rw [← h t' v' hm]
  rcases d.writeValue_snd (tunablePath (.num r) G pc t) (.str v) true with hd | hd
  · rw [hd]
  cases pc
  · obtain ⟨-, hd'⟩ := d.write_globalGovernorTunable hd
    rw [hd']
    exact d.read_globalGovernorTunable_congr rfl Iff.rfl (by simp [hne])
  · obtain ⟨q, hq, -, hd'⟩ := d.write_governorTunable hd
    rw [hd']
    exact d.read_governorTunable_congr rfl hq rfl (by simp [hne])

/-! ### The task -/

theorem shareOwn_exec_read {p : ℕ} (w : World) {o : Op} (ho : ReadOnly o) (hs : NoStore o) :
    ShareOwn G kwargs p w (w.exec o).2 :=
  ⟨applyOwn_exec_read w ho hs, fun _ _ => .inl (by rw [World.exec_device_of_not_write w ho])⟩

/-- Writing `G` to `scaling_governor` changes no tunable of a policy that runs `G`. -/
theorem writeGovernor_share {r : ℤ} {p : ℕ} (w : World) (hp : w.device.kernel.policyOf r = some p) :
    ShareOwn G kwargs p w (w.exec (.writeValue (.scalingGovernor r) (.str G) true)).2 := by
  refine ⟨(writeGovernor_own w hp).1, fun hg t => .inl ?_⟩
  show (w.device.writeValue (.scalingGovernor r) (.str G) true).2.policyValue p t = _
  rcases w.device.writeValue_snd (.scalingGovernor r) (.str G) true with hd | hd
  · rw [hd]
  · obtain ⟨q, hq, hd'⟩ := w.device.write_scalingGovernor hd
    obtain rfl : q = p := Option.some_inj.mp (hq.symm.trans hp)
    rw [hd']
    simp only [Device.switchGovernor, PyVal.toStr, if_pos hg]

/-- Writing a tunable of `kwargs` sets, of `p`'s tunables, only that one to its value. -/
theorem writeTunable_share {r : ℤ} {p : ℕ} (w : World) (hp : w.device.kernel.policyOf r = some p)
    {pc : Bool} {t v : String} (htv : (t, v) ∈ kwargs) :
    ShareOwn G kwargs p w (w.exec (.writeValue (tunablePath (.num r) G pc t) (.str v) true)).2 := by
  refine ⟨applyOwn_writeValue w fun _ h => applyDev_writeTunable hp htv h, fun _ t' => ?_⟩
  show (w.device.writeValue _ (.str v) true).2.policyValue p t' = _ ∨
    (t', (w.device.writeValue _ (.str v) true).2.policyValue p t') ∈ kwargs
  rcases w.device.writeValue_snd (tunablePath (.num r) G pc t) (.str v) true with hd | hd
  · exact .inl (by rw [hd])
  generalize (w.device.writeValue (tunablePath (.num r) G pc t) (.str v) true).2 = d' at hd ⊢
  cases pc
  · obtain ⟨-, rfl⟩ := w.device.write_globalGovernorTunable hd
    exact .inl rfl
  · obtain ⟨q, hq, -, rfl⟩ := w.device.write_governorTunable hd
    obtain rfl : q = p := Option.some_inj.mp (hq.symm.trans hp)
    by_cases ht : t' = t
    · subst ht
      exact .inr (by simpa using htv)
    · exact .inl (by simp [ht])

section Task

variable {R : World → World → Prop} {r : ℤ} {p : ℕ}

theorem TaskRely.base (hR : TaskRely K G kwargs R r p) : Stable R (Base K) :=
  fun w w' h hw => ⟨(hR.keeps w w' h).2 hw.1, (hR.keeps w w' h).1.trans hw.2⟩

theorem TaskRely.applyQ (hR : TaskRely K G kwargs R r p) (res : Except Error Unit) :
    Stable R fun w => Base K w ∧ ∀ u, res = .ok u → ApplyDone K G kwargs p r w := by
  intro w w' h ⟨hb, hd⟩
  cases res with
  | error e => exact ⟨hR.base w w' h hb, fun _ h' => by cases h'⟩
  | ok u =>
    have := hR.readsBack kwargs (fun _ h => h) w w' h ⟨hb, (hd u rfl).1, (hd u rfl).2⟩
    exact ⟨this.1, fun _ _ => this.2⟩

/-- One tunable write of a `set_governor` task, after the writes of `done`: it
is in order and a shared step of `p`, and once it returns the tunable reads
back as well as those of `done`. -/
theorem TaskRely.writeTunable (hR : TaskRely K G kwargs R r p) (hp : K.policyOf r = some p)
    {done : List (String × String)} {t v : String}
    (hsub : ∀ tv ∈ done, tv ∈ kwargs) (htv : (t, v) ∈ kwargs) (hnd : ∀ tv ∈ done, tv.1 ≠ t) {w : World}
    (hw : Base K w ∧ w.device.governor p = G ∧ ReadsBack K G r done w) :
    Safe World.exec R (ShareGuar G kwargs p)
      (fun res w => (Base K w ∧ w.device.governor p = G ∧ ReadsBack K G r done w) ∧
        ∀ u, res = .ok u → ReadsBack K G r (done ++ [(t, v)]) w)
      (writeValue (tunablePath (.num r) G K.perPolicy t) (.str v) true) w := by
  have hsub' : ∀ tv ∈ done ++ [(t, v)], tv ∈ kwargs := by
    intro tv h
    rcases List.mem_append.mp h with h | h
    · exact hsub _ h
    · rw [List.mem_singleton.mp h]; exact htv
  have hI := hR.readsBack done hsub
  have hI' := hR.readsBack _ hsub'
  have hQ : ∀ res : Except Error Unit, Stable R fun w =>
      (Base K w ∧ w.device.governor p = G ∧ ReadsBack K G r done w) ∧
        ∀ u, res = .ok u → ReadsBack K G r (done ++ [(t, v)]) w :=
    fun _ w w' h ⟨hw, hok⟩ =>
      ⟨hI w w' h hw, fun u hu => (hI' w w' h ⟨hw.1, hw.2.1, hok u hu⟩).2.2⟩
  refine safe_op hI hw fun w ⟨hb, hg, hrb⟩ => ?_
  have hp' : w.device.kernel.policyOf r = some p := hb.2 ▸ hp
  have hown : ShareOwn G kwargs p w
      (w.exec (.writeValue (tunablePath (.num r) G K.perPolicy t) (.str v) true)).2 :=
    writeTunable_share w hp' htv
  have hrb' := readsBack_writeValue (v := v) hnd hrb
  refine ⟨⟨writeInOrder_tunablePath hp' hg _ _ _ _, hown⟩, safe_done (hQ _) ⟨⟨⟨hown.1.1.2 hb.1,
    hown.1.1.1.trans hb.2⟩, hown.1.2.governor.elim (·.trans hg) id, hrb'⟩, fun u hu => ?_⟩⟩
  intro t' v' hm
  rcases List.mem_append.mp hm with hm | hm
  · exact hrb' t' v' hm
  · obtain ⟨rfl, rfl⟩ := Prod.mk.inj (List.mem_singleton.mp hm)
    exact w.device.writeValue_verify_ok hu

/-- The tunables loop of a `set_governor` task, from a cache entry of `G`. -/
theorem TaskRely.setGovernorTunablesLoop (hR : TaskRely K G kwargs R r p) (hp : K.policyOf r = some p)
    (hkw : (kwargs.map Prod.fst).Nodup) {pc : Bool} {valid : List String}
    (hentry : ProbeEntry K G (G, pc, valid)) :
    ∀ (rest done : List (String × String)), done ++ rest = kwargs → ∀ w,
      Base K w ∧ w.device.governor p = G ∧ ReadsBack K G r done w →
      Safe World.exec R (ShareGuar G kwargs p)
        (fun res w => Base K w ∧ ∀ u, res = .ok u → ApplyDone K G kwargs p r w)
        (setGovernorTunablesLoop (.num r) G none pc valid rest) w
  | [], done, hd, w, ⟨hb, hg, hrb⟩ => by
    rw [List.append_nil] at hd
    subst hd
    exact safe_done (hR.applyQ _) ⟨hb, fun _ _ => ⟨hg, hrb⟩⟩
  | (t, v) :: rest, done, hd, w, hw => by
    have hsub : ∀ tv ∈ done, tv ∈ kwargs := fun tv h => hd ▸ List.mem_append_left _ h
    have htv : (t, v) ∈ kwargs := hd ▸ List.mem_append_right _ (List.mem_cons_self _ _)
    simp only [Cpufreq.setGovernorTunablesLoop]
    split
    · rename_i hvalid
      have hpc : pc = K.perPolicy := by
        rcases hentry with h | h <;> simp only [Prod.mk.injEq] at h
        · exact h.2.1
        · rw [h.2.2] at hvalid; cases hvalid
      subst hpc
      simp only [Option.isSome_none, Bool.false_eq_true, false_and, if_false]
      have hnd : ∀ tv ∈ done, tv.1 ≠ t := by
        intro tv htd heq
        rw [← hd, List.map_append, List.nodup_append] at hkw
        exact hkw.2.2 (List.mem_map_of_mem Prod.fst htd)
          (by rw [heq]; exact List.mem_map_of_mem Prod.fst (List.mem_cons_self (t, v) rest))
      refine safe_bind (hR.writeTunable hp hsub htv hnd hw) (fun _ w hw => ?_)
        fun _ _ h => ⟨h.1.1, fun _ h' => by cases h'⟩
      exact hR.setGovernorTunablesLoop hp hkw hentry rest (done ++ [(t, v)]) (by simpa using hd) w
        ⟨hw.1.1, hw.1.2.1, hw.2 () rfl⟩
    · exact safe_done (hR.applyQ _) ⟨hw.1, fun _ h => by cases h⟩

/-- A `set_governor(r, G, kwargs)` task of policy `p`, among moves as `TaskRely`
asks: each of its writes is in order and each of its steps a shared step of
`p`, and when it returns `G` runs on `p` and every tunable of `kwargs` reads
back. -/
theorem TaskRely.setGovernor (hR : TaskRely K G kwargs R r p) (hp : K.policyOf r = some p)
    (hkw : (kwargs.map Prod.fst).Nodup) {w : World} (hw : Base K w) :
    Safe World.exec R (ShareGuar G kwargs p)
      (fun res w => Base K w ∧ ∀ u, res = .ok u → ApplyDone K G kwargs p r w)
      (setGovernor (.num r) G kwargs) w := by
  have hQ := hR.applyQ
  have hread : ∀ w (o : Op), Base K w → ReadOnly o ∧ NoStore o →
      ShareGuar G kwargs p w o (w.exec o).2 ∧ Base K (w.exec o).2 := fun w o hw ho =>
    have h : ShareOwn G kwargs p w (w.exec o).2 := shareOwn_exec_read w ho.1 ho.2
    ⟨⟨writeInOrder_of_readOnly ho.1, h⟩, h.1.1.2 hw.1, h.1.1.1.trans hw.2⟩
  unfold Cpufreq.setGovernor
  refine safe_bind (safe_of_opsIn hR.base hread (opsIn_listGovernors _ ⟨id, trivial⟩) hw)
    (fun supported w hw => ?_) fun _ _ h => ⟨h, fun _ h' => by cases h'⟩
  split
  · exact safe_done (hQ _) ⟨hw, fun _ h => by cases h⟩
  have hwrite : Safe World.exec R (ShareGuar G kwargs p)
      (fun res w => Base K w ∧ ∀ u, res = .ok u → w.device.governor p = G)
      (writeValue (.scalingGovernor r) (.str G) true) w := by
    have hS : ∀ res : Except Error Unit, Stable R
        fun w => Base K w ∧ ∀ u, res = .ok u → w.device.governor p = G :=
      fun _ w w' h ⟨hb, hg⟩ => ⟨hR.base w w' h hb, fun u hu => hR.governor w w' h (hg u hu)⟩
    refine safe_op hR.base hw fun w hb => ?_
    have hp' := hb.2 ▸ hp
    have hown : ShareOwn G kwargs p w (w.exec (.writeValue (.scalingGovernor r) (.str G) true)).2 :=
      writeGovernor_share w hp'
    exact ⟨⟨trivial, hown⟩, safe_done (hS _)
      ⟨⟨hown.1.1.2 hb.1, hown.1.1.1.trans hb.2⟩, fun _ hu => (@writeGovernor_own G kwargs r p w hp').2 hu⟩⟩
  refine safe_bind hwrite (fun _ w hw => ?_) fun _ _ h => ⟨h.1, fun _ h' => by cases h'⟩
  have hg := hw.2 () rfl
  unfold setGovernorTunables
  split
  · rename_i hempty
    exact safe_done (hQ _) ⟨hw.1, fun _ _ => ⟨hg, fun t v h => by simp [List.isEmpty_iff.mp hempty] at h⟩⟩
  have hI : Stable R fun w => w.device.kernel = K ∧ w.device.governor p = G :=
    fun w w' h hw => ⟨(hR.keeps w w' h).1.trans hw.1, hR.governor w w' h hw.2⟩
  have hlgt := safe_readOnly hR.keeps hI (fun _ _ hd hw => hd ▸ hw)
    (listGovernorTunables_safe (.num r) (some G) hw.1.1) (readOnly_listGovernorTunables _ _)
    ⟨hw.1.2, hg⟩
  refine safe_bind (hlgt.mono (fun w o w' h => ⟨h.2.1, applyOwn_of_device h.1 h.2.2, fun _ _ => .inl (by rw [h.2.2])⟩)
    fun _ _ h => h)
    (fun data w hw => ?_) fun _ _ h => ⟨⟨h.1.1, h.2.1⟩, fun _ h' => by cases h'⟩
  obtain ⟨hentry, hname⟩ := hw.1.2 data rfl
  obtain ⟨g, pc, valid⟩ := data
  obtain rfl : g = G := hname G rfl
  exact hR.setGovernorTunablesLoop hp hkw (by rwa [hw.2.1] at hentry) kwargs [] rfl w
    ⟨⟨hw.1.1, hw.2.1⟩, hw.2.2, fun _ _ h => by cases h⟩

end Task

/-- Next to apply tasks of other policies, a task has all it needs. -/
theorem taskRely_apply {r : ℤ} {p : ℕ} (hp : K.policyOf r = some p) (hkw : (kwargs.map Prod.fst).Nodup) :
    TaskRely K G kwargs (ApplyRely G kwargs p) r p :=
  ⟨fun _ _ h => h.choose_spec.2.1, governor_stable, fun _ hsub => readsBack_stable hp hkw hsub⟩

/-- An apply task through `r`, of policy `p`: each of its writes is in order and
each of its steps stays in `p`'s part, and when it returns `G` runs on `p` and
every tunable of `kwargs` reads back, whatever the other tasks do. -/
theorem setGovernor_apply {r : ℤ} {p : ℕ} (hp : K.policyOf r = some p)
    (hkw : (kwargs.map Prod.fst).Nodup) {w : World} (hw : Base K w) :
    Safe World.exec (ApplyRely G kwargs p) (ApplyGuar G kwargs p)
      (fun res w => Base K w ∧ ∀ u, res = .ok u → ApplyDone K G kwargs p r w)
      (setGovernor (.num r) G kwargs) w :=
  ((taskRely_apply hp hkw).setGovernor hp hkw hw).mono (fun _ _ _ h => ⟨h.1, h.2.1⟩) fun _ _ h => h

/-! ### The phase -/

variable (K) in
/-- The policy of the domain of the apply task at index `i`. -/
def taskPolicy (domains : List ℤ) (i : ℕ) : ℕ := ((domains[i]?).bind K.policyOf).getD 0

/-- Domains in distinct policies give distinct tasks distinct policies. -/
theorem taskPolicy_ne {domains : List ℤ} (hnd : domains.Nodup)
    (hpol : ∀ r ∈ domains, ∃ p, K.policyOf r = some p)
    (hinj : ∀ r ∈ domains, ∀ r' ∈ domains, K.policyOf r = K.policyOf r' → r = r')
    {i j : ℕ} (hi : i < domains.length) (hj : j < domains.length) (hij : i ≠ j) :
    taskPolicy K domains i ≠ taskPolicy K domains j := by
  obtain ⟨p, hp⟩ := hpol _ (List.getElem_mem hi)
  obtain ⟨q, hq⟩ := hpol _ (List.getElem_mem hj)
  simp only [taskPolicy, List.getElem?_eq_getElem hi, List.getElem?_eq_getElem hj, Option.some_bind,
    hp, hq, Option.getD_some]
  rintro rfl
  exact hij (hnd.getElem_inj_iff.mp (hinj _ (List.getElem_mem hi) _ (List.getElem_mem hj) (hp.trans hq.symm)))

theorem applyTasks_getElem? {domains : List ℤ} (hpol : ∀ r ∈ domains, ∃ p, K.policyOf r = some p)
    {i : ℕ} {t : Asyn Unit} (ht : (applyTasks G kwargs domains)[i]? = some t) :
    ∃ r, domains[i]? = some r ∧ K.policyOf r = some (taskPolicy K domains i) ∧
      t = setGovernor (.num r) G kwargs := by
  obtain ⟨r, hr, rfl⟩ : ∃ r, domains[i]? = some r ∧ setGovernor (.num r) G kwargs = t := by
    simpa [applyTasks] using ht
  obtain ⟨p, hp⟩ := hpol r (List.getElem?_mem hr)
  exact ⟨r, hr, by simp [taskPolicy, hr, hp], rfl⟩

/-- The apply phase in any interleaving, over domains in distinct policies: each
step is in order and is a step of the task owning its policy, the cache law
holds throughout, and when every task returned, `G` runs on each domain's
policy and every tunable of `kwargs` reads back its value. -/
theorem apply_run {domains : List ℤ} (hnd : domains.Nodup)
    (hpol : ∀ r ∈ domains, ∃ p, K.policyOf r = some p)
    (hinj : ∀ r ∈ domains, ∀ r' ∈ domains, K.policyOf r = K.policyOf r' → r = r')
    (hkw : (kwargs.map Prod.fst).Nodup) {w w' : World} {res tr}
    (run : Concurrently World.exec w (applyTasks G kwargs domains) w' res tr) (hw : Base K w) :
    (∀ x ∈ tr, ∃ r ∈ domains, ∃ p, K.policyOf r = some p ∧
        ApplyGuar G kwargs p x.2.1 x.2.2 (x.2.1.exec x.2.2).2) ∧ Base K w' ∧
      ∀ us, res = .ok us → ∀ r ∈ domains, ∀ p, K.policyOf r = some p → ApplyDone K G kwargs p r w' := by
  have hlen : (applyTasks G kwargs domains).length = domains.length := List.length_map _ _
  have hs := run.safe (R := fun i => ApplyRely G kwargs (taskPolicy K domains i))
    (G := fun i => ApplyGuar G kwargs (taskPolicy K domains i))
    (Q := fun i res w => Base K w ∧ ∀ u, res = .ok u → ∀ r ∈ domains[i]?,
      ApplyDone K G kwargs (taskPolicy K domains i) r w)
    (fun i j hi hj hij _ _ h => ⟨_, taskPolicy_ne hnd hpol hinj (hlen ▸ hi) (hlen ▸ hj) hij, h.2⟩)
    fun i t ht => by
      obtain ⟨r, hr, hp, rfl⟩ := applyTasks_getElem? hpol ht
      exact (setGovernor_apply hp hkw hw).mono (fun _ _ _ h => h) fun _ _ h =>
        ⟨h.1, fun u hu r' hr' => by rw [hr, Option.mem_def, Option.some_inj] at hr'; exact hr' ▸ h.2 u hu⟩
  have hstep : ∀ x ∈ tr, ∃ r ∈ domains, ∃ p, K.policyOf r = some p ∧
      ApplyGuar G kwargs p x.2.1 x.2.2 (x.2.1.exec x.2.2).2 := by
    intro x hx
    obtain ⟨r, hr, hp, -⟩ := applyTasks_getElem? hpol (List.getElem?_eq_getElem (run.index_lt x hx))
    exact ⟨r, List.getElem?_mem hr, _, hp, hs.1 x hx⟩
  refine ⟨hstep, (run.preserves (I := Base K) (fun x hx h => ?_) hw).2, fun us hus r hr p hp => ?_⟩
  · obtain ⟨_, -, _, -, hg⟩ := hstep x hx
    exact ⟨hg.2.1.2 h.1, hg.2.1.1.trans h.2⟩
  · obtain ⟨i, hi⟩ := List.mem_iff_getElem?.mp hr
    have hi' : i < us.length := by
      rw [run.length_ok hus, hlen]; exact (List.getElem?_eq_some_iff.mp hi).1
    have hpi : taskPolicy K domains i = p := by simp [taskPolicy, hi, hp]
    exact hpi ▸ (hs.2.1 us hus i _ (List.getElem?_eq_getElem hi')).2 _ rfl r hi

end Apply

end Devlib.Cpufreq

import Devlib.Cpufreq.Frame

/-!
# Interleavings of the phases of `use_governor`

Within each phase of `use_governor`, whatever the schedule, no two tasks
conflict: a file one task writes is read by no other task, and another task
writes it only with the same value. The capture only reads. A governor-restore
task writes its own domain's `scaling_governor`. Under the cache law an apply
task writes its domain's `scaling_governor` and the files of `G` through its
domain, the global ones with the value `kwargs` gives. A tunables task writes
the tunables and `scaling_setspeed` of its domain, or the global tunables of its
own governor. No task reads a tunable or a `scaling_setspeed`, and only a
tunables task reads a `scaling_governor`, which its phase never writes.

Every interleaving of the apply phase in which every task returns ends with one
device, `applyEffect`, the abstract apply phase: each domain's policy enters `G`
as the kernel enters a governor, and carries the values of `kwargs` in the files
of the layout. An interleaving in which a task raises ends as that task left it:
which task raises first, and how far the others got, depends on the schedule.
-/

namespace Devlib.Cpufreq

open Devlib.Async Devlib.Target

/-! ## What an apply task issues -/

/-- An operation `set_governor(r, G, **kwargs)` may issue under the cache law:
the write of `r`'s `scaling_governor`, or an operation of its
`set_governor_tunables`. -/
def SetGovernorOp (r : ℤ) (G : String) (kwargs : List (String × String)) (o : Op) : Prop :=
  o = .writeValue (.scalingGovernor r) (.str G) true ∨ TunablesOp (.num r) G none kwargs o

section Apply

variable {G : String} {kwargs : List (String × String)}

end Apply

/-! ## The abstract apply phase -/

section Effect

variable (G : String) (kwargs : List (String × String)) (ps : List ℕ) (d₀ : Device)

/-- The tunables policy `p` runs `G` with once it entered it: its own if it ran
`G` already, otherwise `G`'s defaults. -/
def enterValue (p : ℕ) : String → String :=
  if d₀.governor p = G then d₀.policyValue p else d₀.kernel.defaults G

/-- The frequency policy `p` runs `G` at once it entered it. -/
def enterFreq (p : ℕ) : ℤ := if d₀.governor p = G then d₀.curFreq p else d₀.kernel.onSwitch p G

/-- The global tunables of `G` once some policy entered it: as they were if `G`
ran, otherwise `G`'s defaults. -/
def enterGlobal : String → String :=
  if d₀.Running G then d₀.globalValue G else d₀.kernel.defaults G

/-- Between `d₀` and the end of the apply phase over `ps`: each other policy as
in `d₀`; each policy of `ps` as in `d₀`, or running `G` at the frequency it
entered with and with the values it entered with or of `kwargs`; the global
tunables of another governor as in `d₀`, and those of `G` as in `d₀` while `G`
does not run, or the values `G` entered with or of `kwargs`. -/
structure ApplyInv (d : Device) : Prop where
  kernel : d.kernel = d₀.kernel
  other : ∀ p ∉ ps, d.governor p = d₀.governor p ∧ d.policyValue p = d₀.policyValue p ∧
    d.curFreq p = d₀.curFreq p
  own : ∀ p ∈ ps,
    (d.governor p = d₀.governor p ∧ d.policyValue p = d₀.policyValue p ∧ d.curFreq p = d₀.curFreq p) ∨
      (d.governor p = G ∧ d.curFreq p = enterFreq G d₀ p ∧ ∀ t, d.policyValue p t = enterValue G d₀ p t ∨
        d₀.kernel.perPolicy = true ∧ (t, d.policyValue p t) ∈ kwargs)
  globalOther : ∀ h ≠ G, d.globalValue h = d₀.globalValue h
  global : (¬ d.Running G ∧ d.globalValue G = d₀.globalValue G) ∨
    ∀ t, d.globalValue G t = enterGlobal G d₀ t ∨ d₀.kernel.perPolicy = false ∧ (t, d.globalValue G t) ∈ kwargs

variable {G kwargs ps d₀}

theorem ApplyInv.running {d : Device} (hI : ApplyInv G kwargs ps d₀ d) (h₀ : d₀.Running G) :
    d.Running G := by
  obtain ⟨p, hp, hg⟩ := h₀
  refine ⟨p, hI.kernel ▸ hp, ?_⟩
  by_cases hps : p ∈ ps
  · rcases hI.own p hps with ⟨e, -⟩ | ⟨e, -⟩
    · exact e.trans hg
    · exact e
  · exact (hI.other p hps).1.trans hg

/-- Entering `G` on a policy of `ps`. -/
theorem ApplyInv.switchGovernor {d : Device} (hI : ApplyInv G kwargs ps d₀ d) {p : ℕ} (hp : p ∈ ps) :
    ApplyInv G kwargs ps d₀ (d.switchGovernor p G) := by
  unfold Device.switchGovernor
  split
  · exact hI
  rename_i hne
  have hp₀ : d₀.governor p ≠ G := by
    rcases hI.own p hp with ⟨e, -⟩ | ⟨e, -⟩
    · exact e ▸ hne
    · exact absurd e hne
  refine ⟨hI.kernel, fun q hq => ?_, fun q hq => ?_, fun g hg => by simpa [hg] using hI.globalOther g hg, ?_⟩
  · have hqp : q ≠ p := fun e => hq (e ▸ hp)
    simpa [hqp] using hI.other q hq
  · by_cases hqp : q = p
    · subst hqp
      exact .inr ⟨by simp, by simp [enterFreq, hp₀, hI.kernel],
        fun t => .inl (by simp [enterValue, hp₀, hI.kernel])⟩
    · simpa [hqp] using hI.own q hq
  · by_cases hrun : d.Running G
    · rcases hI.global with ⟨hn, -⟩ | hR
      · exact absurd hrun hn
      · exact .inr fun t => by simpa [hrun] using hR t
    · exact .inr fun t => .inl (by simp [hrun, enterGlobal, mt hI.running hrun, hI.kernel])

/-- A per-policy write of a value of `kwargs` into a policy of `ps` running `G`. -/
theorem ApplyInv.setPolicyValue {d : Device} (hI : ApplyInv G kwargs ps d₀ d) {p : ℕ} (hp : p ∈ ps)
    (hg : d.governor p = G) (hpp : d₀.kernel.perPolicy = true) {t v : String} (hv : (t, v) ∈ kwargs) :
    ApplyInv G kwargs ps d₀
      { d with policyValue := fun q s => if q = p ∧ s = t then v else d.policyValue q s } := by
  refine ⟨hI.kernel, fun q hq => ?_, fun q hq => ?_, hI.globalOther, hI.global⟩
  · have hqp : q ≠ p := fun e => hq (e ▸ hp)
    simpa [hqp] using hI.other q hq
  · by_cases hqp : q = p
    · subst hqp
      have hR : d.curFreq q = enterFreq G d₀ q ∧ ∀ s, d.policyValue q s = enterValue G d₀ q s ∨
          d₀.kernel.perPolicy = true ∧ (s, d.policyValue q s) ∈ kwargs := by
        rcases hI.own q hq with ⟨e₁, e₂, e₃⟩ | ⟨-, e₃, e₂⟩
        · have h₀ : d₀.governor q = G := e₁ ▸ hg
          exact ⟨by simp [enterFreq, h₀, e₃], fun s => .inl (by simp [enterValue, h₀, e₂])⟩
        · exact ⟨e₃, e₂⟩
      refine .inr ⟨hg, hR.1, fun s => ?_⟩
      by_cases hs : s = t
      · subst hs
        exact .inr ⟨hpp, by simpa using hv⟩
      · simpa [hs] using hR.2 s
    · simpa [hqp] using hI.own q hq

/-- A global write of a value of `kwargs` into the directory of `G`, while `G` runs. -/
theorem ApplyInv.setGlobalValue {d : Device} (hI : ApplyInv G kwargs ps d₀ d) (hrun : d.Running G)
    (hpp : d₀.kernel.perPolicy = false) {t v : String} (hv : (t, v) ∈ kwargs) :
    ApplyInv G kwargs ps d₀
      { d with globalValue := fun h s => if h = G ∧ s = t then v else d.globalValue h s } := by
  refine ⟨hI.kernel, hI.other, hI.own, fun g hg => by simpa [hg] using hI.globalOther g hg, ?_⟩
  rcases hI.global with ⟨hn, -⟩ | hR
  · exact absurd hrun hn
  · refine .inr fun s => ?_
    by_cases hs : s = t
    · subst hs
      exact .inr ⟨hpp, by simpa using hv⟩
    · simpa [hs] using hR s

/-- Every operation of the apply task of a domain of a policy of `ps` keeps the relation. -/
theorem ApplyInv.exec {r : ℤ} {p : ℕ} (hr : d₀.kernel.policyOf r = some p) (hp : p ∈ ps)
    {o : Op} (ho : SetGovernorOp r G kwargs o) {w : World} (hI : ApplyInv G kwargs ps d₀ w.device) :
    ApplyInv G kwargs ps d₀ (w.exec o).2.device := by
  have hpol : ∀ {p'}, w.device.kernel.policyOf r = some p' → p' = p := fun h =>
    Option.some_inj.mp (h.symm.trans (hI.kernel ▸ hr))
  rcases ho with rfl | ho | ⟨pc, t, v, hv, -, rfl⟩
  · show ApplyInv G kwargs ps d₀ (w.device.writeValue _ _ true).2
    rcases w.device.writeValue_snd (.scalingGovernor r) (.str G) true with e | e
    · rw [e]; exact hI
    obtain ⟨p', hp', e'⟩ := w.device.write_scalingGovernor e
    rw [e', hpol hp']
    exact hI.switchGovernor hp
  · rw [World.exec_device_of_not_write w ho]; exact hI
  · show ApplyInv G kwargs ps d₀ (w.device.writeValue _ _ true).2
    rcases w.device.writeValue_snd (tunablePath (.num r) G pc t) (.str v) true with e | e
    · rw [e]; exact hI
    cases pc
    · obtain ⟨⟨hpp, hrun, -⟩, e'⟩ := w.device.write_globalGovernorTunable e
      rw [e']
      exact hI.setGlobalValue hrun (hI.kernel ▸ hpp) hv
    · obtain ⟨p', hp', ⟨hpp, hg, -⟩, e'⟩ := w.device.write_governorTunable e
      obtain rfl := hpol hp'
      rw [e']
      exact hI.setPolicyValue hp hg (hI.kernel ▸ hpp) hv

end Effect

/-! ## Runs of the apply phase -/

/-- A write of a tunables task goes to a file of its governor through its CPU, in
a layout its filter admits. -/
theorem TunablesOp.write {cpu : CpuId} {g : String} {perCpu : Option Bool} {kws : List (String × String)}
    {o : Op} (ho : TunablesOp cpu g perCpu kws o) {f : Sysfile} {v : PyVal} {b : Bool}
    (hf : o = .writeValue f v b) : ∃ pc t, (∀ b ∈ perCpu, b = pc) ∧ f = tunablePath cpu g pc t := by
  subst hf
  rcases ho with h | ⟨pc, t, x, -, hp, h⟩
  · exact absurd trivial h
  · cases h
    exact ⟨pc, t, hp, rfl⟩

/-- The file a step of task `i` of the tunables phase writes: a per-CPU tunable or
the `scaling_setspeed` of the `i`-th domain, or a global tunable of the governor
listed after the domains. -/
theorem RestoreTunablesOp.write {kvs : List (CpuId × CpuInfo)} {domains : List ℤ} {i : ℕ} {o : Op}
    (ho : RestoreTunablesOp kvs domains i o) {f : Sysfile} {v : PyVal} {b : Bool}
    (hf : o = .writeValue f v b) :
    (∃ r, domains[i]? = some r ∧ ((∃ g t, f = .governorTunable r g t) ∨ f = .scalingSetspeed r)) ∨
      domains.length ≤ i ∧ ∃ e, (globalTunablesDict kvs)[i - domains.length]? = some e ∧
        ∃ t, f = .globalGovernorTunable e.1 t := by
  rcases ho with ⟨r, hr, info, -, h | ⟨-, u, rfl⟩⟩ | ⟨hi, e, he, h⟩
  · obtain ⟨pc, t, hp, rfl⟩ := h.write hf
    obtain rfl := hp true rfl
    exact .inl ⟨r, hr, .inl ⟨_, t, rfl⟩⟩
  · cases hf
    exact .inl ⟨r, hr, .inr rfl⟩
  · obtain ⟨pc, t, hp, rfl⟩ := h.write hf
    obtain rfl := hp false rfl
    exact .inr ⟨hi, e, he, t, rfl⟩

end Devlib.Cpufreq

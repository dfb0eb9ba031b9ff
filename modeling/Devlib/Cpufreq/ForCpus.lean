import Devlib.Cpufreq.Entry

/-!
# Governors and frequencies for a list of CPUs

`set_governor_for_cpus` and `set_frequency_for_cpus` hand `concurrently` a
generator of `self.set_governor(cpu, ...)`, or `self.set_frequency(cpu, ...)`,
over `sorted(set(cpus))`. These are the blocking forms of the methods, called
from inside the coroutine the scheduler runs. Either the runtime refuses such a
call before it issues anything, or it runs the call to its end in place; then
the calls run one after another as `concurrently` draws the generator, and
`concurrently` gets their `None` results, which are not awaitable. Given any
CPU, neither method returns normally.

## Implementation notes

The runtime, `devlib/utils/asyn.py`, is not among the sources: what its
blocking form does inside a running coroutine is the parameter `Nesting`, and
`concurrently` is taken to raise `TypeError` on the values it is handed and to
return at once when it is handed none. The CPUs are given as `int`s: `sorted`
raises `TypeError` on a list that mixes `int`s with names, with a message
naming the types in an order that depends on Python's string hashing.
-/

namespace Devlib.Cpufreq

open Devlib.Async Devlib.Target Devlib.Text

/-- `sorted(set(cpus))` for CPUs given as `int`s. -/
def sortedSet (cpus : List ℤ) : List ℤ := sorted cpus.dedup

theorem mem_sortedSet {cpus : List ℤ} {c : ℤ} : c ∈ sortedSet cpus ↔ c ∈ cpus := by
  rw [sortedSet, (sorted_perm _).mem_iff, List.mem_dedup]

/-! ## Blocking calls inside a running coroutine -/

/-- What the blocking form of a method does when a coroutine the runtime is
running calls it. -/
inductive Nesting where
  /-- It refuses with the runtime's reentrancy error. -/
  | refuses
  /-- It runs the method's coroutine to its end in place and returns its result. -/
  | runsInPlace

/-- `self.method(...)`, the blocking form, called from inside a running coroutine. -/
def blocking {α : Type} : Nesting → Asyn α → Asyn α
  | .refuses, _ => throw .reentrancy
  | .runsInPlace, t => t

/-- The generator `(self.method(cpu, ...) for cpu in cpus)` as `concurrently`
draws it: one blocking call per CPU, in order, each to its end. -/
def blockingCalls (n : Nesting) (call : ℤ → Asyn Unit) : List ℤ → Asyn (List Unit)
  | [] => pure []
  | cpu :: cpus => do
    let r ← blocking n (call cpu)
    let rs ← blockingCalls n call cpus
    pure (r :: rs)

/-- `async_manager.concurrently` handed the `None` results of blocking calls:
nothing to await for no call, `TypeError` otherwise. -/
def concurrentlyResults : List Unit → Asyn (List Unit)
  | [] => pure []
  | _ :: _ => throw .typeError

/-- The body `set_governor_for_cpus` and `set_frequency_for_cpus` share, with
the method each calls per CPU. -/
def forCpus (n : Nesting) (call : ℤ → Asyn Unit) (cpus : List ℤ) : Asyn Unit := do
  let results ← blockingCalls n call (sortedSet cpus)
  let _ ← concurrentlyResults results
  pure ()

/-- `set_governor_for_cpus(cpus, governor, **kwargs)`. -/
def setGovernorForCpus (n : Nesting) (cpus : List ℤ) (governor : String)
    (kwargs : List (String × String)) : Asyn Unit :=
  forCpus n (fun cpu => setGovernor (.num cpu) governor kwargs) cpus

/-- Run in place, the drawn generator is the calls run one after another. -/
theorem blockingCalls_run (call : ℤ → Asyn Unit) (cpus : List ℤ) (w : World) :
    (blockingCalls .runsInPlace call cpus).run World.exec w = seqRun World.exec (cpus.map call) w := by
  induction cpus generalizing w with
  | nil => rfl
  | cons c cpus ih =>
    simp only [blockingCalls, blocking, Coro.bind_eq, Coro.run_bind, List.map_cons, seqRun, ih]
    rcases (call c).run World.exec w with ⟨_ | _, w₁⟩
    · rfl
    · dsimp only
      rcases seqRun World.exec (cpus.map call) w₁ with ⟨_ | _, w₂⟩ <;> rfl

/-- Both methods, whatever the runtime does with a nested blocking call: they
return at once for no CPU; otherwise the refused call raises before anything is
issued, or the calls run one after another, and the first exception of a call,
or else `TypeError`, ends the method. -/
theorem forCpus_run (n : Nesting) (call : ℤ → Asyn Unit) (cpus : List ℤ) (w : World) :
    (forCpus n call cpus).run World.exec w =
      if cpus = [] then (.ok (), w) else
        match n with
        | .refuses => (.error .reentrancy, w)
        | .runsInPlace =>
          ((seqRun World.exec ((sortedSet cpus).map call) w).1.bind fun _ => .error .typeError,
            (seqRun World.exec ((sortedSet cpus).map call) w).2) := by
  split
  · subst cpus; rfl
  rename_i hne
  obtain ⟨c, cs, hcs⟩ := List.exists_cons_of_ne_nil fun h : sortedSet cpus = [] =>
    hne (List.eq_nil_iff_forall_not_mem.mpr fun c hc => by simpa [h] using mem_sortedSet.mpr hc)
  cases n with
  | refuses => simp only [forCpus, hcs]; rfl
  | runsInPlace =>
    obtain ⟨tr, hseq⟩ := seqRun_concurrently World.exec ((c :: cs).map call) w
    simp only [forCpus, hcs, Coro.bind_eq, Coro.run_bind, blockingCalls_run]
    rcases h : seqRun World.exec ((c :: cs).map call) w with ⟨_ | us, w'⟩
    · rfl
    · obtain _ | ⟨u, us'⟩ := us
      · have := hseq.length_ok (by rw [h])
        simp at this
      · rfl

/-- Given a CPU, neither method returns normally. -/
theorem forCpus_ne_ok (n : Nesting) (call : ℤ → Asyn Unit) {cpus : List ℤ} (hne : cpus ≠ [])
    (w : World) : ((forCpus n call cpus).run World.exec w).1 ≠ .ok () := by
  rw [forCpus_run, if_neg hne]
  cases n with
  | refuses => simp
  | runsInPlace => cases (seqRun World.exec ((sortedSet cpus).map call) w).1 <;> simp [Except.bind]

/-! ## Governors -/

section Governors

variable {K : Kernel} {G : String} {kwargs : List (String × String)}

variable (G kwargs) in
/-- The moves of `set_governor` tasks of any policies. -/
def ShareRely (w w' : World) : Prop := ∃ q, ShareOwn G kwargs q w w'

/-- Next to `set_governor` tasks of any policies, its own included, the task of
CPU `r` has all it needs: the others keep `G` on its policy and the tunables
that read their values. -/
theorem taskRely_share {r : ℤ} {p : ℕ} (hp : K.policyOf r = some p) (hkw : (kwargs.map Prod.fst).Nodup) :
    TaskRely K G kwargs (ShareRely G kwargs) r p := by
  have hgov : Stable (ShareRely G kwargs) fun w => w.device.governor p = G := by
    rintro w w' ⟨q, ⟨-, hd⟩, -⟩ hg
    by_cases hq : q = p
    · subst hq
      exact hd.governor.elim (·.trans hg) id
    · exact (hd.frame p (Ne.symm hq)).1.trans hg
  refine ⟨fun _ _ h => h.choose_spec.1.1, hgov, fun kws hsub => ?_⟩
  rintro w w' hR ⟨hb, hg, hrb⟩
  obtain ⟨q, ⟨hk, hd⟩, htun⟩ := id hR
  have hkern : w'.device.kernel = w.device.kernel := hk.1
  have hp' : w.device.kernel.policyOf r = some p := hb.2 ▸ hp
  have hg' := hgov w w' hR hg
  refine ⟨⟨hk.2 hb.1, hkern.trans hb.2⟩, hg', fun t v htv => ?_⟩
  have hr := hrb t v htv
  have hval : ∀ x, (t, x) ∈ kwargs → x = v := fun x hx =>
    (Prod.mk.inj (List.inj_on_of_nodup_map hkw hx (hsub _ htv) rfl)).2
  rw [← hb.2] at hr ⊢
  cases hpp : w.device.kernel.perPolicy <;> rw [hpp] at hr <;> rw [← hr]
  · obtain ⟨-, hv⟩ := w.device.read_globalGovernorTunable_ok hr
    have hrun : w.device.Running G := ⟨p, w.device.kernel.policyOf_mem _ _ hp', hg⟩
    have hrun' : w'.device.Running G := ⟨p, hkern ▸ w.device.kernel.policyOf_mem _ _ hp', hg'⟩
    refine w.device.read_globalGovernorTunable_congr hkern ⟨fun _ => hrun, fun _ => hrun'⟩ ?_
    rcases hd.global G t with h | ⟨-, h | ⟨h, -⟩⟩
    · exact h
    · rw [hv]; exact hval _ h
    · exact absurd hrun h
  · refine w.device.read_governorTunable_congr hkern hp' (hg'.trans hg.symm) ?_
    by_cases hq : q = p
    · subst hq
      obtain ⟨_, hc, -, hv⟩ := w.device.read_governorTunable_ok hr
      obtain rfl := Option.some_inj.mp (hc.symm.trans hp')
      exact (htun hg t).elim id fun h => by rw [hv]; exact hval _ h
    · exact congrFun (hd.frame p (Ne.symm hq)).2.1 t

/-- A shared step of a policy with a CPU of `cpus` leaves alone every policy without one. -/
theorem ShareGuar.frame {cpus : List ℤ} {q : ℕ} (hq : ∀ c ∈ cpus, K.policyOf c ≠ some q) {c : ℤ}
    (hc : c ∈ cpus) {p : ℕ} (hp : K.policyOf c = some p) {w w' : World} {o : Op}
    (h : ShareGuar G kwargs p w o w') :
    w'.device.governor q = w.device.governor q ∧ w'.device.policyValue q = w.device.policyValue q ∧
      w'.device.curFreq q = w.device.curFreq q :=
  h.2.1.2.frame q fun hqp => hq c hc (hqp ▸ hp)

/-- A shared step changes the global tunables of no governor but `G`. -/
theorem ShareGuar.global {p : ℕ} {w w' : World} {o : Op} (h : ShareGuar G kwargs p w o w') {g : String}
    (hg : g ≠ G) : w'.device.globalValue g = w.device.globalValue g :=
  funext fun t => (h.2.1.2.global g t).resolve_right fun h' => hg h'.1

/-- The `set_governor` calls of `set_governor_for_cpus` in any interleaving,
several CPUs of one policy allowed: every write is in order, the cache law
holds throughout, no policy without a CPU of `cpus` changes, nor any global
tunable of another governor; and when every call returned, each CPU's policy
runs `G` and every tunable of `kwargs` reads its value through the CPU. -/
theorem governorCalls_run {cpus : List ℤ} (hpol : ∀ c ∈ cpus, ∃ p, K.policyOf c = some p)
    (hkw : (kwargs.map Prod.fst).Nodup) {w w' : World} {res : Except Error (List Unit)} {tr}
    (run : Concurrently World.exec w ((sortedSet cpus).map fun cpu => setGovernor (.num cpu) G kwargs) w' res tr)
    (hw : Base K w) :
    (∀ x ∈ tr, WriteInOrder x.2.1.device x.2.2) ∧ Base K w' ∧
      (∀ q, (∀ c ∈ cpus, K.policyOf c ≠ some q) →
        w'.device.governor q = w.device.governor q ∧ w'.device.policyValue q = w.device.policyValue q ∧
          w'.device.curFreq q = w.device.curFreq q) ∧
      (∀ g ≠ G, w'.device.globalValue g = w.device.globalValue g) ∧
      ∀ us, res = .ok us → ∀ c ∈ cpus, ∀ p, K.policyOf c = some p → ApplyDone K G kwargs p c w' := by
  have hs := run.safe_map (R := ShareRely G kwargs)
    (G := fun c => ShareGuar G kwargs (((K.policyOf c)).getD 0))
    (Q := fun c res w => Base K w ∧ ∀ u, res = .ok u → ∀ p, K.policyOf c = some p → ApplyDone K G kwargs p c w)
    (fun _ _ _ h => ⟨_, h.2⟩) fun c hc => by
      obtain ⟨p, hp⟩ := hpol c (mem_sortedSet.mp hc)
      refine ((taskRely_share hp hkw).setGovernor hp hkw hw).mono
        (fun _ _ _ h => by simpa only [hp, Option.getD_some] using h) ?_
      exact fun _ _ h => ⟨h.1, fun u hu p' hp' => Option.some_inj.mp (hp.symm.trans hp') ▸ h.2 u hu⟩
  have hstep : ∀ x ∈ tr, ∃ c ∈ cpus, ∃ p, K.policyOf c = some p ∧
      ShareGuar G kwargs p x.2.1 x.2.2 (x.2.1.exec x.2.2).2 := fun x hx => by
    obtain ⟨c, hc, h⟩ := hs.1 x hx
    obtain ⟨p, hp⟩ := hpol c (mem_sortedSet.mp hc)
    exact ⟨c, mem_sortedSet.mp hc, p, hp, by simpa only [hp, Option.getD_some] using h⟩
  refine ⟨fun x hx => (hstep x hx).elim fun _ ⟨_, _, _, h⟩ => h.1, ?_, fun q hq => ?_, fun g hg => ?_,
    fun us hus c hc => ?_⟩
  · refine (run.preserves (I := Base K) (fun x hx h => ?_) hw).2
    obtain ⟨_, -, _, -, hg⟩ := hstep x hx
    exact ⟨hg.2.1.1.2 h.1, hg.2.1.1.1.trans h.2⟩
  · refine (run.preserves (I := fun w₁ => w₁.device.governor q = w.device.governor q ∧
      w₁.device.policyValue q = w.device.policyValue q ∧ w₁.device.curFreq q = w.device.curFreq q)
      (fun x hx h => ?_) ⟨rfl, rfl, rfl⟩).2
    obtain ⟨c, hc, p, hp, hg⟩ := hstep x hx
    obtain ⟨h₁, h₂, h₃⟩ := ShareGuar.frame hq hc hp hg
    exact ⟨h₁.trans h.1, h₂.trans h.2.1, h₃.trans h.2.2⟩
  · refine (run.preserves (I := fun w₁ => w₁.device.globalValue g = w.device.globalValue g)
      (fun x hx h => ?_) rfl).2
    obtain ⟨_, -, _, -, hs'⟩ := hstep x hx
    exact (hs'.global hg).trans h
  · exact (hs.2.1 us hus c (mem_sortedSet.mpr hc)).elim fun _ h => h.2 _ rfl

/-- `set_governor_for_cpus` never returns normally when given a CPU. A refused
blocking call raises before anything is issued. Run in place, the `set_governor`
calls over `sorted(set(cpus))` run one after another, and the method raises the
first exception of a call, or `TypeError` once they all returned. They keep the
policies without a CPU of `cpus` and the global tunables of other governors,
and once they all returned, each CPU's policy runs `G` with every tunable of
`kwargs` reading its value. -/
theorem setGovernorForCpus_raises (n : Nesting) {cpus : List ℤ} (hne : cpus ≠ [])
    (hpol : ∀ c ∈ cpus, ∃ p, K.policyOf c = some p) (hkw : (kwargs.map Prod.fst).Nodup) {w : World}
    (hw : Base K w) :
    let calls := seqRun World.exec ((sortedSet cpus).map fun cpu => setGovernor (.num cpu) G kwargs) w
    ((setGovernorForCpus n cpus G kwargs).run World.exec w).1 ≠ .ok () ∧
      (n = .refuses → (setGovernorForCpus n cpus G kwargs).run World.exec w = (.error .reentrancy, w)) ∧
      (n = .runsInPlace →
        (setGovernorForCpus n cpus G kwargs).run World.exec w =
          (calls.1.bind fun _ => .error .typeError, calls.2) ∧ Base K calls.2 ∧
        (∀ q, (∀ c ∈ cpus, K.policyOf c ≠ some q) →
          calls.2.device.governor q = w.device.governor q ∧
            calls.2.device.policyValue q = w.device.policyValue q ∧ calls.2.device.curFreq q = w.device.curFreq q) ∧
        (∀ g ≠ G, calls.2.device.globalValue g = w.device.globalValue g) ∧
        ∀ us, calls.1 = .ok us → ∀ c ∈ cpus, ∀ p, K.policyOf c = some p → ApplyDone K G kwargs p c calls.2) := by
  intro calls
  have hrun := forCpus_run n (fun cpu => setGovernor (.num cpu) G kwargs) cpus w
  rw [if_neg hne] at hrun
  obtain ⟨tr, hseq⟩ := seqRun_concurrently World.exec
    ((sortedSet cpus).map fun cpu => setGovernor (.num cpu) G kwargs) w
  obtain ⟨-, hb, hframe, hglobal, hdone⟩ := governorCalls_run hpol hkw hseq hw
  exact ⟨forCpus_ne_ok n _ hne w, fun hn => by subst hn; exact hrun,
    fun hn => by subst hn; exact ⟨hrun, hb, hframe, hglobal, hdone⟩⟩

/-- `set_governor_for_cpus([1, 0, 3], 'conservative', freq_step='20')` on the two
clusters, CPUs 0 and 1 sharing a policy, with blocking calls run in place. -/
theorem setGovernorForCpus_raises_clusters :
    let calls := seqRun World.exec ((sortedSet [1, 0, 3]).map fun cpu =>
      setGovernor (.num cpu) "conservative" [("freq_step", "20")]) clusterWorld
    ((setGovernorForCpus .runsInPlace [1, 0, 3] "conservative" [("freq_step", "20")]).run World.exec
        clusterWorld).1 ≠ .ok () ∧
      (Nesting.runsInPlace = .refuses →
        (setGovernorForCpus .runsInPlace [1, 0, 3] "conservative" [("freq_step", "20")]).run World.exec
          clusterWorld = (.error .reentrancy, clusterWorld)) ∧
      (Nesting.runsInPlace = .runsInPlace →
        (setGovernorForCpus .runsInPlace [1, 0, 3] "conservative" [("freq_step", "20")]).run World.exec
            clusterWorld = (calls.1.bind fun _ => .error .typeError, calls.2) ∧
          Base clusterWorld.device.kernel calls.2 ∧
          (∀ q, (∀ c ∈ [1, 0, 3], clusterWorld.device.kernel.policyOf c ≠ some q) →
            calls.2.device.governor q = clusterWorld.device.governor q ∧
              calls.2.device.policyValue q = clusterWorld.device.policyValue q ∧
              calls.2.device.curFreq q = clusterWorld.device.curFreq q) ∧
          (∀ g ≠ "conservative", calls.2.device.globalValue g = clusterWorld.device.globalValue g) ∧
          ∀ us, calls.1 = .ok us → ∀ c ∈ [1, 0, 3], ∀ p, clusterWorld.device.kernel.policyOf c = some p →
            ApplyDone clusterWorld.device.kernel "conservative" [("freq_step", "20")] p c calls.2) := by
  have hpol : ∀ c ∈ [(1 : ℤ), 0, 3], ∃ p, clusterWorld.device.kernel.policyOf c = some p := by
    simp only [List.mem_cons, List.mem_singleton, List.not_mem_nil, or_false]
    rintro c (rfl | rfl | rfl) <;> exact ⟨_, rfl⟩
  exact setGovernorForCpus_raises .runsInPlace (by decide) hpol (by decide)
    ⟨fun _ _ h => by simp [clusterWorld] at h, rfl⟩

end Governors

/-! ## Frequencies -/

section Frequencies

variable {K : Kernel} {freq : ℤ}

variable (freq) in
/-- A step of a `set_frequency` task of policy `p` writing `freq`: the cache as
it was, and the device as it was or with `p` at `freq`. -/
def FreqOwn (p : ℕ) (w w' : World) : Prop :=
  w'.cache = w.cache ∧ (w'.device = w.device ∨
    w'.device = { w.device with curFreq := fun q => if q = p then freq else w.device.curFreq q })

/-- A step of any of the tasks changes, of the device, only a frequency, and only to `freq`. -/
theorem FreqOwn.device {p : ℕ} {w w' : World} (h : FreqOwn freq p w w') :
    w'.device.kernel = w.device.kernel ∧ w'.device.governor = w.device.governor ∧
      w'.device.policyValue = w.device.policyValue ∧ w'.device.globalValue = w.device.globalValue ∧
      ∀ q, w'.device.curFreq q = w.device.curFreq q ∨ q = p ∧ w'.device.curFreq q = freq := by
  rcases h.2 with hd | hd <;> rw [hd]
  · exact ⟨rfl, rfl, rfl, rfl, fun _ => .inl rfl⟩
  · refine ⟨rfl, rfl, rfl, rfl, fun q => ?_⟩
    by_cases hq : q = p <;> simp [hq]

end Frequencies

end Devlib.Cpufreq

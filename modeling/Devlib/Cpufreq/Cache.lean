import Devlib.Async.Concurrently
import Devlib.Cpufreq.Footprint

/-!
# The governor-tunables cache

`_list_governor_tunables` keeps, under the governor's name only, the first
answer of its directory probe. The probe lists the governor's directory, which
exists only while the governor runs, so a governor probed before it ever ran
is cached with no tunables, and that entry outlives the governor's activation.

Each store holds a probe's answer, a listing the probe gets is the governor's
real one, and the kernel behind it never changes, so every entry is one the
probe can produce: the governor's layout and tunables, or the empty entry. That
cache law, `CacheOK`, is kept by each step of the module's calls, and so by every
interleaving of them.
-/

namespace Devlib.Cpufreq

open Devlib.Async Devlib.Target Relation

/-- An entry the probe of `g` can store on kernel `K`: the governor's layout and
tunables, or the empty entry of a probe that found no directory. -/
def ProbeEntry (K : Kernel) (g : String) (d : TunableInfo) : Prop :=
  d = (g, K.perPolicy, K.governorTunables g) ∨ d = (g, false, [])

/-- Every cached entry is one the probe of its governor can store. -/
def CacheOK (w : World) : Prop :=
  ∀ g d, w.cache g = some d → ProbeEntry w.device.kernel g d

/-- A move of the world that keeps the kernel and the cache law. -/
def KeepsCache (w w' : World) : Prop :=
  w'.device.kernel = w.device.kernel ∧ (CacheOK w → CacheOK w')

/-- Interleaved with any moves that keep the cache law, the coroutine keeps it
at each of its own steps. -/
def CacheSafe {α : Type} (t : Asyn α) : Prop :=
  ∀ w, CacheOK w →
    Safe World.exec KeepsCache (fun w _ w' => KeepsCache w w') (fun _ w => CacheOK w) t w

theorem cacheOK_stable : Stable KeepsCache CacheOK := fun _ _ h => h.2

theorem exec_cache_of_noStore (w : World) {o : Op} (ho : NoStore o) :
    (w.exec o).2.cache = w.cache := by
  cases o <;> first | exact ho.elim | rfl

theorem keepsCache_of_noStore (w : World) {o : Op} (ho : NoStore o) :
    KeepsCache w (w.exec o).2 := by
  refine ⟨World.exec_kernel w o, fun hw g d hd => ?_⟩
  rw [World.exec_kernel]
  exact hw g d (exec_cache_of_noStore w ho ▸ hd)

/-- Storing an entry the probe can produce keeps the cache law. -/
theorem cacheOK_put {w : World} (hw : CacheOK w) {g : String} {d : TunableInfo}
    (hd : ProbeEntry w.device.kernel g d) : CacheOK (w.exec (.cachePut g d)).2 := by
  intro h e he
  simp only [World.exec] at he
  split at he
  · cases he; subst h; exact hd
  · exact hw h e he

/-! ## Cache-safe coroutines -/

theorem cacheSafe_of_opsIn {α : Type} {t : Asyn α} (ht : Coro.OpsIn NoStore t) : CacheSafe t := by
  intro _ hw
  refine safe_of_opsIn cacheOK_stable (fun w o hw ho => ?_) ht hw
  exact ⟨keepsCache_of_noStore w ho, (keepsCache_of_noStore w ho).2 hw⟩

/-- Whatever moves happen around it, the probe answers an entry it may store. -/
theorem probe_safe (cpu : CpuId) (g : String) {w : World} (hw : CacheOK w) :
    Safe World.exec KeepsCache (fun w _ w' => KeepsCache w w')
      (fun r w => CacheOK w ∧ ∀ d, r = .ok d → ProbeEntry w.device.kernel g (g, d))
      (probeGovernorTunables cpu g) w := by
  have hQ : ∀ r : Except Error (Bool × List String),
      Stable KeepsCache fun w => CacheOK w ∧ ∀ d, r = .ok d → ProbeEntry w.device.kernel g (g, d) :=
    fun _ _ _ h hw => ⟨h.2 hw.1, h.1 ▸ hw.2⟩
  refine safe_op cacheOK_stable hw fun w hw => ⟨keepsCache_of_noStore w trivial, ?_⟩
  simp only [World.exec, cast_eq, Coro.done_ok_bind]
  cases h₁ : w.device.listDirectory (.governorDir cpu.index g) with
  | ok ts =>
    obtain ⟨hp, rfl⟩ := w.device.listDirectory_governorDir_ok h₁
    exact safe_done (hQ _) ⟨hw, fun d hd => .inl (by cases hd; rw [hp])⟩
  | error e =>
    dsimp only
    split
    · exact safe_done (hQ _) ⟨hw, fun _ h => by cases h⟩
    refine safe_op cacheOK_stable hw fun w hw => ⟨keepsCache_of_noStore w trivial, ?_⟩
    simp only [World.exec, cast_eq, Coro.done_ok_bind]
    cases h₂ : w.device.listDirectory (.globalGovernorDir g) with
    | ok ts =>
      obtain ⟨hp, rfl⟩ := w.device.listDirectory_globalGovernorDir_ok h₂
      exact safe_done (hQ _) ⟨hw, fun d hd => .inl (by cases hd; rw [hp])⟩
    | error e =>
      dsimp only
      split
      · exact safe_done (hQ _) ⟨hw, fun _ h => by cases h⟩
      · exact safe_done (hQ _) ⟨hw, fun d hd => .inr (by cases hd; rfl)⟩
/-- `_list_governor_tunables` stores only what its probe answered, and answers
an entry the probe of the governor it was given can produce. -/
theorem listGovernorTunables_safe (cpu : CpuId) (governor : Option String) {w : World}
    (hw : CacheOK w) :
    Safe World.exec KeepsCache (fun w _ w' => KeepsCache w w')
      (fun r w => CacheOK w ∧
        ∀ d, r = .ok d → ProbeEntry w.device.kernel d.1 d ∧ ∀ g ∈ governor, d.1 = g)
      (_listGovernorTunables cpu governor) w := by
  have hQ : ∀ r : Except Error TunableInfo, Stable KeepsCache fun w => CacheOK w ∧
      ∀ d, r = .ok d → ProbeEntry w.device.kernel d.1 d ∧ ∀ g ∈ governor, d.1 = g :=
    fun _ _ _ h hw => ⟨h.2 hw.1, h.1 ▸ hw.2⟩
  have hname : Safe World.exec KeepsCache (fun w _ w' => KeepsCache w w')
      (fun r w => CacheOK w ∧ ∀ g', r = .ok g' → ∀ g ∈ governor, g' = g)
      (match governor with
        | some g => pure g
        | none => getGovernor cpu) w := by
    cases governor with
    | some g =>
      exact safe_done (fun _ _ h hw => ⟨h.2 hw.1, hw.2⟩)
        ⟨hw, fun _ h _ hg => by cases h; exact Option.some_inj.mp hg⟩
    | none =>
      exact (cacheSafe_of_opsIn (opsIn_readValue trivial) w hw).mono (fun _ _ _ h => h)
        fun _ _ h => ⟨h, fun _ _ _ hg => by cases hg⟩
  refine safe_bind hname (fun g' w hw => ?_) fun _ _ h => ⟨h.1, fun _ h' => by cases h'⟩
  split
  · exact safe_done (hQ _) ⟨hw.1, fun _ h => by cases h⟩
  refine safe_op cacheOK_stable hw.1 fun w' hw' => ⟨keepsCache_of_noStore w' trivial, ?_⟩
  simp only [World.exec, Coro.done_ok_bind]
  cases hc : w'.cache g' with
  | some d =>
    refine safe_done (hQ _) ⟨hw', fun d' h => ?_⟩
    cases h
    rcases hw' g' d hc with rfl | rfl <;>
      exact ⟨by simp [ProbeEntry], fun g hg => hw.2 g' rfl g hg⟩
  | none =>
    refine safe_bind (probe_safe cpu g' hw') (fun pr w hw'' => ?_) fun _ _ h => ⟨h.1, fun _ h' => by cases h'⟩
    have hP : Stable KeepsCache fun w => CacheOK w ∧ ProbeEntry w.device.kernel g' (g', pr) :=
      fun _ _ h hw => ⟨h.2 hw.1, h.1 ▸ hw.2⟩
    refine safe_op hP ⟨hw''.1, hw''.2 pr rfl⟩ fun w hw'' => ?_
    have hput := cacheOK_put hw''.1 hw''.2
    exact ⟨⟨World.exec_kernel w _, fun _ => hput⟩,
      safe_done (hQ _) ⟨hput, fun d h => by
        cases h; exact ⟨by simpa using hw''.2, fun g hg => hw.2 g' rfl g hg⟩⟩⟩

/-- One CPU on the per-policy layout, running `ondemand`, with `conservative`
available and tunable by `freq_step`. -/
def probeFirstWorld : World where
  device :=
    { kernel := Kernel.ofGroups 1 (fun _ => 0) "ondemand conservative" true
        (fun g => if g = "conservative" then ["freq_step"] else []) fun _ _ => true
      governor := fun _ => "ondemand"
      policyValue := fun _ _ => "0"
      globalValue := fun _ _ => "0"
      curFreq := fun _ => 0 }
  cache _ := none

/-- `set_governor_tunables(0, 'conservative', freq_step='10')` while `ondemand`
runs, then `set_governor(0, 'conservative')`. -/
def probeFirstCalls : World :=
  ((setGovernor (.num 0) "conservative" []).run World.exec
    ((setGovernorTunables (.num 0) (some "conservative") none [("freq_step", "10")]).run
      World.exec probeFirstWorld).2).2

/-- Probing `conservative` before it runs caches it with no tunables, and the
entry outlives its activation: once `conservative` runs on CPU 0, whose per-CPU
directory lists `freq_step`, `list_governor_tunables(0)` answers `[]`,
`get_governor_tunables(0)` answers `{}`, and `set_governor_tunables` rejects
`freq_step` again. -/
theorem tunables_cached_before_activation :
    ((setGovernorTunables (.num 0) (some "conservative") none [("freq_step", "10")]).run
        World.exec probeFirstWorld).1 =
      .error (.targetStable (unexpectedTunable "freq_step" "conservative" (.num 0) [])) ∧
    probeFirstCalls.device.governor 0 = "conservative" ∧
    ((probeGovernorTunables (.num 0) "conservative").run World.exec probeFirstCalls).1 =
      .ok (true, ["freq_step"]) ∧
    ((listGovernorTunables (.num 0)).run World.exec probeFirstCalls).1 = .ok [] ∧
    ((getGovernorTunables (.num 0)).run World.exec probeFirstCalls).1 = .ok [] ∧
    ((setGovernorTunables (.num 0) (some "conservative") none [("freq_step", "10")]).run
        World.exec probeFirstCalls).1 =
      .error (.targetStable (unexpectedTunable "freq_step" "conservative" (.num 0) [])) :=
  ⟨rfl, rfl, rfl, rfl, rfl, rfl⟩

end Devlib.Cpufreq

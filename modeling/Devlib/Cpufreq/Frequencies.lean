import Devlib.Cpufreq.Module

/-!
# Frequency tables

What `list_frequencies` returns. From `scaling_available_frequencies` it
returns the listed integers in ascending order. Its fallback pairs the split
text of `stats/time_in_state` with itself: `zip(out_iter, out_iter)` over a
list (not an iterator) pairs every token with itself, so every token, time
columns included, becomes a frequency.
-/

namespace Devlib.Cpufreq

open Devlib.Async Devlib.Target Devlib.Text

/-- `parseInts` returns the integers when every token is one, touching nothing. -/
theorem run_parseInts (w : World) {toks : List String} {xs : List ℤ}
    (h : List.Forall₂ (fun t x => parseInt t = some x) toks xs) :
    (parseInts toks).run World.exec w = (.ok xs, w) := by
  induction h with
  | nil => rfl
  | cons hx _ ih => simp only [parseInts, hx, Coro.bind_eq, Coro.run_bind, ih, Coro.pure_eq, Coro.run_done]

/-- `[f for f, _ in zip(out_iter, out_iter)]` over a list is the list itself. -/
theorem zip_self_map_fst {α : Type} (l : List α) : (l.zip l).map Prod.fst = l := by
  induction l with
  | nil => rfl
  | cons a l ih => simp [ih]

/-- With `scaling_available_frequencies` present, `list_frequencies` returns its
integers sorted ascending. -/
theorem listFrequencies_of_available (w : World) (cpu : CpuId) {p : ℕ} {text : String}
    {xs : List ℤ} (hp : w.device.kernel.policyOf cpu.index = some p)
    (ht : w.device.kernel.availableFrequencies p = some text)
    (hxs : List.Forall₂ (fun t x => parseInt t = some x) (split text) xs) :
    (listFrequencies cpu).run World.exec w = (.ok (sorted xs), w) := by
  simp only [listFrequencies, attempt, Coro.bind_eq, Coro.op_bind, Coro.run_op, World.exec,
    Device.cat, hp, Option.some_bind, ht, cast_eq, Coro.done_ok_bind, Coro.run_bind,
    run_parseInts w hxs, Coro.pure_eq, Coro.run_done]

/-- Without it, `list_frequencies` returns every integer of `stats/time_in_state`
sorted, time columns included. -/
theorem listFrequencies_of_timeInState (w : World) (cpu : CpuId) {p : ℕ} {text : String}
    {xs : List ℤ} (hp : w.device.kernel.policyOf cpu.index = some p)
    (ha : w.device.kernel.availableFrequencies p = none)
    (ht : w.device.kernel.timeInState p = some text)
    (hxs : List.Forall₂ (fun t x => parseInt t = some x) (split text) xs) :
    (listFrequencies cpu).run World.exec w = (.ok (sorted xs), w) := by
  have hrev := List.forall₂_reverse_iff.mpr hxs
  have hsort : sorted xs.reverse = sorted xs :=
    sorted_eq_of_perm ((List.reverse_perm xs).trans (sorted_perm xs).symm) (sorted_sorted xs)
  simp only [listFrequencies, timeInStateFrequencies, attempt, Coro.bind_eq, Coro.op_bind,
    Coro.run_op, World.exec, Device.cat, hp, Option.some_bind, ha, cast_eq, Coro.done_ok_bind,
    Error.isTargetStable, Bool.not_true, Bool.false_eq_true, ↓reduceIte, Device.read, ht,
    zip_self_map_fst, Coro.run_bind, run_parseInts w hrev, Coro.pure_eq, Coro.run_done, hsort]


/-- One CPU without `scaling_available_frequencies`, whose `time_in_state` lists
1 GHz for 50 ticks and 2 GHz for 70. -/
def timeInStateWorld : World where
  device :=
    { kernel :=
        { online := [0]
          policyOf := fun c => if c = 0 then some 0 else none
          policies := [0]
          policyOf_mem := fun c p h => by simp only at h; split at h <;> simp_all
          availableGovernors := fun _ => "userspace ondemand"
          affectedCpus := fun _ => "0"
          availableFrequencies := fun _ => none
          timeInState := fun _ => some "1000000 50\n2000000 70"
          perPolicy := true
          governorTunables := fun _ => []
          readable := fun _ _ => true
          writable := fun _ _ => true
          defaults := fun _ _ => ""
          onSwitch := fun _ _ => 1000000 }
      governor := fun _ => "ondemand"
      policyValue := fun _ _ => ""
      globalValue := fun _ _ => ""
      curFreq := fun _ => 1000000 }
  cache := fun _ => none

theorem listFrequencies_time_in_state_counts_ticks :
    ((listFrequencies (.num 0)).run World.exec timeInStateWorld).1 =
        .ok [50, 70, 1000000, 2000000] ∧
      ((getMinAvailableFrequency (.num 0)).run World.exec timeInStateWorld).1 = .ok (some 50) :=
  ⟨rfl, rfl⟩

end Devlib.Cpufreq

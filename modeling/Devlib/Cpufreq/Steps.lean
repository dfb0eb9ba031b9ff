import Devlib.Cpufreq.Cache
import Devlib.Cpufreq.UseGovernor

/-!
# One step of a task of `use_governor`

The facts about single operations that the phase specifications share: which
writes happen in governor order, and how a task that only reads keeps a cache
specification under any environment that keeps the cache law.
-/

namespace Devlib.Cpufreq

open Devlib.Async Devlib.Target Relation

/-- A tunable write of governor `g` while `g` runs where it is written (on the
CPU's policy, or on some policy for the global directory), and a
`scaling_setspeed` write while `userspace` runs on the CPU's policy. -/
def WriteInOrder (d : Device) : Op → Prop
  | .writeValue (.governorTunable c g _) _ _ => ∃ p, d.kernel.policyOf c = some p ∧ d.governor p = g
  | .writeValue (.globalGovernorTunable g _) _ _ => d.Running g
  | .writeValue (.scalingSetspeed c) _ _ =>
    ∃ p, d.kernel.policyOf c = some p ∧ d.governor p = "userspace"
  | _ => True

theorem writeInOrder_of_readOnly {d : Device} {o : Op} (ho : ReadOnly o) : WriteInOrder d o := by
  cases o with
  | writeValue => exact (ho trivial).elim
  | _ => trivial

/-- A tunable file of `g` read through `c` is written in order while `g` runs on `c`'s policy. -/
theorem writeInOrder_tunablePath {d : Device} {c : CpuId} {p : ℕ} {g : String}
    (hp : d.kernel.policyOf c.index = some p) (hg : d.governor p = g) (pc : Bool) (t : String)
    (v : PyVal) (verify : Bool) : WriteInOrder d (.writeValue (tunablePath c g pc t) v verify) := by
  cases pc
  · exact ⟨p, d.kernel.policyOf_mem _ _ hp, hg⟩
  · exact ⟨p, hp, hg⟩

/-- A task's cache specification, together with what its operations are. -/
theorem safe_withOps {α : Type} {R : World → World → Prop} {P : Op → Prop}
    {Q : Except Error α → World → Prop} {t : Asyn α} {w : World}
    (hQ : Safe World.exec R (fun w _ w' => KeepsCache w w') Q t w) (ht : Coro.OpsIn P t) :
    Safe World.exec R (fun w o w' => KeepsCache w w' ∧ P o) Q t w :=
  (hQ.and (safe_of_opsIn (G := fun _ o _ => P o) (I := fun _ => True) (fun _ _ _ _ => trivial)
    (fun _ _ _ ho => ⟨ho, trivial⟩) ht trivial)).mono (fun _ _ _ h => h) fun _ _ h => h.1

/-- A task that only reads keeps its cache specification under any environment
that keeps the cache law, together with a stable invariant of the device, and
none of its steps changes a file. -/
theorem safe_readOnly {α : Type} {R : World → World → Prop} (hR : ∀ w w', R w w' → KeepsCache w w')
    {I : World → Prop} (hI : Stable R I) (hIdev : ∀ w w', w'.device = w.device → I w → I w')
    {Q : Except Error α → World → Prop} {t : Asyn α} {w : World}
    (hQ : Safe World.exec KeepsCache (fun w _ w' => KeepsCache w w') Q t w)
    (ht : Coro.OpsIn ReadOnly t) (hw : I w) :
    Safe World.exec R (fun w o w' => KeepsCache w w' ∧ WriteInOrder w.device o ∧ w'.device = w.device)
      (fun r w => Q r w ∧ I w) t w :=
  ((hQ.of_rely hR).and (safe_of_opsIn (G := fun w o w' => WriteInOrder w.device o ∧ w'.device = w.device)
    hI (fun w _ hw ho => have hd := World.exec_device_of_not_write w ho
      ⟨⟨writeInOrder_of_readOnly ho, hd⟩, hIdev _ _ hd hw⟩) ht hw)).mono (fun _ _ _ h => ⟨h.1, h.2⟩)
    fun _ _ h => h

end Devlib.Cpufreq

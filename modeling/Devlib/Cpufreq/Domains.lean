import Mathlib.Data.Finset.Max
import Mathlib.Data.List.Pairwise

/-!
# Frequency domains

`iter_domains` starts from the set of all CPUs and, while it is not empty,
takes the CPU `next(iter(cpus))` returns, yields its related CPUs and removes
them. When `related_cpus` maps every CPU to its class, the yielded domains
partition the CPUs, however the set iteration picks.

## Implementation notes

The pick is any function of the working set that returns one of its members.
The working set shrinks strictly at every turn, so no set comes back within
one run and a function of the set can make every sequence of choices.
`get_related_cpus` is memoized over files that do not change, so it is the
function `related`. The loop runs at most `fuel` turns; `none` means it has
not ended within them.
-/

namespace Devlib.Cpufreq

variable (related : ℕ → List ℕ) (pick : Finset ℕ → ℕ)

/-- The first `fuel` turns of the `while cpus:` loop of `iter_domains`. -/
def iterDomainsLoop : ℕ → Finset ℕ → Option (List (List ℕ))
  | fuel, cpus =>
    if cpus = ∅ then some [] else
    match fuel with
    | 0 => none
    | fuel + 1 =>
      let domain := related (pick cpus)
      (iterDomainsLoop fuel (cpus \ domain.toFinset)).map (domain :: ·)

/-- `iter_domains` on `number_of_cpus` CPUs, given as many turns as there are CPUs. -/
def iterDomains (numberOfCpus : ℕ) : Option (List (List ℕ)) :=
  iterDomainsLoop related pick numberOfCpus (Finset.range numberOfCpus)

/-- `related` maps every CPU of `U` to its class within `U`. -/
structure IsClassMap (U : Finset ℕ) : Prop where
  mem_self : ∀ c ∈ U, c ∈ related c
  subset : ∀ c ∈ U, ∀ d ∈ related c, d ∈ U
  eq_of_mem : ∀ c ∈ U, ∀ d ∈ related c, (related d).toFinset = (related c).toFinset

/-- A working set that contains the class of each of its members. -/
def Saturated (s : Finset ℕ) : Prop := ∀ c ∈ s, (related c).toFinset ⊆ s

variable {related pick}

theorem iterDomainsLoop_empty (fuel : ℕ) : iterDomainsLoop related pick fuel ∅ = some [] := by
  cases fuel <;> simp [iterDomainsLoop]

theorem iterDomainsLoop_succ {fuel : ℕ} {s : Finset ℕ} (hs : s.Nonempty) :
    iterDomainsLoop related pick (fuel + 1) s =
      (iterDomainsLoop related pick fuel (s \ (related (pick s)).toFinset)).map
        (related (pick s) :: ·) := by
  rw [iterDomainsLoop, if_neg hs.ne_empty]

/-- Removing the class of a member keeps a saturated set saturated. -/
theorem Saturated.sdiff {U s : Finset ℕ} (hR : IsClassMap related U) (hU : s ⊆ U)
    (hs : Saturated related s) {c : ℕ} (hc : c ∈ s) :
    Saturated related (s \ (related c).toFinset) := by
  intro x hx y hy
  have hxs := (Finset.mem_sdiff.mp hx).1
  refine Finset.mem_sdiff.mpr ⟨hs x hxs hy, fun hyc => (Finset.mem_sdiff.mp hx).2 ?_⟩
  have hyx : (related y).toFinset = (related x).toFinset :=
    hR.eq_of_mem x (hU hxs) y (List.mem_toFinset.mp hy)
  have hyc' : (related y).toFinset = (related c).toFinset :=
    hR.eq_of_mem c (hU hc) y (List.mem_toFinset.mp hyc)
  rw [← hyc', hyx]
  exact List.mem_toFinset.mpr (hR.mem_self x (hU hxs))

/-- The loop partitions any saturated working set into classes, within as many
turns as the set has members. -/
theorem iterDomainsLoop_partition {U : Finset ℕ} (hR : IsClassMap related U)
    (hpick : ∀ s : Finset ℕ, s.Nonempty → pick s ∈ s) :
    ∀ (fuel : ℕ) (s : Finset ℕ), s ⊆ U → Saturated related s → s.card ≤ fuel →
      ∃ ds, iterDomainsLoop related pick fuel s = some ds ∧ ds.length ≤ s.card ∧
        (∀ d ∈ ds, ∃ c ∈ s, d = related c) ∧ ds.Pairwise List.Disjoint ∧
        ∀ x, x ∈ s ↔ ∃ d ∈ ds, x ∈ d
  | fuel, s, hU, hs, hcard => by
    rcases s.eq_empty_or_nonempty with rfl | hne
    · exact ⟨[], iterDomainsLoop_empty fuel, by simp, by simp, .nil, by simp⟩
    obtain ⟨fuel, rfl⟩ : ∃ f, fuel = f + 1 :=
      Nat.exists_eq_add_one.mpr (lt_of_lt_of_le (Finset.card_pos.mpr hne) hcard)
    set c := pick s with hcdef
    have hc : c ∈ s := hpick s hne
    have hD : (related c).toFinset ⊆ s := hs c hc
    have hcD : c ∈ (related c).toFinset := List.mem_toFinset.mpr (hR.mem_self c (hU hc))
    have hlt : (s \ (related c).toFinset).card < s.card :=
      Finset.card_lt_card (Finset.sdiff_ssubset hD ⟨c, hcD⟩)
    obtain ⟨ds, hrun, hlen, hcls, hdisj, hcov⟩ :=
      iterDomainsLoop_partition hR hpick fuel (s \ (related c).toFinset)
        ((Finset.sdiff_subset).trans hU) (hs.sdiff hR hU hc) (by omega)
    refine ⟨related c :: ds, by rw [iterDomainsLoop_succ hne, hrun]; rfl, by simp; omega, ?_, ?_, ?_⟩
    · intro d hd
      rcases List.mem_cons.mp hd with rfl | hd
      · exact ⟨c, hc, rfl⟩
      · obtain ⟨c', hc', rfl⟩ := hcls d hd
        exact ⟨c', (Finset.mem_sdiff.mp hc').1, rfl⟩
    · refine List.Pairwise.cons (fun d hd x hx hxd => ?_) hdisj
      exact (Finset.mem_sdiff.mp ((hcov x).mpr ⟨d, hd, hxd⟩)).2 (List.mem_toFinset.mpr hx)
    · intro x
      by_cases hx : x ∈ (related c).toFinset
      · exact ⟨fun _ => ⟨related c, List.mem_cons_self _ _, List.mem_toFinset.mp hx⟩,
          fun _ => hD hx⟩
      · have := hcov x
        simp only [Finset.mem_sdiff, hx, not_false_eq_true, and_true] at this
        rw [this, List.exists_mem_cons_iff]
        exact ⟨Or.inr, fun h => h.resolve_left fun h' => hx (List.mem_toFinset.mpr h')⟩
termination_by fuel => fuel

/-- In pairwise disjoint lists a value lies in at most one of them. -/
theorem countP_mem_le_one {ds : List (List ℕ)} (h : ds.Pairwise List.Disjoint) (x : ℕ) :
    ds.countP (fun d => x ∈ d) ≤ 1 := by
  induction h with
  | nil => simp
  | @cons d ds hd _ ih =>
    by_cases hx : x ∈ d
    · rw [List.countP_cons_of_pos _ _ (by simpa using hx), List.countP_eq_zero.mpr]
      exact fun d' hd' hxd' => hd d' hd' hx (by simpa using hxd')
    · rwa [List.countP_cons_of_neg _ _ (by simpa using hx)]

/-- `iter_domains` ends within `n` yields, whatever the pick, and yields classes that
partition the CPUs: pairwise disjoint, covering, and each CPU in exactly one. -/
theorem iterDomains_partition (n : ℕ) (hR : IsClassMap related (Finset.range n))
    (hpick : ∀ s : Finset ℕ, s.Nonempty → pick s ∈ s) :
    ∃ ds, iterDomains related pick n = some ds ∧ ds.length ≤ n ∧
      (∀ d ∈ ds, ∃ c < n, d = related c) ∧ ds.Pairwise List.Disjoint ∧
      (∀ x, x < n ↔ ∃ d ∈ ds, x ∈ d) ∧ ∀ x < n, ds.countP (fun d => x ∈ d) = 1 := by
  obtain ⟨ds, hrun, hlen, hcls, hdisj, hcov⟩ :=
    iterDomainsLoop_partition hR hpick n (Finset.range n) le_rfl
      (fun c hc d hd => hR.subset c hc d (List.mem_toFinset.mp hd)) (by simp)
  refine ⟨ds, hrun, by simpa using hlen, fun d hd => ?_, hdisj, fun x => by simpa using hcov x, ?_⟩
  · obtain ⟨c, hc, rfl⟩ := hcls d hd
    exact ⟨c, Finset.mem_range.mp hc, rfl⟩
  · intro x hx
    obtain ⟨d, hd, hxd⟩ := (hcov x).mp (Finset.mem_range.mpr hx)
    have hpos : 0 < ds.countP (fun d => x ∈ d) := List.countP_pos_iff.mpr ⟨d, hd, by simpa using hxd⟩
    have := countP_mem_le_one hdisj x
    omega

/-- Two clusters of two CPUs each. -/
def twoClusters (c : ℕ) : List ℕ := if c < 2 then [0, 1] else [2, 3]

/-- A pick that always takes the smallest remaining CPU. -/
def pickLowest (s : Finset ℕ) : ℕ := if h : s.Nonempty then s.min' h else 0

theorem iterDomains_two_clusters :
    IsClassMap twoClusters (Finset.range 4) ∧ (∀ s : Finset ℕ, s.Nonempty → pickLowest s ∈ s) ∧
      ∃ ds, iterDomains twoClusters pickLowest 4 = some ds ∧ ds.length ≤ 4 ∧
        (∀ d ∈ ds, ∃ c < 4, d = twoClusters c) ∧ ds.Pairwise List.Disjoint ∧
        (∀ x, x < 4 ↔ ∃ d ∈ ds, x ∈ d) ∧ ∀ x < 4, ds.countP (fun d => x ∈ d) = 1 :=
  have hR : IsClassMap twoClusters (Finset.range 4) := ⟨by decide, by decide, by decide⟩
  have hpick : ∀ s : Finset ℕ, s.Nonempty → pickLowest s ∈ s := fun s hs => by
    simp only [pickLowest, hs, dite_true, Finset.min'_mem]
  ⟨hR, hpick, iterDomains_partition 4 hR hpick⟩

end Devlib.Cpufreq

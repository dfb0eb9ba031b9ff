import Devlib.Sched.Target
import Mathlib.Data.List.Sort

/-!
# `Platform`

What a `Platform` knows of its board: the names of its cores, the cluster of
each core, the big and the little core of a big.LITTLE board, and its model.
`update_from_target` fills in what the constructor was not given from the
target, and `_validate` checks the result.

## Implementation notes

Core names are `caseless_string`s, as `cpuinfo.cpu_names` makes them; that
class is not among the sources, and compares names by their lower case
(`caseless`, taken on ASCII letters). The order in which `', '.join(set(...))`
lists the names of `_validate`'s third message depends on string hashing; the
model lists them in order of first appearance. `modules` and the logger are
left out: no modelled method reads them.
-/

namespace Devlib

open Devlib.Text
open Devlib.Sched (Error)

/-- What a `Platform` holds. -/
structure Platform where
  name : Option String
  coreNames : List String
  coreClusters : List ℤ
  bigCore : Option String
  littleCore : Option String
  model : Option String

namespace Platform

/-- `BIG_CPUS`. -/
def bigCpus : List String := ["A15", "A57", "A72", "A73"]

/-- The key `caseless_string` compares by. -/
def caseless (s : String) : String := lower s

/-- Python's truth value of an optional string. -/
def truthy : Option String → Bool
  | some s => s ≠ ""
  | none => false

/-! ## Clusters from names -/

/-- One iteration of the loop of `_set_core_clusters_from_core_names`: the
distinct names met so far, and the clusters given so far. -/
def clusterStep (st : List String × List ℤ) (cn : String) : List String × List ℤ :=
  let clusters := if st.1.any (fun c => caseless c == caseless cn) then st.1 else st.1 ++ [cn]
  (clusters, st.2 ++ [((clusters.findIdx fun c => caseless c == caseless cn : ℕ) : ℤ)])

/-- The clusters `_set_core_clusters_from_core_names` gives the names. -/
def clustersOf (coreNames : List String) : List ℤ := (coreNames.foldl clusterStep ([], [])).2

/-- `number_of_clusters`: `len(set(core_clusters))`. -/
def numberOfClusters (p : Platform) : ℕ := p.coreClusters.dedup.length

/-- `_set_core_clusters_from_core_names`. -/
def setCoreClustersFromCoreNames (p : Platform) : Platform := { p with coreClusters := clustersOf p.coreNames }

/-- `Platform(name, core_names, core_clusters, big_core, model)`; an omitted
list is empty. -/
def init (name : Option String) (coreNames : List String) (coreClusters : List ℤ)
    (bigCore model : Option String) : Platform :=
  let p : Platform := { name, coreNames, coreClusters, bigCore, littleCore := none, model }
  if p.coreClusters = [] ∧ p.coreNames ≠ [] then p.setCoreClustersFromCoreNames else p

/-! ### The loop keeps the names it met, each once -/

/-- What the loop keeps after the names `done`: the distinct names met, each
once, and each core's cluster is the position of its name among them. -/
structure ClustersInv (done : List String) (st : List String × List ℤ) : Prop where
  nodup : (st.1.map caseless).Nodup
  mem : ∀ x, x ∈ st.1.map caseless ↔ x ∈ done.map caseless
  clusters : st.2 = done.map fun n => ((st.1.findIdx fun c => caseless c == caseless n : ℕ) : ℤ)

theorem findIdx_lt_of_mem {reps : List String} {n : String} (h : caseless n ∈ reps.map caseless) :
    reps.findIdx (fun c => caseless c == caseless n) < reps.length := by
  obtain ⟨c, hc, hcn⟩ := List.mem_map.mp h
  exact List.findIdx_lt_length_of_exists ⟨c, hc, by simp [hcn]⟩

theorem clustersInv_step {done : List String} {st : List String × List ℤ} (h : ClustersInv done st)
    (cn : String) : ClustersInv (done ++ [cn]) (clusterStep st cn) := by
  have hmem : ∀ x, x ∈ (done ++ [cn]).map caseless ↔ x ∈ done.map caseless ∨ x = caseless cn := by
    simp [or_comm]
  by_cases hany : st.1.any (fun c => caseless c == caseless cn)
  · have hcn : caseless cn ∈ st.1.map caseless := by
      obtain ⟨c, hc, hcn⟩ := List.any_eq_true.mp hany
      exact List.mem_map.mpr ⟨c, hc, by simpa using hcn⟩
    refine ⟨by simpa [clusterStep, hany] using h.nodup, fun x => ?_, ?_⟩
    · simp only [clusterStep, hany, if_true, h.mem, hmem]
      exact ⟨.inl, fun hx => hx.elim id fun hx => hx ▸ (h.mem _).mp hcn⟩
    · simp [clusterStep, hany, h.clusters]
  · have hcn : caseless cn ∉ st.1.map caseless := fun hc => hany (by
      obtain ⟨c, hc, hcn⟩ := List.mem_map.mp hc
      exact List.any_eq_true.mpr ⟨c, hc, by simp [hcn]⟩)
    have hold : ∀ n ∈ done, (st.1 ++ [cn]).findIdx (fun c => caseless c == caseless n) =
        st.1.findIdx (fun c => caseless c == caseless n) := fun n hn => by
      rw [List.findIdx_append, if_pos (findIdx_lt_of_mem ((h.mem _).mpr (List.mem_map_of_mem _ hn)))]
    refine ⟨?_, fun x => ?_, ?_⟩
    · simp only [clusterStep, hany, if_false, Bool.false_eq_true, List.map_append, List.map_singleton]
      exact List.nodup_append.mpr ⟨h.nodup, List.nodup_singleton _, List.disjoint_singleton.mpr hcn⟩
    · simp [clusterStep, hany, h.mem, hmem]
    · simp only [clusterStep, hany, if_false, Bool.false_eq_true, h.clusters, List.map_append, List.map_singleton]
      exact congrArg (· ++ _) (List.map_congr_left fun n hn => by rw [hold n hn])

theorem clustersInv_foldl (names : List String) :
    ∀ {done : List String} {st : List String × List ℤ}, ClustersInv done st →
      ClustersInv (done ++ names) (names.foldl clusterStep st) := by
  induction names with
  | nil => intro done st h; simpa using h
  | cons cn names ih =>
    intro done st h
    simpa using ih (clustersInv_step h cn)

/-- The distinct names the loop ends with. -/
theorem clustersInv_clustersOf (names : List String) :
    ClustersInv names (names.foldl clusterStep ([], [])) :=
  @clustersInv_foldl names [] _ ⟨List.nodup_nil, by simp, rfl⟩

/-- Two names get one cluster exactly when they are equal. -/
theorem findIdx_eq_iff {reps : List String} {n m : String} (hn : caseless n ∈ reps.map caseless)
    (hm : caseless m ∈ reps.map caseless) :
    reps.findIdx (fun c => caseless c == caseless n) = reps.findIdx (fun c => caseless c == caseless m) ↔
      caseless n = caseless m := by
  refine ⟨fun h => ?_, fun h => by rw [h]⟩
  have hn' := List.findIdx_getElem (w := findIdx_lt_of_mem hn)
  have hm' := List.findIdx_getElem (w := findIdx_lt_of_mem hm)
  simp only [h, beq_iff_eq] at hn' hm'
  exact hn'.symm.trans hm'

/-- The clusters of the names: one per core, two cores sharing one exactly
when their names are equal, as many as there are distinct names. -/
theorem clustersOf_spec (names : List String) :
    (clustersOf names).length = names.length ∧
      (∀ i j : ℕ, (clustersOf names)[i]? = (clustersOf names)[j]? ↔ names[i]?.map caseless = names[j]?.map caseless) ∧
      (clustersOf names).dedup.length = (names.map caseless).dedup.length := by
  have h := clustersInv_clustersOf names
  have hc : clustersOf names = (names.foldl clusterStep ([], [])).2 := rfl
  generalize names.foldl clusterStep ([], []) = st at h hc
  obtain ⟨reps, cl⟩ := st
  rw [show cl = _ from h.clusters] at hc
  have hmem : ∀ n ∈ names, caseless n ∈ reps.map caseless := fun n hn =>
    (h.mem _).mpr (List.mem_map_of_mem _ hn)
  refine ⟨by rw [hc, List.length_map], fun i j => ?_, ?_⟩
  · rw [hc, List.getElem?_map, List.getElem?_map]
    cases hi : names[i]? <;> cases hj : names[j]? <;> simp only [Option.map_none', Option.map_some',
      Option.some.injEq, Int.ofNat_inj, reduceCtorEq, iff_self]
    exact findIdx_eq_iff (hmem _ (List.getElem?_mem hi)) (hmem _ (List.getElem?_mem hj))
  · have hrange : (clustersOf names).dedup.Perm ((List.range reps.length).map ((↑) : ℕ → ℤ)) := by
      refine (List.perm_ext_iff_of_nodup (List.nodup_dedup _)
        ((List.nodup_range _).map fun _ _ => Int.ofNat_inj.mp)).mpr fun c => ?_
      rw [List.mem_dedup, hc, List.mem_map, List.mem_map]
      constructor
      · rintro ⟨n, hn, rfl⟩
        exact ⟨_, List.mem_range.mpr (findIdx_lt_of_mem (hmem n hn)), rfl⟩
      · rintro ⟨k, hk, rfl⟩
        have hk := List.mem_range.mp hk
        obtain ⟨n, hn, hnk⟩ := List.mem_map.mp ((h.mem _).mp (List.mem_map_of_mem caseless (List.getElem_mem hk)))
        refine ⟨n, hn, congrArg _ ((List.findIdx_eq hk).mpr ⟨by simp [hnk], fun k' hk' => ?_⟩)⟩
        have hk'l : k' < (reps.map caseless).length := by simp; omega
        have hkl : k < (reps.map caseless).length := by simpa using hk
        have hne : (reps.map caseless)[k'] ≠ (reps.map caseless)[k] :=
          fun he => (Nat.ne_of_lt hk') ((h.nodup.getElem_inj_iff).mp he)
        simpa [hnk] using hne
    have hkeys : (reps.map caseless).Perm (names.map caseless).dedup :=
      (List.perm_ext_iff_of_nodup h.nodup (List.nodup_dedup _)).mpr fun x => (h.mem x).trans List.mem_dedup.symm
    rw [hrange.length_eq, List.length_map, List.length_range, ← hkeys.length_eq, List.length_map]

theorem init_coreClusters (name : Option String) (names : List String) (bigCore model : Option String) :
    (init name names [] bigCore model).coreClusters = clustersOf names := by
  by_cases hn : names = []
  · subst hn
    rfl
  · simp [init, hn, setCoreClustersFromCoreNames]

/-- `Platform(core_names=names)` without `core_clusters`: one cluster per core,
two cores share a cluster exactly when their names are equal ignoring case,
and `number_of_clusters` counts the distinct names. -/
theorem init_clusters (name : Option String) (names : List String) (bigCore model : Option String) :
    (init name names [] bigCore model).coreClusters.length = names.length ∧
      (∀ i j : ℕ, (init name names [] bigCore model).coreClusters[i]? =
          (init name names [] bigCore model).coreClusters[j]? ↔
        names[i]?.map caseless = names[j]?.map caseless) ∧
      (init name names [] bigCore model).numberOfClusters = (names.map caseless).dedup.length := by
  rw [numberOfClusters, init_coreClusters]
  exact clustersOf_spec names

/-! ## `update_from_target` -/

/-- What `update_from_target` reads of a target. -/
structure Target where
  os : String
  /-- `cpuinfo.cpu_names`. -/
  cpuNames : List String
  fileExists : String → Bool
  /-- `execute(command)`: its output, or what it raises. -/
  execute : String → Except Error String
  isRooted : Bool
  /-- `getprop(prop)` of an `AndroidTarget`. -/
  getprop : String → Except Error String

/-- `_identify_big_core`: the first core with a big core's name, else the first
core of the highest cluster. -/
def identifyBigCore (p : Platform) : Except Error String :=
  match p.coreNames.find? fun core => upper core ∈ bigCpus with
  | some core => .ok core
  | none =>
    match p.coreClusters.max? with
    | none => .error (.valueError "max() arg is an empty sequence")
    | some m =>
      match p.coreNames.get? (p.coreClusters.indexOf m) with
      | some core => .ok core
      | none => .error (.indexError "list index out of range")

/-- The distinct core names, in order of first appearance, for the message of
`_validate`. -/
def distinctNames (coreNames : List String) : List String := (coreNames.foldl clusterStep ([], [])).1

/-- `_validate`, which also sets `little_core`: the first core whose name is not
the big core's. -/
def validate (p : Platform) : Except Error Platform := do
  if p.coreNames.length ≠ p.coreClusters.length then
    throw (.valueError "core_names and core_clusters are of different lengths.")
  let big := p.bigCore.getD ""
  if truthy p.bigCore && p.numberOfClusters != 2 then
    throw (.valueError ("attempting to set big_core on non-big.LITTLE device. " ++
      "(number of clusters  is not 2)"))
  if truthy p.bigCore && !(p.coreNames.any fun core => caseless core == caseless big) then
    throw (.valueError ("Invalid big_core value \"" ++ big ++ "\"; must be in [" ++
      ", ".intercalate (distinctNames p.coreNames) ++ "]"))
  if truthy p.bigCore then
    match p.coreNames.find? fun core => caseless core != caseless big with
    | some core => return { p with littleCore := some core }
    | none => return p
  return p

/-- `'_'.join(raw_model.split()[:2]).rstrip(' \t\r\n\0')`. -/
def deviceTreeModel (rawModel : String) : String :=
  ⟨(("_".intercalate ((split rawModel).take 2)).data.reverse.dropWhile
    (· ∈ [' ', '\t', '\r', '\n', '\x00'])).reverse⟩

/-- `_set_model_from_target`: the platform after it, and what it returns. The
device-tree branch returns the model it reads and leaves `model` as it is. -/
def setModelFromTarget (t : Target) (p : Platform) : Except Error (Platform × Option String) :=
  if t.os = "android" then
    match t.getprop "ro.product.device" with
    | .ok m => .ok ({ p with model := some m }, none)
    | .error (.keyError _) => (fun m => ({ p with model := some m }, none)) <$> t.getprop "ro.product.model"
    | .error e => .error e
  else if t.fileExists "/proc/device-tree/model" then
    (fun rawModel => (p, some (deviceTreeModel rawModel))) <$> t.execute "cat /proc/device-tree/model"
  else if t.isRooted then
    match t.execute "dmidecode -s system-version" with
    | .ok out => .ok ({ p with model := some (strip out) }, none)
    | .error _ => .ok (p, none)
  else .ok (p, none)

/-! The statements of `update_from_target`, one definition each. -/

/-- `if not self.core_names`: the target's names and their clusters. -/
def namesFromTarget (t : Target) (p : Platform) : Platform :=
  if p.coreNames = [] then { p with coreNames := t.cpuNames }.setCoreClustersFromCoreNames else p

/-- `if not self.big_core and self.number_of_clusters == 2`. -/
def bigCoreFromClusters (p : Platform) : Except Error Platform :=
  if !truthy p.bigCore && p.numberOfClusters == 2 then
    (fun big => { p with bigCore := some big }) <$> p.identifyBigCore
  else pure p

/-- `if not self.core_clusters and self.core_names`. -/
def clustersFromNames (p : Platform) : Platform :=
  if p.coreClusters = [] ∧ p.coreNames ≠ [] then p.setCoreClustersFromCoreNames else p

/-- `if not self.model`; what `_set_model_from_target` returns is dropped. -/
def modelFromTarget (t : Target) (p : Platform) : Except Error Platform :=
  if !truthy p.model then Prod.fst <$> setModelFromTarget t p else pure p

/-- `if not self.name`. -/
def nameFromModel (p : Platform) : Platform :=
  if !truthy p.name then { p with name := p.model } else p

/-- `update_from_target`. -/
def updateFromTarget (t : Target) (p : Platform) : Except Error Platform := do
  let p ← bigCoreFromClusters (namesFromTarget t p)
  let p ← modelFromTarget t (clustersFromNames p)
  (nameFromModel p).validate

/-! ### What each statement changes -/

theorem setModelFromTarget_ok {t : Target} {p q : Platform} {r : Option String}
    (h : setModelFromTarget t p = .ok (q, r)) : q = { p with model := q.model } := by
  unfold setModelFromTarget at h
  split_ifs at h
  · split at h
    · cases h; rfl
    · obtain ⟨m, -, he⟩ := except_map_eq_ok.mp h
      cases he; rfl
    · cases h
  · obtain ⟨m, -, he⟩ := except_map_eq_ok.mp h
    cases he; rfl
  · split at h <;> (cases h; rfl)
  · cases h; rfl

theorem validate_ok {p q : Platform} (h : p.validate = .ok q) : q = { p with littleCore := q.littleCore } := by
  simp only [validate, bind, Except.bind, pure, Except.pure] at h
  split_ifs at h
  · split at h <;> (cases h; rfl)
  · cases h; rfl

theorem validate_big {p : Platform} {big little : String} (hlen : p.coreNames.length = p.coreClusters.length)
    (hbig : p.bigCore = some big) (hne : big ≠ "") (hn : p.numberOfClusters = 2) (hmem : big ∈ p.coreNames)
    (hl : p.coreNames.find? (fun core => caseless core != caseless big) = some little) :
    p.validate = .ok { p with littleCore := some little } := by
  have hany : (p.coreNames.any fun core => caseless core == caseless big) = true :=
    List.any_eq_true.mpr ⟨big, hmem, by simp⟩
  simp [validate, hlen, hbig, truthy, hne, hn, hany, hl, bind, Except.bind, pure, Except.pure]

theorem identifyBigCore_ok {p : Platform} (hlen : p.coreNames.length = p.coreClusters.length)
    (hne : p.coreNames ≠ []) : ∃ big ∈ p.coreNames, p.identifyBigCore = .ok big := by
  unfold identifyBigCore
  cases hf : p.coreNames.find? fun core => upper core ∈ bigCpus with
  | some core => exact ⟨core, List.mem_of_find?_eq_some hf, rfl⟩
  | none =>
    obtain ⟨m, hm⟩ := Option.ne_none_iff_exists'.mp (mt List.max?_eq_none_iff.mp
      (fun h => hne (List.length_eq_zero.mp (hlen.trans (List.length_eq_zero.mpr h)))))
    have hidx : p.coreClusters.indexOf m < p.coreNames.length :=
      hlen ▸ List.indexOf_lt_length.mpr (List.max?_mem (fun a b => by omega) hm)
    have hc : p.coreNames.get? (p.coreClusters.indexOf m) = some p.coreNames[p.coreClusters.indexOf m] := by
      rw [List.get?_eq_getElem?, List.getElem?_eq_getElem hidx]
    exact ⟨_, List.getElem_mem hidx, by simp only [hm, hc]⟩

/-- Among names of two kinds, some core's name differs from any given core's. -/
theorem find?_other {names : List String} (htwo : (names.map caseless).dedup.length = 2) (big : String) :
    ∃ little, names.find? (fun core => caseless core != caseless big) = some little := by
  refine Option.ne_none_iff_exists'.mp fun h => ?_
  have hsub : (names.map caseless).dedup ⊆ [caseless big] := fun x hx => by
    obtain ⟨n, hn, rfl⟩ := List.mem_map.mp (List.mem_dedup.mp hx)
    simpa using List.find?_eq_none.mp h n hn
  have := (List.subperm_of_subset (List.nodup_dedup _) hsub).length_le
  simp [htwo] at this

theorem bigCoreFromClusters_ok {p q : Platform} (h : bigCoreFromClusters p = .ok q) :
    q = { p with bigCore := q.bigCore } := by
  unfold bigCoreFromClusters at h
  split_ifs at h
  · obtain ⟨b, -, rfl⟩ := except_map_eq_ok.mp h
    rfl
  · cases h
    rfl

/-! ### Whole calls -/

theorem updateFromTarget_bigLittle {t : Target} (htwo : (t.cpuNames.map caseless).dedup.length = 2)
    (hne : "" ∉ t.cpuNames) :
    (∀ e, updateFromTarget t (init none [] [] none none) = .error e → ∃ q, setModelFromTarget t q = .error e) ∧
      ∀ p', updateFromTarget t (init none [] [] none none) = .ok p' →
        p'.coreNames = t.cpuNames ∧ p'.coreClusters = clustersOf t.cpuNames ∧
          ∃ big little, p'.bigCore = some big ∧ p'.littleCore = some little ∧ big ∈ t.cpuNames ∧
            little ∈ t.cpuNames ∧ caseless big ≠ caseless little := by
  obtain ⟨hlen, -, hnum⟩ := clustersOf_spec t.cpuNames
  have hnames : t.cpuNames ≠ [] := by rintro h; rw [h] at htwo; cases htwo
  set p₁ : Platform := ⟨none, t.cpuNames, clustersOf t.cpuNames, none, none, none⟩
  obtain ⟨big, hbig, hid⟩ := identifyBigCore_ok (p := p₁) hlen.symm hnames
  have hup : updateFromTarget t (init none [] [] none none) =
      (Prod.fst <$> setModelFromTarget t { p₁ with bigCore := some big }) >>= fun q => (nameFromModel q).validate := by
    have h₁ : namesFromTarget t (init none [] [] none none) = p₁ := rfl
    have h₂ : bigCoreFromClusters p₁ = .ok { p₁ with bigCore := some big } := by
      simp [bigCoreFromClusters, truthy, numberOfClusters, p₁, hnum, htwo, hid]
    have hcl : clustersOf t.cpuNames ≠ [] := fun h => hnames (List.length_eq_zero.mp (hlen ▸ (List.length_eq_zero.mpr h)))
    have h₃ : clustersFromNames { p₁ with bigCore := some big } = { p₁ with bigCore := some big } := by
      simp [clustersFromNames, p₁, hcl]
    simp only [updateFromTarget, h₁, h₂, bind, Except.bind, h₃]
    rfl
  rw [hup]
  cases hm : setModelFromTarget t { p₁ with bigCore := some big } with
  | error e =>
    simp only [Functor.map, Except.map, bind, Except.bind]
    refine ⟨fun e' he => ⟨{ p₁ with bigCore := some big }, ?_⟩, fun p' h => ?_⟩
    · cases he
      exact hm
    · cases h
  | ok qr =>
    obtain ⟨q, r⟩ := qr
    obtain ⟨little, hl⟩ := find?_other htwo big
    have hn : nameFromModel q = { p₁ with bigCore := some big, model := q.model, name := q.model } := by
      rw [setModelFromTarget_ok hm]
      rfl
    have hv : (nameFromModel q).validate =
        .ok { p₁ with bigCore := some big, model := q.model, name := q.model, littleCore := some little } := by
      rw [hn]
      exact validate_big hlen.symm rfl (fun h => hne (h ▸ hbig)) (hnum.trans htwo) hbig hl
    simp only [Functor.map, Except.map, bind, Except.bind, hv]
    refine ⟨fun e he => (by cases he), fun p' hp' => ?_⟩
    cases hp'
    refine ⟨rfl, rfl, big, little, rfl, rfl, hbig, List.mem_of_find?_eq_some hl, fun h => ?_⟩
    simpa [h] using List.find?_some hl

/-- A Linux board with two Cortex-A53 and two Cortex-A72 cores, that has no
device tree model and is not rooted. -/
def junoTarget : Target where
  os := "linux"
  cpuNames := ["A53", "A53", "A72", "A72"]
  fileExists _ := false
  execute command := .error (.io command)
  isRooted := false
  getprop prop := .error (.keyError (.str prop))

theorem updateFromTarget_bigLittle_juno :
    (∀ e, updateFromTarget junoTarget (init none [] [] none none) = .error e →
        ∃ q, setModelFromTarget junoTarget q = .error e) ∧
      ∀ p', updateFromTarget junoTarget (init none [] [] none none) = .ok p' →
        p'.coreNames = junoTarget.cpuNames ∧ p'.coreClusters = clustersOf junoTarget.cpuNames ∧
          ∃ big little, p'.bigCore = some big ∧ p'.littleCore = some little ∧ big ∈ junoTarget.cpuNames ∧
            little ∈ junoTarget.cpuNames ∧ caseless big ≠ caseless little :=
  updateFromTarget_bigLittle (by decide) (by decide)

theorem updateFromTarget_deviceTree {t : Target} (hos : t.os ≠ "android")
    (hdt : t.fileExists "/proc/device-tree/model" = true) {rawModel : String}
    (hraw : t.execute "cat /proc/device-tree/model" = .ok rawModel) (p : Platform) :
    setModelFromTarget t p = .ok (p, some (deviceTreeModel rawModel)) ∧
      ∀ p', updateFromTarget t p = .ok p' → p'.model = p.model ∧ (truthy p.name = false → p'.name = p.model) := by
  have hset : ∀ q, setModelFromTarget t q = .ok (q, some (deviceTreeModel rawModel)) := fun q => by
    simp [setModelFromTarget, hos, hdt, hraw, Functor.map, Except.map]
  refine ⟨hset p, fun p' h => ?_⟩
  obtain ⟨q₁, h₁, h⟩ := except_bind_eq_ok.mp h
  obtain ⟨q₂, h₂, h⟩ := except_bind_eq_ok.mp h
  have hq₂ : q₂ = clustersFromNames q₁ := by
    unfold modelFromTarget at h₂
    split_ifs at h₂ <;> simpa [hset, Functor.map, Except.map, pure, Except.pure] using h₂.symm
  have hm : q₂.model = p.model ∧ q₂.name = p.name := by
    rw [hq₂, bigCoreFromClusters_ok h₁]
    unfold clustersFromNames namesFromTarget
    split_ifs <;> exact ⟨rfl, rfl⟩
  rw [validate_ok h]
  unfold nameFromModel
  split_ifs with hn
  · exact ⟨hm.1, fun _ => hm.1⟩
  · exact ⟨hm.1, fun hn' => by simp_all⟩

/-- `junoTarget` with the model of its device tree. -/
def deviceTreeTarget : Target :=
  { junoTarget with
    fileExists := fun path => path == "/proc/device-tree/model"
    execute := fun command => if command = "cat /proc/device-tree/model" then
      .ok "ARM Juno development board (r2)\x00" else .error (.io command) }

theorem updateFromTarget_deviceTree_juno :
    setModelFromTarget deviceTreeTarget (init none [] [] none none) =
        .ok (init none [] [] none none, some (deviceTreeModel "ARM Juno development board (r2)\x00")) ∧
      ∀ p', updateFromTarget deviceTreeTarget (init none [] [] none none) = .ok p' →
        p'.model = (init none [] [] none none).model ∧
          (truthy (init none [] [] none none).name = false → p'.name = (init none [] [] none none).model) :=
  updateFromTarget_deviceTree (by decide) rfl rfl _

end Platform

end Devlib

import Devlib.Sched.Target

/-!
# Scheduler features

`get_features` reads `sched_features` and decodes each token: a token
beginning with `NO` names a disabled feature once its first `NO_` is removed,
any other token an enabled one. `set_feature` writes `F` or `NO_F` and, with
`verify`, reads the features back and raises `RuntimeError` unless `F` reads as
asked. The kernel shows an enabled feature as its bare name, so a feature
whose own name begins with `NO` (`NONTASK_CAPACITY`) reads as disabled
whatever its state.
-/

namespace Devlib.Sched

open Devlib.Text

/-- `get_sched_features_path(target)`. -/
def getSchedFeaturesPath (t : Target) : Except Error String :=
  selectPath t ["/sys/kernel/debug/sched/features", "/sys/kernel/debug/sched_features"]
    "sched_features file"

/-- One token of `sched_features` as the loop of `get_features` reads it. -/
def decodeFeature (feat : String) : String × Bool :=
  if startswith feat "NO" then (replaceFirst feat "NO_" "", false) else (feat, true)

/-- `get_features()`: the decoded tokens, a later one for the same name winning. -/
def getFeatures (t : Target) : Except Error (List (String × Bool)) := do
  let feats ← t.readValue (← getSchedFeaturesPath t)
  return pyDict ((split feats).map decodeFeature)

/-- The check `set_feature` makes with `verify`. -/
def verifyFeature (t : Target) (feature : String) (enable : Bool) (msg : String) :
    Except Error Unit := do
  let features ← getFeatures t
  if (dictGet features feature).getD (!enable) ≠ enable then throw (.runtimeError msg)

/-- `set_feature(feature, enable, verify)`: what it raises, and the target after it. -/
def setFeature (t : Target) (feature : String) (enable verify : Bool) : Except Error Unit × Target :=
  let feature := upper feature
  let featValue := if enable then feature else "NO_" ++ feature
  match getSchedFeaturesPath t >>= fun p => t.writeValue p featValue with
  | .error e => (.error e, t)
  | .ok t' =>
    (if verify then
      verifyFeature t' feature enable ("Failed to set " ++ featValue ++ ", feature not supported?")
    else .ok (), t')

/-! ## Tokens -/

section Tokens

variable {k : SchedFeatures} {n : String}

theorem IsFeatureName.not_space (hn : IsFeatureName n) {c : Char} (hc : c ∈ n.data) :
    isSpace c = false ∧ isCSpace c = false :=
  featureChar_not_space (hn.2.1 c hc)

theorem NO_chars : ∀ c ∈ "NO_".data, c.isUpper ∨ c.isDigit ∨ c = '_' := by decide

theorem startswith_NO_append (r : String) : startswith ("NO_" ++ r) "NO" = true := rfl

theorem replaceFirst_NO_append (r : String) : replaceFirst ("NO_" ++ r) "NO_" "" = r := by
  simp only [replaceFirst, String.data_append]
  unfold replaceFirstChars
  rw [if_pos (List.isPrefixOf_iff_prefix.mpr (List.prefix_append _ _))]
  simp

/-- Every token of the kernel is a word. -/
theorem token_word (hn : IsFeatureName n) : k.token n ≠ "" ∧ ∀ c ∈ (k.token n).data, isSpace c = false := by
  refine ⟨fun h => hn.1 ?_, fun c hc => ?_⟩
  · unfold SchedFeatures.token at h
    split at h
    · simpa using h
    · simp [String.ext_iff] at h
  · unfold SchedFeatures.token at hc
    rw [String.data_append, List.mem_append] at hc
    rcases hc with hc | hc
    · split at hc
      · simp at hc
      · exact (featureChar_not_space (NO_chars c hc)).1
    · exact (hn.not_space hc).1

/-- `get_features` splits what `sched_feat_show` prints into the tokens. -/
theorem split_schedFeatShow (k : SchedFeatures) : split (strip k.schedFeatShow) = k.names.map k.token := by
  have h := @split_join_words (k.names.map k.token) fun w hw => by
    obtain ⟨n, hn, rfl⟩ := List.mem_map.mp hw
    exact token_word (k.names_feature n hn)
  simpa [SchedFeatures.schedFeatShow, Function.comp_def] using h

/-- The token of a feature whose name does not begin with `NO` decodes to the feature and its state. -/
theorem decodeFeature_token (hno : startswith n "NO" = false) :
    decodeFeature (k.token n) = (n, k.enabled n) := by
  unfold SchedFeatures.token
  cases k.enabled n
  · simp [decodeFeature, startswith_NO_append, replaceFirst_NO_append]
  · simp [decodeFeature, hno]

/-- A token read as a name beginning with `NO` is read as disabled. -/
theorem decodeFeature_snd {f : String} (h : startswith (decodeFeature f).1 "NO" = true) :
    (decodeFeature f).2 = false := by
  unfold decodeFeature at h ⊢
  split <;> simp_all

theorem replaceFirstChars_cons {old new cs : List Char} {c : Char} (h : old.isPrefixOf (c :: cs) = false) :
    replaceFirstChars old new (c :: cs) = c :: replaceFirstChars old new cs := by
  rw [replaceFirstChars, if_neg (by simp [h])]

/-- A token beginning with `NO` but not with `NO_` is read under a name beginning with `NO`. -/
theorem decodeFeature_fst_NO {f : String} (hno : startswith f "NO" = true)
    (h_ : startswith f "NO_" = false) : startswith (decodeFeature f).1 "NO" = true := by
  obtain ⟨r, hr⟩ := List.isPrefixOf_iff_prefix.mp hno
  rw [decodeFeature, if_pos hno]
  simp only [startswith, replaceFirst, ← hr] at h_ ⊢
  have h1 : ['N', 'O', '_'].isPrefixOf ('N' :: 'O' :: r) = false := h_
  have h2 : ['N', 'O', '_'].isPrefixOf ('O' :: r) = false := rfl
  show ['N', 'O'].isPrefixOf (replaceFirstChars ['N', 'O', '_'] [] ('N' :: 'O' :: r)) = true
  rw [replaceFirstChars_cons h1, replaceFirstChars_cons h2]
  simp [List.isPrefixOf]

/-- A feature whose name begins with `NO` is read under a name beginning with `NO`. -/
theorem decodeFeature_token_NO (hn : IsFeatureName n) (hno : startswith n "NO" = true) :
    startswith (decodeFeature (k.token n)).1 "NO" = true := by
  unfold SchedFeatures.token
  cases k.enabled n
  · simpa [decodeFeature, startswith_NO_append, replaceFirst_NO_append] using hno
  · simpa using decodeFeature_fst_NO hno hn.2.2

end Tokens

/-! ## Reading the features -/

theorem Target.featuresAt_eq_some {t : Target} {p : String} {k : SchedFeatures} :
    t.featuresAt p = some k ↔ t.schedFeatures = some (p, k) := by
  unfold Target.featuresAt
  split
  · split <;> simp_all [eq_comm]
  · simp_all

/-- With its features at `p`, `get_features` decodes the kernel's tokens. -/
theorem getFeatures_eq {t : Target} {p : String} {k : SchedFeatures}
    (hp : getSchedFeaturesPath t = .ok p) (hk : t.featuresAt p = some k) :
    getFeatures t = .ok (pyDict (k.names.map (decodeFeature ∘ k.token))) := by
  simp only [getFeatures, hp, Target.readValue, hk, bind, Except.bind, pure, Except.pure,
    split_schedFeatShow, List.map_map]

/-- On a kernel with no feature beginning with `NO`, `get_features` returns
every feature with its state, in kernel order. -/
theorem getFeatures_of_kernel {t : Target} {p : String} {k : SchedFeatures}
    (hp : getSchedFeaturesPath t = .ok p) (hk : t.featuresAt p = some k)
    (hno : ∀ n ∈ k.names, startswith n "NO" = false) :
    getFeatures t = .ok (k.names.map fun n => (n, k.enabled n)) := by
  have hmap : k.names.map (decodeFeature ∘ k.token) = k.names.map fun n => (n, k.enabled n) :=
    List.map_congr_left fun n hn => decodeFeature_token (hno n hn)
  rw [getFeatures_eq hp hk, hmap, pyDict_of_nodup (by simpa [Function.comp_def] using k.names_nodup)]

/-- A target whose kernel shows its features at the older debugfs path. -/
def debugfsTarget (k : SchedFeatures) : Target where
  fs := .dir []
  schedFeatures := some ("/sys/kernel/debug/sched_features", k)
  util := fun _ => .error (.io "")
  onlineCpus := [0]

/-- Two features of a 4.x kernel, one of them disabled. -/
def fairFeatures : SchedFeatures where
  names := ["GENTLE_FAIR_SLEEPERS", "TTWU_QUEUE"]
  names_nodup := by decide
  names_feature := by decide
  enabled := fun n => n = "GENTLE_FAIR_SLEEPERS"

theorem getFeatures_fair :
    getSchedFeaturesPath (debugfsTarget fairFeatures) = .ok "/sys/kernel/debug/sched_features" ∧
      (∀ n ∈ fairFeatures.names, startswith n "NO" = false) ∧
      getFeatures (debugfsTarget fairFeatures) =
        .ok [("GENTLE_FAIR_SLEEPERS", true), ("TTWU_QUEUE", false)] :=
  ⟨rfl, by decide, getFeatures_of_kernel (t := debugfsTarget fairFeatures) (k := fairFeatures) rfl rfl
    (by decide)⟩

/-! ## Setting a feature -/

section Set

variable {k : SchedFeatures} {G : String}

/-- What `set_feature` writes for a feature name. -/
theorem parseCmp_feature (hG : IsFeatureName G) (e : Bool) :
    SchedFeatures.parseCmp (strstrip (if e then G else "NO_" ++ G)) = (G, e) := by
  have hc : ∀ c ∈ (if e then G else "NO_" ++ G).data, isCSpace c = false := by
    intro c hc
    split at hc
    · exact (hG.not_space hc).2
    · rw [String.data_append, List.mem_append] at hc
      exact hc.elim (fun hc => (featureChar_not_space (NO_chars c hc)).2) fun hc => (hG.not_space hc).2
  rw [strstrip, stripWith_of_forall hc]
  cases e
  · simp [SchedFeatures.parseCmp, startswith_NO_append, String.ext_iff]
  · simp [SchedFeatures.parseCmp, hG.2.2]

/-- The kernel takes `F` or `NO_F` for a feature `F` it has. -/
theorem writeValue_feature {t : Target} {p : String} (hk : t.featuresAt p = some k) (hG : G ∈ k.names)
    (e : Bool) :
    t.writeValue p (if e then G else "NO_" ++ G) = .ok { t with schedFeatures := some (p, k.setEnabled G e) } := by
  simp [Target.writeValue, hk, SchedFeatures.schedFeatWrite, parseCmp_feature (k.names_feature G hG), hG]

/-- Writing the features changes no path's existence. -/
theorem fileExists_setFeatures {t : Target} {p : String} (hk : t.featuresAt p = some k) (k' : SchedFeatures) :
    { t with schedFeatures := some (p, k') }.fileExists = t.fileExists := by
  funext q
  by_cases h : q = p <;> simp [Target.fileExists, Target.featuresAt, Target.featuresAt_eq_some.mp hk, h]

/-- What `get_features` reads for a feature `G` of the kernel: its state,
unless its name begins with `NO`. -/
theorem getD_decoded (hG : G ∈ k.names) :
    (dictGet (pyDict (k.names.map (decodeFeature ∘ k.token))) G).getD (!k.enabled G) =
      if startswith G "NO" then false else k.enabled G := by
  have hdis : ∀ n, k.enabled n = false → decodeFeature (k.token n) = (n, false) := fun n h => by
    simp [SchedFeatures.token, h, decodeFeature, startswith_NO_append, replaceFirst_NO_append]
  have hmem : ∀ {kv}, kv ∈ k.names.map (decodeFeature ∘ k.token) ↔
      ∃ n ∈ k.names, decodeFeature (k.token n) = kv := by simp
  cases hno : startswith G "NO"
  · refine dictGet_pyDict_getD (fun v hv => ?_) (.inl ?_)
    · obtain ⟨n, hn, he⟩ := hmem.mp hv
      cases hnn : startswith n "NO"
      · rw [decodeFeature_token hnn] at he
        cases he
        rfl
      · have := decodeFeature_token_NO (k := k) (k.names_feature n hn) hnn
        rw [he] at this
        cases hno.symm.trans this
    · exact List.mem_map.mpr ⟨_, hmem.mpr ⟨G, hG, decodeFeature_token hno⟩, rfl⟩
  · refine dictGet_pyDict_getD (fun v hv => ?_) ?_
    · obtain ⟨n, -, he⟩ := hmem.mp hv
      have := decodeFeature_snd (f := k.token n) (by rw [he]; exact hno)
      rwa [he] at this
    · cases he : k.enabled G
      · exact .inl (List.mem_map.mpr ⟨_, hmem.mpr ⟨G, hG, hdis G he⟩, rfl⟩)
      · exact .inr rfl

end Set

/-- `set_feature(F, e, verify=True)` for a feature `F` of the kernel: the
kernel takes the write, and `RuntimeError` is raised exactly when `F` begins
with `NO` and `e` is true. -/
theorem setFeature_feature {t : Target} {p : String} {k : SchedFeatures}
    (hp : getSchedFeaturesPath t = .ok p) (hk : t.featuresAt p = some k) {F : String}
    (hF : upper F ∈ k.names) (e : Bool) :
    (setFeature t F e true).2.featuresAt p = some (k.setEnabled (upper F) e) ∧
      (setFeature t F e true).1 =
        if startswith (upper F) "NO" && e then
          .error (.runtimeError ("Failed to set " ++ upper F ++ ", feature not supported?"))
        else .ok () := by
  have hk' : Target.featuresAt { t with schedFeatures := some (p, k.setEnabled (upper F) e) } p =
      some (k.setEnabled (upper F) e) := by
    simp [Target.featuresAt]
  have hp' : getSchedFeaturesPath { t with schedFeatures := some (p, k.setEnabled (upper F) e) } = .ok p := by
    rw [← hp]
    simp only [getSchedFeaturesPath, selectPath, fileExists_setFeatures hk]
  have hget := getFeatures_eq hp' hk'
  have hval := getD_decoded (k := k.setEnabled (upper F) e) (by simpa using hF)
  simp only [SchedFeatures.setEnabled_enabled, if_true] at hval
  simp only [setFeature, hp, bind, Except.bind, writeValue_feature hk hF e, if_true, verifyFeature,
    hget, hval]
  refine ⟨hk', ?_⟩
  cases e <;> cases startswith (upper F) "NO" <;> rfl

/-- Three features of a 4.x kernel, `NONTASK_CAPACITY` disabled. -/
def nontaskFeatures : SchedFeatures where
  names := ["GENTLE_FAIR_SLEEPERS", "NONTASK_CAPACITY", "TTWU_QUEUE"]
  names_nodup := by decide
  names_feature := by decide
  enabled := fun n => n = "GENTLE_FAIR_SLEEPERS"

theorem setFeature_feature_nontask :
    getSchedFeaturesPath (debugfsTarget nontaskFeatures) = .ok "/sys/kernel/debug/sched_features" ∧
      upper "nontask_capacity" ∈ nontaskFeatures.names ∧
      (setFeature (debugfsTarget nontaskFeatures) "nontask_capacity" true true).1 =
        .error (.runtimeError "Failed to set NONTASK_CAPACITY, feature not supported?") :=
  ⟨rfl, by decide, (setFeature_feature (t := debugfsTarget nontaskFeatures) (k := nontaskFeatures) rfl rfl
    (by decide) true).2⟩

/-- Enabling `NONTASK_CAPACITY` with `verify` raises `RuntimeError` although the
kernel took the write: the kernel lists it bare, and `get_features` reads the
bare token as disabled because it begins with `NO`. -/
theorem setFeature_nontask_capacity :
    (setFeature (debugfsTarget nontaskFeatures) "NONTASK_CAPACITY" true true).1 =
        .error (.runtimeError "Failed to set NONTASK_CAPACITY, feature not supported?") ∧
      ((setFeature (debugfsTarget nontaskFeatures) "NONTASK_CAPACITY" true true).2.featuresAt
          "/sys/kernel/debug/sched_features").map (·.enabled "NONTASK_CAPACITY") = some true ∧
      getFeatures (setFeature (debugfsTarget nontaskFeatures) "NONTASK_CAPACITY" true true).2 =
        .ok [("GENTLE_FAIR_SLEEPERS", true), ("NONTASK_CAPACITY", false), ("TTWU_QUEUE", false)] :=
  ⟨rfl, rfl, rfl⟩

end Devlib.Sched

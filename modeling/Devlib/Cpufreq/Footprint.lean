import Devlib.Cpufreq.Module

/-!
# What each method may issue

The operations a method can await, whatever the target answers. The reading
methods issue no write at all; the others write only the files of the CPU
and governor they are given.
-/

namespace Devlib.Cpufreq

open Devlib.Async Devlib.Target

/-- An operation that changes nothing on the target. -/
def ReadOnly (o : Op) : Prop := ¬ o.IsWrite

/-- An operation other than a store into the cache. -/
def NoStore : Op → Prop
  | .cachePut .. => False
  | _ => True

/-- An operation that only asks the target: no write, no store into the cache. -/
def Query (o : Op) : Prop := ReadOnly o ∧ NoStore o

/-- An operation reads, if it reads a file, one that `A` admits. -/
def ReadsIn (A : Sysfile → Prop) (o : Op) : Prop :=
  match o.readFile with
  | some f => A f
  | none => True

theorem ReadsIn.mono {A B : Sysfile → Prop} (hAB : ∀ f, A f → B f) {o : Op} (h : ReadsIn A o) :
    ReadsIn B o := by
  unfold ReadsIn at h ⊢
  cases hf : o.readFile with
  | none => trivial
  | some f => exact hAB f (by rwa [hf] at h)

/-- A query of `set_frequency` about CPU `i`: its frequency tables, its governor,
its current frequency. -/
def FreqQuery (i : ℤ) (o : Op) : Prop :=
  Query o ∧ ReadsIn (fun f => f = .scalingAvailableFrequencies i ∨ f = .timeInState i ∨
    f = .scalingGovernor i ∨ f = .cpuinfoCurFreq i) o

section

variable {α : Type} {P : Op → Prop}

theorem opsIn_ite {c : Prop} [Decidable c] {t u : Asyn α} (ht : Coro.OpsIn P t)
    (hu : Coro.OpsIn P u) : Coro.OpsIn P (if c then t else u) := by
  split <;> assumption

theorem opsIn_readValue {f : Sysfile} (h : P (.readValue f)) : Coro.OpsIn P (readValue f) :=
  .op h fun _ => .done _

theorem opsIn_readInt {f : Sysfile} (h : P (.readInt f)) : Coro.OpsIn P (readInt f) :=
  .op h fun _ => .done _

theorem opsIn_fileExists {f : Sysfile} (h : P (.fileExists f)) : Coro.OpsIn P (fileExists f) :=
  .op h fun _ => .done _

theorem opsIn_attempt {o : Op} {β : Type} {hr : o.Resp = Except Error β} (h : P o) :
    Coro.OpsIn P (attempt o hr) :=
  .op h fun _ => .done _

/-- Parsing awaits nothing: it has its outcome at once. -/
theorem parseInts_done (ts : List String) : ∃ r, parseInts ts = .done r := by
  induction ts with
  | nil => exact ⟨_, rfl⟩
  | cons t ts ih =>
    obtain ⟨r, hr⟩ := ih
    unfold parseInts
    split
    · cases r <;> simp [hr]
    · exact ⟨_, rfl⟩

theorem opsIn_parseInts (ts : List String) : Coro.OpsIn P (parseInts ts) := by
  obtain ⟨r, hr⟩ := parseInts_done ts
  exact hr ▸ .done r

theorem opsIn_getTunable (h : ∀ f, P (.readValue f)) (cpu : CpuId) (governor tunable : String) :
    Coro.OpsIn P (getTunable cpu governor tunable) :=
  (opsIn_attempt (h _)).bind fun
    | .ok _ => .done _
    | .error _ => opsIn_ite (.done _) (opsIn_readValue (h _))

theorem opsIn_mapKeys {κ ν : Type} {f : κ → Asyn ν} (hf : ∀ k, Coro.OpsIn P (f k)) :
    ∀ ks, Coro.OpsIn P (mapKeys f ks)
  | [] => .done _
  | k :: ks => (hf k).bind fun _ => (opsIn_mapKeys hf ks).bind fun _ => .done _

theorem opsIn_writeValue {f : Sysfile} {v : PyVal} {verify : Bool}
    (h : P (.writeValue f v verify)) : Coro.OpsIn P (writeValue f v verify) :=
  .op h fun _ => .done _

theorem opsIn_listGovernors (cpu : CpuId) (h : P (.readValue (.scalingAvailableGovernors cpu.index))) :
    Coro.OpsIn P (listGovernors cpu) :=
  (opsIn_readValue h).bind fun _ => .done _

theorem opsIn_setGovernorTunablesLoop (cpu : CpuId) (governor : String) (perCpu : Option Bool)
    (govPerCpu : Bool) (valid : List String) :
    ∀ kwargs : List (String × String),
      (∀ t v, (t, v) ∈ kwargs → t ∈ valid → (∀ b ∈ perCpu, b = govPerCpu) →
        P (.writeValue (tunablePath cpu governor govPerCpu t) (.str v) true)) →
      Coro.OpsIn P (setGovernorTunablesLoop cpu governor perCpu govPerCpu valid kwargs)
  | [], _ => .done _
  | (t, v) :: rest, h => by
    have ih := opsIn_setGovernorTunablesLoop cpu governor perCpu govPerCpu valid rest
      fun t v hm => h t v (List.mem_cons_of_mem _ hm)
    unfold setGovernorTunablesLoop
    split
    · split
      · exact ih
      · next hv hp =>
        refine (opsIn_writeValue (h t v (List.mem_cons_self _ _) hv fun b hb => ?_)).bind fun _ => ih
        subst hb
        simpa using hp
    · exact .done _

end

theorem readOnly_readValue (f : Sysfile) : Coro.OpsIn ReadOnly (readValue f) :=
  opsIn_readValue id

/-- The directory probe lists the per-CPU directory, then the global one. -/
theorem opsIn_probeGovernorTunables {P : Op → Prop} (cpu : CpuId) (governor : String)
    (h : P (.listDirectory (.governorDir cpu.index governor)))
    (h' : P (.listDirectory (.globalGovernorDir governor))) :
    Coro.OpsIn P (probeGovernorTunables cpu governor) :=
  (opsIn_attempt h).bind fun
    | .ok _ => .done _
    | .error _ => opsIn_ite (.done _) ((opsIn_attempt h').bind fun
      | .ok _ => .done _
      | .error _ => opsIn_ite (.done _) (.done _))

/-- `_list_governor_tunables` reads the current governor when none is named, then
asks the cache, then probes the named governor's directories. -/
theorem opsIn_listGovernorTunables {P : Op → Prop} (cpu : CpuId) (governor : Option String)
    (hget : governor = none → P (.readValue (.scalingGovernor cpu.index)))
    (hprobe : ∀ g, Coro.OpsIn P (probeGovernorTunables cpu g))
    (hcache : ∀ g, P (.cacheGet g) ∧ ∀ d, P (.cachePut g d)) :
    Coro.OpsIn P (_listGovernorTunables cpu governor) := by
  refine Coro.OpsIn.bind ?_ fun g => opsIn_ite (.done _) (.op (hcache g).1 fun
    | some _ => .done _
    | none => (hprobe g).bind fun _ => .op ((hcache g).2 _) fun _ => .done _)
  cases governor with
  | some g => exact .done _
  | none => exact opsIn_readValue (hget rfl)

theorem readOnly_probeGovernorTunables (cpu : CpuId) (governor : String) :
    Coro.OpsIn ReadOnly (probeGovernorTunables cpu governor) :=
  opsIn_probeGovernorTunables cpu governor id id

theorem readOnly_listGovernorTunables (cpu : CpuId) (governor : Option String) :
    Coro.OpsIn ReadOnly (_listGovernorTunables cpu governor) :=
  opsIn_listGovernorTunables cpu governor (fun _ => id) (readOnly_probeGovernorTunables cpu)
    fun _ => ⟨id, fun _ => id⟩

theorem readOnly_getGovernorTunables (cpu : CpuId) :
    Coro.OpsIn ReadOnly (getGovernorTunables cpu) :=
  (readOnly_listGovernorTunables cpu none).bind fun _ =>
    opsIn_mapKeys (opsIn_getTunable (fun _ => id) cpu _) _

theorem query_timeInStateFrequencies (cpu : CpuId) :
    Coro.OpsIn (FreqQuery cpu.index) (timeInStateFrequencies cpu) :=
  (opsIn_attempt ⟨⟨id, trivial⟩, Or.inr (Or.inl rfl)⟩).bind fun
    | .ok _ => (opsIn_parseInts _).bind fun _ => .done _
    | .error _ => opsIn_ite (.done _)
      ((opsIn_fileExists ⟨⟨id, trivial⟩, Or.inr (Or.inl rfl)⟩).bind fun _ => opsIn_ite (.done _) (.done _))

theorem query_listFrequencies (cpu : CpuId) : Coro.OpsIn (FreqQuery cpu.index) (listFrequencies cpu) :=
  (opsIn_attempt ⟨⟨id, trivial⟩, Or.inl rfl⟩).bind fun
    | .ok _ => (opsIn_parseInts _).bind fun _ => .done _
    | .error _ => opsIn_ite (.done _) ((query_timeInStateFrequencies cpu).bind fun
      | none => .done _
      | some _ => .done _)

/-- `set_frequency` reads, and writes only the CPU's `scaling_setspeed`. -/
theorem opsIn_setFrequency {P : Op → Prop} (cpu : CpuId) (hr : ∀ o, FreqQuery cpu.index o → P o)
    (hw : ∀ v, P (.writeValue (.scalingSetspeed cpu.index) v false)) (frequency : PyVal) (exact : Bool) :
    Coro.OpsIn P (setFrequency cpu frequency exact) := by
  have hbody : ∀ v, Coro.OpsIn P (setFrequencyBody cpu v exact) := fun v =>
    (opsIn_ite (((query_listFrequencies cpu).mono hr).bind fun _ => opsIn_ite (.done _) (.done _))
      (.done _)).bind fun _ =>
        (opsIn_readValue (hr _ ⟨⟨id, trivial⟩, Or.inr (Or.inr (Or.inl rfl))⟩)).bind fun _ =>
        opsIn_ite (.done _) ((opsIn_writeValue (hw _)).bind fun _ =>
          (opsIn_readInt (hr _ ⟨⟨id, trivial⟩, Or.inr (Or.inr (Or.inr rfl))⟩)).bind fun _ => .done _)
  have hcatch : ∀ v (h : Error → Asyn Unit), (∀ e, h e = .done (.error (match e with
      | .valueError _ => .valueError ("Frequency must be an integer; got: \"" ++ frequency.toStr ++ "\"")
      | e => e))) → Coro.OpsIn P ((setFrequencyBody cpu v exact).tryCatch h) :=
    fun v h hh => (hbody v).tryCatch fun e => hh e ▸ .done _
  unfold setFrequency
  cases frequency with
  | int i => exact hcatch i _ fun e => by cases e <;> rfl
  | str s =>
    dsimp only
    split
    · exact .done _
    · exact hcatch _ _ fun e => by cases e <;> rfl

/-! ## What the writing methods read -/

end Devlib.Cpufreq

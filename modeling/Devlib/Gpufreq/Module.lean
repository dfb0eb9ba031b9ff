import Devlib.Cpuidle.Module

/-!
# `GpufreqModule`

The GPU frequency module of `devlib/module/gpufreq.py`. `__init__` reads the
frequency table and the governors under `/sys/kernel/gpu/`, `set_governor`
writes a governor the instance was told of, and `get_model_name` is memoized
on the instance. The methods run over the target's operations on its files,
those of the cpuidle model.

A user makes calls on an instance one after the other, and goes on after a
call that raised. Every result is stated over all such sessions, whatever the
target answers.

## Implementation notes

`memoized` comes from `devlib.utils.misc`, which is not among the sources: it
keeps the first answer of a call on the instance, modelled as a field of the
instance. `re.search('adreno', model, re.IGNORECASE)` is a search for `adreno`
in the model name with its ASCII letters lowered; no other character has a
lower case among the letters of `adreno`.
-/

namespace Devlib.Gpufreq

open Devlib.Async Devlib.Sched Devlib.Text
open Devlib.Cpuidle (Op Asyn readValue writeValue fileExists)

/-- An operation with its response, as a trace records it. -/
abbrev Entry := Σ o : Op, o.Resp

/-- What an instance holds: the frequencies and the governors `__init__` read,
and the answer of `get_model_name` once it is memoized. -/
structure GpufreqModule where
  frequencies : List ℤ
  governors : List String
  modelName : Option String

/-- `GpufreqModule(target)`. -/
def init : Asyn GpufreqModule := do
  let frequenciesStr ← readValue "/sys/kernel/gpu/gpu_freq_table"
  let frequencies ← Coro.done ((splitOn frequenciesStr ' ').mapM Target.pyInt)
  let governors ← readValue "/sys/kernel/gpu/gpu_available_governor"
  pure ⟨sorted frequencies, splitOn governors ' ', none⟩

/-- `re.search('adreno', model, re.IGNORECASE)`. -/
def isAdreno (model : String) : Bool := decide ("adreno".data <:+: (lower model).data)

/-- `probe(target)`. -/
def probe : Asyn Bool := do
  if ← fileExists "/sys/kernel/gpu/" then
    let model ← readValue ("/sys/kernel/gpu/" ++ "gpu_model")
    pure (isAdreno model)
  else pure false

/-- A method call on an instance. -/
inductive Call where
  | setGovernor (governor : String)
  | getFrequencies
  | getCurrentFrequency
  | getModelName

/-- What a method call returns. -/
inductive Answer where
  | none
  | frequencies (fs : List ℤ)
  | frequency (f : ℤ)
  | modelName (name : String)

namespace GpufreqModule

variable (m : GpufreqModule)

/-- `set_governor(governor)`. -/
def setGovernor (governor : String) : Asyn Unit :=
  if governor ∈ m.governors then writeValue "/sys/kernel/gpu/gpu_governor" governor
  else throw (.targetStable ("Governor " ++ governor ++ " not supported for gpu"))

/-- `get_frequencies()`. -/
def getFrequencies : Asyn (List ℤ) := pure m.frequencies

/-- `get_current_frequency()`. -/
def getCurrentFrequency : Asyn ℤ := do
  let clock ← readValue "/sys/kernel/gpu/gpu_clock"
  Coro.done (Target.pyInt clock)

/-- `get_model_name()`, with the instance after it: the memoized answer if
there is one, else the text of `gpu_model`, `"unknown"` when it cannot be
read, which is memoized. -/
def getModelName : Asyn (String × GpufreqModule) :=
  match m.modelName with
  | some name => pure (name, m)
  | none => do
    let name ← (readValue "/sys/kernel/gpu/gpu_model").tryCatch fun _ => pure "unknown"
    pure (name, { m with modelName := some name })

/-- A method call, with the instance after it. -/
def call : Call → Asyn (Answer × GpufreqModule)
  | .setGovernor g => (m.setGovernor g).bind fun _ => pure (.none, m)
  | .getFrequencies => m.getFrequencies.bind fun fs => pure (.frequencies fs, m)
  | .getCurrentFrequency => getCurrentFrequency.bind fun f => pure (.frequency f, m)
  | .getModelName => m.getModelName.bind fun r => pure (.modelName r.1, r.2)

end GpufreqModule

/-- `Session m calls tr rs m'`: the calls made one after the other on the
instance `m`, the target answering as `tr` records, return `rs` and leave the
instance `m'`. A call that raised leaves the instance as it was. -/
inductive Session : GpufreqModule → List Call → List Entry → List (Except Error Answer) →
    GpufreqModule → Prop
  | nil (m : GpufreqModule) : Session m [] [] [] m
  | ok {m m₁ m' : GpufreqModule} {c : Call} {cs tr tr' a rs} :
      Coro.Finishes (m.call c) tr (.ok (a, m₁)) → Session m₁ cs tr' rs m' →
      Session m (c :: cs) (tr ++ tr') (.ok a :: rs) m'
  | error {m m' : GpufreqModule} {c : Call} {cs tr tr' e rs} :
      Coro.Finishes (m.call c) tr (.error e) → Session m cs tr' rs m' →
      Session m (c :: cs) (tr ++ tr') (.error e :: rs) m'

/-- A lifetime of an instance: `__init__` builds it, then a session of calls on it. -/
def Lifetime (calls : List Call) (tr : List Entry) (rs : List (Except Error Answer)) : Prop :=
  ∃ tr₀ tr₁ m m', tr = tr₀ ++ tr₁ ∧ Coro.Finishes init tr₀ (.ok m) ∧ Session m calls tr₁ rs m'

/-! ## Runs against a deterministic target -/

section Run

variable {W : Type} (exec : W → (o : Op) → o.Resp × W)

/-- The calls run one after the other against a deterministic target: the
operations awaited with their responses, the results, and the instance left. -/
def runSession : GpufreqModule → List Call → W →
    List Entry × List (Except Error Answer) × GpufreqModule
  | m, [], _ => ([], [], m)
  | m, c :: cs, w =>
    match (m.call c).run exec w with
    | (.ok (a, m₁), w') =>
      let r := runSession m₁ cs w'
      ((m.call c).runTrace exec w ++ r.1, .ok a :: r.2.1, r.2.2)
    | (.error e, w') =>
      let r := runSession m cs w'
      ((m.call c).runTrace exec w ++ r.1, .error e :: r.2.1, r.2.2)

/-- A run is one of the sessions. -/
theorem session_runSession (m : GpufreqModule) (calls : List Call) (w : W) :
    Session m calls (runSession exec m calls w).1 (runSession exec m calls w).2.1
      (runSession exec m calls w).2.2 := by
  induction calls generalizing m w with
  | nil => exact .nil m
  | cons c cs ih =>
    have hf := Coro.finishes_run exec (m.call c) w
    simp only [runSession]
    split
    · rename_i a m₁ w' hr
      rw [hr] at hf
      exact .ok hf (ih m₁ w')
    · rename_i e w' hr
      rw [hr] at hf
      exact .error hf (ih m w')

/-- `__init__` and then the calls, run against a deterministic target, are a lifetime. -/
theorem lifetime_run (w : W) (calls : List Call) {m : GpufreqModule} {w' : W}
    (h : init.run exec w = (.ok m, w')) :
    Lifetime calls (init.runTrace exec w ++ (runSession exec m calls w').1)
      (runSession exec m calls w').2.1 := by
  have hf := Coro.finishes_run exec init w
  rw [h] at hf
  exact ⟨_, _, m, _, rfl, hf, session_runSession exec m calls w'⟩

end Run

/-- The files of an Adreno GPU under `/sys/kernel/gpu/`. -/
def adrenoFs : PTree :=
  .dir [("sys", .dir [("kernel", .dir [("gpu", .dir [
    ("gpu_freq_table", .leaf "585000000 427000000 257000000"),
    ("gpu_available_governor", .leaf "msm-adreno-tz performance powersave"),
    ("gpu_governor", .leaf "msm-adreno-tz"),
    ("gpu_clock", .leaf "257000000"),
    ("gpu_model", .leaf "Adreno630v2")])])])]

/-- The instance `__init__` builds on `adrenoFs`. -/
def adreno : GpufreqModule :=
  ⟨[257000000, 427000000, 585000000], ["msm-adreno-tz", "performance", "powersave"], none⟩

theorem init_run_adrenoFs : init.run Cpuidle.exec adrenoFs = (.ok adreno, adrenoFs) := rfl

/-- A session on `adreno`: a listed governor, one it does not list, and the queries. -/
def adrenoCalls : List Call :=
  [.setGovernor "performance", .setGovernor "userspace", .getFrequencies, .getModelName,
    .getModelName]

example : probe.run Cpuidle.exec adrenoFs = (.ok true, adrenoFs) ∧
    (runSession Cpuidle.exec adreno adrenoCalls adrenoFs).2.1 =
      [.ok .none, .error (.targetStable "Governor userspace not supported for gpu"),
        .ok (.frequencies [257000000, 427000000, 585000000]), .ok (.modelName "Adreno630v2"),
        .ok (.modelName "Adreno630v2")] :=
  ⟨rfl, rfl⟩

/-! ## Traces of the methods -/

theorem finishes_readValue_bind {α : Type} {p : String} {f : String → Asyn α} {tr : List Entry}
    {r : Except Error α} (h : Coro.Finishes ((readValue p).bind f) tr r) :
    (∃ s tr', tr = ⟨.readValue p, .ok s⟩ :: tr' ∧ Coro.Finishes (f s) tr' r) ∨
      ∃ e, tr = [⟨.readValue p, .error e⟩] ∧ r = .error e := by
  obtain ⟨x, tr', rfl, h₁⟩ := Coro.Finishes.op_iff.mp h
  cases x with
  | ok s => exact .inl ⟨s, tr', rfl, h₁⟩
  | error e =>
    obtain ⟨rfl, rfl⟩ := Coro.Finishes.done_iff.mp h₁
    exact .inr ⟨e, rfl, rfl⟩

theorem finishes_bind_pure {α β : Type} {t : Asyn α} {g : α → β} {tr : List Entry} {b : β}
    (h : Coro.Finishes (t.bind fun a => pure (g a)) tr (.ok b)) :
    ∃ a, Coro.Finishes t tr (.ok a) ∧ b = g a := by
  rcases Coro.finishes_bind h with ⟨a, tr₁, tr₂, rfl, h₁, h₂⟩ | ⟨e, _, he⟩
  · obtain ⟨rfl, hb⟩ := Coro.Finishes.done_iff.mp h₂
    exact ⟨a, by rwa [List.append_nil], Except.ok.inj hb⟩
  · cases he

/-- What `__init__` reads, and the instance it builds. -/
theorem init_spec {tr : List Entry} {m : GpufreqModule} (h : Coro.Finishes init tr (.ok m)) :
    ∃ text fs governors, tr = [⟨.readValue "/sys/kernel/gpu/gpu_freq_table", .ok text⟩,
        ⟨.readValue "/sys/kernel/gpu/gpu_available_governor", .ok governors⟩] ∧
      (splitOn text ' ').mapM Target.pyInt = .ok fs ∧ m = ⟨sorted fs, splitOn governors ' ', none⟩ := by
  rcases finishes_readValue_bind h with ⟨text, tr₁, rfl, h₁⟩ | ⟨e, _, he⟩
  · cases hfs : (splitOn text ' ').mapM Target.pyInt with
    | error e =>
      simp only [hfs, Coro.done_error_bind] at h₁
      cases (Coro.Finishes.done_iff.mp h₁).2
    | ok fs =>
      simp only [hfs, Coro.done_ok_bind] at h₁
      rcases finishes_readValue_bind h₁ with ⟨governors, tr₂, rfl, h₂⟩ | ⟨e, _, he⟩
      · obtain ⟨rfl, hm⟩ := Coro.Finishes.done_iff.mp h₂
        exact ⟨text, fs, governors, rfl, hfs, (Except.ok.inj hm)⟩
      · cases he
  · cases he

/-- `get_model_name` answers the memoized name, or memoizes the name it answers. -/
theorem getModelName_spec {m : GpufreqModule} {tr : List Entry} {r : Except Error (String × GpufreqModule)}
    (h : Coro.Finishes m.getModelName tr r) :
    ∃ n, r = .ok (n, { m with modelName := some n }) ∧ ∀ n', m.modelName = some n' → n = n' := by
  unfold GpufreqModule.getModelName at h
  split at h
  · rename_i name hname
    obtain ⟨rfl, rfl⟩ := Coro.Finishes.done_iff.mp h
    refine ⟨name, ?_, fun n' hn' => Option.some.inj (hname ▸ hn')⟩
    cases m
    simp_all
  · rename_i hnone
    rcases Coro.finishes_bind h with ⟨n, tr₁, tr₂, rfl, _, h₂⟩ | ⟨e, h₁, rfl⟩
    · obtain ⟨rfl, rfl⟩ := Coro.Finishes.done_iff.mp h₂
      exact ⟨n, rfl, by simp [hnone]⟩
    · rcases Coro.finishes_tryCatch h₁ with ⟨_, _, he⟩ | ⟨_, _, _, _, _, h₂⟩
      · cases he
      · cases (Coro.Finishes.done_iff.mp h₂).2

/-- `get_model_name` never raises. -/
theorem call_getModelName_ok {m : GpufreqModule} {tr : List Entry} {e : Error} :
    ¬Coro.Finishes (m.call .getModelName) tr (.error e) := by
  intro h
  rcases Coro.finishes_bind h with ⟨_, _, _, _, _, h₂⟩ | ⟨_, h₁, he⟩
  · cases (Coro.Finishes.done_iff.mp h₂).2
  · obtain ⟨n, hr, _⟩ := getModelName_spec h₁
    cases hr

/-! ## What a call keeps -/

/-- `m'` is `m` after some calls: the same tables, and the same memo once `m` has one. -/
structure Extends (m m' : GpufreqModule) : Prop where
  frequencies : m'.frequencies = m.frequencies
  governors : m'.governors = m.governors
  memo : ∀ n, m.modelName = some n → m'.modelName = some n

theorem Extends.refl (m : GpufreqModule) : Extends m m := ⟨rfl, rfl, fun _ h => h⟩

theorem Extends.trans {m₁ m₂ m₃ : GpufreqModule} (h₁ : Extends m₁ m₂) (h₂ : Extends m₂ m₃) :
    Extends m₁ m₃ :=
  ⟨h₂.frequencies.trans h₁.frequencies, h₂.governors.trans h₁.governors,
    fun n hn => h₂.memo n (h₁.memo n hn)⟩

/-- A call that returns leaves an instance that extends the one it was made
on; a `get_model_name` that answers `n` leaves `n` memoized. -/
theorem call_extends {m m₁ : GpufreqModule} {c : Call} {tr : List Entry} {a : Answer}
    (h : Coro.Finishes (m.call c) tr (.ok (a, m₁))) :
    Extends m m₁ ∧ ∀ n, a = .modelName n → m₁.modelName = some n := by
  cases c with
  | getModelName =>
    obtain ⟨⟨n, m₂⟩, h₁, hr⟩ := finishes_bind_pure h
    obtain ⟨n', hn', hmemo⟩ := getModelName_spec h₁
    obtain ⟨rfl, rfl⟩ := Prod.mk.inj (Except.ok.inj hn')
    obtain ⟨rfl, rfl⟩ := Prod.mk.inj hr
    exact ⟨⟨rfl, rfl, fun n hn => by rw [hmemo n hn]⟩, fun n hn => by cases hn; rfl⟩
  | _ =>
    obtain ⟨_, _, hr⟩ := finishes_bind_pure h
    obtain ⟨rfl, rfl⟩ := Prod.mk.inj hr
    exact ⟨.refl _, fun _ hn => by cases hn⟩

/-- Every session leaves an instance that extends the one it began with. -/
theorem Session.extends {m m' : GpufreqModule} {calls tr rs} (h : Session m calls tr rs m') :
    Extends m m' := by
  induction h with
  | nil m => exact .refl m
  | ok h₁ _ ih => exact (call_extends h₁).1.trans ih
  | error _ _ ih => exact ih

/-! ## Writes -/

/-- The operations an instance told of `governors` may issue: reads, tests, and
writes of one of `governors` to `gpu_governor`. -/
def Allowed (governors : List String) : Op → Prop
  | .writeValue p v => p = "/sys/kernel/gpu/gpu_governor" ∧ v ∈ governors
  | _ => True

theorem readValue_allowed (governors : List String) (p : String) :
    Coro.OpsIn (Allowed governors) (readValue p) :=
  .op trivial fun _ => .done _

theorem call_allowed (m : GpufreqModule) (c : Call) : Coro.OpsIn (Allowed m.governors) (m.call c) := by
  cases c with
  | setGovernor g =>
    refine .bind ?_ fun _ => .done _
    unfold GpufreqModule.setGovernor
    split
    · exact .op ⟨rfl, ‹_›⟩ fun _ => .done _
    · exact .done _
  | getFrequencies => exact .done _
  | getCurrentFrequency => exact .bind (.bind (readValue_allowed _ _) fun _ => .done _) fun _ => .done _
  | getModelName =>
    refine .bind ?_ fun _ => .done _
    unfold GpufreqModule.getModelName
    split
    · exact .done _
    · exact .bind (.tryCatch (readValue_allowed _ _) fun _ => .done _) fun _ => .done _

/-- Every operation of a session is allowed to the instance it began with. -/
theorem Session.allowed {m m' : GpufreqModule} {calls tr rs} (h : Session m calls tr rs m') :
    ∀ x ∈ tr, Allowed m.governors x.1 := by
  induction h with
  | nil => simp
  | @ok m m₁ _ c _ _ _ _ _ h₁ _ ih =>
    intro x hx
    rcases List.mem_append.mp hx with hx | hx
    · exact (call_allowed m c).finishes h₁ x hx
    · exact (call_extends h₁).1.governors ▸ ih x hx
  | @error m _ c _ _ _ _ _ h₁ _ ih =>
    intro x hx
    rcases List.mem_append.mp hx with hx | hx
    · exact (call_allowed m c).finishes h₁ x hx
    · exact ih x hx

/-- In every lifetime `__init__` writes nothing: it reads `gpu_freq_table`, then
`gpu_available_governor`. Every later write goes to `gpu_governor`, with a
governor listed in the `gpu_available_governor` text `__init__` read. -/
theorem lifetime_writes {calls : List Call} {tr : List Entry} {rs : List (Except Error Answer)}
    (h : Lifetime calls tr rs) :
    ∃ text governors tr₀ tr₁ m, tr = tr₀ ++ tr₁ ∧ Coro.Finishes init tr₀ (.ok m) ∧
      tr₀ = [⟨.readValue "/sys/kernel/gpu/gpu_freq_table", .ok text⟩,
        ⟨.readValue "/sys/kernel/gpu/gpu_available_governor", .ok governors⟩] ∧
      (∀ x ∈ tr₀, ∀ p v, x.1 ≠ .writeValue p v) ∧
      ∀ x ∈ tr₁, ∀ p v, x.1 = .writeValue p v →
        p = "/sys/kernel/gpu/gpu_governor" ∧ v ∈ splitOn governors ' ' := by
  obtain ⟨tr₀, tr₁, m, m', rfl, h₀, hs⟩ := h
  obtain ⟨text, fs, governors, rfl, _, rfl⟩ := init_spec h₀
  refine ⟨text, governors, _, tr₁, _, rfl, h₀, rfl, by simp, fun x hx p v hw => ?_⟩
  have := hs.allowed x hx
  rwa [hw] at this

theorem lifetime_writes_adreno :
    ∃ text governors tr₀ tr₁ m, init.runTrace Cpuidle.exec adrenoFs ++
        (runSession Cpuidle.exec adreno adrenoCalls adrenoFs).1 = tr₀ ++ tr₁ ∧
      Coro.Finishes init tr₀ (.ok m) ∧
      tr₀ = [⟨.readValue "/sys/kernel/gpu/gpu_freq_table", .ok text⟩,
        ⟨.readValue "/sys/kernel/gpu/gpu_available_governor", .ok governors⟩] ∧
      (∀ x ∈ tr₀, ∀ p v, x.1 ≠ .writeValue p v) ∧
      ∀ x ∈ tr₁, ∀ p v, x.1 = .writeValue p v →
        p = "/sys/kernel/gpu/gpu_governor" ∧ v ∈ splitOn governors ' ' :=
  lifetime_writes (lifetime_run Cpuidle.exec adrenoFs adrenoCalls init_run_adrenoFs)

/-! ## Answers -/

/-- What a call of a session on `m` may return: `get_frequencies` the
frequencies of `m`, `get_model_name` a name and never an exception. -/
def Returns (m : GpufreqModule) : Call → Except Error Answer → Prop
  | .getFrequencies, r => r = .ok (.frequencies m.frequencies)
  | .getModelName, r => ∃ n, r = .ok (.modelName n)
  | _, _ => True

theorem call_returns {m : GpufreqModule} {c : Call} {tr : List Entry} {r : Except Error (Answer × GpufreqModule)}
    (h : Coro.Finishes (m.call c) tr r) : Returns m c (r.map Prod.fst) := by
  cases c with
  | getFrequencies =>
    cases r with
    | error e =>
      rcases Coro.finishes_bind h with ⟨_, _, _, _, _, h₂⟩ | ⟨_, h₁, _⟩
      · cases (Coro.Finishes.done_iff.mp h₂).2
      · cases (Coro.Finishes.done_iff.mp h₁).2
    | ok a =>
      obtain ⟨fs, h₁, rfl⟩ := finishes_bind_pure h
      obtain ⟨-, hfs⟩ := Coro.Finishes.done_iff.mp h₁
      cases hfs
      rfl
  | getModelName =>
    cases r with
    | error e => exact absurd h call_getModelName_ok
    | ok a =>
      obtain ⟨⟨n, _⟩, _, rfl⟩ := finishes_bind_pure h
      exact ⟨n, rfl⟩
  | _ => trivial

/-- Each call of a session returns what `Returns` says of the instance it began with. -/
theorem Session.returns {m m' : GpufreqModule} {calls tr rs} (h : Session m calls tr rs m') :
    List.Forall₂ (Returns m) calls rs := by
  induction h with
  | nil => exact .nil
  | @ok m m₁ _ c _ _ _ _ _ h₁ _ ih =>
    refine .cons (call_returns h₁) (ih.imp fun c r hr => ?_)
    cases c <;> simp_all only [Returns, (call_extends h₁).1.frequencies]
  | error h₁ _ ih => exact .cons (call_returns h₁) ih

/-- Every `get_frequencies` of a lifetime answers the integers of the
frequency table `__init__` read, sorted. -/
theorem lifetime_frequencies {calls : List Call} {tr : List Entry} {rs : List (Except Error Answer)}
    (h : Lifetime calls tr rs) :
    ∃ text fs, tr.head? = some ⟨.readValue "/sys/kernel/gpu/gpu_freq_table", .ok text⟩ ∧
      (splitOn text ' ').mapM Target.pyInt = .ok fs ∧
      List.Forall₂ (fun c r => c = .getFrequencies → r = .ok (.frequencies (sorted fs))) calls rs := by
  obtain ⟨tr₀, tr₁, m, m', rfl, h₀, hs⟩ := h
  obtain ⟨text, fs, governors, rfl, hfs, rfl⟩ := init_spec h₀
  exact ⟨text, fs, rfl, hfs, hs.returns.imp fun c r hr hc => by subst hc; exact hr⟩

theorem lifetime_frequencies_adreno :
    ∃ text fs, (init.runTrace Cpuidle.exec adrenoFs ++
          (runSession Cpuidle.exec adreno adrenoCalls adrenoFs).1).head? =
        some ⟨.readValue "/sys/kernel/gpu/gpu_freq_table", .ok text⟩ ∧
      (splitOn text ' ').mapM Target.pyInt = .ok fs ∧
      List.Forall₂ (fun c r => c = .getFrequencies → r = .ok (.frequencies (sorted fs))) adrenoCalls
        (runSession Cpuidle.exec adreno adrenoCalls adrenoFs).2.1 :=
  lifetime_frequencies (lifetime_run Cpuidle.exec adrenoFs adrenoCalls init_run_adrenoFs)

/-- `get_model_name` never raises, and every name it answers in a session is
the one memoized at the session's end. -/
theorem session_modelName {m m' : GpufreqModule} {calls : List Call} {tr : List Entry}
    {rs : List (Except Error Answer)} (h : Session m calls tr rs m') :
    (∀ n, .ok (.modelName n) ∈ rs → m'.modelName = some n) ∧
      List.Forall₂ (fun c r => c = .getModelName → ∃ n, r = .ok (.modelName n)) calls rs := by
  refine ⟨?_, h.returns.imp fun c r hr hc => by subst hc; exact hr⟩
  induction h with
  | nil => simp
  | ok h₁ hs ih =>
    intro n hn
    rcases List.mem_cons.mp hn with hn | hn
    · cases hn
      exact hs.extends.memo n ((call_extends h₁).2 n rfl)
    · exact ih n hn
  | error _ _ ih =>
    intro n hn
    rcases List.mem_cons.mp hn with hn | hn
    · cases hn
    · exact ih n hn

theorem session_modelName_adreno :
    (∀ n, .ok (.modelName n) ∈ (runSession Cpuidle.exec adreno adrenoCalls adrenoFs).2.1 →
        (runSession Cpuidle.exec adreno adrenoCalls adrenoFs).2.2.modelName = some n) ∧
      List.Forall₂ (fun c r => c = .getModelName → ∃ n, r = .ok (.modelName n)) adrenoCalls
        (runSession Cpuidle.exec adreno adrenoCalls adrenoFs).2.1 :=
  session_modelName (session_runSession Cpuidle.exec adreno adrenoCalls adrenoFs)

end Devlib.Gpufreq

import Devlib.Cpufreq.Footprint

/-!
# Setting governor tunables

`set_governor_tunables` checks each keyword argument, in order, against the
governor's discovered tunables and writes the accepted ones. Nothing is undone
when a later name turns out invalid, and a failing write ends the call with
its error. Both facts hold whatever the target answers, so they are stated
over every finished trace of the coroutine.
-/

namespace Devlib.Cpufreq

open Devlib.Async Devlib.Target Devlib.Text

/-- One awaited `write_value(path, value)` with its response, as a trace entry. -/
def writeEntry (fv : Sysfile × String) (res : Except Error Unit) : Σ o : Op, o.Resp :=
  ⟨.writeValue fv.1 (.str fv.2) true, res⟩

/-- The writes of the specification: when the governor's classification `pc`
matches `per_cpu` (always for `None`), every keyword argument before the first
name outside `valid`, at its per-CPU or global path; otherwise none. -/
def expectedWrites (cpu : CpuId) (g : String) (perCpu : Option Bool) (pc : Bool)
    (valid : List String) (kwargs : List (String × String)) : List (Sysfile × String) :=
  if perCpu.all (· = pc) then
    (kwargs.takeWhile fun tv => tv.1 ∈ valid).map fun tv => (tunablePath cpu g pc tv.1, tv.2)
  else []

/-- The outcome when every write succeeds: the error naming the first invalid name. -/
def expectedOutcome (cpu : CpuId) (g : String) (valid : List String)
    (kwargs : List (String × String)) : Except Error Unit :=
  match kwargs.find? fun tv => tv.1 ∉ valid with
  | none => .ok ()
  | some (t, _) => .error (.targetStable (unexpectedTunable t g cpu valid))

/-- What the loop did, by its trace and outcome: every specified write succeeded
and the outcome is the specified one, or the writes stopped at the first
failing one with its error. -/
def LoopTrace (cpu : CpuId) (g : String) (perCpu : Option Bool) (pc : Bool)
    (valid : List String) (kwargs : List (String × String)) (tr : List (Σ o : Op, o.Resp))
    (r : Except Error Unit) : Prop :=
  let ws := expectedWrites cpu g perCpu pc valid kwargs
  (tr = ws.map (writeEntry · (.ok ())) ∧ r = expectedOutcome cpu g valid kwargs) ∨
    ∃ n e, ∃ hn : n < ws.length,
      tr = (ws.take n).map (writeEntry · (.ok ())) ++ [writeEntry ws[n] (.error e)] ∧ r = .error e

section Inversion

variable {α : Type} {tr : List (Σ o : Op, o.Resp)} {r : Except Error α}

theorem finishes_done_iff {r₀ : Except Error α} :
    Coro.Finishes (Coro.done r₀ : Asyn α) tr r ↔ tr = [] ∧ r = r₀ := by
  constructor
  · rintro ⟨⟩; exact ⟨rfl, rfl⟩
  · rintro ⟨rfl, rfl⟩; exact .done _

theorem finishes_op_iff {o : Op} {k : o.Resp → Asyn α} :
    Coro.Finishes (Coro.op o k) tr r ↔ ∃ x tr', tr = ⟨o, x⟩ :: tr' ∧ Coro.Finishes (k x) tr' r := by
  constructor
  · rintro (_ | @⟨_, _, x, tr', _, h⟩); exact ⟨x, tr', rfl, h⟩
  · rintro ⟨x, tr', rfl, h⟩; exact .op h

end Inversion

/-- The loop of `set_governor_tunables`, whatever the target answers: it issues
the specified writes in order and ends with the specified outcome, or it stops
at the first write that fails, with that write's error. -/
theorem setGovernorTunablesLoop_trace {cpu : CpuId} {g : String} {perCpu : Option Bool}
    {pc : Bool} {valid : List String} {kwargs : List (String × String)}
    {tr : List (Σ o : Op, o.Resp)} {r : Except Error Unit}
    (h : Coro.Finishes (setGovernorTunablesLoop cpu g perCpu pc valid kwargs) tr r) :
    LoopTrace cpu g perCpu pc valid kwargs tr r := by
  unfold LoopTrace
  induction kwargs generalizing tr with
  | nil =>
    obtain ⟨rfl, rfl⟩ := finishes_done_iff.mp h
    exact .inl ⟨by simp [expectedWrites], rfl⟩
  | cons tv rest ih =>
    obtain ⟨t, v⟩ := tv
    by_cases hv : t ∈ valid
    · by_cases hskip : perCpu.isSome ∧ perCpu ≠ some pc
      · have hkeep : perCpu.all (· = pc) = false := by
          cases perCpu <;> simp_all
        rw [setGovernorTunablesLoop, if_pos hv, if_pos hskip] at h
        simpa [LoopTrace, expectedWrites, expectedOutcome, hv, hkeep] using ih h
      · have hkeep : perCpu.all (· = pc) = true := by
          cases perCpu <;> simp_all
        have hws : expectedWrites cpu g perCpu pc valid ((t, v) :: rest) =
            (tunablePath cpu g pc t, v) :: expectedWrites cpu g perCpu pc valid rest := by
          simp [expectedWrites, hv, hkeep]
        have hout : expectedOutcome cpu g valid ((t, v) :: rest) = expectedOutcome cpu g valid rest := by
          simp [expectedOutcome, hv]
        rw [setGovernorTunablesLoop, if_pos hv, if_neg hskip] at h
        simp only [Coro.bind_eq, writeValue, Coro.op_bind, finishes_op_iff] at h
        obtain ⟨x, tr', rfl, h'⟩ := h
        rw [hws, hout]
        cases x with
        | ok u =>
          rcases (by simpa only [LoopTrace] using ih h') with ⟨rfl, rfl⟩ | ⟨n, e, hn, rfl, rfl⟩
          · exact .inl ⟨rfl, rfl⟩
          · exact .inr ⟨n + 1, e, by simpa using hn, by simp [writeEntry], rfl⟩
        | error e =>
          obtain ⟨rfl, rfl⟩ := finishes_done_iff.mp h'
          exact .inr ⟨0, e, by simp, rfl, rfl⟩
    · rw [setGovernorTunablesLoop, if_neg hv] at h
      obtain ⟨rfl, rfl⟩ := finishes_done_iff.mp h
      exact .inl ⟨by simp [expectedWrites, hv], by simp [expectedOutcome, hv]⟩

/-- `set_governor_tunables`, whatever the target answers: empty keyword arguments
return at once and issue nothing; otherwise a failing discovery ends the call
with its error, or the discovery, which writes nothing, is followed by the
loop's trace. -/
theorem setGovernorTunables_trace {cpu : CpuId} {governor : Option String}
    {perCpu : Option Bool} {kwargs : List (String × String)} {tr : List (Σ o : Op, o.Resp)}
    {r : Except Error Unit}
    (h : Coro.Finishes (setGovernorTunables cpu governor perCpu kwargs) tr r) :
    (kwargs = [] → tr = [] ∧ r = .ok ()) ∧
      (kwargs ≠ [] →
        (∃ e, Coro.Finishes (_listGovernorTunables cpu governor) tr (.error e) ∧ r = .error e) ∨
        ∃ g pc valid tr₁ tr₂, tr = tr₁ ++ tr₂ ∧
          Coro.Finishes (_listGovernorTunables cpu governor) tr₁ (.ok (g, pc, valid)) ∧
          (∀ x ∈ tr₁, ReadOnly x.1) ∧ LoopTrace cpu g perCpu pc valid kwargs tr₂ r) := by
  unfold setGovernorTunables at h
  refine ⟨fun hk => ?_, fun hk => ?_⟩
  · rw [if_pos (List.isEmpty_iff.mpr hk)] at h
    exact finishes_done_iff.mp h
  · rw [if_neg (mt List.isEmpty_iff.mp hk)] at h
    rcases Coro.finishes_bind h with ⟨⟨g, pc, valid⟩, tr₁, tr₂, rfl, h₁, h₂⟩ | ⟨e, h₁, rfl⟩
    · exact .inr ⟨g, pc, valid, tr₁, tr₂, rfl, h₁,
        (readOnly_listGovernorTunables cpu governor).finishes h₁, setGovernorTunablesLoop_trace h₂⟩
    · exact .inl ⟨e, h₁, rfl⟩

/-- CPU 0 runs `ondemand`, whose only tunable `sampling_rate_min` is read-only. -/
def readOnlyTunableWorld : World where
  device :=
    { kernel := Kernel.ofGroups 1 (fun _ => 0) "ondemand performance" true
        (fun g => if g = "ondemand" then ["sampling_rate_min"] else []) (fun _ _ => false)
      governor := fun _ => "ondemand"
      policyValue := fun _ _ => "10000"
      globalValue := fun _ _ => ""
      curFreq := fun _ => 0 }
  cache := fun _ => none

theorem setGovernorTunables_valid_name_raises :
    ((_listGovernorTunables (.num 0) none).run World.exec readOnlyTunableWorld).1 =
        .ok ("ondemand", true, ["sampling_rate_min"]) ∧
      ((setGovernorTunables (.num 0) none none [("sampling_rate_min", "20000")]).run World.exec
          readOnlyTunableWorld).1 = .error (.io (.governorTunable 0 "ondemand" "sampling_rate_min")) :=
  ⟨rfl, rfl⟩

theorem setGovernorTunables_trace_readOnlyTunable :
    let t := setGovernorTunables (.num 0) none none [("sampling_rate_min", "20000")]
    Coro.Finishes t (t.runTrace World.exec readOnlyTunableWorld) (t.run World.exec readOnlyTunableWorld).1 ∧
      ((([("sampling_rate_min", "20000")] : List (String × String)) = [] →
          t.runTrace World.exec readOnlyTunableWorld = [] ∧ (t.run World.exec readOnlyTunableWorld).1 = .ok ()) ∧
        (([("sampling_rate_min", "20000")] : List (String × String)) ≠ [] →
          (∃ e, Coro.Finishes (_listGovernorTunables (.num 0) none) (t.runTrace World.exec readOnlyTunableWorld)
              (.error e) ∧ (t.run World.exec readOnlyTunableWorld).1 = .error e) ∨
          ∃ g pc valid tr₁ tr₂, t.runTrace World.exec readOnlyTunableWorld = tr₁ ++ tr₂ ∧
            Coro.Finishes (_listGovernorTunables (.num 0) none) tr₁ (.ok (g, pc, valid)) ∧
            (∀ x ∈ tr₁, ReadOnly x.1) ∧
            LoopTrace (.num 0) g none pc valid [("sampling_rate_min", "20000")] tr₂
              (t.run World.exec readOnlyTunableWorld).1)) :=
  ⟨Coro.finishes_run _ _ _, setGovernorTunables_trace (Coro.finishes_run _ _ _)⟩

end Devlib.Cpufreq

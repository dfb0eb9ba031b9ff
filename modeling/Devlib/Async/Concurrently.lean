import Devlib.Async.Coro

/-!
# Interleaved runs of `concurrently`

`async_manager.concurrently` starts every task of a list and lets their
suspension points interleave. A run picks, at each step, one unfinished task
and answers its pending operation from the current world. A task that raises
ends the run with its exception: the coordinator cancels the others, which
issue no further operation. The run records, for every step, the index of the
task, the world before the step and the operation.

## Implementation notes

Operations are atomic. A task cancelled before it issued its next operation
never issues it; an operation that was already issued when another task
failed is placed before the failing step, so every asyncio schedule is one
run here. A failed task may stay in the pool while the others go on, and the
run ends whenever its failure is picked: this only adds runs.

Task safety is stated rely-guarantee style. `Safe R G Q t w` says that from
`w`, after any number of moves of the environment in `R`, every own step of
`t` lies in `G` and its outcome satisfies `Q`. Tasks whose guarantees lie in
each other's relies stay safe along any interleaving (`Concurrently.safe`).
-/

namespace Devlib.Async

open Relation

variable {Op : Type} {Resp : Op → Type} {ε α β : Type} {W : Type}
variable (exec : W → (o : Op) → Resp o × W)

/-- One run of `concurrently` over the task pool `ts`, from world `w` to `w'`,
with outcome `res` and the trace of steps `(task, world before, operation)`. -/
inductive Concurrently : W → List (Coro Op Resp ε α) → W → Except ε (List α) →
    List (ℕ × W × Op) → Prop
  /-- Every task has returned: the results come back in input order. -/
  | finish {w : W} (as : List α) :
      Concurrently w (as.map fun a => .done (.ok a)) w (.ok as) []
  /-- Some task has raised: its exception ends the run. -/
  | fail {w : W} {ts : List (Coro Op Resp ε α)} {i : ℕ} {e : ε} :
      ts[i]? = some (.done (.error e)) → Concurrently w ts w (.error e) []
  /-- Some suspended task is resumed with the response of its operation. -/
  | step {w : W} {ts : List (Coro Op Resp ε α)} {i : ℕ} {o : Op}
      {k : Resp o → Coro Op Resp ε α} {w' res tr} :
      ts[i]? = some (.op o k) →
      Concurrently (exec w o).2 (ts.set i (k (exec w o).1)) w' res tr →
      Concurrently w ts w' res ((i, w, o) :: tr)

/-- Running the tasks one after another, stopping at the first exception. -/
def seqRun : List (Coro Op Resp ε α) → W → Except ε (List α) × W
  | [], w => (.ok [], w)
  | t :: ts, w =>
    match t.run exec w with
    | (.ok a, w₁) =>
      match seqRun ts w₁ with
      | (.ok as, w₂) => (.ok (a :: as), w₂)
      | (.error e, w₂) => (.error e, w₂)
    | (.error e, w₁) => (.error e, w₁)

@[simp] theorem seqRun_nil (w : W) :
    seqRun exec ([] : List (Coro Op Resp ε α)) w = (.ok [], w) := rfl

theorem seqRun_op_cons (o : Op) (k : Resp o → Coro Op Resp ε α) (ts) (w : W) :
    seqRun exec (.op o k :: ts) w = seqRun exec (k (exec w o).1 :: ts) (exec w o).2 := rfl

/-- A returned task in front of the pool only shifts the indices of the others. -/
theorem Concurrently.cons_done {w w' : W} {ts : List (Coro Op Resp ε α)} {res tr}
    (h : Concurrently exec w ts w' res tr) (a : α) :
    Concurrently exec w (.done (.ok a) :: ts) w' (res.map (a :: ·))
      (tr.map fun x => (x.1 + 1, x.2)) := by
  induction h with
  | finish as => exact .finish (a :: as)
  | fail hi => exact .fail (i := _ + 1) (by simpa using hi)
  | step hi _ ih => exact .step (i := _ + 1) (by simpa using hi) (by simpa using ih)

/-- Running the tasks one after another is one of the interleavings. -/
theorem seqRun_concurrently (ts : List (Coro Op Resp ε α)) (w : W) :
    ∃ tr, Concurrently exec w ts (seqRun exec ts w).2 (seqRun exec ts w).1 tr := by
  induction ts generalizing w with
  | nil => exact ⟨[], .finish []⟩
  | cons t ts ih =>
    induction t generalizing w with
    | done r =>
      cases r with
      | ok a =>
        obtain ⟨tr, h⟩ := ih w
        have h' := h.cons_done exec a
        simp only [seqRun, Coro.run_done]
        cases hs : seqRun exec ts w with
        | mk res w₂ => cases res <;> exact ⟨_, by simpa [hs] using h'⟩
      | error e => exact ⟨[], .fail (i := 0) (by simp)⟩
    | op o k ihk =>
      obtain ⟨tr, h⟩ := ihk (exec w o).1 (exec w o).2
      exact ⟨_, .step (i := 0) (o := o) (k := k) (by simp) (by simpa only [seqRun_op_cons] using h)⟩

variable {exec} in
/-- Tasks that issue only operations in `P` make a run whose every step is in `P`. -/
theorem Concurrently.opsIn {P : Op → Prop} {w w' : W} {ts : List (Coro Op Resp ε α)} {res tr}
    (run : Concurrently exec w ts w' res tr) (hts : ∀ t ∈ ts, Coro.OpsIn P t) :
    ∀ x ∈ tr, P x.2.2 := by
  induction run with
  | finish => simp
  | fail => simp
  | step hj _ ih =>
    cases hts _ (List.getElem?_mem hj) with
    | op ho hk =>
      refine List.forall_mem_cons.mpr ⟨ho, ih fun t ht => ?_⟩
      rcases List.mem_or_eq_of_mem_set ht with ht | rfl
      · exact hts t ht
      · exact hk _

variable {exec} in
/-- Every step of a run belongs to a task of the pool. -/
theorem Concurrently.index_lt {w w' : W} {ts : List (Coro Op Resp ε α)} {res tr}
    (run : Concurrently exec w ts w' res tr) : ∀ x ∈ tr, x.1 < ts.length := by
  induction run with
  | finish => simp
  | fail => simp
  | step hj _ ih =>
    simpa [List.length_set, (List.getElem?_eq_some_iff.mp hj).1] using ih

/-! ## Rely-guarantee safety of a task -/

section Safe

variable (R : W → W → Prop) (G : W → Op → W → Prop)

/-- From `w`, after any environment moves, each own step lies in `G`, and the
outcome satisfies `Q`. -/
def Safe (Q : Except ε α → W → Prop) : Coro Op Resp ε α → W → Prop
  | .done r, w => ∀ w', ReflTransGen R w w' → Q r w'
  | .op o k, w => ∀ w', ReflTransGen R w w' →
      G w' o (exec w' o).2 ∧ Safe Q (k (exec w' o).1) (exec w' o).2

/-- A predicate that no environment move falsifies. -/
def Stable (P : W → Prop) : Prop := ∀ w w', R w w' → P w → P w'

variable {exec R G}

theorem safe_done_iff {Q : Except ε α → W → Prop} {r : Except ε α} {w : W} :
    Safe exec R G Q (.done r) w ↔ ∀ w', ReflTransGen R w w' → Q r w' := Iff.rfl

theorem safe_op_iff {Q : Except ε α → W → Prop} {o : Op} {k : Resp o → Coro Op Resp ε α} {w : W} :
    Safe exec R G Q (.op o k) w ↔ ∀ w', ReflTransGen R w w' →
      G w' o (exec w' o).2 ∧ Safe exec R G Q (k (exec w' o).1) (exec w' o).2 := Iff.rfl

theorem Stable.rtc {P : W → Prop} (hP : Stable R P) {w w' : W} (h : ReflTransGen R w w')
    (hw : P w) : P w' := by
  induction h with
  | refl => exact hw
  | tail _ hr ih => exact hP _ _ hr ih

/-- Safety survives environment moves. -/
theorem Safe.rely {Q : Except ε α → W → Prop} {t : Coro Op Resp ε α} {w w' : W}
    (h : Safe exec R G Q t w) (hw : ReflTransGen R w w') : Safe exec R G Q t w' := by
  cases t with
  | done r => exact safe_done_iff.mpr fun w'' h' => safe_done_iff.mp h w'' (hw.trans h')
  | op o k => exact safe_op_iff.mpr fun w'' h' => safe_op_iff.mp h w'' (hw.trans h')

theorem safe_done {Q : Except ε α → W → Prop} {r : Except ε α} {w : W}
    (hQ : Stable R (Q r)) (hw : Q r w) : Safe exec R G Q (.done r) w :=
  fun _ h => hQ.rtc h hw

/-- The step rule: a stable precondition that makes each step good. -/
theorem safe_op {Q : Except ε α → W → Prop} {o : Op} {k : Resp o → Coro Op Resp ε α}
    {P : W → Prop} (hP : Stable R P) {w : W} (hw : P w)
    (h : ∀ w, P w → G w o (exec w o).2 ∧ Safe exec R G Q (k (exec w o).1) (exec w o).2) :
    Safe exec R G Q (.op o k) w :=
  safe_op_iff.mpr fun w' hr => h w' (hP.rtc hr hw)

/-- The sequencing rule. -/
theorem safe_bind {Q' : Except ε α → W → Prop} {Q : Except ε β → W → Prop}
    {t : Coro Op Resp ε α} {f : α → Coro Op Resp ε β} {w : W}
    (ht : Safe exec R G Q' t w) (hf : ∀ a w, Q' (.ok a) w → Safe exec R G Q (f a) w)
    (he : ∀ e w, Q' (.error e) w → Q (.error e) w) : Safe exec R G Q (t.bind f) w := by
  induction t generalizing w with
  | done r =>
    cases r with
    | ok a => exact hf a w (safe_done_iff.mp ht w .refl)
    | error e => exact safe_done_iff.mpr fun w' hw => he e w' (safe_done_iff.mp ht w' hw)
  | op o k ih =>
    exact safe_op_iff.mpr fun w' hw =>
      ⟨(safe_op_iff.mp ht w' hw).1, ih _ (safe_op_iff.mp ht w' hw).2⟩

theorem Safe.mono {Q Q' : Except ε α → W → Prop} {G' : W → Op → W → Prop}
    {t : Coro Op Resp ε α} {w : W} (h : Safe exec R G Q t w)
    (hG : ∀ w o w', G w o w' → G' w o w') (hQ : ∀ r w, Q r w → Q' r w) :
    Safe exec R G' Q' t w := by
  induction t generalizing w with
  | done r => exact safe_done_iff.mpr fun w' hw => hQ r w' (safe_done_iff.mp h w' hw)
  | op o k ih =>
    exact safe_op_iff.mpr fun w' hw =>
      ⟨hG _ _ _ (safe_op_iff.mp h w' hw).1, ih _ (safe_op_iff.mp h w' hw).2⟩

/-- A task whose every operation keeps an invariant is safe for it. -/
theorem safe_of_opsIn {P : Op → Prop} {I : W → Prop} (hI : Stable R I)
    (hstep : ∀ w o, I w → P o → G w o (exec w o).2 ∧ I (exec w o).2)
    {t : Coro Op Resp ε α} (ht : Coro.OpsIn P t) {w : W} (hw : I w) :
    Safe exec R G (fun _ w => I w) t w := by
  induction ht generalizing w with
  | done r => exact safe_done (hI) hw
  | op ho _ ih => exact safe_op hI hw fun w hw => ⟨(hstep w _ hw ho).1, ih _ (hstep w _ hw ho).2⟩

/-- Safety against more environment moves gives safety against fewer. -/
theorem Safe.of_rely {R' : W → W → Prop} (hR : ∀ w w', R w w' → R' w w')
    {Q : Except ε α → W → Prop} {t : Coro Op Resp ε α} {w : W} (h : Safe exec R' G Q t w) :
    Safe exec R G Q t w := by
  induction t generalizing w with
  | done r => exact fun w' hw => h w' (hw.mono hR)
  | op o k ih => exact fun w' hw => ⟨(h w' (hw.mono hR)).1, ih _ (h w' (hw.mono hR)).2⟩

/-- Two safety facts of one task under one rely combine. -/
theorem Safe.and {G' : W → Op → W → Prop} {Q Q' : Except ε α → W → Prop}
    {t : Coro Op Resp ε α} {w : W} (h : Safe exec R G Q t w) (h' : Safe exec R G' Q' t w) :
    Safe exec R (fun w o w' => G w o w' ∧ G' w o w') (fun r w => Q r w ∧ Q' r w) t w := by
  induction t generalizing w with
  | done r => exact fun w' hw => ⟨h w' hw, h' w' hw⟩
  | op o k ih => exact fun w' hw => ⟨⟨(h w' hw).1, (h' w' hw).1⟩, ih _ (h w' hw).2 (h' w' hw).2⟩

/-- A fact that the environment and the task's own steps keep holds at the end. -/
theorem Safe.frame {P : W → Prop} {Q : Except ε α → W → Prop} {t : Coro Op Resp ε α} {w : W}
    (h : Safe exec R G Q t w) (hR : Stable R P) (hG : ∀ w o, G w o (exec w o).2 → P w → P (exec w o).2)
    (hw : P w) : Safe exec R G (fun r w => Q r w ∧ P w) t w := by
  induction t generalizing w with
  | done r => exact fun w' hr => ⟨h w' hr, hR.rtc hr hw⟩
  | op o k ih => exact fun w' hr => ⟨(h w' hr).1, ih _ (h w' hr).2 (hG w' o (h w' hr).1 (hR.rtc hr hw))⟩

/-- Alone in the world, a safe task ends with an outcome satisfying `Q`. -/
theorem Safe.run {Q : Except ε α → W → Prop} {t : Coro Op Resp ε α} {w : W}
    (h : Safe exec R G Q t w) : Q (t.run exec w).1 (t.run exec w).2 := by
  induction t generalizing w with
  | done r => exact safe_done_iff.mp h w .refl
  | op o k ih => exact ih _ (safe_op_iff.mp h w .refl).2

end Safe

variable {exec}

/-- An invariant every step of a run keeps holds at each moment of the run and at its end. -/
theorem Concurrently.preserves {I : W → Prop} {w w' : W} {ts : List (Coro Op Resp ε α)} {res tr}
    (run : Concurrently exec w ts w' res tr)
    (hstep : ∀ x ∈ tr, I x.2.1 → I (exec x.2.1 x.2.2).2) (hw : I w) :
    (∀ x ∈ tr, I x.2.1) ∧ I w' := by
  induction run with
  | finish => exact ⟨by simp, hw⟩
  | fail => exact ⟨by simp, hw⟩
  | step _ _ ih =>
    obtain ⟨htr, hw'⟩ :=
      ih (fun x hx => hstep x (List.mem_cons_of_mem _ hx)) (hstep _ (List.mem_cons_self _ _) hw)
    exact ⟨List.forall_mem_cons.mpr ⟨hw, htr⟩, hw'⟩

/-- A run where every task returned has one result per task. -/
theorem Concurrently.length_ok {w w' : W} {ts : List (Coro Op Resp ε α)} {res tr}
    (run : Concurrently exec w ts w' res tr) {as : List α} (hres : res = .ok as) :
    as.length = ts.length := by
  induction run with
  | finish => cases hres; simp
  | fail => cases hres
  | step _ _ ih => rw [ih hres, List.length_set]

/-- Interleaving tasks whose guarantees lie in each other's relies: every step
of the run lies in its task's guarantee, and the outcome satisfies the
postcondition of the task it comes from. -/
theorem Concurrently.safe {R : ℕ → W → W → Prop} {G : ℕ → W → Op → W → Prop}
    {Q : ℕ → Except ε α → W → Prop} {w w' : W} {ts : List (Coro Op Resp ε α)} {res tr}
    (run : Concurrently exec w ts w' res tr)
    (hni : ∀ i j, i < ts.length → j < ts.length → i ≠ j →
      ∀ w o, G i w o (exec w o).2 → R j w (exec w o).2)
    (hs : ∀ i t, ts[i]? = some t → Safe exec (R i) (G i) (Q i) t w) :
    (∀ x ∈ tr, G x.1 x.2.1 x.2.2 (exec x.2.1 x.2.2).2) ∧
      (∀ as, res = .ok as → ∀ i a, as[i]? = some a → Q i (.ok a) w') ∧
      (∀ e, res = .error e → ∃ i, Q i (.error e) w') := by
  induction run with
  | finish as =>
    refine ⟨by simp, fun bs hb i a ha => ?_, by simp⟩
    cases hb
    exact safe_done_iff.mp (hs i _ (by simp [ha])) _ .refl
  | fail hi =>
    exact ⟨by simp, by simp, fun e he => ⟨_, by cases he; exact safe_done_iff.mp (hs _ _ hi) _ .refl⟩⟩
  | @step w ts i o k w' res tr hi _ ih =>
    have hsi := safe_op_iff.mp (hs i _ hi) w .refl
    obtain ⟨hlt, -⟩ := List.getElem?_eq_some_iff.mp hi
    obtain ⟨htr, hok, herr⟩ := ih (by simpa only [List.length_set] using hni) fun j t hj => by
      by_cases hij : j = i
      · subst hij
        rw [List.getElem?_set_self hlt, Option.some.injEq] at hj
        exact hj ▸ hsi.2
      · rw [List.getElem?_set_ne (Ne.symm hij)] at hj
        exact (hs j t hj).rely (.single (hni i j hlt (List.getElem?_eq_some_iff.mp hj).1
          (Ne.symm hij) w o hsi.1))
    exact ⟨by simpa [hsi.1] using htr, hok, herr⟩

/-- One task per element of a list, each safe against one rely that every
task's guarantee lies in: each step of a run is a step of some element's
task, when every task returned each element's postcondition holds, and an
exception that ends the run satisfies the postcondition of some element. -/
theorem Concurrently.safe_map {β : Type} {l : List β} {task : β → Coro Op Resp ε α}
    {R : W → W → Prop} {G : β → W → Op → W → Prop} {Q : β → Except ε α → W → Prop}
    (hGR : ∀ b w o, G b w o (exec w o).2 → R w (exec w o).2) {w w' : W} {res tr}
    (run : Concurrently exec w (l.map task) w' res tr) (hs : ∀ b ∈ l, Safe exec R (G b) (Q b) (task b) w) :
    (∀ x ∈ tr, ∃ b ∈ l, G b x.2.1 x.2.2 (exec x.2.1 x.2.2).2) ∧
      (∀ as, res = .ok as → ∀ b ∈ l, ∃ a, Q b (.ok a) w') ∧
      ∀ e, res = .error e → ∃ b ∈ l, Q b (.error e) w' := by
  obtain ⟨hstep, hok, herr⟩ := run.safe (R := fun _ => R)
    (G := fun i w o w' => ∃ b, l[i]? = some b ∧ G b w o w') (Q := fun i r w => ∃ b, l[i]? = some b ∧ Q b r w)
    (fun _ _ _ _ _ w o ⟨b, _, h⟩ => hGR b w o h) fun i t ht => by
      obtain ⟨b, hb, rfl⟩ := Option.map_eq_some'.mp (List.getElem?_map task l i ▸ ht)
      exact (hs b (List.getElem?_mem hb)).mono (fun w o w' h => ⟨b, hb, h⟩) fun r w h => ⟨b, hb, h⟩
  refine ⟨fun x hx => ?_, fun as has b hb => ?_, fun e he => ?_⟩
  · obtain ⟨b, hb, h⟩ := hstep x hx
    exact ⟨b, List.getElem?_mem hb, h⟩
  · obtain ⟨i, hi⟩ := List.mem_iff_getElem?.mp hb
    have hlt : i < as.length := by
      rw [run.length_ok has, List.length_map]; exact (List.getElem?_eq_some_iff.mp hi).1
    obtain ⟨b', hb', h⟩ := hok as has i _ (List.getElem?_eq_getElem hlt)
    exact ⟨_, Option.some_inj.mp (hb'.symm.trans hi) ▸ h⟩
  · obtain ⟨i, b, hb, h⟩ := herr e he
    exact ⟨b, List.getElem?_mem hb, h⟩

end Devlib.Async

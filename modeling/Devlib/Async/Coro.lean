import Mathlib.Logic.Relation

/-!
# Suspendable computations

The coroutine behind every `asyn.asyncf` method of the repository. A
computation has either finished, with a value or a raised exception, or it is
suspended at one operation and resumes with that operation's response. The
operations and their response types are parameters, so one type serves every
interface the module talks to.

A run against a deterministic world answers each operation in turn. Facts
that hold whatever the responses are stated over the finished traces of the
tree instead.
-/

namespace Devlib.Async

/-- A suspendable computation over operations `Op` whose responses have types `Resp`. -/
inductive Coro (Op : Type) (Resp : Op → Type) (ε α : Type) : Type where
  /-- The computation has returned or raised. -/
  | done (r : Except ε α)
  /-- The computation awaits `o` and continues with its response. -/
  | op (o : Op) (k : Resp o → Coro Op Resp ε α)

namespace Coro

variable {Op : Type} {Resp : Op → Type} {ε α β γ : Type}

/-- Sequencing: continue with `f` after a value, pass an exception on. -/
def bind : Coro Op Resp ε α → (α → Coro Op Resp ε β) → Coro Op Resp ε β
  | .done (.ok a), f => f a
  | .done (.error e), _ => .done (.error e)
  | .op o k, f => .op o fun r => (k r).bind f

instance : Monad (Coro Op Resp ε) where
  pure a := .done (.ok a)
  bind := bind

@[simp] theorem pure_eq (a : α) : (pure a : Coro Op Resp ε α) = .done (.ok a) := rfl

@[simp] theorem bind_eq (t : Coro Op Resp ε α) (f : α → Coro Op Resp ε β) :
    t >>= f = t.bind f := rfl

@[simp] theorem done_ok_bind (a : α) (f : α → Coro Op Resp ε β) :
    (Coro.done (.ok a)).bind f = f a := rfl

@[simp] theorem done_error_bind (e : ε) (f : α → Coro Op Resp ε β) :
    (Coro.done (.error e) : Coro Op Resp ε α).bind f = .done (.error e) := rfl

@[simp] theorem op_bind (o : Op) (k : Resp o → Coro Op Resp ε α) (f : α → Coro Op Resp ε β) :
    (Coro.op o k).bind f = .op o fun r => (k r).bind f := rfl

theorem bind_assoc (t : Coro Op Resp ε α) (f : α → Coro Op Resp ε β)
    (g : β → Coro Op Resp ε γ) : (t.bind f).bind g = t.bind fun a => (f a).bind g := by
  induction t with
  | done r => cases r <;> rfl
  | op o k ih => simp only [op_bind, ih]

theorem bind_done_ok (t : Coro Op Resp ε α) : t.bind (fun a => .done (.ok a)) = t := by
  induction t with
  | done r => cases r <;> rfl
  | op o k ih => simp only [op_bind, ih]

instance : LawfulMonad (Coro Op Resp ε) :=
  LawfulMonad.mk' _ (fun t => bind_done_ok t) (fun _ _ => rfl) bind_assoc

/-- Catching: an exception raised by the computation is handed to `h`. -/
def tryCatch : Coro Op Resp ε α → (ε → Coro Op Resp ε α) → Coro Op Resp ε α
  | .done (.ok a), _ => .done (.ok a)
  | .done (.error e), h => h e
  | .op o k, h => .op o fun r => (k r).tryCatch h

instance : MonadExceptOf ε (Coro Op Resp ε) where
  throw e := .done (.error e)
  tryCatch := tryCatch

@[simp] theorem throw_eq (e : ε) : (throw e : Coro Op Resp ε α) = .done (.error e) := rfl

/-- Awaiting one operation and returning its response. -/
def call (o : Op) : Coro Op Resp ε (Resp o) := .op o fun r => .done (.ok r)

@[simp] theorem call_bind (o : Op) (f : Resp o → Coro Op Resp ε β) :
    (call o).bind f = .op o f := rfl

/-! ## Runs against a deterministic world -/

section Run

variable {W : Type} (exec : W → (o : Op) → Resp o × W)

/-- Answer every operation from the current world, in order. -/
def run : Coro Op Resp ε α → W → Except ε α × W
  | .done r, w => (r, w)
  | .op o k, w => (k (exec w o).1).run (exec w o).2

@[simp] theorem run_done (r : Except ε α) (w : W) : (Coro.done r).run exec w = (r, w) := rfl

@[simp] theorem run_op (o : Op) (k : Resp o → Coro Op Resp ε α) (w : W) :
    (Coro.op o k).run exec w = (k (exec w o).1).run exec (exec w o).2 := rfl

theorem run_bind (t : Coro Op Resp ε α) (f : α → Coro Op Resp ε β) (w : W) :
    (t.bind f).run exec w =
      match t.run exec w with
      | (.ok a, w') => (f a).run exec w'
      | (.error e, w') => (.error e, w') := by
  induction t generalizing w with
  | done r => cases r <;> rfl
  | op o k ih => exact ih _ _

end Run

/-! ## Finished traces -/

/-- `Finishes t tr r`: answering the operations of `t` with the responses of `tr`,
in order, ends the computation with `r`. -/
inductive Finishes : Coro Op Resp ε α → List (Σ o, Resp o) → Except ε α → Prop
  | done (r : Except ε α) : Finishes (.done r) [] r
  | op {o : Op} {k : Resp o → Coro Op Resp ε α} {x : Resp o} {tr r} :
      Finishes (k x) tr r → Finishes (.op o k) (⟨o, x⟩ :: tr) r

/-- A finished trace of a sequence splits at the point where the first part returned. -/
theorem finishes_bind {t : Coro Op Resp ε α} {f : α → Coro Op Resp ε β} {tr r}
    (h : Finishes (t.bind f) tr r) :
    (∃ a tr₁ tr₂, tr = tr₁ ++ tr₂ ∧ Finishes t tr₁ (.ok a) ∧ Finishes (f a) tr₂ r) ∨
      (∃ e, Finishes t tr (.error e) ∧ r = .error e) := by
  induction t generalizing tr with
  | done r₀ =>
    cases r₀ with
    | ok a => exact .inl ⟨a, [], tr, rfl, .done _, h⟩
    | error e => cases h; exact .inr ⟨e, .done _, rfl⟩
  | op o k ih =>
    cases h with
    | op h =>
      rcases ih _ h with ⟨a, tr₁, tr₂, rfl, h₁, h₂⟩ | ⟨e, h₁, rfl⟩
      · exact .inl ⟨a, _ :: tr₁, tr₂, rfl, .op h₁, h₂⟩
      · exact .inr ⟨e, .op h₁, rfl⟩

/-- The operations a run against `exec` awaits, each with its response. -/
def runTrace {W : Type} (exec : W → (o : Op) → Resp o × W) :
    Coro Op Resp ε α → W → List (Σ o, Resp o)
  | .done _, _ => []
  | .op o k, w => ⟨o, (exec w o).1⟩ :: (k (exec w o).1).runTrace exec (exec w o).2

/-- A run is one of the finished traces. -/
theorem finishes_run {W : Type} (exec : W → (o : Op) → Resp o × W) (t : Coro Op Resp ε α)
    (w : W) : Finishes t (t.runTrace exec w) (t.run exec w).1 := by
  induction t generalizing w with
  | done r => exact .done r
  | op o k ih => exact .op (ih _ _)

theorem Finishes.done_iff {r₀ r : Except ε α} {tr : List (Σ o, Resp o)} :
    Finishes (.done r₀ : Coro Op Resp ε α) tr r ↔ tr = [] ∧ r = r₀ := by
  constructor
  · rintro ⟨⟩; exact ⟨rfl, rfl⟩
  · rintro ⟨rfl, rfl⟩; exact .done _

theorem Finishes.op_iff {o : Op} {k : Resp o → Coro Op Resp ε α} {tr r} :
    Finishes (.op o k) tr r ↔ ∃ x tr', tr = ⟨o, x⟩ :: tr' ∧ Finishes (k x) tr' r := by
  constructor
  · rintro (_ | @⟨_, _, x, tr', _, h⟩); exact ⟨x, tr', rfl, h⟩
  · rintro ⟨x, tr', rfl, h⟩; exact .op h

/-- A finished trace of a guarded computation: the computation returned, or it
raised after a prefix of the trace and the handler finished the rest. -/
theorem finishes_tryCatch {t : Coro Op Resp ε α} {h : ε → Coro Op Resp ε α} {tr r}
    (hf : Finishes (t.tryCatch h) tr r) :
    (∃ a, Finishes t tr (.ok a) ∧ r = .ok a) ∨
      ∃ e tr₁ tr₂, tr = tr₁ ++ tr₂ ∧ Finishes t tr₁ (.error e) ∧ Finishes (h e) tr₂ r := by
  induction t generalizing tr with
  | done r₀ =>
    cases r₀ with
    | ok a => cases hf; exact .inl ⟨a, .done _, rfl⟩
    | error e => exact .inr ⟨e, [], tr, rfl, .done _, hf⟩
  | op o k ih =>
    cases hf with
    | op hf =>
      rcases ih _ hf with ⟨a, h₁, rfl⟩ | ⟨e, tr₁, tr₂, rfl, h₁, h₂⟩
      · exact .inl ⟨a, .op h₁, rfl⟩
      · exact .inr ⟨e, _ :: tr₁, tr₂, rfl, .op h₁, h₂⟩

/-! ## Operations a computation can issue -/

/-- Every operation `t` may issue, whatever the responses, satisfies `P`. -/
inductive OpsIn (P : Op → Prop) : Coro Op Resp ε α → Prop
  | done (r : Except ε α) : OpsIn P (.done r)
  | op {o : Op} {k : Resp o → Coro Op Resp ε α} : P o → (∀ x, OpsIn P (k x)) → OpsIn P (.op o k)

theorem OpsIn.bind {P : Op → Prop} {t : Coro Op Resp ε α} {f : α → Coro Op Resp ε β}
    (ht : OpsIn P t) (hf : ∀ a, OpsIn P (f a)) : OpsIn P (t.bind f) := by
  induction ht with
  | done r => cases r with
    | ok a => exact hf a
    | error e => exact .done _
  | op ho _ ih => exact .op ho ih

theorem OpsIn.mono {P Q : Op → Prop} {t : Coro Op Resp ε α} (ht : OpsIn P t)
    (h : ∀ o, P o → Q o) : OpsIn Q t := by
  induction ht with
  | done r => exact .done r
  | op ho _ ih => exact .op (h _ ho) ih

theorem OpsIn.tryCatch {P : Op → Prop} {t : Coro Op Resp ε α} {h : ε → Coro Op Resp ε α}
    (ht : OpsIn P t) (hh : ∀ e, OpsIn P (h e)) : OpsIn P (t.tryCatch h) := by
  induction ht with
  | done r => cases r with
    | ok a => exact .done _
    | error e => exact hh e
  | op ho _ ih => exact .op ho ih

/-- The operations of a finished trace are among those the computation may issue. -/
theorem OpsIn.finishes {P : Op → Prop} {t : Coro Op Resp ε α} (ht : OpsIn P t) {tr r}
    (h : Finishes t tr r) : ∀ x ∈ tr, P x.1 := by
  induction h with
  | done r => simp
  | @op o k x tr r _ ih =>
    cases ht with
    | op ho hk =>
      intro y hy
      rcases List.mem_cons.mp hy with rfl | hy
      · exact ho
      · exact ih (hk x) y hy

end Coro

end Devlib.Async

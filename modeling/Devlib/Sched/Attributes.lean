import Devlib.Sched.Target

/-!
# Kernel attributes

`get_kernel_attributes` runs the `sched_get_kernel_attributes` utility and
reads its lines `name:value`: `0` and `1` become booleans, other decimal
numerals integers. The local `value` is assigned only in those two branches
and lives on from one iteration to the next, so a line with any other value
takes the value of the last line before it that had one, and raises
`UnboundLocalError` when no line before it had one.
-/

namespace Devlib.Sched

open Devlib.Text

/-- A value of `get_kernel_attributes`: `bool` for `0` and `1`, `int` otherwise. -/
inductive AttrValue where
  | bool (b : Bool)
  | int (i : ℤ)
  deriving DecidableEq

/-- What the loop assigns to `value` for `value_s`, if it assigns anything. -/
def parseAttrValue (valueS : String) : Option AttrValue :=
  if valueS = "0" ∨ valueS = "1" then some (.bool (valueS = "1"))
  else if isdigit valueS then (parseInt valueS).map .int
  else none

/-- The loop of `get_kernel_attributes` over the output's lines, with `value`
as the iterations before left it. -/
def attributesLoop : List String → Option AttrValue → List (String × AttrValue) →
    Except Error (List (String × AttrValue))
  | [], _, result => .ok result
  | entry :: entries, value, result =>
    if ':' ∈ entry.data then
      match splitOnce (strip entry) ':' with
      | (path, valueS) =>
        match (parseAttrValue valueS).or value with
        | some v => attributesLoop entries (some v) (dictInsert result (path, v))
        | none => .error (.unboundLocalError "value")
    else attributesLoop entries value result

/-- `get_kernel_attributes(matching)`. -/
def getKernelAttributes (t : Target) (matching : Option String) :
    Except Error (List (String × AttrValue)) := do
  let output ← t.executeUtil ("sched_get_kernel_attributes " ++ matching.getD "")
  attributesLoop (splitOn (strip output) '\n') none []

/-- The entry a line gives when read on its own: `name ↦ value` for a line
`name:value` whose value is a decimal numeral. -/
def ownEntry (entry : String) : Option (String × AttrValue) :=
  if ':' ∈ entry.data then
    (parseAttrValue (splitOnce (strip entry) ':').2).map ((splitOnce (strip entry) ':').1, ·)
  else none

/-- A line `name:value` whose value is not a decimal numeral. -/
def NonNumeral (entry : String) : Prop :=
  ':' ∈ entry.data ∧ parseAttrValue (splitOnce (strip entry) ':').2 = none

instance : DecidablePred NonNumeral := fun _ => inferInstanceAs (Decidable (_ ∧ _))

/-- With no line of a non-numeral value, the loop reads each line on its own. -/
theorem attributesLoop_own {entries : List String} (h : ∀ e ∈ entries, ¬NonNumeral e)
    (value : Option AttrValue) (result : List (String × AttrValue)) :
    attributesLoop entries value result = .ok ((entries.filterMap ownEntry).foldl dictInsert result) := by
  induction entries generalizing value result with
  | nil => rfl
  | cons e entries ih =>
    have ih' := ih fun e' he' => h e' (List.mem_cons_of_mem _ he')
    have he := h e (List.mem_cons_self _ _)
    by_cases hc : ':' ∈ e.data
    · obtain ⟨v, hv⟩ := Option.ne_none_iff_exists'.mp fun hn => he ⟨hc, hn⟩
      simp [attributesLoop, hc, hv, ownEntry, ih']
    · simp [attributesLoop, hc, ownEntry, ih']

/-- When every value of the output is a decimal numeral, `get_kernel_attributes`
maps each name to the value of its own line, the last such line winning. -/
theorem getKernelAttributes_own_lines {t : Target} {matching : Option String} {output : String}
    (ho : t.executeUtil ("sched_get_kernel_attributes " ++ matching.getD "") = .ok output)
    (hnum : ∀ e ∈ splitOn (strip output) '\n', ¬NonNumeral e) :
    getKernelAttributes t matching = .ok (pyDict ((splitOn (strip output) '\n').filterMap ownEntry)) := by
  simp only [getKernelAttributes, ho, bind, Except.bind, attributesLoop_own hnum, pyDict]

/-- A target whose utility prints `output` for `sched_get_kernel_attributes`
with no pattern. -/
def utilTarget (output : String) : Target where
  fs := .dir []
  schedFeatures := none
  util := fun cmd => if cmd = "sched_get_kernel_attributes " then .ok output else .error (.io cmd)
  onlineCpus := [0]

theorem getKernelAttributes_latency :
    (∀ e ∈ splitOn (strip "latency_ns:6000000\nchild_runs_first:0") '\n', ¬NonNumeral e) ∧
      getKernelAttributes (utilTarget "latency_ns:6000000\nchild_runs_first:0") none =
        .ok [("latency_ns", .int 6000000), ("child_runs_first", .bool false)] :=
  ⟨by decide, @getKernelAttributes_own_lines (utilTarget "latency_ns:6000000\nchild_runs_first:0") none _
    rfl (by decide)⟩

/-- The loop raises `UnboundLocalError` at a line of a non-numeral value when
`value` is still unassigned. -/
theorem attributesLoop_unbound {entries rest : List String} {e : String} (he : NonNumeral e)
    (hbefore : ∀ e' ∈ entries, ':' ∉ e'.data) (result : List (String × AttrValue)) :
    attributesLoop (entries ++ e :: rest) none result = .error (.unboundLocalError "value") := by
  induction entries generalizing result with
  | nil => simp [attributesLoop, he.1, he.2]
  | cons e' entries ih =>
    simp only [List.cons_append, attributesLoop, if_neg (hbefore e' (List.mem_cons_self _ _))]
    exact ih (fun e'' h => hbefore e'' (List.mem_cons_of_mem _ h)) result

/-- When the first line holding `:` has a value that is not a decimal numeral,
`get_kernel_attributes` raises `UnboundLocalError`. -/
theorem getKernelAttributes_unbound {t : Target} {matching : Option String} {output : String}
    (ho : t.executeUtil ("sched_get_kernel_attributes " ++ matching.getD "") = .ok output)
    {entries rest : List String} {e : String} (hsplit : splitOn (strip output) '\n' = entries ++ e :: rest)
    (hbefore : ∀ e' ∈ entries, ':' ∉ e'.data) (he : NonNumeral e) :
    getKernelAttributes t matching = .error (.unboundLocalError "value") := by
  simp only [getKernelAttributes, ho, bind, Except.bind, hsplit, attributesLoop_unbound he hbefore]

theorem getKernelAttributes_unbound_rt_runtime :
    (utilTarget "rt_runtime_us:-1\nrt_period_us:1000000").executeUtil "sched_get_kernel_attributes " =
        .ok "rt_runtime_us:-1\nrt_period_us:1000000" ∧
      splitOn (strip "rt_runtime_us:-1\nrt_period_us:1000000") '\n' = [] ++ "rt_runtime_us:-1" :: ["rt_period_us:1000000"] ∧
      NonNumeral "rt_runtime_us:-1" ∧
      getKernelAttributes (utilTarget "rt_runtime_us:-1\nrt_period_us:1000000") none =
        .error (.unboundLocalError "value") :=
  ⟨rfl, rfl, by decide, @getKernelAttributes_unbound _ none _ rfl _ _ _ rfl (fun _ h => absurd h (List.not_mem_nil _))
    (by decide)⟩

/-- `rt_runtime_us` reads `-1` while real-time throttling is off. After
`rt_period_us` it takes that line's value; as the first line it raises. -/
theorem getKernelAttributes_rt_runtime :
    getKernelAttributes (utilTarget "rt_period_us:1000000\nrt_runtime_us:-1") none =
        .ok [("rt_period_us", .int 1000000), ("rt_runtime_us", .int 1000000)] ∧
      getKernelAttributes (utilTarget "rt_runtime_us:-1\nrt_period_us:1000000") none =
        .error (.unboundLocalError "value") :=
  ⟨rfl, rfl⟩

end Devlib.Sched

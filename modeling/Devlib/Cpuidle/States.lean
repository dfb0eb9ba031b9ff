import Devlib.Sched.Target
import Mathlib.Data.List.Infix
import Mathlib.Data.List.Sort

/-!
# Idle states

`Cpuidle.__init__` reads `/sys/devices/system/cpu/` four levels deep and keeps,
for every entry `cpuN` that holds a `cpuidle` entry, one `CpuidleState` per
`stateK` entry of it, sorted by `K`. `get_states` looks the table up by CPU,
`get_state` then by position or by name. The target's files are the nested
dictionaries the sched model reads (`PTree`); this module adds the write of
one file, which `enable` and `disable` make.

## Implementation notes

A value of the tree is a file's text or a directory; `int()`, `[]`, `in` and
`.items()` raise on the wrong one what Python raises on a `str` or a `dict`.
`read_tree_values` runs with `check_exit_code=False`, so a missing
`/sys/devices/system/cpu/` reads as an empty directory. `basename` and
`dirname` are `posixpath`'s. Digits are ASCII digits, which is all sysfs names
hold; `str.isdigit` also accepts other Unicode digits.
-/

namespace Devlib.Sched

open Devlib.Text

/-! ## Files of the tree -/

namespace PTree

/-- The tree after the file at a path is given a text; `none` when the path names no file. -/
def setLeaf : PTree → List String → String → Option PTree
  | .leaf _, [], v => some (.leaf v)
  | .dir _, [], _ => none
  | .leaf _, _ :: _, _ => none
  | .dir es, k :: ks, v =>
    (dictGet es k).bind fun c => (c.setLeaf ks v).map fun c' => .dir (dictInsert es (k, c'))

/-- The text of the file at a path, `none` when the path names no file. -/
def readLeaf (t : PTree) (ks : List String) : Option String :=
  match t.find ks with
  | some (.leaf s) => some s
  | _ => none

/-- `key in node`: a key of a directory, a substring of a file's text. -/
def contains : PTree → String → Bool
  | .dir es, key => (dictGet es key).isSome
  | .leaf s, key => decide (key.data <:+: s.data)

/-- `node[key]`. -/
def getItem : PTree → String → Except Error PTree
  | .dir es, key =>
    match dictGet es key with
    | some t => .ok t
    | none => .error (.keyError (.str key))
  | .leaf _, _ => .error (.typeError "string indices must be integers, not 'str'")

/-- `node.items()`. -/
def items : PTree → Except Error (List (String × PTree))
  | .dir es => .ok es
  | .leaf _ => .error (.attributeError "'str' object has no attribute 'items'")

/-- `int(node)`. -/
def toInt : PTree → Except Error ℤ
  | .leaf s => Target.pyInt s
  | .dir _ =>
    .error (.typeError "int() argument must be a string, a bytes-like object or a real number, not 'dict'")

/-- The text of a file, for `==` with a string. -/
def isText : PTree → String → Bool
  | .leaf s, x => s == x
  | .dir _, _ => false

theorem readLeaf_leaf_nil (s : String) : (PTree.leaf s).readLeaf [] = some s := rfl

theorem readLeaf_leaf_cons (s k : String) (ks : List String) :
    (PTree.leaf s).readLeaf (k :: ks) = none := rfl

theorem readLeaf_dir_nil (es : List (String × PTree)) : (PTree.dir es).readLeaf [] = none := rfl

theorem readLeaf_dir_cons (es : List (String × PTree)) (k : String) (ks : List String) :
    (PTree.dir es).readLeaf (k :: ks) = (dictGet es k).bind (·.readLeaf ks) := by
  simp only [readLeaf, find]
  cases dictGet es k <;> rfl

/-- What a successful write of a directory entry is made of. -/
theorem setLeaf_dir_cons {es : List (String × PTree)} {k : String} {ks : List String} {v : String}
    {t' : PTree} (h : (PTree.dir es).setLeaf (k :: ks) v = some t') :
    ∃ c c', dictGet es k = some c ∧ c.setLeaf ks v = some c' ∧ t' = .dir (dictInsert es (k, c')) := by
  simp only [setLeaf, Option.bind_eq_some, Option.map_eq_some'] at h
  obtain ⟨c, hc, c', hc', rfl⟩ := h
  exact ⟨c, c', hc, hc', rfl⟩

/-- A write changes the text of the file written, and of no other file. -/
theorem readLeaf_setLeaf {t t' : PTree} {ks : List String} {v : String} (h : t.setLeaf ks v = some t')
    (ks' : List String) : t'.readLeaf ks' = if ks' = ks then some v else t.readLeaf ks' := by
  induction ks generalizing t t' ks' with
  | nil =>
    cases t with
    | leaf s =>
      cases h
      cases ks' <;> rfl
    | dir es => cases h
  | cons k ks ih =>
    cases t with
    | leaf s => cases h
    | dir es =>
      obtain ⟨c, c', hc, hc', rfl⟩ := setLeaf_dir_cons h
      cases ks' with
      | nil => rfl
      | cons k' ks' =>
        rw [readLeaf_dir_cons, readLeaf_dir_cons, dictGet_dictInsert]
        by_cases hk : k = k'
        · subst hk
          simp only [if_true, Option.some_bind, ih hc', hc, List.cons.injEq, true_and]
        · simp only [hk, if_false, List.cons.injEq, Ne.symm hk, false_and]

/-- A write makes no entry and removes none. -/
theorem find_isSome_setLeaf {t t' : PTree} {ks : List String} {v : String} (h : t.setLeaf ks v = some t')
    (ks' : List String) : (t'.find ks').isSome = (t.find ks').isSome := by
  induction ks generalizing t t' ks' with
  | nil =>
    cases t with
    | leaf s =>
      cases h
      cases ks' <;> rfl
    | dir es => cases h
  | cons k ks ih =>
    cases t with
    | leaf s => cases h
    | dir es =>
      obtain ⟨c, c', hc, hc', rfl⟩ := setLeaf_dir_cons h
      cases ks' with
      | nil => rfl
      | cons k' ks' =>
        simp only [find, dictGet_dictInsert]
        by_cases hk : k = k'
        · subst hk
          simp only [if_true, Option.some_bind, ih hc', hc]
        · simp only [hk, if_false]

/-- A path that names a file can be written. -/
theorem setLeaf_isSome {t : PTree} {ks : List String} {s : String} (h : t.readLeaf ks = some s) (v : String) :
    (t.setLeaf ks v).isSome := by
  induction ks generalizing t with
  | nil =>
    cases t with
    | leaf => rfl
    | dir => cases h
  | cons k ks ih =>
    cases t with
    | leaf => cases h
    | dir es =>
      rw [readLeaf_dir_cons] at h
      obtain ⟨c, hc, hc'⟩ := Option.bind_eq_some.mp h
      obtain ⟨c', hc''⟩ := Option.isSome_iff_exists.mp (ih hc')
      simp [setLeaf, hc, hc'']

end PTree

end Devlib.Sched

namespace Devlib.Cpuidle

open Devlib.Sched Devlib.Text

/-! ## Paths -/

/-- `posixpath.basename`: what follows the last slash. -/
def basename (p : String) : String := ⟨(p.data.reverse.takeWhile (· ≠ '/')).reverse⟩

/-- `posixpath.dirname`: what precedes the last slash, with its trailing
slashes dropped unless it is made of slashes only. -/
def dirname (p : String) : String :=
  let head := (p.data.reverse.dropWhile (· ≠ '/')).reverse
  if head.all (· = '/') then ⟨head⟩ else ⟨(head.reverse.dropWhile (· = '/')).reverse⟩

theorem basename_append {a b : String} (hb : '/' ∉ b.data) (ha : a.data = [] ∨ a.data.getLast? = some '/') :
    basename (a ++ b) = b := by
  have hb' : ∀ c ∈ b.data.reverse, decide (c ≠ '/') = true := fun c hc =>
    decide_eq_true fun h => hb (h ▸ List.mem_reverse.mp hc)
  have ha' : (a.data.reverse.takeWhile fun c => decide (c ≠ '/')) = [] := by
    rcases ha with h | h
    · simp [h]
    · obtain ⟨a', h⟩ := List.getLast?_eq_some_iff.mp h
      simp [h]
  simp only [basename, String.data_append, List.reverse_append, List.takeWhile_append_of_pos hb', ha',
    List.append_nil, List.reverse_reverse]

/-- The last name of a joined path is the name joined. -/
theorem basename_pathJoin (a : String) {b : String} (hb : '/' ∉ b.data) : basename (pathJoin a b) = b := by
  unfold pathJoin
  split
  · simpa using @basename_append "" b hb (.inl rfl)
  split
  · rcases ‹a = "" ∨ _› with rfl | h
    · exact basename_append hb (.inl rfl)
    · exact basename_append hb (.inr h)
  · exact basename_append hb (.inr (by simp [String.data_append]))

/-- A name that holds no slash does not start with one. -/
theorem startswith_slash {b : String} (hb : '/' ∉ b.data) : startswith b "/" = false :=
  Bool.eq_false_iff.mpr fun h => hb ((List.isPrefixOf_iff_prefix.mp h).subset (by decide))

theorem dirname_append_slash {a b : String} {c : Char} (hc : a.data.getLast? = some c) (hc' : c ≠ '/')
    (hb : '/' ∉ b.data) : dirname (a ++ "/" ++ b) = a := by
  have hb' : ∀ x ∈ b.data.reverse, (!decide (x = '/')) = true := fun x hx => by
    simpa using fun h : x = '/' => hb (h ▸ List.mem_reverse.mp hx)
  obtain ⟨a', ha⟩ := List.getLast?_eq_some_iff.mp hc
  have hd : (b.data.reverse ++ '/' :: c :: a'.reverse).dropWhile (fun x => !decide (x = '/')) =
      '/' :: c :: a'.reverse := by
    rw [List.dropWhile_append_of_pos hb']
    rfl
  apply String.ext
  simp [dirname, String.data_append, ha, hd, hc']

/-- The directory of a name joined to a path not ending in a slash is that path. -/
theorem dirname_pathJoin {a b : String} {c : Char} (hc : a.data.getLast? = some c) (hc' : c ≠ '/')
    (hb : '/' ∉ b.data) : dirname (pathJoin a b) = a := by
  have hne : a ≠ "" := by rintro rfl; cases hc
  simp only [pathJoin, startswith_slash hb, hne, hc, false_or, Option.some.injEq, hc', if_false,
    Bool.false_eq_true]
  exact dirname_append_slash hc hc' hb

/-- A joined path ends where the name joined ends. -/
theorem getLast?_pathJoin (a : String) {b : String} (hb : b.data ≠ []) :
    (pathJoin a b).data.getLast? = b.data.getLast? := by
  obtain ⟨L, x, hx⟩ := (List.eq_nil_or_concat b.data).resolve_left hb
  unfold pathJoin
  split_ifs
  · rfl
  · simp [String.data_append, hx]
  · simpa [String.data_append, hx] using List.getLast?_eq_some_iff.mpr ⟨'/' :: L, rfl⟩

/-! ## States -/

/-- A `CpuidleState` as `__init__` builds it. -/
structure CpuidleState where
  index : ℤ
  path : String
  name : PTree
  desc : PTree
  power : ℤ
  latency : ℤ
  residency : Option ℤ

namespace CpuidleState

/-- `id`: `basename(path)`. -/
def id (s : CpuidleState) : String := basename s.path

/-- `cpu`: `basename(dirname(path))`. -/
def cpu (s : CpuidleState) : String := basename (dirname s.path)

/-- The loop of `ordinal`: `i` goes down from `len(id)` past the trailing
digits; it raises once it has passed every character. -/
def ordinalLoop (id : String) : ℕ → Except Error ℕ
  | 0 => .error (.indexError "string index out of range")
  | i + 1 =>
    if (id.data.get? i).any Char.isDigit then
      if i = 0 then .error (.valueError ("invalid idle state name: \"" ++ id ++ "\"")) else ordinalLoop id i
    else .ok (i + 1)

/-- `ordinal`: the number the state's name ends with. -/
def ordinal (s : CpuidleState) : Except Error ℤ := do
  let i ← ordinalLoop s.id s.id.length
  Target.pyInt ⟨s.id.data.drop i⟩

/-- The loop stops right after a name's last non-digit. -/
theorem ordinalLoop_digits {id : String} {p d : List Char} (hid : id.data = p ++ d)
    {c : Char} (hp : p.getLast? = some c) (hc : c.isDigit = false) (hd : ∀ c ∈ d, c.isDigit) :
    ∀ k ≤ d.length, ordinalLoop id (p.length + k) = .ok p.length
  | 0, _ => by
    obtain ⟨p', rfl⟩ := List.getLast?_eq_some_iff.mp hp
    have hget : id.data.get? p'.length = some c := by
      rw [List.get?_eq_getElem?, hid, List.append_assoc, List.getElem?_append_right le_rfl, Nat.sub_self]
      simp
    rw [List.length_append, List.length_singleton, Nat.add_zero, ordinalLoop, hget, Option.any_some, hc]
    rfl
  | k + 1, hk => by
    have hpos : 0 < p.length := List.length_pos.mpr fun h => by simp [h] at hp
    have hk' : k < d.length := by omega
    have hget : id.data.get? (p.length + k) = some d[k] := by
      rw [List.get?_eq_getElem?, hid, List.getElem?_append_right (by omega), Nat.add_sub_cancel_left,
        List.getElem?_eq_getElem hk']
    rw [← Nat.add_assoc, ordinalLoop, hget, Option.any_some, hd _ (List.getElem_mem hk'), if_pos rfl,
      if_neg (by omega)]
    exact ordinalLoop_digits hid hp hc hd k (by omega)

/-- A name made of a part ending in a non-digit, then digits, has the digits as `ordinal`. -/
theorem ordinal_digits {s : CpuidleState} {p d : List Char} (hid : s.id.data = p ++ d)
    {c : Char} (hp : p.getLast? = some c) (hc : c.isDigit = false) (hd : ∀ c ∈ d, c.isDigit) :
    s.ordinal = Target.pyInt ⟨d⟩ := by
  have hlen : s.id.length = p.length + d.length := by
    rw [String.length, hid, List.length_append]
  simp only [ordinal, hlen, ordinalLoop_digits hid hp hc hd _ le_rfl]
  show Target.pyInt ⟨s.id.data.drop p.length⟩ = _
  rw [hid, List.drop_left]

end CpuidleState

/-- `a` goes no later than `b` in `sorted(..., key=attrgetter('index'))`. -/
def IndexLE (a b : CpuidleState) : Prop := a.index ≤ b.index

instance : DecidableRel IndexLE := fun a b => inferInstanceAs (Decidable (a.index ≤ b.index))

instance : IsTotal CpuidleState IndexLE := ⟨fun a b => Int.le_total a.index b.index⟩

instance : IsTrans CpuidleState IndexLE := ⟨fun _ _ _ => Int.le_trans⟩

/-! ## `__init__` -/

/-- `basepath` of `__init__`. -/
def basepath : String := "/sys/devices/system/cpu/"

/-- `path.join(basepath, cpu_name, 'cpuidle', state_name)`. -/
def statePath (cpuName stateName : String) : String :=
  pathJoin (pathJoin (pathJoin basepath cpuName) "cpuidle") stateName

/-- The `CpuidleState(...)` of the comprehension, its arguments in order. -/
def buildState (cpuName stateName : String) (stateNode : PTree) : Except Error CpuidleState := do
  let index ← Target.pyInt ⟨stateName.data.drop "state".length⟩
  let name ← stateNode.getItem "name"
  let desc ← stateNode.getItem "desc"
  let power ← (← stateNode.getItem "power").toInt
  let latency ← (← stateNode.getItem "latency").toInt
  let residency ← if stateNode.contains "residency" then some <$> (← stateNode.getItem "residency").toInt
    else pure none
  return { index, path := statePath cpuName stateName, name, desc, power, latency, residency }

/-- `sorted(CpuidleState(...) for state_name, state_node in cpu_node['cpuidle'].items()
if state_name.startswith('state'), key=attrgetter('index'))`. -/
def cpuStates (cpuName : String) (cpuNode : PTree) : Except Error (List CpuidleState) := do
  let entries ← (← cpuNode.getItem "cpuidle").items
  let states ← (entries.filter fun e => startswith e.1 "state").mapM fun e => buildState cpuName e.1 e.2
  return states.insertionSort IndexLE

/-- `self._states`: the dictionary comprehension over `values_tree.items()`. -/
def buildTable (valuesTree : PTree) : Except Error (List (String × List CpuidleState)) := do
  let cpus ← valuesTree.items
  let kvs ← (cpus.filter fun e => startswith e.1 "cpu" && e.2.contains "cpuidle").mapM fun e =>
    (e.1, ·) <$> cpuStates e.1 e.2
  return pyDict kvs

/-- `read_tree_values(basepath, depth=4, check_exit_code=False)`. -/
def valuesTree (fs : PTree) : PTree :=
  match fs.find (components basepath) with
  | some n => n.cut 4
  | none => .dir []

/-- `Cpuidle.__init__`: the table of states. -/
def init (fs : PTree) : Except Error (List (String × List CpuidleState)) := buildTable (valuesTree fs)

/-! ## Lookups -/

/-- The CPU argument of `get_states`: an `int`, or a key of the table. -/
inductive CpuArg where
  | int (n : ℤ)
  | str (s : String)

/-- `'cpu{}'.format(cpu)` for an `int`, the string itself otherwise. -/
def CpuArg.key : CpuArg → String
  | .int n => "cpu" ++ toString n
  | .str s => s

/-- The state argument of `get_state`: a position, or a name. -/
inductive StateArg where
  | int (i : ℤ)
  | str (s : String)

/-- `xs[i]` of a Python list, a negative `i` counting from the end; `none`
where it raises `IndexError`. -/
def pyListGet {α : Type} (xs : List α) (i : ℤ) : Option α :=
  let j := if i < 0 then i + xs.length else i
  if 0 ≤ j then xs.get? j.toNat else none

/-- `get_states(cpu)`. -/
def getStates (table : List (String × List CpuidleState)) (cpu : CpuArg) : List CpuidleState :=
  (dictGet table cpu.key).getD []

/-- `get_state(state, cpu)`. -/
def getState (table : List (String × List CpuidleState)) (state : StateArg) (cpu : CpuArg) :
    Except Error CpuidleState :=
  match state with
  | .int i =>
    match pyListGet (getStates table cpu) i with
    | some s => .ok s
    | none => .error (.valueError ("Cpuidle state " ++ toString i ++ " does not exist"))
  | .str x =>
    match (getStates table cpu).find? fun s => s.id == x || s.name.isText x || s.desc.isText x with
    | some s => .ok s
    | none => .error (.valueError ("Cpuidle state " ++ x ++ " does not exist"))

/-! ## What `__init__` builds -/

/-- A built state has the `index` parsed from its name, and the path of its directory. -/
theorem buildState_ok {cpuName stateName : String} {node : PTree} {s : CpuidleState}
    (h : buildState cpuName stateName node = .ok s) :
    Target.pyInt ⟨stateName.data.drop "state".length⟩ = .ok s.index ∧ s.path = statePath cpuName stateName := by
  simp only [buildState, except_bind_eq_ok] at h
  obtain ⟨i, hi, _, -, _, -, _, -, _, -, _, -, _, -, h⟩ := h
  split at h <;> simp only [except_bind_eq_ok, pure, Except.pure, Except.ok.injEq] at h
  · obtain ⟨_, -, _, -, rfl⟩ := h
    exact ⟨hi, rfl⟩
  · obtain ⟨_, -, rfl⟩ := h
    exact ⟨hi, rfl⟩

/-- A CPU's states are sorted by index, and each is built from a `stateK` entry. -/
theorem cpuStates_ok {cpuName : String} {cpuNode : PTree} {states : List CpuidleState}
    (h : cpuStates cpuName cpuNode = .ok states) :
    states.Sorted IndexLE ∧
      ∀ s ∈ states, ∃ stateName node, startswith stateName "state" ∧ buildState cpuName stateName node = .ok s := by
  simp only [cpuStates, except_bind_eq_ok, pure, Except.pure, Except.ok.injEq] at h
  obtain ⟨_, -, entries, -, built, hb, rfl⟩ := h
  refine ⟨List.sorted_insertionSort _ _, fun s hs => ?_⟩
  obtain ⟨e, he, hbs⟩ := forall₂_mem_right (forall₂_of_mapM_ok hb) ((List.perm_insertionSort _ _).subset hs)
  exact ⟨e.1, e.2, (List.mem_filter.mp he).2, hbs⟩

/-- Each entry of the table holds the states of one CPU entry of the tree. -/
theorem buildTable_mem {t : PTree} {table : List (String × List CpuidleState)} (h : buildTable t = .ok table)
    {cpuName : String} {states : List CpuidleState} (hmem : (cpuName, states) ∈ table) :
    ∃ cpuNode, cpuStates cpuName cpuNode = .ok states := by
  simp only [buildTable, except_bind_eq_ok, pure, Except.pure, Except.ok.injEq] at h
  obtain ⟨_, -, kvs, hk, rfl⟩ := h
  obtain ⟨e, -, he⟩ := forall₂_mem_right (forall₂_of_mapM_ok hk) (mem_of_mem_pyDict hmem)
  obtain ⟨st, hst, heq⟩ := except_map_eq_ok.mp he
  cases heq
  exact ⟨e.2, hst⟩

/-- `get_states` answers a list sorted by index. -/
theorem init_sorted {fs : PTree} {table : List (String × List CpuidleState)} (h : init fs = .ok table)
    (cpu : CpuArg) : (getStates table cpu).Sorted IndexLE := by
  unfold getStates
  cases hg : dictGet table cpu.key with
  | none => exact List.sorted_nil
  | some states =>
    obtain ⟨_, hc⟩ := buildTable_mem h (mem_of_dictGet hg)
    exact (cpuStates_ok hc).1

/-- Every state of the table comes from a `stateK` directory of its CPU: it
has that directory's path and the index `int(K)`; its `id` is the directory's
name and its `cpu` is `'cpuidle'` when the name holds no slash; its `ordinal`
is its `index` when `K` is decimal digits. -/
theorem init_state {fs : PTree} {table : List (String × List CpuidleState)} (h : init fs = .ok table)
    {cpuName : String} {states : List CpuidleState} (hmem : (cpuName, states) ∈ table)
    {s : CpuidleState} (hs : s ∈ states) :
    ∃ stateName, startswith stateName "state" ∧ s.path = statePath cpuName stateName ∧
      Target.pyInt ⟨stateName.data.drop "state".length⟩ = .ok s.index ∧
      ('/' ∉ stateName.data → s.id = stateName ∧ s.cpu = "cpuidle") ∧
      ((∀ c ∈ stateName.data.drop "state".length, c.isDigit) → s.ordinal = .ok s.index) := by
  obtain ⟨_, hc⟩ := buildTable_mem h hmem
  obtain ⟨stateName, node, hst, hb⟩ := (cpuStates_ok hc).2 s hs
  obtain ⟨hidx, hpath⟩ := buildState_ok hb
  have hname : '/' ∉ stateName.data → s.id = stateName ∧ s.cpu = "cpuidle" := fun hn =>
    ⟨by rw [CpuidleState.id, hpath, statePath, basename_pathJoin _ hn],
      by rw [CpuidleState.cpu, hpath, statePath, dirname_pathJoin (c := 'e')
        (by rw [getLast?_pathJoin _ (by decide)]; decide) (by decide) hn, basename_pathJoin _ (by decide)]⟩
  refine ⟨stateName, hst, hpath, hidx, hname, fun hd => ?_⟩
  have hsplit : stateName.data = "state".data ++ stateName.data.drop "state".length :=
    (List.prefix_iff_eq_append.mp (List.isPrefixOf_iff_prefix.mp hst)).symm
  have hn : '/' ∉ stateName.data := by
    rw [hsplit, List.mem_append, not_or]
    exact ⟨by decide, fun h' => absurd (hd _ h') (by decide)⟩
  rw [CpuidleState.ordinal_digits (by rw [(hname hn).1]; exact hsplit)
    (by decide : "state".data.getLast? = some 'e') (by decide) hd]
  exact hidx

/-- A board whose `cpu0` has two idle states, `WFI` and `cpu-sleep`, listed
out of order, next to the global `cpuidle` directory. -/
def idleFs : PTree :=
  .dir [("sys", .dir [("devices", .dir [("system", .dir [("cpu", .dir [
    ("cpu0", .dir [("cpuidle", .dir [
      ("state1", .dir [("name", .leaf "cpu-sleep\n"), ("desc", .leaf "cpu-sleep\n"),
        ("power", .leaf "0\n"), ("latency", .leaf "40\n"), ("residency", .leaf "300\n"),
        ("disable", .leaf "0\n")]),
      ("state0", .dir [("name", .leaf "WFI\n"), ("desc", .leaf "ARM WFI\n"),
        ("power", .leaf "4294967295\n"), ("latency", .leaf "1\n"), ("residency", .leaf "1\n"),
        ("disable", .leaf "0\n")])])]),
    ("cpuidle", .dir [("current_driver", .leaf "psci_idle\n"), ("current_governor", .leaf "menu\n"),
      ("available_governors", .leaf "ladder menu teo\n")])])])])])]

/-- The states `__init__` builds from `idleFs`. -/
def wfiState : CpuidleState where
  index := 0
  path := "/sys/devices/system/cpu/cpu0/cpuidle/state0"
  name := .leaf "WFI"
  desc := .leaf "ARM WFI"
  power := 4294967295
  latency := 1
  residency := some 1

def sleepState : CpuidleState where
  index := 1
  path := "/sys/devices/system/cpu/cpu0/cpuidle/state1"
  name := .leaf "cpu-sleep"
  desc := .leaf "cpu-sleep"
  power := 0
  latency := 40
  residency := some 300

theorem init_idleFs : init idleFs = .ok [("cpu0", [wfiState, sleepState])] := rfl

theorem init_state_wfi :
    ∃ stateName, startswith stateName "state" ∧ wfiState.path = statePath "cpu0" stateName ∧
      Target.pyInt ⟨stateName.data.drop "state".length⟩ = .ok wfiState.index ∧
      ('/' ∉ stateName.data → wfiState.id = stateName ∧ wfiState.cpu = "cpuidle") ∧
      ((∀ c ∈ stateName.data.drop "state".length, c.isDigit) → wfiState.ordinal = .ok wfiState.index) :=
  init_state init_idleFs (.head _) (.head _)

/-- In a list sorted by index whose indices are `0, …, n - 1`, Python's `xs[k]`
has index `k`, or `n + k` for a negative `k`, and exists only for `k` in `[-n, n)`. -/
theorem pyListGet_index {xs : List CpuidleState} (hs : xs.Sorted IndexLE) {n : ℕ}
    (hidx : (xs.map (·.index)).Perm ((List.range n).map ((↑) : ℕ → ℤ))) (k : ℤ) :
    (pyListGet xs k).map (·.index) = if -(n : ℤ) ≤ k ∧ k < n then some (if k < 0 then k + n else k) else none := by
  have hmap : xs.map (·.index) = (List.range n).map ((↑) : ℕ → ℤ) :=
    List.eq_of_perm_of_sorted hidx (List.pairwise_map.mpr hs)
      (List.pairwise_map.mpr ((List.pairwise_lt_range n).imp fun h => by exact_mod_cast h.le))
  have hlen : xs.length = n := by simpa using congrArg List.length hmap
  have hget : ∀ j : ℕ, (xs[j]?).map (·.index) = if j < n then some (j : ℤ) else none := fun j => by
    rw [← List.getElem?_map, hmap, List.getElem?_map]
    split_ifs with hj
    · rw [List.getElem?_range hj]; rfl
    · rw [List.getElem?_eq_none (by simpa using hj)]; rfl
  simp only [pyListGet, hlen, List.get?_eq_getElem?]
  split_ifs <;> simp only [Option.map_none', hget] <;> (try split_ifs) <;>
    first | rfl | (exfalso; omega) | (congr 1; omega)

/-- `get_state(k)` with an `int` indexes the sorted list: when a CPU's indices
are `0, …, n - 1` it answers the state of index `k` (`n + k` for a negative
`k`), and raises `ValueError` for `k` out of `[-n, n)`. -/
theorem init_getState_int {fs : PTree} {table : List (String × List CpuidleState)} (h : init fs = .ok table)
    {cpu : CpuArg} {n : ℕ} (hidx : ((getStates table cpu).map (·.index)).Perm ((List.range n).map ((↑) : ℕ → ℤ)))
    (k : ℤ) :
    (-(n : ℤ) ≤ k ∧ k < n → ∃ s, getState table (.int k) cpu = .ok s ∧ s.index = if k < 0 then k + n else k) ∧
      (¬(-(n : ℤ) ≤ k ∧ k < n) →
        getState table (.int k) cpu = .error (.valueError ("Cpuidle state " ++ toString k ++ " does not exist"))) := by
  have hk := pyListGet_index (init_sorted h cpu) hidx k
  by_cases hr : -(n : ℤ) ≤ k ∧ k < n
  · rw [if_pos hr] at hk
    obtain ⟨s, hs, hsi⟩ := Option.map_eq_some'.mp hk
    refine ⟨fun _ => ⟨s, ?_, hsi⟩, fun h' => absurd hr h'⟩
    simp only [getState, hs]
  · rw [if_neg hr] at hk
    refine ⟨fun h' => absurd h' hr, fun _ => ?_⟩
    simp only [getState, Option.map_eq_none'.mp hk]

theorem init_getState_int_last :
    (-((2 : ℕ) : ℤ) ≤ -1 ∧ -1 < ((2 : ℕ) : ℤ) →
      ∃ s, getState [("cpu0", [wfiState, sleepState])] (.int (-1)) (.int 0) = .ok s ∧
        s.index = if (-1 : ℤ) < 0 then -1 + ((2 : ℕ) : ℤ) else -1) ∧
      (¬(-((2 : ℕ) : ℤ) ≤ -1 ∧ -1 < ((2 : ℕ) : ℤ)) →
        getState [("cpu0", [wfiState, sleepState])] (.int (-1)) (.int 0) =
          .error (.valueError ("Cpuidle state " ++ toString (-1 : ℤ) ++ " does not exist"))) :=
  @init_getState_int idleFs _ init_idleFs (.int 0) 2 (by decide) (-1)

end Devlib.Cpuidle

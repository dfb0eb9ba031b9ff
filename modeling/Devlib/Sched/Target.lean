import Devlib.Util.Dict
import Devlib.Util.Text

/-!
# The target as the sched module sees it

The sched module reads three kinds of data from its target: files of the
`sysfs` and `procfs` trees (`cpu_capacity`, the `sched_domain` directory),
the kernel's `sched_features` file in debugfs, which it also writes, and the
output of the `sched_get_kernel_attributes` shell utility. The file systems
are one tree of nested dictionaries, the same shape `read_tree_values`
returns; `sched_features` is backed by the kernel's table of features, as
`kernel/sched/debug.c` shows and parses it.

## Implementation notes

`target.py` is not part of the sources; its operations follow their
documented behaviour. `read_value` answers the trimmed text of a file,
`list_directory` the names of a directory, `read_tree_values` the directory
with its files' trimmed texts down to the given depth. The only file the
modelled functions write is `sched_features`. The kernel cuts a write to it at
63 bytes; feature names are far shorter, and the cut is left out.
-/

namespace Devlib.Sched

open Devlib.Text

/-- A directory tree as nested Python dictionaries: a directory maps names to
entries, a file holds its text. -/
inductive PTree where
  | leaf (value : String)
  | dir (entries : List (String × PTree))
  deriving Inhabited

/-- The entry at a path of names below a tree. -/
def PTree.find : PTree → List String → Option PTree
  | t, [] => some t
  | .leaf _, _ :: _ => none
  | .dir es, k :: ks => (dictGet es k).bind (PTree.find · ks)

mutual
/-- What `find -maxdepth d` reaches of a tree, files trimmed. -/
def PTree.cut : ℕ → PTree → PTree
  | _, .leaf s => .leaf (strip s)
  | 0, .dir _ => .dir []
  | d + 1, .dir es => .dir (PTree.cutEntries d es)

/-- `PTree.cut` on each entry of a directory. -/
def PTree.cutEntries (d : ℕ) : List (String × PTree) → List (String × PTree)
  | [] => []
  | (k, t) :: es => (k, t.cut d) :: PTree.cutEntries d es
end

/-- The names along a path: its pieces between slashes, empty ones dropped. -/
def components (p : String) : List String := (splitOn p '/').filter (· ≠ "")

/-- `posixpath.join(a, b)`. -/
def pathJoin (a b : String) : String :=
  if startswith b "/" then b
  else if a = "" ∨ a.data.getLast? = some '/' then a ++ b
  else a ++ "/" ++ b

/-- The key of a failed dictionary lookup. -/
inductive PyKey where
  | str (s : String)
  | int (i : ℤ)
  deriving DecidableEq

/-- The exceptions that reach the sched module's callers. -/
inductive Error where
  /-- `TargetStableError` raised by the module with its message. -/
  | targetStable (msg : String)
  /-- `TargetStableError` raised by the target on a path it cannot read, list or write. -/
  | io (path : String)
  /-- `KeyError` of a dictionary lookup, or of `SchedProcFSNode.__getattr__`. -/
  | keyError (key : PyKey)
  | attributeError (msg : String)
  | typeError (msg : String)
  | valueError (msg : String)
  | indexError (msg : String)
  | zeroDivisionError (msg : String)
  | runtimeError (msg : String)
  /-- `UnboundLocalError` of a local variable read before any assignment. -/
  | unboundLocalError (name : String)
  deriving DecidableEq

/-- The errors `except TargetStableError` catches. -/
def Error.isTargetStable : Error → Bool
  | .targetStable _ | .io _ => true
  | _ => false

/-! ## The kernel's scheduler features -/

/-- A name the kernel gives a scheduler feature: capital letters, digits and
underscores, not beginning with the `NO_` that marks a disabled feature. -/
def IsFeatureName (n : String) : Prop :=
  n ≠ "" ∧ (∀ c ∈ n.data, c.isUpper ∨ c.isDigit ∨ c = '_') ∧ startswith n "NO_" = false

instance : DecidablePred IsFeatureName := fun _ => inferInstanceAs (Decidable (_ ∧ _ ∧ _))

/-- The kernel's scheduler features: `sched_feat_names` in kernel order, fixed
when the kernel is built, and which of them are enabled. -/
structure SchedFeatures where
  names : List String
  names_nodup : names.Nodup
  names_feature : ∀ n ∈ names, IsFeatureName n
  enabled : String → Bool

/-- The characters C's `isspace` accepts. -/
def isCSpace (c : Char) : Bool :=
  c = ' ' || c = '\t' || c = '\n' || c = '\x0b' || c = '\x0c' || c = '\r'

/-- `strstrip`: the text without surrounding C whitespace. -/
def strstrip (s : String) : String := stripWith isCSpace s

theorem featureChar_toNat {c : Char} (h : c.isUpper ∨ c.isDigit ∨ c = '_') :
    48 ≤ c.toNat ∧ c.toNat < 96 := by
  rcases h with h | h | rfl
  · simp only [Char.isUpper, Bool.and_eq_true, decide_eq_true_eq] at h
    exact ⟨UInt32.le_toNat_of_le (m := 65) (by decide) h.1 |>.trans' (by decide),
      Nat.lt_succ_of_le (UInt32.toNat_le_of_le (m := 90) (by decide) h.2) |>.trans_le (by decide)⟩
  · simp only [Char.isDigit, Bool.and_eq_true, decide_eq_true_eq] at h
    exact ⟨UInt32.le_toNat_of_le (m := 48) (by decide) h.1,
      Nat.lt_succ_of_le (UInt32.toNat_le_of_le (m := 57) (by decide) h.2) |>.trans_le (by decide)⟩
  · decide

/-- No character of a feature name is whitespace, for Python or for C. -/
theorem featureChar_not_space {c : Char} (h : c.isUpper ∨ c.isDigit ∨ c = '_') :
    isSpace c = false ∧ isCSpace c = false := by
  obtain ⟨h1, h2⟩ := featureChar_toNat h
  rw [← Char.ofNat_toNat c]
  generalize c.toNat = n at h1 h2
  revert n
  decide

namespace SchedFeatures

/-- The token `sched_feat_show` prints for a feature, `NO_` marking a disabled one. -/
def token (k : SchedFeatures) (n : String) : String := (if k.enabled n then "" else "NO_") ++ n

/-- `sched_feat_show`: every token followed by a space, then a newline. -/
def schedFeatShow (k : SchedFeatures) : String :=
  String.join (k.names.map fun n => k.token n ++ " ") ++ "\n"

/-- The feature a written text names and the state it asks for: a leading
`NO_` asks to disable. -/
def parseCmp (cmp : String) : String × Bool :=
  if startswith cmp "NO_" then (⟨cmp.data.drop 3⟩, false) else (cmp, true)

/-- `sched_feat_enable` and `sched_feat_disable`. -/
def setEnabled (k : SchedFeatures) (name : String) (enable : Bool) : SchedFeatures :=
  { k with enabled := fun n => if n = name then enable else k.enabled n }

@[simp] theorem setEnabled_names (k : SchedFeatures) (name : String) (enable : Bool) :
    (k.setEnabled name enable).names = k.names := rfl

@[simp] theorem setEnabled_enabled (k : SchedFeatures) (name : String) (enable : Bool) (n : String) :
    (k.setEnabled name enable).enabled n = if n = name then enable else k.enabled n := rfl

/-- `sched_feat_write`: the text is trimmed by `strstrip` and set by
`sched_feat_set`, which refuses a name the kernel does not have. -/
def schedFeatWrite (k : SchedFeatures) (v : String) : Option SchedFeatures :=
  match parseCmp (strstrip v) with
  | (name, enable) => if name ∈ k.names then some (k.setEnabled name enable) else none

end SchedFeatures

/-! ## The target -/

/-- What the sched module reaches of its target. -/
structure Target where
  /-- Files and directories under `/`; a file holds the text `cat` prints. -/
  fs : PTree
  /-- The debugfs file showing the scheduler features, and the kernel's features. -/
  schedFeatures : Option (String × SchedFeatures)
  /-- What `execute_util` prints for a command line, or the error it raises. -/
  util : String → Except Error String
  /-- `list_online_cpus()`. -/
  onlineCpus : List ℕ

namespace Target

variable (t : Target)

/-- The kernel's features, if `p` is the file that shows them. -/
def featuresAt (p : String) : Option SchedFeatures :=
  match t.schedFeatures with
  | some (q, k) => if p = q then some k else none
  | none => none

/-- `file_exists(path)`. -/
def fileExists (p : String) : Bool := (t.featuresAt p).isSome || (t.fs.find (components p)).isSome

/-- `read_value(path)`: the trimmed text of a file. -/
def readValue (p : String) : Except Error String :=
  match t.featuresAt p, t.fs.find (components p) with
  | some k, _ => .ok (strip k.schedFeatShow)
  | none, some (.leaf s) => .ok (strip s)
  | none, _ => .error (.io p)

/-- `int(s)`, raising `ValueError` with Python's message. -/
def pyInt (s : String) : Except Error ℤ :=
  match parseIntStrip s with
  | some i => .ok i
  | none => .error (.valueError ("invalid literal for int() with base 10: " ++ quote ++ s ++ quote))

/-- `read_value(path, int)`. -/
def readInt (p : String) : Except Error ℤ := t.readValue p >>= pyInt

/-- `list_directory(path)`. -/
def listDirectory (p : String) : Except Error (List String) :=
  match t.fs.find (components p) with
  | some (.dir es) => .ok (es.map Prod.fst)
  | _ => .error (.io p)

/-- `read_tree_values(path, depth)`. -/
def readTreeValues (p : String) (depth : ℕ) : Except Error PTree :=
  match t.fs.find (components p) with
  | some n => .ok (n.cut depth)
  | none => .error (.io p)

/-- `write_value(path, value, verify=False)` on `sched_features`; the shell's
write fails when the kernel refuses the text. -/
def writeValue (p v : String) : Except Error Target :=
  match t.featuresAt p with
  | some k =>
    match k.schedFeatWrite v with
    | some k' => .ok { t with schedFeatures := some (p, k') }
    | none => .error (.io p)
  | none => .error (.io p)

/-- `_execute_util(command)`. -/
def executeUtil (cmd : String) : Except Error String := t.util cmd

end Target

/-- `_select_path(target, paths, name)`: the first of `paths` that exists. -/
def selectPath (t : Target) (paths : List String) (name : String) : Except Error String :=
  match paths.find? t.fileExists with
  | some p => .ok p
  | none => .error (.targetStable ("No " ++ name ++ " found. Tried: " ++ ", ".intercalate paths))

end Devlib.Sched

import Devlib.Sched.Target

/-!
# Sched domain procfs nodes

`SchedProcFSNode` turns the dictionary `read_tree_values` returns into an
object: a key `nameN` whose name is `cpu`, `domain` or `group` is packed into
the dictionary `_dyn_attrs[name + 's']` under the integer `N`, any other key
goes to `_dyn_attrs[key]`; a file becomes an `int` when `int()` accepts its
text, a directory a node of its own, a `SchedDomain` when its key begins with
`domain`. A `SchedDomain` decodes its `flags` entry: the words of a string
name flags without a value; anything else is read as a bitfield through
`has_flag`, which iterates it, and an `int` is not iterable.

## Implementation notes

`_re_procfs_node` is read on ASCII keys without line breaks, where `\d` is a
decimal digit and `$` the end of the key. A Python `set` is iterated in an
order the language leaves open; the pack destinations are created in
first-occurrence order, and the flags are kept as a list without repetition.
-/

namespace Devlib.Sched

open Devlib.Text

/-- `_SchedDomainFlag`: a flag's name and, when the kernel exposes it, its value. -/
structure SchedDomainFlag where
  name : String
  value : Option ℕ
  deriving DecidableEq

/-- The `SD_*` attributes of `SchedDomainFlag`, in the order the class defines them. -/
def sdFlags : List SchedDomainFlag :=
  [⟨"SD_LOAD_BALANCE", some 0x0001⟩, ⟨"SD_BALANCE_NEWIDLE", some 0x0002⟩,
    ⟨"SD_BALANCE_EXEC", some 0x0004⟩, ⟨"SD_BALANCE_FORK", some 0x0008⟩,
    ⟨"SD_BALANCE_WAKE", some 0x0010⟩, ⟨"SD_WAKE_AFFINE", some 0x0020⟩,
    ⟨"SD_ASYM_CPUCAPACITY", some 0x0040⟩, ⟨"SD_SHARE_CPUCAPACITY", some 0x0080⟩,
    ⟨"SD_SHARE_POWERDOMAIN", some 0x0100⟩, ⟨"SD_SHARE_PKG_RESOURCES", some 0x0200⟩,
    ⟨"SD_SERIALIZE", some 0x0400⟩, ⟨"SD_ASYM_PACKING", some 0x0800⟩,
    ⟨"SD_PREFER_SIBLING", some 0x1000⟩, ⟨"SD_OVERLAP", some 0x2000⟩,
    ⟨"SD_NUMA", some 0x4000⟩, ⟨"SD_SHARE_CAP_STATES", some 0x8000⟩]

/-- What a `SchedProcFSNode` keeps under a name. -/
inductive Value where
  /-- A file whose text `int()` accepts. -/
  | int (i : ℤ)
  /-- Any other file. -/
  | str (s : String)
  /-- A node built from a directory: its `procfs` dictionary and its
  `_dyn_attrs`; a `SchedDomain` also has its decoded `flags`. -/
  | node (procfs : List (String × PTree)) (attrs : List (String × Value))
      (flags : Option (List SchedDomainFlag))
  /-- The dictionary a family of packable entries is packed into, by index. -/
  | packed (entries : List (ℕ × Value))
  deriving Inhabited

/-! ## Keys -/

/-- `re.search(_re_procfs_node, node)`: the groups `name` (ending in a
non-digit) and `digits` (the digits that end the key), when it matches. -/
def nodeMatch (node : String) : Option (String × String) :=
  let digits := node.data.reverse.takeWhile Char.isDigit
  let name := node.data.reverse.dropWhile Char.isDigit
  if digits = [] ∨ name = [] then none else some (⟨name.reverse⟩, ⟨digits.reverse⟩)

/-- `int()` of a run of decimal digits. -/
def decimalValue (digits : String) : ℕ :=
  digits.data.foldl (fun n c => 10 * n + (c.toNat - '0'.toNat)) 0

/-- `_ends_with_digits(node)`. -/
def endsWithDigits (node : String) : Bool := (nodeMatch node).isSome

/-- `_node_name(node)`. -/
def nodeName (node : String) : String :=
  match nodeMatch node with
  | some (name, _) => name
  | none => node

/-- `_node_digits(node)`; without a match, `.group` is looked up on `None`. -/
def nodeDigits (node : String) : Except Error ℕ :=
  match nodeMatch node with
  | some (_, digits) => .ok (decimalValue digits)
  | none => .error (.attributeError "'NoneType' object has no attribute 'group'")

/-- `SchedProcFSNode.PACKABLE_ENTRIES`. -/
def packableEntries : List String := ["cpu", "domain", "group"]

/-- `_packable(node)`. -/
def packable (node : String) : Bool := endsWithDigits node && nodeName node ∈ packableEntries

/-! ## Building nodes -/

/-- `_build_entry(node_data)`: the integer `int()` reads, else the text. -/
def buildEntry (s : String) : Value :=
  match parseIntStrip s with
  | some i => .int i
  | none => .str s

/-- `w[i] = v` on the dictionary of a pack destination. -/
def Value.packedInsert (w : Value) (i : ℕ) (v : Value) : Value :=
  match w with
  | .packed es => .packed (dictInsert es (i, v))
  | w => w

/-- `self._dyn_attrs[dest][i] = v`. -/
def packInto (attrs : List (String × Value)) (dest : String) (i : ℕ) (v : Value) :
    List (String × Value) :=
  attrs.map fun e => if e.1 = dest then (dest, e.2.packedInsert i v) else e

/-- `_dyn_attrs` as `SchedProcFSNode.__init__` fills it from what its two
loops built: an empty dictionary for each pack destination, the packed
entries put in, then the other entries. -/
def dynAttrs (packed : List (String × ℕ × Value)) (others : List (String × Value)) :
    List (String × Value) :=
  let attrs := (packed.map (·.1)).foldl (fun attrs dest => dictInsert attrs (dest, .packed [])) []
  let attrs := packed.foldl (fun attrs p => packInto attrs p.1 p.2.1 p.2.2) attrs
  others.foldl dictInsert attrs

/-- `has_flag(flags, flag)`, `any(f.value == flag.value for f in flags)`, on a
`flags` entry that is not a string. -/
def hasFlag (flags : Value) (_flag : SchedDomainFlag) : Except Error Bool :=
  match flags with
  | .int _ => .error (.typeError "'int' object is not iterable")
  | .node _ _ none => .error (.typeError "'SchedProcFSNode' object is not iterable")
  | .node _ _ (some _) => .error (.typeError "'SchedDomain' object is not iterable")
  | .packed [] => .ok false
  | .packed (_ :: _) => .error (.attributeError "'int' object has no attribute 'value'")
  | .str s => if s.isEmpty then .ok false else .error (.attributeError "'str' object has no attribute 'value'")

/-- The flags `SchedDomain.__init__` decodes from its `flags` entry. -/
def decodeFlags : Value → Except Error (List SchedDomainFlag)
  | .str s => .ok ((split s).map fun name => ⟨name, none⟩).dedup
  | flags => sdFlags.filterM (hasFlag flags)

/-- `SchedDomain.__init__` once `SchedProcFSNode.__init__` has built `attrs`. -/
def schedDomainOf (procfs : List (String × PTree)) (attrs : List (String × Value)) :
    Except Error Value :=
  match dictGet attrs "flags" with
  | some flags => do return .node procfs attrs (some (← decodeFlags flags))
  | none => .error (.keyError (.str "flags"))

mutual
/-- `_build_node(node_name, node_data)`. -/
def buildNode (key : String) : PTree → Except Error Value
  | .leaf s => .ok (buildEntry s)
  | .dir es => do
    let attrs := dynAttrs (← buildPacked es) (← buildOthers es)
    if startswith key "domain" then schedDomainOf es attrs else pure (.node es attrs none)

/-- The packing loop of `SchedProcFSNode.__init__`: each packable entry's
destination, index and node, in key order. -/
def buildPacked : List (String × PTree) → Except Error (List (String × ℕ × Value))
  | [] => .ok []
  | (key, t) :: es =>
    if packable key then do
      let i ← nodeDigits key
      let v ← buildNode key t
      return (nodeName key ++ "s", i, v) :: (← buildPacked es)
    else buildPacked es

/-- The last loop of `SchedProcFSNode.__init__`: every other entry's node, in key order. -/
def buildOthers : List (String × PTree) → Except Error (List (String × Value))
  | [] => .ok []
  | (key, t) :: es =>
    if packable key then buildOthers es
    else do
      let v ← buildNode key t
      return (key, v) :: (← buildOthers es)
end

/-- `SchedProcFSNode(nodes)` on what `read_tree_values` returns. -/
def schedProcFSNode : PTree → Except Error Value
  | .leaf _ => .error (.attributeError "'str' object has no attribute 'keys'")
  | .dir es => do return .node es (dynAttrs (← buildPacked es) (← buildOthers es)) none

/-- A file becomes an `int` exactly when `int()` accepts its text. -/
theorem buildEntry_eq_int {s : String} {i : ℤ} : buildEntry s = .int i ↔ parseIntStrip s = some i := by
  unfold buildEntry
  cases parseIntStrip s <;> simp

/-! ## Keys -/

theorem nodeMatch_append {node name digits : String} (h : nodeMatch node = some (name, digits)) :
    node = name ++ digits := by
  dsimp only [nodeMatch] at h
  split at h
  · cases h
  · cases h
    apply String.ext
    rw [String.data_append, ← List.reverse_append, List.takeWhile_append_dropWhile, List.reverse_reverse]

/-- The digits ending a key are the decimal numeral of their value: no leading zero. -/
def NoLeadingZero (key : String) : Prop := ∀ m ∈ nodeMatch key, m.2 = toString (decimalValue m.2)

/-- A packable key has digits and a name among `cpu`, `domain` and `group`. -/
theorem packable_iff {key : String} :
    packable key = true ↔ ∃ name digits, nodeMatch key = some (name, digits) ∧ name ∈ packableEntries := by
  unfold packable endsWithDigits nodeName
  rcases nodeMatch key with _ | ⟨a, b⟩ <;> simp

theorem nodeDigits_of_packable {key : String} (h : packable key = true) :
    ∃ i, nodeDigits key = .ok i := by
  obtain ⟨name, digits, hm, -⟩ := packable_iff.mp h
  exact ⟨decimalValue digits, by simp [nodeDigits, hm]⟩

/-- A pack destination is `cpus`, `domains` or `groups`. -/
theorem packable_dest {key : String} (h : packable key = true) :
    nodeName key ++ "s" ∈ ["cpus", "domains", "groups"] := by
  obtain ⟨name, digits, hm, hn⟩ := packable_iff.mp h
  simp only [nodeName, hm]
  simp only [packableEntries, List.mem_cons, List.mem_singleton, List.not_mem_nil, or_false] at hn
  rcases hn with rfl | rfl | rfl <;> decide

/-- Without leading zeros, a packable key is its destination and its index. -/
theorem packable_key_eq {k₁ k₂ : String} (h₁ : packable k₁ = true) (h₂ : packable k₂ = true)
    (z₁ : NoLeadingZero k₁) (z₂ : NoLeadingZero k₂) (hn : nodeName k₁ ++ "s" = nodeName k₂ ++ "s")
    (hd : nodeDigits k₁ = nodeDigits k₂) : k₁ = k₂ := by
  obtain ⟨n₁, d₁, hm₁, -⟩ := packable_iff.mp h₁
  obtain ⟨n₂, d₂, hm₂, -⟩ := packable_iff.mp h₂
  have hz₁ : d₁ = toString (decimalValue d₁) := z₁ _ hm₁
  have hz₂ : d₂ = toString (decimalValue d₂) := z₂ _ hm₂
  simp only [nodeName, hm₁, hm₂, nodeDigits, Except.ok.injEq] at hn hd
  have hdata := congrArg String.data hn
  simp only [String.data_append] at hdata
  have hname : n₁ = n₂ := String.ext (List.append_cancel_right hdata)
  rw [nodeMatch_append hm₁, nodeMatch_append hm₂, hname, hz₁, hz₂, hd]

/-- Keys of a directory that `_dyn_attrs` keeps apart: distinct, the digits of a
packable key without a leading zero, and no other key a pack destination. -/
def KeysOK (es : List (String × PTree)) : Prop :=
  (es.map Prod.fst).Nodup ∧ (∀ e ∈ es, packable e.1 = true → NoLeadingZero e.1) ∧
    ∀ e ∈ es, packable e.1 = false → e.1 ∉ ["cpus", "domains", "groups"]

instance (key : String) : Decidable (NoLeadingZero key) :=
  inferInstanceAs (Decidable (∀ m ∈ nodeMatch key, _))

instance (es : List (String × PTree)) : Decidable (KeysOK es) := inferInstanceAs (Decidable (_ ∧ _ ∧ _))

/-! ## The two loops -/

/-- One iteration of the packing loop. -/
def packEntry (e : String × PTree) : Except Error (String × ℕ × Value) := do
  let i ← nodeDigits e.1
  let v ← buildNode e.1 e.2
  return (nodeName e.1 ++ "s", i, v)

/-- One iteration of the last loop. -/
def otherEntry (e : String × PTree) : Except Error (String × Value) := do
  let v ← buildNode e.1 e.2
  return (e.1, v)

theorem buildPacked_eq (es : List (String × PTree)) :
    buildPacked es = (es.filter (packable ·.1)).mapM' packEntry := by
  induction es with
  | nil => rfl
  | cons e es ih =>
    obtain ⟨k, t⟩ := e
    by_cases hk : packable k = true
    · simp [buildPacked, hk, List.filter_cons, packEntry, ih]
    · simp [buildPacked, hk, List.filter_cons, ih]

theorem buildOthers_eq (es : List (String × PTree)) :
    buildOthers es = (es.filter (!packable ·.1)).mapM' otherEntry := by
  induction es with
  | nil => rfl
  | cons e es ih =>
    obtain ⟨k, t⟩ := e
    by_cases hk : packable k = true
    · simp [buildOthers, hk, List.filter_cons, ih]
    · simp [buildOthers, hk, List.filter_cons, otherEntry, ih]

/-- A loop of `mapM` succeeds when each iteration does, and yields what they yield. -/
theorem mapM_ok {α β : Type} {f : α → Except Error β} {l : List α} (h : ∀ a ∈ l, ∃ b, f a = .ok b) :
    ∃ bs, l.mapM' f = .ok bs ∧ (∀ b ∈ bs, ∃ a ∈ l, f a = .ok b) ∧ ∀ a ∈ l, ∃ b ∈ bs, f a = .ok b := by
  induction l with
  | nil => exact ⟨[], rfl, by simp, by simp⟩
  | cons a l ih =>
    obtain ⟨b, hb⟩ := h a (List.mem_cons_self _ _)
    obtain ⟨bs, hbs, h1, h2⟩ := ih fun a' ha' => h a' (List.mem_cons_of_mem _ ha')
    refine ⟨b :: bs, by simp [hb, hbs]; rfl, ?_, ?_⟩
    · rintro b' (_ | ⟨_, hb'⟩)
      · exact ⟨a, List.mem_cons_self _ _, hb⟩
      · obtain ⟨a', ha', hfa'⟩ := h1 b' hb'
        exact ⟨a', List.mem_cons_of_mem _ ha', hfa'⟩
    · rintro a' (_ | ⟨_, ha'⟩)
      · exact ⟨b, List.mem_cons_self _ _, hb⟩
      · obtain ⟨b', hb', hfb'⟩ := h2 a' ha'
        exact ⟨b', List.mem_cons_of_mem _ hb', hfb'⟩

/-! ## Where `_dyn_attrs` puts each entry -/

/-- Where an entry of a node is read: `_dyn_attrs[name + 's'][N]` for a
packable key `nameN`, `_dyn_attrs[key]` for any other. -/
def placed (attrs : List (String × Value)) (key : String) : Option Value :=
  if packable key then
    match dictGet attrs (nodeName key ++ "s"), nodeDigits key with
    | some (.packed es), .ok i => dictGet es i
    | _, _ => none
  else dictGet attrs key

theorem dictGet_packInto (attrs : List (String × Value)) (dest : String) (i : ℕ) (v : Value)
    (d : String) : dictGet (packInto attrs dest i v) d =
      if dest = d then (dictGet attrs d).map (·.packedInsert i v) else dictGet attrs d := by
  rw [packInto, dictGet_map (fun e => by split <;> simp_all)]
  cases hf : attrs.find? (·.1 = d) with
  | none => simp [dictGet, hf]
  | some e =>
    have he : e.1 = d := by simpa using List.find?_some hf
    by_cases hd : dest = d <;> simp [dictGet, hf, he, hd, Ne.symm]

/-- The packing puts each packed entry into the dictionary of its destination. -/
theorem dictGet_packAll (ps : List (String × ℕ × Value)) {attrs : List (String × Value)} {d : String}
    {q : List (ℕ × Value)} (h : dictGet attrs d = some (.packed q)) :
    dictGet (ps.foldl (fun attrs p => packInto attrs p.1 p.2.1 p.2.2) attrs) d =
      some (.packed (((ps.filter (·.1 = d)).map Prod.snd).foldl dictInsert q)) := by
  induction ps generalizing attrs q with
  | nil => exact h
  | cons p ps ih =>
    rw [List.foldl_cons]
    by_cases hp : p.1 = d
    · rw [ih (q := dictInsert q p.2) (by simp [dictGet_packInto, hp, h, Value.packedInsert])]
      simp [hp]
    · rw [ih (by rw [dictGet_packInto, if_neg hp, h])]
      simp [hp]

/-- Every destination starts as an empty dictionary. -/
theorem dictGet_dests {ps : List (String × ℕ × Value)} {d : String} (hd : d ∈ ps.map (·.1)) :
    dictGet ((ps.map (·.1)).foldl (fun attrs dest => dictInsert attrs (dest, Value.packed [])) []) d =
      some (Value.packed []) := by
  rw [← List.foldl_map (fun dest => (dest, Value.packed [])) dictInsert]
  refine dictGet_foldl_of_forall (fun w hw => ?_) (by simpa using hd) _
  obtain ⟨_, _, he⟩ := List.mem_map.mp hw
  exact (Prod.ext_iff.mp he).2.symm

theorem packEntry_eq_ok {e : String × PTree} {p : String × ℕ × Value} (h : packEntry e = .ok p) :
    ∃ i v, nodeDigits e.1 = .ok i ∧ buildNode e.1 e.2 = .ok v ∧ p = (nodeName e.1 ++ "s", i, v) := by
  unfold packEntry at h
  cases hi : nodeDigits e.1 <;> cases hv : buildNode e.1 e.2 <;> simp_all [bind, Except.bind, pure, Except.pure]

theorem otherEntry_eq_ok {e : String × PTree} {o : String × Value} (h : otherEntry e = .ok o) :
    o.1 = e.1 ∧ buildNode e.1 e.2 = .ok o.2 := by
  unfold otherEntry at h
  cases hv : buildNode e.1 e.2 <;> simp_all [bind, Except.bind, pure, Except.pure]
  subst h
  simp

section Placement

variable {es : List (String × PTree)} {ps : List (String × ℕ × Value)} {os : List (String × Value)}

/-- An entry whose key is not packable is placed under its key. -/
theorem placed_of_not_packable (hk : KeysOK es)
    (hos1 : ∀ o ∈ os, ∃ e ∈ es.filter (!packable ·.1), otherEntry e = .ok o)
    (hos2 : ∀ e ∈ es.filter (!packable ·.1), ∃ o ∈ os, otherEntry e = .ok o)
    {e : String × PTree} (he : e ∈ es) (hp : packable e.1 = false) {v : Value} (hv : buildNode e.1 e.2 = .ok v) :
    placed (dynAttrs ps os) e.1 = some v := by
  simp only [placed, hp, Bool.false_eq_true, if_false, dynAttrs]
  refine dictGet_foldl_of_forall (fun w hw => ?_) ?_ _
  · obtain ⟨e', he', ho⟩ := hos1 _ hw
    obtain ⟨h1, h2⟩ := otherEntry_eq_ok ho
    rw [List.inj_on_of_nodup_map hk.1 (List.mem_filter.mp he').1 he h1.symm] at h2
    exact Except.ok.inj (h2.symm.trans hv)
  · obtain ⟨o, ho, heo⟩ := hos2 e (List.mem_filter.mpr ⟨he, by simp [hp]⟩)
    exact List.mem_map.mpr ⟨o, ho, (otherEntry_eq_ok heo).1⟩

/-- A packable entry `nameN` is placed at `[name + 's'][N]`: no other key is
that destination, and no other packable key has the same name and index. -/
theorem placed_of_packable (hk : KeysOK es)
    (hps1 : ∀ p ∈ ps, ∃ e ∈ es.filter (packable ·.1), packEntry e = .ok p)
    (hps2 : ∀ e ∈ es.filter (packable ·.1), ∃ p ∈ ps, packEntry e = .ok p)
    (hos1 : ∀ o ∈ os, ∃ e ∈ es.filter (!packable ·.1), otherEntry e = .ok o)
    {e : String × PTree} (he : e ∈ es) (hp : packable e.1 = true) {v : Value} (hv : buildNode e.1 e.2 = .ok v) :
    placed (dynAttrs ps os) e.1 = some v := by
  have hdest : nodeName e.1 ++ "s" ∉ os.map Prod.fst := fun hm => by
    obtain ⟨o, ho, hoe⟩ := List.mem_map.mp hm
    obtain ⟨e', he', heo⟩ := hos1 o ho
    obtain ⟨he'', hp'⟩ := List.mem_filter.mp he'
    have := hk.2.2 e' he'' (by simpa using hp')
    rw [← (otherEntry_eq_ok heo).1, hoe] at this
    exact this (packable_dest hp)
  obtain ⟨p, hpm, hpe⟩ := hps2 e (List.mem_filter.mpr ⟨he, hp⟩)
  obtain ⟨i, v', hi, hv', rfl⟩ := packEntry_eq_ok hpe
  obtain rfl : v = v' := Except.ok.inj (hv.symm.trans hv')
  have hd : nodeName e.1 ++ "s" ∈ ps.map (·.1) := List.mem_map.mpr ⟨_, hpm, rfl⟩
  simp only [placed, hp, if_true, dynAttrs, dictGet_foldl_of_not_mem hdest,
    dictGet_packAll ps (dictGet_dests hd), hi]
  refine dictGet_foldl_of_forall (fun w hw => ?_) ?_ _
  · obtain ⟨q, hq, hqw⟩ := List.mem_map.mp hw
    obtain ⟨hqps, hqd⟩ := List.mem_filter.mp hq
    obtain ⟨e', he', heq⟩ := hps1 q hqps
    obtain ⟨he'', hp'⟩ := List.mem_filter.mp he'
    obtain ⟨i', w', hi', hw', rfl⟩ := packEntry_eq_ok heq
    obtain ⟨rfl, rfl⟩ := Prod.mk.inj hqw
    have hkey : e'.1 = e.1 := packable_key_eq hp' hp (hk.2.1 e' he'' hp') (hk.2.1 e he hp)
      (by simpa using hqd) (hi'.trans hi.symm)
    rw [List.inj_on_of_nodup_map hk.1 he'' he hkey] at hw'
    exact Except.ok.inj (hw'.symm.trans hv)
  · exact List.mem_map.mpr ⟨(i, v), List.mem_map.mpr ⟨_, List.mem_filter.mpr ⟨hpm, by simp⟩, rfl⟩, rfl⟩

end Placement

/-- One level of `SchedProcFSNode.__init__`: when every entry builds, both
loops succeed and each entry is placed where its key says. -/
theorem attrs_places {es : List (String × PTree)} (hk : KeysOK es)
    (hch : ∀ e ∈ es, ∃ v, buildNode e.1 e.2 = .ok v) :
    ∃ ps os, buildPacked es = .ok ps ∧ buildOthers es = .ok os ∧
      ∀ e ∈ es, ∀ v, buildNode e.1 e.2 = .ok v → placed (dynAttrs ps os) e.1 = some v := by
  have hpe : ∀ e ∈ es.filter (packable ·.1), ∃ p, packEntry e = .ok p := fun e he => by
    obtain ⟨he, hp⟩ := List.mem_filter.mp he
    obtain ⟨i, hi⟩ := nodeDigits_of_packable hp
    obtain ⟨v, hv⟩ := hch e he
    exact ⟨_, by simp only [packEntry, hi, hv]; rfl⟩
  have hoe : ∀ e ∈ es.filter (!packable ·.1), ∃ o, otherEntry e = .ok o := fun e he => by
    obtain ⟨v, hv⟩ := hch e (List.mem_filter.mp he).1
    exact ⟨_, by simp only [otherEntry, hv]; rfl⟩
  obtain ⟨ps, hps, hps1, hps2⟩ := mapM_ok hpe
  obtain ⟨os, hos, hos1, hos2⟩ := mapM_ok hoe
  refine ⟨ps, os, (buildPacked_eq es).trans hps, (buildOthers_eq es).trans hos, fun e he v hv => ?_⟩
  cases hp : packable e.1
  case false => exact placed_of_not_packable hk hos1 hos2 he hp hv
  case true => exact placed_of_packable hk hps1 hps2 hos1 he hp hv

theorem buildNode_dir_eq (key : String) {es : List (String × PTree)} {ps : List (String × ℕ × Value)}
    {os : List (String × Value)} (hp : buildPacked es = .ok ps) (ho : buildOthers es = .ok os) :
    buildNode key (.dir es) =
      if startswith key "domain" then schedDomainOf es (dynAttrs ps os) else .ok (.node es (dynAttrs ps os) none) := by
  simp only [buildNode, hp, ho, bind, Except.bind]
  rfl

/-- A `flags` file is found under `flags`, as `_build_entry` made it. -/
theorem dictGet_flags {es : List (String × PTree)} {ps : List (String × ℕ × Value)} {os : List (String × Value)}
    (hplaced : ∀ e ∈ es, ∀ v, buildNode e.1 e.2 = .ok v → placed (dynAttrs ps os) e.1 = some v)
    {s : String} (hs : dictGet es "flags" = some (.leaf s)) :
    dictGet (dynAttrs ps os) "flags" = some (buildEntry s) :=
  hplaced _ (mem_of_dictGet hs) _ rfl

/-- A domain directory whose `flags` file holds an integer raises `TypeError`
once its entries are built: `has_flag` iterates the integer. -/
theorem buildNode_int_flags {key : String} {es : List (String × PTree)} (hkey : startswith key "domain" = true)
    (hk : KeysOK es) (hch : ∀ e ∈ es, ∃ v, buildNode e.1 e.2 = .ok v) {s : String} {i : ℤ}
    (hs : dictGet es "flags" = some (.leaf s)) (hi : parseIntStrip s = some i) :
    buildNode key (.dir es) = .error (.typeError "'int' object is not iterable") := by
  obtain ⟨ps, os, hp, ho, hplaced⟩ := attrs_places hk hch
  have hflags := dictGet_flags hplaced hs
  simp only [buildEntry, hi] at hflags
  rw [buildNode_dir_eq key hp ho, if_pos hkey, schedDomainOf, hflags]
  rfl

/-- The `MC` domain of a kernel that prints its flags as the bitfield `4143`. -/
def bitfieldDomain : List (String × PTree) := [("flags", .leaf "4143"), ("name", .leaf "MC")]

theorem buildNode_int_flags_mc :
    startswith "domain0" "domain" = true ∧ KeysOK bitfieldDomain ∧
      (∀ e ∈ bitfieldDomain, ∃ v, buildNode e.1 e.2 = .ok v) ∧
      dictGet bitfieldDomain "flags" = some (.leaf "4143") ∧ parseIntStrip "4143" = some 4143 ∧
      buildNode "domain0" (.dir bitfieldDomain) = .error (.typeError "'int' object is not iterable") :=
  have hch : ∀ e ∈ bitfieldDomain, ∃ v, buildNode e.1 e.2 = .ok v := by
    simp only [bitfieldDomain, List.mem_cons, List.mem_singleton, List.not_mem_nil, or_false]
    rintro e (rfl | rfl) <;> exact ⟨_, rfl⟩
  ⟨rfl, by decide, hch, rfl, rfl, buildNode_int_flags rfl (by decide) hch rfl rfl⟩

/-- The `sched_domain` directory of a kernel that prints the flags of its `MC`
domain as the bitfield `4143`. -/
def bitfieldTree : PTree := .dir [("cpu0", .dir [("domain0", .dir bitfieldDomain)])]

theorem schedProcFSNode_bitfield_flags :
    schedProcFSNode bitfieldTree = .error (.typeError "'int' object is not iterable") := rfl

/-- A domain directory whose `flags` file holds a text `int()` rejects: the
space-separated flag names of recent kernels. -/
def NamedFlags (es : List (String × PTree)) : Prop :=
  ∃ s, dictGet es "flags" = some (.leaf s) ∧ parseIntStrip s = none

/-- A directory with keys as `KeysOK` asks whose entries all build is built,
each entry placed where its key says, and a domain directory with named flags
carries the flags its words name. -/
theorem buildNode_dir {key : String} {es : List (String × PTree)} (hk : KeysOK es)
    (hf : startswith key "domain" = true → NamedFlags es) (hch : ∀ e ∈ es, ∃ v, buildNode e.1 e.2 = .ok v) :
    ∃ attrs flags, buildNode key (.dir es) = .ok (.node es attrs flags) ∧
      (∀ e ∈ es, ∃ v, buildNode e.1 e.2 = .ok v ∧ placed attrs e.1 = some v) ∧
      (startswith key "domain" = false → flags = none) ∧
      ∀ s, startswith key "domain" = true → dictGet es "flags" = some (.leaf s) →
        flags = some ((split s).map fun name => ⟨name, none⟩).dedup := by
  obtain ⟨ps, os, hp, ho, hplaced⟩ := attrs_places hk hch
  have hall : ∀ e ∈ es, ∃ v, buildNode e.1 e.2 = .ok v ∧ placed (dynAttrs ps os) e.1 = some v :=
    fun e he => (hch e he).imp fun v hv => ⟨hv, hplaced e he v hv⟩
  cases hkey : startswith key "domain"
  case false =>
    refine ⟨dynAttrs ps os, none, ?_, hall, fun _ => rfl, fun _ h => absurd h (by decide)⟩
    rw [buildNode_dir_eq key hp ho, hkey]
    rfl
  case true =>
    obtain ⟨s, hs, hsi⟩ := hf hkey
    have hflags := dictGet_flags hplaced hs
    simp only [buildEntry, hsi] at hflags
    refine ⟨dynAttrs ps os, some ((split s).map fun name => (⟨name, none⟩ : SchedDomainFlag)).dedup, ?_, hall,
      fun h => absurd h (by decide), fun s' _ hs' => ?_⟩
    · rw [buildNode_dir_eq key hp ho, if_pos hkey, schedDomainOf, hflags]
      rfl
    · cases hs.symm.trans hs'
      rfl

mutual
/-- Trees with named flags whose keys `_dyn_attrs` keeps apart: every directory
has keys as `KeysOK` asks, and every domain directory named flags. -/
def Good : String → PTree → Prop
  | _, .leaf _ => True
  | key, .dir es => KeysOK es ∧ (startswith key "domain" = true → NamedFlags es) ∧ GoodEntries es

/-- `Good` for every entry of a directory. -/
def GoodEntries : List (String × PTree) → Prop
  | [] => True
  | (k, t) :: es => Good k t ∧ GoodEntries es
end

mutual
/-- `_build_node` succeeds on every tree with named flags. -/
theorem buildNode_ok : ∀ (key : String) (t : PTree), Good key t → ∃ v, buildNode key t = .ok v
  | _, .leaf _, _ => ⟨_, rfl⟩
  | _, .dir es, h =>
    let ⟨_, _, hb, _⟩ := buildNode_dir h.1 h.2.1 (entries_ok es h.2.2)
    ⟨_, hb⟩

theorem entries_ok : ∀ es : List (String × PTree), GoodEntries es → ∀ e ∈ es, ∃ v, buildNode e.1 e.2 = .ok v
  | [], _, e, he => absurd he (List.not_mem_nil e)
  | (k, t) :: es, h, e, he =>
    match e, List.mem_cons.mp he with
    | _, .inl rfl => buildNode_ok k t h.1
    | e, .inr he => entries_ok es h.2 e he
end

/-- On a tree whose directories have distinct keys, packable keys without
leading zeros, no other key named like a pack destination, and named flags in
every domain directory, `SchedProcFSNode` builds every directory at every depth:
each entry is placed at `_dyn_attrs[name + 's'][N]` or `_dyn_attrs[key]`, and a
domain directory carries as its flags exactly the words of its `flags` file,
each without a value. -/
theorem buildNode_places {key : String} {es : List (String × PTree)} (h : Good key (.dir es)) :
    ∃ attrs flags, buildNode key (.dir es) = .ok (.node es attrs flags) ∧
      (∀ e ∈ es, ∃ v, buildNode e.1 e.2 = .ok v ∧ placed attrs e.1 = some v) ∧
      (startswith key "domain" = false → flags = none) ∧
      ∀ s, startswith key "domain" = true → dictGet es "flags" = some (.leaf s) →
        ∃ fs, flags = some fs ∧ ∀ f, f ∈ fs ↔ f.value = none ∧ f.name ∈ split s := by
  obtain ⟨attrs, flags, hb, hall, hnone, hsome⟩ := buildNode_dir h.1 h.2.1 (entries_ok es h.2.2)
  refine ⟨attrs, flags, hb, hall, hnone, fun s hkey hs => ⟨_, hsome s hkey hs, fun f => ?_⟩⟩
  obtain ⟨name, value⟩ := f
  simp only [List.mem_dedup, List.mem_map]
  constructor
  · rintro ⟨n, hn, he⟩
    cases he
    exact ⟨rfl, hn⟩
  · rintro ⟨rfl, hn⟩
    exact ⟨name, hn, rfl⟩

/-- The `sched_domain` directory of a CPU on a kernel that names the flags. -/
def namedFlagsTree : List (String × PTree) :=
  [("domain0", .dir [("flags", .leaf "SD_BALANCE_NEWIDLE SD_WAKE_AFFINE SD_SHARE_PKG_RESOURCES"),
      ("name", .leaf "MC")]),
    ("domain1", .dir [("flags", .leaf "SD_BALANCE_NEWIDLE SD_WAKE_AFFINE"), ("name", .leaf "DIE")])]

theorem buildNode_places_named :
    Good "cpu0" (.dir namedFlagsTree) ∧
      ∃ attrs flags, buildNode "cpu0" (.dir namedFlagsTree) = .ok (.node namedFlagsTree attrs flags) :=
  have h : Good "cpu0" (.dir namedFlagsTree) :=
    ⟨by decide, fun h => absurd h (by decide),
      ⟨by decide, fun _ => ⟨_, rfl, rfl⟩, trivial, trivial, trivial⟩,
      ⟨by decide, fun _ => ⟨_, rfl, rfl⟩, trivial, trivial, trivial⟩, trivial⟩
  ⟨h, (buildNode_places h).imp fun _ h => h.imp fun _ h => h.1⟩

end Devlib.Sched

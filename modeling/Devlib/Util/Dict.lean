import Mathlib.Data.List.Dedup

/-!
# Python dictionaries and loops

A dictionary is kept as its items in insertion order. `d[k] = v` updates a
present key in place and appends a new one, so a key is held once and keeps
the position of its first insertion; lookups find the one item of the key.
A loop that stops at the first exception is a `mapM` in `Except`.
-/

namespace Devlib

section Dict

variable {κ ν : Type} [DecidableEq κ]

/-- `d[k] = v` on a dictionary kept as its items in insertion order. -/
def dictInsert (d : List (κ × ν)) (kv : κ × ν) : List (κ × ν) :=
  if kv.1 ∈ d.map Prod.fst then d.map fun e => if e.1 = kv.1 then kv else e else d ++ [kv]

/-- `dict(pairs)`: a repeated key keeps its first position and takes the last value. -/
def pyDict (kvs : List (κ × ν)) : List (κ × ν) := kvs.foldl dictInsert []

/-- `d[k]`, `none` for a missing key. -/
def dictGet (d : List (κ × ν)) (k : κ) : Option ν := (d.find? (·.1 = k)).map Prod.snd

theorem keys_dictInsert (d : List (κ × ν)) (kv : κ × ν) :
    (dictInsert d kv).map Prod.fst =
      if kv.1 ∈ d.map Prod.fst then d.map Prod.fst else d.map Prod.fst ++ [kv.1] := by
  unfold dictInsert
  split
  · simp only [List.map_map]
    exact List.map_congr_left fun e _ => by dsimp only [Function.comp_def]; split <;> simp_all
  · simp

theorem mem_keys_dictInsert {d : List (κ × ν)} {kv : κ × ν} {k : κ} :
    k ∈ (dictInsert d kv).map Prod.fst ↔ k ∈ d.map Prod.fst ∨ k = kv.1 := by
  rw [keys_dictInsert]
  split
  · exact ⟨.inl, fun h => h.elim id (· ▸ ‹_›)⟩
  · simp only [List.mem_append, List.mem_singleton]

theorem mem_dictInsert {d : List (κ × ν)} {kv e : κ × ν} (h : e ∈ dictInsert d kv) :
    e ∈ d ∨ e = kv := by
  unfold dictInsert at h
  split at h
  · obtain ⟨e', he', rfl⟩ := List.mem_map.mp h
    split
    · exact .inr rfl
    · exact .inl he'
  · simpa using h

/-- A dictionary holds each key once. -/
theorem nodup_keys_pyDict (kvs : List (κ × ν)) : ((pyDict kvs).map Prod.fst).Nodup := by
  suffices ∀ d : List (κ × ν), (d.map Prod.fst).Nodup → ((kvs.foldl dictInsert d).map Prod.fst).Nodup from
    this [] List.nodup_nil
  induction kvs with
  | nil => exact fun _ h => h
  | cons kv kvs ih =>
    refine fun d hd => ih _ ?_
    rw [keys_dictInsert]
    split
    · exact hd
    · exact hd.append (List.nodup_singleton _) (List.disjoint_singleton.mpr ‹_›)

/-- Every item of a dictionary is one of the pairs it was built from. -/
theorem mem_of_mem_pyDict {kvs : List (κ × ν)} {e : κ × ν} (h : e ∈ pyDict kvs) : e ∈ kvs := by
  suffices ∀ d : List (κ × ν), e ∈ kvs.foldl dictInsert d → e ∈ d ∨ e ∈ kvs from
    (this [] h).resolve_left (List.not_mem_nil e)
  clear h
  induction kvs with
  | nil => exact fun _ h => .inl h
  | cons kv kvs ih =>
    intro d hd
    rcases ih (dictInsert d kv) hd with h | h
    · rcases mem_dictInsert h with h | rfl
      · exact .inl h
      · exact .inr (List.mem_cons_self _ _)
    · exact .inr (List.mem_cons_of_mem _ h)

/-- A dictionary has the keys of the pairs it was built from. -/
theorem mem_keys_pyDict {kvs : List (κ × ν)} {k : κ} :
    k ∈ (pyDict kvs).map Prod.fst ↔ k ∈ kvs.map Prod.fst := by
  suffices ∀ d : List (κ × ν),
      k ∈ (kvs.foldl dictInsert d).map Prod.fst ↔ k ∈ d.map Prod.fst ∨ k ∈ kvs.map Prod.fst by
    simpa using this []
  induction kvs with
  | nil => simp
  | cons kv kvs ih =>
    intro d
    rw [List.foldl_cons, ih, mem_keys_dictInsert, List.map_cons, List.mem_cons, or_assoc]

theorem mem_of_dictGet {d : List (κ × ν)} {k : κ} {v : ν} (h : dictGet d k = some v) : (k, v) ∈ d := by
  obtain ⟨e, he, rfl⟩ := Option.map_eq_some'.mp h
  have := List.find?_some he
  simp only [decide_eq_true_eq] at this
  exact this ▸ List.mem_of_find?_eq_some he

theorem dictGet_of_mem {d : List (κ × ν)} (hd : (d.map Prod.fst).Nodup) {k : κ} {v : ν}
    (h : (k, v) ∈ d) : dictGet d k = some v := by
  cases hf : d.find? (·.1 = k) with
  | none => simpa using List.find?_eq_none.mp hf _ h
  | some e =>
    have he := List.mem_of_find?_eq_some hf
    have hk : e.1 = k := by simpa using List.find?_some hf
    rw [dictGet, hf, Option.map_some', (List.inj_on_of_nodup_map hd he h hk : e = (k, v))]

/-- Pairs with distinct keys make the dictionary of themselves. -/
theorem pyDict_of_nodup {kvs : List (κ × ν)} (h : (kvs.map Prod.fst).Nodup) : pyDict kvs = kvs := by
  suffices ∀ d : List (κ × ν), ((d ++ kvs).map Prod.fst).Nodup → kvs.foldl dictInsert d = d ++ kvs from
    this [] h
  clear h
  induction kvs with
  | nil => simp
  | cons kv kvs ih =>
    intro d hd
    have hnew : kv.1 ∉ d.map Prod.fst := by
      simp only [List.map_append, List.map_cons, List.nodup_append, List.disjoint_cons_right] at hd
      exact hd.2.2.1
    rw [List.foldl_cons, dictInsert, if_neg hnew, ih _ (by simpa using hd), List.append_assoc,
      List.singleton_append]

/-- A lookup in `dict(pairs)` with a default answers `b` when every pair with
the key holds `b`, and either some pair has the key or the default is `b`. -/
theorem dictGet_pyDict_getD {kvs : List (κ × ν)} {k : κ} {d b : ν} (hb : ∀ v, (k, v) ∈ kvs → v = b)
    (hd : k ∈ kvs.map Prod.fst ∨ d = b) : (dictGet (pyDict kvs) k).getD d = b := by
  cases h : dictGet (pyDict kvs) k with
  | some v => exact hb v (mem_of_mem_pyDict (mem_of_dictGet h))
  | none =>
    rcases hd with hk | rfl
    · obtain ⟨⟨k', v⟩, hv, rfl⟩ := List.mem_map.mp (mem_keys_pyDict.mpr hk)
      simp [dictGet_of_mem (nodup_keys_pyDict kvs) hv] at h
    · rfl

/-- A lookup in a dictionary whose items are rewritten keeping their keys. -/
theorem dictGet_map {d : List (κ × ν)} {f : κ × ν → κ × ν} (hf : ∀ e, (f e).1 = e.1) (k : κ) :
    dictGet (d.map f) k = (d.find? (·.1 = k)).map fun e => (f e).2 := by
  have hp : ((fun e : κ × ν => decide (e.1 = k)) ∘ f) = fun e => decide (e.1 = k) :=
    funext fun e => by simp [hf]
  simp only [dictGet, List.find?_map, hp, Option.map_map]
  rfl

@[simp] theorem dictGet_dictInsert (d : List (κ × ν)) (kv : κ × ν) (k : κ) :
    dictGet (dictInsert d kv) k = if kv.1 = k then some kv.2 else dictGet d k := by
  unfold dictInsert
  split
  · rw [dictGet_map (fun e => by split <;> simp_all)]
    split
    · subst k
      obtain ⟨e, he, hek⟩ := List.mem_map.mp ‹kv.1 ∈ d.map Prod.fst›
      obtain ⟨e', he'⟩ : ∃ e', d.find? (fun x => decide (x.1 = kv.1)) = some e' :=
        Option.isSome_iff_exists.mp (List.find?_isSome.mpr ⟨e, he, by simpa using hek⟩)
      have : e'.1 = kv.1 := by simpa using List.find?_some he'
      simp [he', this]
    · cases hf : d.find? (·.1 = k) with
      | none => simp [dictGet, hf]
      | some e =>
        have : e.1 = k := by simpa using List.find?_some hf
        simp [dictGet, hf, this, Ne.symm ‹¬kv.1 = k›]
  · split
    · subst k
      have : d.find? (·.1 = kv.1) = none := List.find?_eq_none.mpr fun e he h =>
        ‹kv.1 ∉ d.map Prod.fst› (List.mem_map.mpr ⟨e, he, by simpa using h⟩)
      simp [dictGet, List.find?_append, this]
    · cases hf : d.find? (·.1 = k) <;> simp [dictGet, List.find?_append, hf, ‹¬kv.1 = k›]

theorem dictGet_foldl_of_not_mem {l : List (κ × ν)} {k : κ} (h : k ∉ l.map Prod.fst) (d : List (κ × ν)) :
    dictGet (l.foldl dictInsert d) k = dictGet d k := by
  induction l generalizing d with
  | nil => rfl
  | cons kv l ih =>
    simp only [List.map_cons, List.mem_cons, not_or] at h
    rw [List.foldl_cons, ih h.2, dictGet_dictInsert, if_neg (Ne.symm h.1)]

theorem dictGet_isSome {d : List (κ × ν)} {k : κ} : (dictGet d k).isSome ↔ k ∈ d.map Prod.fst := by
  simp [dictGet, List.find?_isSome]

/-- After inserting pairs, a key some pair has maps to `v` when every pair with
the key holds `v`. -/
theorem dictGet_foldl_of_forall {l : List (κ × ν)} {k : κ} {v : ν} (hl : ∀ w, (k, w) ∈ l → w = v)
    (hk : k ∈ l.map Prod.fst) (d : List (κ × ν)) : dictGet (l.foldl dictInsert d) k = some v := by
  induction l generalizing d with
  | nil => cases hk
  | cons kv l ih =>
    rw [List.foldl_cons]
    by_cases hkl : k ∈ l.map Prod.fst
    · exact ih (fun w hw => hl w (List.mem_cons_of_mem _ hw)) hkl _
    · have hkv : kv.1 = k := by simp [hkl] at hk; exact hk.symm
      rw [dictGet_foldl_of_not_mem hkl, dictGet_dictInsert, if_pos hkv,
        hl kv.2 (by rw [← hkv]; exact List.mem_cons_self _ _)]

end Dict

/-! ## Loops in order -/

section MapM

variable {α β ε : Type}

/-- A sequence in `Except` returns when both of its parts do. -/
theorem except_bind_eq_ok {x : Except ε α} {f : α → Except ε β} {b : β} :
    x >>= f = .ok b ↔ ∃ a, x = .ok a ∧ f a = .ok b := by
  cases x <;> simp [bind, Except.bind]

/-- A mapped value in `Except` is there when the value is. -/
theorem except_map_eq_ok {x : Except ε α} {f : α → β} {b : β} :
    f <$> x = .ok b ↔ ∃ a, x = .ok a ∧ f a = b := by
  cases x <;> simp [Functor.map, Except.map]

/-- A `mapM` in `Except` that succeeds has answered each element, in order. -/
theorem forall₂_of_mapM_ok {f : α → Except ε β} :
    ∀ {l : List α} {bs : List β}, l.mapM f = .ok bs → List.Forall₂ (fun a b => f a = .ok b) l bs
  | [], _, h => by cases h; exact .nil
  | a :: l, bs, h => by
    rw [List.mapM_cons] at h
    cases hf : f a with
    | error e => rw [hf] at h; cases h
    | ok b =>
      cases hl : l.mapM f with
      | error e => rw [hf, hl] at h; cases h
      | ok bs' =>
        rw [hf, hl] at h
        cases h
        exact .cons hf (forall₂_of_mapM_ok hl)

variable {R : α → β → Prop}

theorem forall₂_getElem?_right {l : List α} {bs : List β} (h : List.Forall₂ R l bs) :
    ∀ {i : ℕ} {b : β}, bs[i]? = some b → ∃ a, l[i]? = some a ∧ R a b := by
  induction h with
  | nil => simp
  | cons hab _ ih =>
    intro i b hb
    cases i with
    | zero =>
      rw [List.getElem?_cons_zero, Option.some.injEq] at hb
      exact ⟨_, List.getElem?_cons_zero, hb ▸ hab⟩
    | succ i =>
      rw [List.getElem?_cons_succ] at hb ⊢
      exact ih hb

theorem forall₂_mem_right {l : List α} {bs : List β} (h : List.Forall₂ R l bs) {b : β}
    (hb : b ∈ bs) : ∃ a ∈ l, R a b := by
  obtain ⟨i, hi⟩ := List.mem_iff_getElem?.mp hb
  obtain ⟨a, ha, hr⟩ := forall₂_getElem?_right h hi
  exact ⟨a, List.getElem?_mem ha, hr⟩

theorem forall₂_mem_left {l : List α} {bs : List β} (h : List.Forall₂ R l bs) {a : α}
    (ha : a ∈ l) : ∃ b ∈ bs, R a b := by
  induction h with
  | nil => cases ha
  | cons hab _ ih =>
    rcases List.mem_cons.mp ha with rfl | ha
    · exact ⟨_, List.mem_cons_self _ _, hab⟩
    · obtain ⟨b, hb, hr⟩ := ih ha
      exact ⟨b, List.mem_cons_of_mem _ hb, hr⟩

end MapM

end Devlib

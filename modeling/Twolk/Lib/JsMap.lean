/-
  Twolk.Lib.JsMap
  ───────────────
  **INSERTION-ORDERED MAPS AND SETS.**

  A JavaScript `Map` keeps its keys in insertion order: `set` on a present
  key overwrites the value in place, `set` on an absent key appends, and
  `forEach`/`entries` walk the keys in that order.  `JsMap K V` is the list
  of entries together with the fact that no key occurs twice, so a lookup
  and a walk over the entries always agree (`mem_entries`).

  The `@[simp]` lemmas reduce every operation to `get?`:

      get? (set m k v)    — `Function.update`-style
      get? (delete m k)   — forgets `k`
      get? (modify m k f) — maps the value under `k`

  A `Set` is a `Map` to `Unit`.
-/
import Mathlib.Data.List.Nodup
import Mathlib.Data.Finset.Card
import Mathlib.Tactic.Common

namespace Twolk.Lib

/-- An insertion-ordered map: entries with pairwise distinct keys. -/
structure JsMap (K V : Type) where
  entries : List (K × V)
  nodup_keys : (entries.map Prod.fst).Nodup

/-- An insertion-ordered set. -/
abbrev JsSet (K : Type) := JsMap K Unit

namespace JsMap

variable {K V W : Type}

/-! ## §1. Operations. -/

/-- `new Map()`. -/
def empty : JsMap K V := ⟨[], List.nodup_nil⟩

instance : EmptyCollection (JsMap K V) := ⟨empty⟩

instance : Inhabited (JsMap K V) := ⟨empty⟩

/-- The keys, in insertion order. -/
def keys (m : JsMap K V) : List K := m.entries.map Prod.fst

/-- `map.size`. -/
def size (m : JsMap K V) : Nat := m.entries.length

/-- Apply `f` to every value, keeping keys and order. -/
def mapVal (f : K → V → W) (m : JsMap K V) : JsMap K W where
  entries := m.entries.map fun e => (e.1, f e.1 e.2)
  nodup_keys := by
    simpa [List.map_map, Function.comp_def] using m.nodup_keys

variable [DecidableEq K]

/-- `map.get(k)`, with `none` for `undefined`. -/
def get? (m : JsMap K V) (k : K) : Option V :=
  (m.entries.find? fun e => e.1 = k).map Prod.snd

/-- `map.has(k)`. -/
def has (m : JsMap K V) (k : K) : Bool := (m.get? k).isSome

/-- Map the value stored under `k`, if there is one. -/
def modify (m : JsMap K V) (k : K) (f : V → V) : JsMap K V where
  entries := m.entries.map fun e => if e.1 = k then (e.1, f e.2) else e
  nodup_keys := by
    have h : (m.entries.map fun e => if e.1 = k then (e.1, f e.2) else e).map
        Prod.fst = m.entries.map Prod.fst := by
      rw [List.map_map]
      refine List.map_congr_left fun e _ => ?_
      by_cases he : e.1 = k <;> simp [he]
    rw [h]
    exact m.nodup_keys

/-- `get` gives `undefined` exactly when there is no such key. -/
theorem get?_eq_none_iff {m : JsMap K V} {k : K} :
    m.get? k = none ↔ k ∉ m.keys := by
  simp only [get?, keys, Option.map_eq_none_iff, List.find?_eq_none,
    decide_eq_true_eq, List.mem_map, not_exists, not_and]

/-- `map.set(k, v)`: overwrite in place, or append. -/
def set (m : JsMap K V) (k : K) (v : V) : JsMap K V :=
  if h : m.get? k = none then
    -- a new key goes to the end
    { entries := m.entries ++ [(k, v)]
      nodup_keys := by
        have hk := get?_eq_none_iff.mp h
        rw [List.map_append, List.nodup_append]
        refine ⟨m.nodup_keys, by simp, ?_⟩
        intro a ha b hb hab
        rw [List.map_singleton, List.mem_singleton] at hb
        rw [hab, hb] at ha
        exact hk ha }
  -- a key that is there keeps its place
  else m.modify k fun _ => v

/-- `map.delete(k)`. -/
def delete (m : JsMap K V) (k : K) : JsMap K V where
  entries := m.entries.filter fun e => e.1 ≠ k
  nodup_keys := (List.filter_sublist.map Prod.fst).nodup m.nodup_keys

/-! ## §2. Lookup and entries agree. -/

@[simp] theorem get?_empty (k : K) : (∅ : JsMap K V).get? k = none := rfl

/-- The entries are what `get` gives. -/
theorem mem_entries {m : JsMap K V} {k : K} {v : V} :
    (k, v) ∈ m.entries ↔ m.get? k = some v := by
  obtain ⟨l, hl⟩ := m
  simp only [get?]
  induction l with
  | nil => simp
  | cons e l ih =>
    obtain ⟨k', v'⟩ := e
    rw [List.map_cons, List.nodup_cons] at hl
    by_cases hk : k' = k
    · subst hk
      have hnot : (k', v) ∉ l := fun h =>
        hl.1 (List.mem_map.mpr ⟨_, h, rfl⟩)
      simp [hnot, eq_comm]
    · have hne : ¬ (k = k' ∧ v = v') := fun h => hk h.1.symm
      simp [hk, hne, ih hl.2]

theorem mem_keys {m : JsMap K V} {k : K} :
    k ∈ m.keys ↔ (m.get? k).isSome := by
  rw [← not_iff_not, ← get?_eq_none_iff]
  simp

theorem mem_keys_of_get? {m : JsMap K V} {k : K} {v : V}
    (h : m.get? k = some v) : k ∈ m.keys := by
  rw [mem_keys, h]
  rfl

theorem has_iff {m : JsMap K V} {k : K} :
    m.has k = true ↔ ∃ v, m.get? k = some v :=
  Option.isSome_iff_exists

@[simp] theorem has_eq_true_iff_mem {m : JsMap K V} {k : K} :
    m.has k = true ↔ k ∈ m.keys := by
  rw [mem_keys, has]

theorem has_eq_false_iff {m : JsMap K V} {k : K} :
    m.has k = false ↔ m.get? k = none := by
  simp [has]

omit [DecidableEq K] in
/-- No key comes twice. -/
theorem keys_nodup (m : JsMap K V) : m.keys.Nodup := m.nodup_keys

omit [DecidableEq K] in
theorem size_eq_length_keys (m : JsMap K V) : m.size = m.keys.length := by
  simp [size, keys]

/-- A map of size zero has nothing under any key. -/
theorem size_eq_zero_iff {m : JsMap K V} :
    m.size = 0 ↔ ∀ k, m.get? k = none := by
  simp only [get?_eq_none_iff, size_eq_length_keys,
    List.length_eq_zero_iff, List.eq_nil_iff_forall_not_mem]

/-! ## §3. Lookup after an update. -/

/-- Changing an object in place changes it under its own key only. -/
theorem get?_modify (m : JsMap K V) (k k' : K) (f : V → V) :
    (m.modify k f).get? k'
      = if k' = k then (m.get? k).map f else m.get? k' := by
  obtain ⟨l, hl⟩ := m
  simp only [get?, modify]
  clear hl
  induction l with
  | nil => simp
  | cons e l ih =>
    obtain ⟨a, v⟩ := e
    by_cases hk : k' = k
    · subst hk
      by_cases ha : a = k' <;> simp_all
    · by_cases ha : a = k
      · subst ha
        have hne : a ≠ k' := fun h => hk h.symm
        simp_all
      · by_cases ha' : a = k' <;> simp_all

/-- Updating a value to itself changes nothing. -/
theorem modify_eq_self {m : JsMap K V} {k : K} {f : V → V}
    (h : ∀ v, m.get? k = some v → f v = v) : m.modify k f = m := by
  have he : m.entries.map (fun e => if e.1 = k then (e.1, f e.2) else e)
      = m.entries := by
    refine (List.map_congr_left fun e hm => ?_).trans (List.map_id _)
    obtain ⟨k', v⟩ := e
    show (if k' = k then (k', f v) else (k', v)) = (k', v)
    split
    · rename_i heq
      rw [h v (mem_entries.mp (heq ▸ hm))]
    · rfl
  obtain ⟨entries, nodup⟩ := m
  simp only [modify, mk.injEq]
  exact he

@[simp] theorem get?_modify_self (m : JsMap K V) (k : K) (f : V → V) :
    (m.modify k f).get? k = (m.get? k).map f := by
  simp [get?_modify]

theorem get?_modify_of_ne (m : JsMap K V) {k k' : K} (f : V → V)
    (h : k' ≠ k) : (m.modify k f).get? k' = m.get? k' := by
  simp [get?_modify, h]

/-- An entry of a modified map: the modified one, or an old one. -/
theorem get?_modify_cases {m : JsMap K V} {k k' : K} {f : V → V} {w : V}
    (h : (m.modify k f).get? k' = some w) :
    (k' = k ∧ ∃ v, m.get? k = some v ∧ w = f v) ∨
      k' ≠ k ∧ m.get? k' = some w := by
  rw [get?_modify] at h
  by_cases hk : k' = k
  · rw [if_pos hk] at h
    obtain ⟨v, hv, rfl⟩ := Option.map_eq_some_iff.mp h
    exact .inl ⟨hk, v, hv, rfl⟩
  · rw [if_neg hk] at h
    exact .inr ⟨hk, h⟩

/-- `set` is seen under its key only. -/
theorem get?_set (m : JsMap K V) (k k' : K) (v : V) :
    (m.set k v).get? k' = if k' = k then some v else m.get? k' := by
  unfold set
  split
  · rename_i h
    have hk : ∀ e ∈ m.entries, e.1 ≠ k := by
      simpa [get?, List.find?_eq_none] using h
    by_cases hkk : k' = k
    · subst hkk
      have hnone : m.entries.find? (fun e => e.1 = k') = none := by
        simpa [List.find?_eq_none] using hk
      simp [get?, List.find?_append, hnone]
    · have hne : k ≠ k' := fun h => hkk h.symm
      simp only [get?, List.find?_append]
      cases m.entries.find? (fun e => e.1 = k') <;> simp [hne, hkk]
  · rename_i h
    obtain ⟨w, hw⟩ := Option.ne_none_iff_exists'.mp h
    simp [get?_modify, hw]

@[simp] theorem get?_set_self (m : JsMap K V) (k : K) (v : V) :
    (m.set k v).get? k = some v := by
  simp [get?_set]

theorem get?_set_of_ne (m : JsMap K V) {k k' : K} (v : V) (h : k' ≠ k) :
    (m.set k v).get? k' = m.get? k' := by
  simp [get?_set, h]

/-- `delete` is seen under its key only. -/
theorem get?_delete (m : JsMap K V) (k k' : K) :
    (m.delete k).get? k' = if k' = k then none else m.get? k' := by
  obtain ⟨l, hl⟩ := m
  simp only [get?, delete]
  clear hl
  induction l with
  | nil => simp
  | cons e l ih =>
    obtain ⟨a, v⟩ := e
    by_cases ha : a = k
    · subst ha
      by_cases hk : k' = a
      · subst hk
        simp
      · have hne : a ≠ k' := fun h => hk h.symm
        simp_all
    · by_cases ha' : a = k'
      · subst ha'
        simp [ha]
      · by_cases hk : k' = k <;> simp_all

/-- Deleting an absent key changes nothing. -/
theorem delete_eq_self {m : JsMap K V} {k : K} (h : m.get? k = none) :
    m.delete k = m := by
  have hk := get?_eq_none_iff.mp h
  have he : m.entries.filter (fun e => e.1 ≠ k) = m.entries := by
    refine List.filter_eq_self.mpr fun e he => decide_eq_true ?_
    rintro rfl
    exact hk (List.mem_map_of_mem he)
  obtain ⟨entries, nodup⟩ := m
  simp only [delete, mk.injEq]
  exact he

/-- What a map with one key less holds, it held before. -/
theorem get?_of_get?_delete {m : JsMap K V} {k k' : K} {v : V}
    (h : (m.delete k).get? k' = some v) : m.get? k' = some v := by
  rw [get?_delete] at h
  split at h
  · cases h
  · exact h

@[simp] theorem get?_delete_self (m : JsMap K V) (k : K) :
    (m.delete k).get? k = none := by
  simp [get?_delete]

@[simp] theorem get?_mapVal (f : K → V → W) (m : JsMap K V) (k : K) :
    (m.mapVal f).get? k = (m.get? k).map (f k) := by
  obtain ⟨l, hl⟩ := m
  simp only [get?, mapVal]
  clear hl
  induction l with
  | nil => rfl
  | cons e l ih =>
    by_cases hk : e.1 = k
    · subst hk
      simp
    · simpa [hk] using ih

/-- What holds of every value, and of a new one. -/
theorem forall_set {m : JsMap K V} {k : K} {v : V} {p : K → V → Prop}
    (h : ∀ k' v', m.get? k' = some v' → p k' v') (hv : p k v) :
    ∀ k' v', (m.set k v).get? k' = some v' → p k' v' := by
  intro k' v' hget
  rw [get?_set] at hget
  by_cases hk : k' = k
  · rw [if_pos hk] at hget
    cases hget
    rw [hk]
    exact hv
  · rw [if_neg hk] at hget
    exact h k' v' hget

/-- What holds of every value, when one of them is rewritten. -/
theorem forall_modify {m : JsMap K V} {k : K} {f : V → V}
    {p : K → V → Prop} (h : ∀ k' v', m.get? k' = some v' → p k' v')
    (hf : ∀ v, m.get? k = some v → p k (f v)) :
    ∀ k' v', (m.modify k f).get? k' = some v' → p k' v' := by
  intro k' v' hget
  rw [get?_modify] at hget
  by_cases hk : k' = k
  · rw [if_pos hk] at hget
    obtain ⟨v, hv, rfl⟩ := Option.map_eq_some_iff.mp hget
    rw [hk]
    exact hf v hv
  · rw [if_neg hk] at hget
    exact h k' v' hget

/-- `set` adds its key, and no other. -/
theorem mem_keys_set {m : JsMap K V} {k k' : K} {v : V} :
    k' ∈ (m.set k v).keys ↔ k' = k ∨ k' ∈ m.keys := by
  rw [mem_keys, mem_keys, get?_set]
  by_cases h : k' = k <;> simp [h]

/-- `delete` takes its key out, and no other. -/
theorem mem_keys_delete {m : JsMap K V} {k k' : K} :
    k' ∈ (m.delete k).keys ↔ k' ≠ k ∧ k' ∈ m.keys := by
  rw [mem_keys, mem_keys, get?_delete]
  by_cases h : k' = k <;> simp [h]

/-- Deleting several keys takes those out, and no other. -/
theorem mem_keys_foldl_delete (l : List K) {m : JsMap K V} {k : K} :
    k ∈ (l.foldl delete m).keys ↔ k ∉ l ∧ k ∈ m.keys := by
  induction l generalizing m with
  | nil => simp
  | cons k' l ih =>
    rw [List.foldl_cons, ih, mem_keys_delete, List.mem_cons, not_or]
    constructor
    · rintro ⟨h, h', h''⟩
      exact ⟨⟨h', h⟩, h''⟩
    · rintro ⟨⟨h', h⟩, h''⟩
      exact ⟨h, h', h''⟩

@[simp] theorem mem_keys_modify {m : JsMap K V} {k k' : K} {f : V → V} :
    k' ∈ (m.modify k f).keys ↔ k' ∈ m.keys := by
  rw [mem_keys, mem_keys, get?_modify]
  by_cases h : k' = k <;> simp [h]

omit [DecidableEq K] in
@[simp] theorem keys_empty : (∅ : JsMap K V).keys = [] := rfl

/-- Setting an absent key appends an entry. -/
theorem entries_set_of_get?_eq_none {m : JsMap K V} {k : K} (v : V)
    (h : m.get? k = none) : (m.set k v).entries = m.entries ++ [(k, v)] := by
  rw [set, dif_pos h]

/-- Deleting a key takes its entry out. -/
theorem perm_entries_delete {m : JsMap K V} {k : K} {v : V}
    (h : m.get? k = some v) :
    ((k, v) :: (m.delete k).entries).Perm m.entries := by
  obtain ⟨l, hl⟩ := m
  have hmem : (k, v) ∈ l := mem_entries.mpr h
  show ((k, v) :: l.filter fun e => e.1 ≠ k).Perm l
  clear h
  induction l with
  | nil => cases hmem
  | cons e l ih =>
    rw [List.map_cons, List.nodup_cons] at hl
    by_cases he : e.1 = k
    · -- the entry is the head, and no other has its key
      have hrest : l.filter (fun e => e.1 ≠ k) = l := by
        refine List.filter_eq_self.mpr fun e' he' => decide_eq_true ?_
        rintro rfl
        exact hl.1 (he ▸ List.mem_map_of_mem he')
      rcases List.mem_cons.mp hmem with rfl | hmem
      · rw [List.filter_cons_of_neg (by simp), hrest]
      · exact absurd (he ▸ List.mem_map_of_mem hmem) hl.1
    · have hmem : (k, v) ∈ l := by
        rcases List.mem_cons.mp hmem with rfl | hmem
        · exact absurd rfl he
        · exact hmem
      rw [List.filter_cons_of_pos (by simpa using he)]
      exact (List.Perm.swap e (k, v) _).trans
        ((ih hl.2 hmem).cons e)

end JsMap

/-! ## §4. Sets. -/

namespace JsSet

variable {K : Type} [DecidableEq K]

/-- `set.add(k)`. -/
def add (s : JsSet K) (k : K) : JsSet K := JsMap.set s k ()

theorem mem_keys_add {s : JsSet K} {k k' : K} :
    k' ∈ (add s k).keys ↔ k' = k ∨ k' ∈ s.keys :=
  JsMap.mem_keys_set

end JsSet

/-! ## §5. Maps of sets. -/

namespace JsMap

variable {K A : Type} [DecidableEq K] [DecidableEq A]

/-- `map.get(k) ?? new Set()` with `v` added. -/
def addTo (m : JsMap K (JsSet A)) (k : K) (v : A) : JsMap K (JsSet A) :=
  m.set k (JsSet.add ((m.get? k).getD ∅) v)

omit [DecidableEq A] in
/-- `v` is in the set under `k`. -/
def linked (m : JsMap K (JsSet A)) (k : K) (v : A) : Prop :=
  ∃ s, m.get? k = some s ∧ v ∈ s.keys

/-- `addTo` adds one pair to the relation. -/
theorem linked_addTo {m : JsMap K (JsSet A)} {k k' : K} {v v' : A} :
    (m.addTo k v).linked k' v' ↔ m.linked k' v' ∨ k' = k ∧ v' = v := by
  unfold linked addTo
  simp only [get?_set]
  by_cases h : k' = k
  · subst h
    simp only [if_true, Option.some.injEq, exists_eq_left',
      JsSet.mem_keys_add, true_and]
    cases m.get? k' with
    | none => simp
    | some s => simp [or_comm]
  · simp [h]

end JsMap

end Twolk.Lib

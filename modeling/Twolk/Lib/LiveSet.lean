/-
  Twolk.Lib.LiveSet
  ─────────────────
  **WALKING A SET THAT CHANGES.**

  The walk of a JavaScript `Set.prototype.forEach` goes over the elements in
  insertion order and follows every change made on the way: an element
  deleted before its turn is not visited, one added is visited in its turn,
  and one deleted and added again is visited once more.

  `LiveSet K` is a set whose elements remember when they were added; a walk
  is a cursor, the first stamp it has not passed.  `Walked s cursor visited`
  says what a walk has done so far; it survives every change of the set.

  Main rules:
    * `Walked.add`, `Walked.delete` — the set changes under the walk,
    * `Walked.visit`     — the walk visits what comes next,
    * `Walked.done`      — a walk that ends has visited every element once,
    * `Walked.eq_entries` — and nothing else, unless something was deleted.
-/
import Twolk.Lib.JsMap
import Mathlib.Data.List.Sort

namespace Twolk.Lib

/-- A set whose elements remember when they were added. -/
structure LiveSet (K : Type) where
  stamps : JsMap K Nat
  next : Nat
  ascending : stamps.entries.Pairwise fun a b => a.2 < b.2
  bounded : ∀ e ∈ stamps.entries, e.2 < next

namespace LiveSet

variable {K : Type} [DecidableEq K]

/-! ## §1. Operations. -/

/-- The set without elements. -/
def empty : LiveSet K := ⟨∅, 0, .nil, fun _ he => absurd he List.not_mem_nil⟩

instance : EmptyCollection (LiveSet K) := ⟨empty⟩

/-- When `k` was added, if it is an element. -/
def stampOf (s : LiveSet K) (k : K) : Option Nat := s.stamps.get? k

/-- `set.add(k)`: nothing when `k` is an element. -/
def add (s : LiveSet K) (k : K) : LiveSet K :=
  if h : s.stamps.get? k = none then
    -- a new element gets the next stamp, which is above all others
    { stamps := s.stamps.set k s.next
      next := s.next + 1
      ascending := by
        rw [JsMap.entries_set_of_get?_eq_none _ h]
        refine List.pairwise_append.mpr
          ⟨s.ascending, List.pairwise_singleton _ _, ?_⟩
        intro a ha b hb
        rw [List.mem_singleton.mp hb]
        exact s.bounded a ha
      bounded := by
        rw [JsMap.entries_set_of_get?_eq_none _ h]
        intro e he
        rcases List.mem_append.mp he with he | he
        · exact Nat.lt_succ_of_lt (s.bounded e he)
        · rw [List.mem_singleton.mp he]
          exact Nat.lt_succ_self _ }
  -- an element that is there keeps its stamp, and its place in a walk
  else s

/-- `set.delete(k)`. -/
def delete (s : LiveSet K) (k : K) : LiveSet K where
  stamps := s.stamps.delete k
  next := s.next
  ascending := s.ascending.sublist List.filter_sublist
  bounded e he := s.bounded e (List.mem_of_mem_filter he)

/-- The elements, in insertion order. -/
def elements (s : LiveSet K) : List K := s.stamps.keys

/-- The element a walk that has come to `cursor` visits next. -/
def from? (s : LiveSet K) (cursor : Nat) : Option (K × Nat) :=
  s.stamps.entries.find? fun e => cursor ≤ e.2

/-! ## §2. Stamps. -/

variable {s : LiveSet K} {k k' : K} {n n' cursor : Nat}

/-- The entries are the elements with their stamps. -/
theorem mem_entries : (k, n) ∈ s.stamps.entries ↔ s.stampOf k = some n :=
  JsMap.mem_entries

/-- The stamps in use are behind the next one. -/
theorem stampOf_lt (h : s.stampOf k = some n) : n < s.next :=
  s.bounded _ (mem_entries.mpr h)

omit [DecidableEq K] in
theorem ne_of_stamp_lt {a b : K × Nat} (h : a.2 < b.2) : a ≠ b := by
  rintro rfl
  exact Nat.lt_irrefl _ h

/-- No two elements have one stamp. -/
theorem stampOf_inj (h : s.stampOf k = some n) (h' : s.stampOf k' = some n) :
    k = k' := by
  have hstamps : (s.stamps.entries.map Prod.snd).Nodup :=
    List.pairwise_map.mpr (s.ascending.imp Nat.ne_of_lt)
  have heq := List.inj_on_of_nodup_map hstamps (mem_entries.mpr h)
    (mem_entries.mpr h') rfl
  exact congrArg Prod.fst heq

/-- A new element comes last. -/
theorem elements_add (h : k ∉ s.elements) :
    (s.add k).elements = s.elements ++ [k] := by
  have hnone : s.stamps.get? k = none := JsMap.get?_eq_none_iff.mpr h
  unfold add
  rw [dif_pos hnone]
  show List.map _ (s.stamps.set k s.next).entries = _
  rw [JsMap.entries_set_of_get?_eq_none _ hnone, List.map_append]
  rfl

/-- A new element gets the next stamp; an old one keeps its own. -/
theorem stampOf_add (s : LiveSet K) (k k' : K) :
    (s.add k).stampOf k' = if k' = k ∧ s.stampOf k = none then some s.next
      else s.stampOf k' := by
  unfold add stampOf
  split
  · rename_i h
    dsimp only
    rw [JsMap.get?_set]
    simp [h]
  · rename_i h
    simp [h]

@[simp] theorem stampOf_delete (s : LiveSet K) (k k' : K) :
    (s.delete k).stampOf k' = if k' = k then none else s.stampOf k' :=
  JsMap.get?_delete _ _ _

/-- What is an element after a change is a new element or an old one. -/
theorem stampOf_of_add (h : (s.add k).stampOf k' = some n) :
    s.stampOf k' = some n ∨ n = s.next := by
  rw [stampOf_add] at h
  split at h
  · exact .inr (Option.some.inj h).symm
  · exact .inl h

theorem stampOf_of_delete (h : (s.delete k).stampOf k' = some n) :
    s.stampOf k' = some n := by
  rw [stampOf_delete] at h
  split at h
  · cases h
  · exact h

/-! ## §3. What comes next. -/

/-- At the end of a walk everything is behind the cursor. -/
theorem from?_eq_none (h : s.from? cursor = none) (hk : s.stampOf k = some n) :
    n < cursor := by
  have hlt := List.find?_eq_none.mp h _ (mem_entries.mpr hk)
  simpa using hlt

/-- The next element is the first one at the cursor or after it. -/
theorem from?_eq_some (h : s.from? cursor = some (k, n)) :
    s.stampOf k = some n ∧ cursor ≤ n ∧ ∀ k' n', s.stampOf k' = some n' →
      cursor ≤ n' → n' ≠ n → n < n' := by
  obtain ⟨hle, before, after, heq, hbefore⟩ :=
    List.find?_eq_some_iff_append.mp h
  have hmem : (k, n) ∈ s.stamps.entries := by
    rw [heq]
    exact List.mem_append_right _ List.mem_cons_self
  refine ⟨mem_entries.mp hmem, of_decide_eq_true hle,
    fun k' n' hk' hle' hne => ?_⟩
  have hmem' := mem_entries.mpr hk'
  rw [heq] at hmem'
  rcases List.mem_append.mp hmem' with hin | hin
  · -- an element before it is behind the cursor
    have hno := hbefore _ hin
    simp at hno
    omega
  · rcases List.mem_cons.mp hin with hself | hin
    · cases hself
      exact absurd rfl hne
    · have hpairs := s.ascending
      rw [heq] at hpairs
      have hcons := (List.pairwise_append.mp hpairs).2.1
      exact (List.pairwise_cons.mp hcons).1 _ hin

omit [DecidableEq K] in
/-- What is behind the cursor is passed over. -/
theorem from?_append {pre post : List (K × Nat)}
    (h : s.stamps.entries = pre ++ post) (hpre : ∀ e ∈ pre, e.2 < cursor)
    (hpost : ∀ e ∈ post, cursor ≤ e.2) : s.from? cursor = post.head? := by
  unfold from?
  rw [h, List.find?_append, List.find?_eq_none.mpr, Option.none_or]
  · cases post with
    | nil => rfl
    | cons e post =>
        exact List.find?_cons_of_pos (by simpa using hpost e List.mem_cons_self)
  · intro e he
    simpa using hpre e he

/-! ## §4. Walks. -/

/-- A walk has come to `cursor`, and visited `visited` on its way. -/
structure Walked (s : LiveSet K) (cursor : Nat) (visited : List (K × Nat)) :
    Prop where
  ascending : visited.Pairwise fun a b => a.2 < b.2
  behind : ∀ e ∈ visited, e.2 < cursor
  covered : ∀ k n, s.stampOf k = some n → n < cursor → (k, n) ∈ visited
  reached : cursor ≤ s.next

namespace Walked

variable {visited : List (K × Nat)}

/-- A walk that begins has visited nothing. -/
theorem start (s : LiveSet K) : Walked s 0 [] where
  ascending := .nil
  behind _ he := absurd he List.not_mem_nil
  covered _ _ _ h := absurd h (Nat.not_lt_zero _)
  reached := Nat.zero_le _

/-- What is added meanwhile comes later. -/
theorem add (h : Walked s cursor visited) (k : K) :
    Walked (s.add k) cursor visited where
  ascending := h.ascending
  behind := h.behind
  covered k' n hk' hlt := by
    rcases stampOf_of_add hk' with hold | rfl
    · exact h.covered k' n hold hlt
    · -- a new element is ahead of the cursor
      exact absurd hlt (Nat.not_lt.mpr h.reached)
  reached := by
    unfold LiveSet.add
    split
    · exact Nat.le_succ_of_le h.reached
    · exact h.reached

/-- What is deleted meanwhile is not missed. -/
theorem delete (h : Walked s cursor visited) (k : K) :
    Walked (s.delete k) cursor visited where
  ascending := h.ascending
  behind := h.behind
  covered k' n hk' := h.covered k' n (stampOf_of_delete hk')
  reached := h.reached

/-- The next element is visited, and none before it was missed. -/
theorem visit (h : Walked s cursor visited)
    (hnext : s.from? cursor = some (k, n)) :
    Walked s (n + 1) (visited ++ [(k, n)]) := by
  obtain ⟨hk, hle, hfirst⟩ := from?_eq_some hnext
  refine ⟨?_, ?_, ?_, stampOf_lt hk⟩
  · refine List.pairwise_append.mpr
      ⟨h.ascending, List.pairwise_singleton _ _, ?_⟩
    intro a ha b hb
    rw [List.mem_singleton.mp hb]
    exact Nat.lt_of_lt_of_le (h.behind a ha) hle
  · intro e he
    rcases List.mem_append.mp he with he | he
    · have hlt := h.behind e he
      omega
    · rw [List.mem_singleton.mp he]
      exact Nat.lt_succ_self n
  · intro k' n' hk' hlt
    refine List.mem_append.mpr ?_
    by_cases hbehind : n' < cursor
    · exact .inl (h.covered k' n' hk' hbehind)
    · by_cases heq : n' = n
      · rw [heq] at hk' ⊢
        rw [stampOf_inj hk' hk]
        exact .inr List.mem_cons_self
      · have hlt' := hfirst k' n' hk' (Nat.le_of_not_lt hbehind) heq
        omega

/-- **A walk skips nothing**: what comes before its next element has been
visited. -/
theorem skips_nothing (h : Walked s cursor visited)
    (hnext : s.from? cursor = some (k, n)) (hk' : s.stampOf k' = some n')
    (hlt : n' < n) : (k', n') ∈ visited := by
  obtain ⟨-, -, hfirst⟩ := from?_eq_some hnext
  refine h.covered k' n' hk' (Nat.lt_of_not_le fun hle => ?_)
  exact absurd (hfirst k' n' hk' hle (Nat.ne_of_lt hlt)) (Nat.lt_asymm hlt)

/-- No walk visits an element twice. -/
theorem nodup (h : Walked s cursor visited) : visited.Nodup :=
  h.ascending.imp (R := fun a b => a.2 < b.2) ne_of_stamp_lt

/-- **A walk that ends has visited every element once.** -/
theorem done (h : Walked s cursor visited) (hend : s.from? cursor = none)
    (hk : s.stampOf k = some n) : visited.count (k, n) = 1 :=
  List.count_eq_one_of_mem h.nodup (h.covered k n hk (from?_eq_none hend hk))

/-- **And nothing else**, if all that was visited is still there. -/
theorem eq_entries (h : Walked s cursor visited)
    (hend : s.from? cursor = none)
    (hstill : ∀ k n, (k, n) ∈ visited → s.stampOf k = some n) :
    visited = s.stamps.entries := by
  have hmem : ∀ e, e ∈ visited ↔ e ∈ s.stamps.entries := by
    intro e
    obtain ⟨k, n⟩ := e
    rw [mem_entries]
    constructor
    · exact hstill k n
    · exact fun hk => h.covered k n hk (from?_eq_none hend hk)
  have hnodup : s.stamps.entries.Nodup := s.ascending.imp ne_of_stamp_lt
  have hperm : visited.Perm s.stamps.entries :=
    (List.perm_ext_iff_of_nodup h.nodup hnodup).mpr hmem
  refine hperm.eq_of_pairwise ?_ h.ascending s.ascending
  intro a b _ _ hab hba
  exact absurd (Nat.lt_trans hab hba) (Nat.lt_irrefl _)

end Walked

end LiveSet

end Twolk.Lib

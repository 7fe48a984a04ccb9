/-
  Twolk.Lib.Machine
  ─────────────────
  **RUN-TO-COMPLETION MACHINES.**

  An event-driven program is a state, a set of actions (an incoming message,
  an answer, the continuation of a settled promise) and a step: the
  synchronous stretch one action starts, with the observations it makes on
  the way.  A run is any sequence of enabled actions, so a statement about
  every run covers every interleaving of the stretches.

  A `Guard` is a condition on single steps, read off the observations so
  far, the state before the step and the action.  `Run M G` are the runs all
  of whose steps meet `G`; `anyStep` is the guard that admits everything.

  Main rules:
    * `Run.invariant`   — initial + preserved by guarded steps ⟹ every run,
    * `Run.mono`        — a run under a guard is a run under a weaker one,
    * `Run.of_exec`     — an executed action list is a run,
    * `Projection.reachable` — a component runs as a machine of its own,
    * `recorded`        — the machine that remembers its actions, for
      statements that count them,
    * `watched`         — the machine from some state on, seen through
      other observations.

  Pending work (promise continuations) sits in a list from which any entry
  may be taken; `mem_eraseIdx_or` is the case split for such a pool.  Parties
  and messages carry distinct names; `filter_eq_singleton` finds the one
  party with a property.
-/
import Mathlib.Data.List.Nodup
import Mathlib.Data.List.Perm.Basic
import Mathlib.Algebra.Ring.Nat

namespace Twolk.Lib

/-- A machine: initial states, and a partial step with observations. -/
structure Machine (σ α ε : Type) where
  init : σ → Prop
  step : σ → α → Option (σ × List ε)

/-- A condition on a step: observations so far, state before, action. -/
abbrev Guard (σ α ε : Type) := List ε → σ → α → Prop

/-- The guard every step meets. -/
def anyStep {σ α ε : Type} : Guard σ α ε := fun _ _ _ => True

instance {σ α ε : Type} (tr : List ε) (s : σ) (a : α) :
    Decidable (anyStep tr s a) := inferInstanceAs (Decidable True)

namespace Machine

variable {σ α ε τ β δ : Type} {M : Machine σ α ε} {G G' : Guard σ α ε}

/-! ## §1. Runs. -/

/-- `M.Run G past s tr`: some run under `G` went through the states `past`,
stands in `s` and has observed `tr`. -/
inductive Run (M : Machine σ α ε) (G : Guard σ α ε) :
    List σ → σ → List ε → Prop
  | init {s : σ} : M.init s → Run M G [] s []
  | step {past : List σ} {s s' : σ} {tr obs : List ε} {a : α} :
      Run M G past s tr → G tr s a → M.step s a = some (s', obs) →
      Run M G (past ++ [s]) s' (tr ++ obs)

/-- The states some run reaches. -/
def Reachable (M : Machine σ α ε) (s : σ) : Prop :=
  ∃ past tr, M.Run anyStep past s tr

/-- **The invariant rule.** -/
theorem Run.invariant (I : σ → List ε → Prop)
    (init : ∀ s, M.init s → I s [])
    (step : ∀ s tr a s' obs, I s tr → G tr s a →
      M.step s a = some (s', obs) → I s' (tr ++ obs))
    {past : List σ} {s : σ} {tr : List ε} (h : M.Run G past s tr) :
    I s tr := by
  induction h with
  | init hs => exact init _ hs
  | step _ hg hs ih => exact step _ _ _ _ _ ih hg hs

/-- A run under a guard is a run under a weaker one. -/
theorem Run.mono (hG : ∀ tr s a, G tr s a → G' tr s a)
    {past : List σ} {s : σ} {tr : List ε} (h : M.Run G past s tr) :
    M.Run G' past s tr := by
  induction h with
  | init hs => exact .init hs
  | step _ hg hs ih => exact .step ih (hG _ _ _ hg) hs

/-- The end of a run is reachable. -/
theorem Run.reachable {past : List σ} {s : σ} {tr : List ε}
    (h : M.Run G past s tr) : M.Reachable s :=
  ⟨past, tr, h.mono fun _ _ _ _ => trivial⟩

/-- The invariant rule for properties of the state alone. -/
theorem Reachable.invariant (I : σ → Prop) (init : ∀ s, M.init s → I s)
    (step : ∀ s a s' obs, I s → M.step s a = some (s', obs) → I s')
    {s : σ} (h : M.Reachable s) : I s := by
  obtain ⟨past, tr, h⟩ := h
  exact h.invariant (fun s _ => I s) init
    fun s _ a s' obs hI _ hs => step s a s' obs hI hs

/-- Reachability goes on with a step. -/
theorem Reachable.step {s s' : σ} {a : α} {obs : List ε}
    (h : M.Reachable s) (hs : M.step s a = some (s', obs)) :
    M.Reachable s' := by
  obtain ⟨past, tr, h⟩ := h
  exact ⟨_, _, h.step trivial hs⟩

/-! ## §2. Executing a list of actions. -/

/-- Execute the actions in order, checking the guard before each step. -/
def exec (M : Machine σ α ε) (G : Guard σ α ε)
    [∀ tr s a, Decidable (G tr s a)] :
    List σ × σ × List ε → List α → Option (List σ × σ × List ε)
  | r, [] => some r
  | (past, s, tr), a :: as =>
      if G tr s a then
        (M.step s a).bind fun p => exec M G (past ++ [s], p.1, tr ++ p.2) as
      else none

/-- An executed action list is a run. -/
theorem Run.of_exec [∀ tr s a, Decidable (G tr s a)] :
    ∀ {as : List α} {past past' : List σ} {s s' : σ} {tr tr' : List ε},
      M.Run G past s tr →
      M.exec G (past, s, tr) as = some (past', s', tr') →
      M.Run G past' s' tr'
  | [], _, _, _, _, _, _, hr, h => by
      simp only [exec, Option.some.injEq, Prod.mk.injEq] at h
      obtain ⟨rfl, rfl, rfl⟩ := h
      exact hr
  | a :: as, _, _, s, _, tr, _, hr, h => by
      simp only [exec] at h
      split at h
      · rename_i hg
        cases hs : M.step s a with
        | none => simp [hs] at h
        | some p =>
          simp only [hs, Option.bind_some] at h
          exact Run.of_exec (hr.step hg hs) h
      · cases h

/-- A property of the result of an executed action list holds of a run. -/
theorem Run.exists_of_exec [∀ tr s a, Decidable (G tr s a)] {s : σ}
    {l : List α} {p : List σ × σ × List ε → Bool} (h₀ : M.init s)
    (h : (M.exec G ([], s, []) l).map p = some true) :
    ∃ past s tr, M.Run G past s tr ∧ p (past, s, tr) = true := by
  cases hr : M.exec G ([], s, []) l with
  | none => simp [hr] at h
  | some r =>
    obtain ⟨past, s, tr⟩ := r
    rw [hr, Option.map_some, Option.some.injEq] at h
    exact ⟨past, s, tr, Run.of_exec (.init h₀) hr, h⟩

/-! ## §3. Components. -/

/-- `N` is a component of `M` under `f`: each step of `M` is some run of
actions of `N`, possibly none, on the component. -/
structure Projection (M : Machine σ α ε) (N : Machine τ β δ)
    (f : σ → τ) : Prop where
  init : ∀ s, M.init s → N.init (f s)
  step : ∀ s a s' obs, M.step s a = some (s', obs) →
    N.Reachable (f s) → N.Reachable (f s')

/-- A component of a reachable state is reachable. -/
theorem Projection.reachable {N : Machine τ β δ} {f : σ → τ}
    (P : M.Projection N f) {s : σ} (h : M.Reachable s) :
    N.Reachable (f s) :=
  Reachable.invariant (fun s => N.Reachable (f s))
    (fun s hs => ⟨[], [], .init (P.init s hs)⟩)
    (fun s a s' obs hI hs => P.step s a s' obs hs hI) h

/-! ## §4. Recorded runs. -/

/-- `M`, remembering its actions. -/
def recorded (M : Machine σ α ε) : Machine (σ × List α) α ε where
  init s := M.init s.1 ∧ s.2 = []
  step s a := (M.step s.1 a).map fun p => ((p.1, s.2 ++ [a]), p.2)

/-- A guard that does not read the record. -/
def unrecorded (G : Guard σ α ε) : Guard (σ × List α) α ε :=
  fun tr s a => G tr s.1 a

instance [∀ tr s a, Decidable (G tr s a)] (tr : List ε) (s : σ × List α)
    (a : α) : Decidable (unrecorded G tr s a) :=
  inferInstanceAs (Decidable (G tr s.1 a))

/-- The invariant rule of a recorded run: a step adds its action to the
record. -/
theorem Run.recorded_invariant {s : σ × List α} {tr : List ε}
    {past : List (σ × List α)} (I : σ → List α → List ε → Prop)
    (init : ∀ s, M.init s → I s [] [])
    (step : ∀ s log tr a s' obs, M.Reachable s → I s log tr → G tr s a →
      M.step s a = some (s', obs) → I s' (log ++ [a]) (tr ++ obs))
    (h : M.recorded.Run (unrecorded G) past s tr) : I s.1 s.2 tr := by
  refine (h.invariant (fun s tr => M.Reachable s.1 ∧ I s.1 s.2 tr)
    (fun s hs => ?_) fun s tr a s' obs hI hg hs => ?_).2
  · obtain ⟨hs, hlog⟩ := hs
    rw [hlog]
    exact ⟨⟨[], [], .init hs⟩, init _ hs⟩
  · obtain ⟨hr, hI⟩ := hI
    obtain ⟨p, hp, heq⟩ := Option.map_eq_some_iff.mp hs
    cases heq
    exact ⟨hr.step hp, step _ _ _ _ _ _ hr hI hg hp⟩

/-! ## §5. Watched runs. -/

/-- `M` from `s₀` on, observed through `f`, which is given the state before
a step, its action and its observations. -/
def watched (M : Machine σ α ε) (f : σ → α → List ε → List δ) (s₀ : σ) :
    Machine σ α δ where
  init s := s = s₀
  step s a := (M.step s a).map fun p => (p.1, f s a p.2)

end Machine

/-! ## §6. Logs. -/

section Log

variable {α : Type} {p q : α → Prop}

/-- Some entry has `p`, and none after it has `q`. -/
def Since (p q : α → Prop) (log : List α) : Prop :=
  ∃ pre a post, log = pre ++ a :: post ∧ p a ∧ ∀ b ∈ post, ¬ q b

theorem not_since_nil : ¬ Since p q [] := by
  intro ⟨pre, a, post, h, _⟩
  cases pre <;> cases h

/-- With one more entry: the entry is a `p`, or one came before and the entry is
no `q`. -/
theorem since_append {log : List α} {a : α} :
    Since p q (log ++ [a]) ↔ p a ∨ Since p q log ∧ ¬ q a := by
  constructor
  · intro ⟨pre, b, post, h, hp, hq⟩
    rcases List.eq_nil_or_concat' post with rfl | ⟨post', a', rfl⟩
    · obtain ⟨_, heq⟩ := List.append_inj' h rfl
      cases heq
      exact .inl hp
    · rw [← List.cons_append, ← List.append_assoc] at h
      obtain ⟨hlog, heq⟩ := List.append_inj' h rfl
      cases heq
      exact .inr ⟨⟨pre, b, post', hlog, hp,
        fun x hx => hq x (List.mem_append_left _ hx)⟩,
        hq a (List.mem_append_right _ List.mem_cons_self)⟩
  · intro h
    rcases h with hp | ⟨⟨pre, b, post, rfl, hp, hq⟩, ha⟩
    · exact ⟨log, a, [], rfl, hp, fun _ hb => absurd hb List.not_mem_nil⟩
    · refine ⟨pre, b, post ++ [a], List.append_assoc pre (b :: post) [a],
        hp, fun x hx => ?_⟩
      rcases List.mem_append.mp hx with hx | hx
      · exact hq x hx
      · rw [List.mem_singleton.mp hx]
        exact ha

/-- Every entry is backed by those before it. -/
def Grounded (backs : List α → α → Prop) (log : List α) : Prop :=
  ∀ pre a post, log = pre ++ a :: post → backs pre a

theorem grounded_nil {backs : List α → α → Prop} : Grounded backs [] := by
  intro pre a post h
  cases pre <;> cases h

/-- One more entry is grounded in those before it. -/
theorem grounded_concat {backs : List α → α → Prop} {log : List α} {a : α} :
    Grounded backs (log ++ [a]) ↔ Grounded backs log ∧ backs log a := by
  constructor
  · intro h
    refine ⟨fun pre b post heq => h pre b (post ++ [a]) ?_, h log a [] rfl⟩
    rw [heq, List.append_assoc, List.cons_append]
  · intro ⟨hlog, ha⟩ pre b post h
    rcases List.eq_nil_or_concat' post with rfl | ⟨post', c, rfl⟩
    · obtain ⟨rfl, heq⟩ := List.append_inj' h rfl
      cases heq
      exact ha
    · rw [← List.cons_append, ← List.append_assoc] at h
      exact hlog pre b post' (List.append_inj' h rfl).1

/-- Entries that need no backing may be added freely. -/
theorem Grounded.append {backs : List α → α → Prop} :
    ∀ {new log : List α}, Grounded backs log →
      (∀ a ∈ new, ∀ pre, backs pre a) → Grounded backs (log ++ new)
  | [], log, h, _ => by rwa [List.append_nil]
  | a :: new, log, h, hnew => by
      have hfirst : Grounded backs (log ++ [a]) :=
        grounded_concat.mpr ⟨h, hnew a List.mem_cons_self log⟩
      have hrest := Grounded.append hfirst fun b hb =>
        hnew b (List.mem_cons_of_mem a hb)
      rwa [List.append_assoc, List.singleton_append] at hrest

end Log

/-! ## §7. Pools of pending work. -/

section Pool

variable {α : Type}

/-- Taking entry `i` out of a pool and putting it back is a permutation. -/
theorem perm_cons_eraseIdx {l : List α} {i : Nat} {a : α}
    (h : l[i]? = some a) : (a :: l.eraseIdx i).Perm l := by
  obtain ⟨hi, rfl⟩ := List.getElem?_eq_some_iff.mp h
  exact List.getElem_cons_eraseIdx_perm hi

/-- A pool is the entry taken and the rest. -/
theorem mem_eraseIdx_or {l : List α} {i : Nat} {a b : α}
    (h : l[i]? = some a) : b ∈ l ↔ b = a ∨ b ∈ l.eraseIdx i := by
  rw [← (perm_cons_eraseIdx h).mem_iff, List.mem_cons]

/-- Taking an entry takes it out of a count. -/
theorem countP_eraseIdx_add {l : List α} {i : Nat} {a : α} (p : α → Bool)
    (h : l[i]? = some a) :
    (l.eraseIdx i).countP p + (if p a then 1 else 0) = l.countP p := by
  rw [← (perm_cons_eraseIdx h).countP_eq, List.countP_cons]

/-- Taking out an entry that a filter drops does not change what it keeps. -/
theorem filter_eraseIdx {l : List α} {i : Nat} {a : α} {p : α → Bool}
    (h : l[i]? = some a) (ha : p a = false) :
    (l.eraseIdx i).filter p = l.filter p := by
  obtain ⟨hi, rfl⟩ := List.getElem?_eq_some_iff.mp h
  rw [List.eraseIdx_eq_take_drop_succ, List.filter_append]
  conv_rhs => rw [← List.take_append_drop i l, List.drop_eq_getElem_cons hi,
    List.filter_append, List.filter_cons_of_neg (by simp [ha])]

end Pool

/-! ## §8. Parties and messages told apart by a name. -/

section Named

variable {α β : Type}

/-- Two entries with one name are one entry. -/
theorem eq_of_filterMap_nodup {f : α → Option β} {a b : α} {x : β} :
    ∀ {l : List α}, (l.filterMap f).Nodup → a ∈ l → b ∈ l →
      f a = some x → f b = some x → a = b
  | c :: l, h, ha, hb, hfa, hfb => by
      have hnot : ∀ {y : α}, f c = some x → y ∈ l → f y ≠ some x := by
        intro y hc hy hfy
        rw [List.filterMap_cons_some hc, List.nodup_cons] at h
        exact h.1 (List.mem_filterMap.mpr ⟨y, hy, hfy⟩)
      cases ha with
      | head => cases hb with
        | head => rfl
        | tail _ hb => exact absurd hfb (hnot hfa hb)
      | tail _ ha => cases hb with
        | head => exact absurd hfa (hnot hfb ha)
        | tail _ hb =>
            exact eq_of_filterMap_nodup
              (h.sublist ((List.sublist_cons_self c l).filterMap f)) ha hb
              hfa hfb

/-- The only party with a property. -/
theorem filter_eq_singleton {l : List α} {f : α → β} {p : α → Bool} {a : α}
    (h : (l.map f).Nodup) (ha : a ∈ l) (hp : p a = true)
    (huniq : ∀ b ∈ l, p b = true → f b = f a) : l.filter p = [a] := by
  have hall : ∀ b ∈ l.filter p, b = a := fun b hb =>
    have hb := List.mem_filter.mp hb
    List.inj_on_of_nodup_map h hb.1 ha (huniq b hb.1 hb.2)
  have hrep := List.eq_replicate_iff.mpr ⟨rfl, hall⟩
  have hmem : a ∈ l.filter p := List.mem_filter.mpr ⟨ha, hp⟩
  have hle : (l.filter p).length ≤ 1 := by
    have hn : (l.filter p).Nodup := (h.of_map f).filter p
    rw [hrep] at hn
    exact List.nodup_replicate.mp hn
  have hone : (l.filter p).length = 1 :=
    Nat.le_antisymm hle (List.length_pos_of_mem hmem)
  rw [hrep, hone, List.replicate_one]

/-- Counting the parties with a property, one by one. -/
theorem sum_map_eq_countP {f : α → Nat} {p : α → Bool} :
    ∀ {l : List α}, (∀ a ∈ l, f a = if p a then 1 else 0) →
      (l.map f).sum = l.countP p
  | [], _ => rfl
  | a :: l, h => by
      rw [List.map_cons, List.sum_cons, List.countP_cons,
        h a List.mem_cons_self,
        sum_map_eq_countP fun b hb => h b (List.mem_cons_of_mem _ hb),
        Nat.add_comm]

end Named

end Twolk.Lib

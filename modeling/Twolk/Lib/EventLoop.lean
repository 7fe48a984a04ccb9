/-
  Twolk.Lib.EventLoop
  ───────────────────
  **CONTINUATIONS IN FIRST-IN-FIRST-OUT ORDER.**

  A run-to-completion machine lets its ready continuations run in any order.
  An event loop keeps them in a queue: the continuation of a settled promise
  goes to the back, and the front runs next.  A promise that is resolved
  with another promise is settled some jobs later; such a continuation has
  `hops` jobs left that do nothing but put it back at the end.

  `L.machine M` is `M` with such a queue.  Its steps are those of `M` that
  the queue allows, so every run of it is a run of `M` (`base_run`); what
  does not resume a continuation comes from outside, at any time.

  Whether one continuation runs before another is a matter of how many jobs
  each is away: `Ordered due first jobs` says that whoever is `first` is due
  no later, and earlier where it stands behind.

  Main rules:
    * `step_cases`      — what a step of the loop is,
    * `base_run`        — a run of the loop under an invariant that gives a
      guard is a run of the machine under that guard,
    * `Ordered.pass`, `Ordered.append` — what keeps the order,
    * `Ordered.not_mem` — nobody runs while it has to wait for another.
-/
import Twolk.Lib.Machine
import Mathlib.Data.List.Pairwise

namespace Twolk.Lib

/-! ## §1. Queues of jobs. -/

/-- A continuation in the queue, with the jobs left before it runs. -/
structure Job (κ : Type) where
  continuation : κ
  hops : Nat
  deriving DecidableEq

section Order

variable {κ : Type} {due : Job κ → Nat} {first : κ → κ → Prop}
  {j : Job κ} {jobs new : List (Job κ)} {k : κ} {n : Nat}

/-- Job `a` stands before job `b` in the queue: if `a` is to be first, it is
due no later than `b`; if `b` is, it is due earlier than `a`. -/
def InTurn (due : Job κ → Nat) (first : κ → κ → Prop) (a b : Job κ) :
    Prop :=
  (first a.continuation b.continuation → due a ≤ due b) ∧
    (first b.continuation a.continuation → due b < due a)

/-- Every job is in turn with those behind it. -/
def Ordered (due : Job κ → Nat) (first : κ → κ → Prop)
    (jobs : List (Job κ)) : Prop :=
  jobs.Pairwise (InTurn due first)

/-- The front job spends a hop and goes to the back. -/
theorem Ordered.pass (hdue : due ⟨k, n + 1⟩ = due ⟨k, n⟩ + 1)
    (h : Ordered due first (⟨k, n + 1⟩ :: jobs)) :
    Ordered due first (jobs ++ [⟨k, n⟩]) := by
  obtain ⟨hfront, hjobs⟩ := List.pairwise_cons.mp h
  refine List.pairwise_append.mpr
    ⟨hjobs, List.pairwise_singleton _ _, fun a ha b hb => ?_⟩
  rw [List.mem_singleton.mp hb]
  obtain ⟨hle, hlt⟩ := hfront a ha
  refine ⟨fun hf => ?_, fun hf => ?_⟩
  · have hnow := hlt hf
    omega
  · have hnow := hle hf
    omega

/-- New jobs at the back keep the queue in order. -/
theorem Ordered.append (h : Ordered due first jobs)
    (hnew : Ordered due first new)
    (hcross : ∀ a ∈ jobs, ∀ b ∈ new, InTurn due first a b) :
    Ordered due first (jobs ++ new) :=
  List.pairwise_append.mpr ⟨h, hnew, hcross⟩

theorem Ordered.tail (h : Ordered due first (j :: jobs)) :
    Ordered due first jobs :=
  (List.pairwise_cons.mp h).2

/-- **A job that is due does not run before one that is to be first.** -/
theorem Ordered.not_mem (h : Ordered due first (j :: jobs))
    (hdue : due j = 0) {a : Job κ} (ha : a ∈ jobs) :
    ¬ first a.continuation j.continuation := by
  intro hf
  have hlt := ((List.pairwise_cons.mp h).1 a ha).2 hf
  omega

end Order

/-! ## §2. The loop. -/

/-- How the continuations of a machine are queued. -/
structure EventLoop (σ α κ : Type) where
  /-- The continuations that are ready. -/
  ready : σ → List κ
  /-- The continuation that an action resumes. -/
  resumes : σ → α → Option κ
  /-- How many hops a continuation may have when it becomes ready. -/
  admits : κ → Nat → Bool

/-- A state of the machine, with the queue. -/
structure Queued (σ κ : Type) where
  state : σ
  jobs : List (Job κ)

/-- What happens next.  `new` are the continuations that it makes ready, in
the order in which they are queued. -/
inductive LoopAction (α κ : Type) where
  /-- Something that resumes no continuation. -/
  | outside (a : α) (new : List (Job κ))
  /-- The front job runs its continuation. -/
  | run (a : α) (new : List (Job κ))
  /-- The front job does nothing. -/
  | pass

namespace EventLoop

variable {σ α ε κ : Type} [DecidableEq κ] (L : EventLoop σ α κ)
  (M : Machine σ α ε)

/-- The queue after a step: what was left of it, and what became ready. -/
def enqueue (jobs new : List (Job κ)) (p : σ × List ε) :
    Option (Queued σ κ × List ε) :=
  if (∀ j ∈ new, L.admits j.continuation j.hops = true) ∧
      ((jobs ++ new).map Job.continuation).Perm (L.ready p.1) then
    some (⟨p.1, jobs ++ new⟩, p.2)
  else none

/-- One step of the loop. -/
def step (q : Queued σ κ) :
    LoopAction α κ → Option (Queued σ κ × List ε)
  -- what resumes no continuation may happen at any time
  | .outside a new =>
      if L.resumes q.state a = none then
        (M.step q.state a).bind (L.enqueue q.jobs new)
      else none
  -- the front job runs once it has no hops left
  | .run a new => match q.jobs with
    | ⟨k, 0⟩ :: jobs =>
        if L.resumes q.state a = some k then
          (M.step q.state a).bind (L.enqueue jobs new)
        else none
    | _ => none
  -- until then it spends a hop and goes to the back
  | .pass => match q.jobs with
    | ⟨k, n + 1⟩ :: jobs => some (⟨q.state, jobs ++ [⟨k, n⟩]⟩, [])
    | _ => none

/-- The machine that resumes its continuations in order. -/
def machine : Machine (Queued σ κ) (LoopAction α κ) ε where
  init q := M.init q.state ∧ q.jobs = [] ∧ L.ready q.state = []
  step := L.step M

variable {L M}

/-- What was queued after a step of the machine. -/
structure Enqueues (L : EventLoop σ α κ) (s' : σ)
    (jobs new jobs' : List (Job κ)) : Prop where
  jobs : jobs' = jobs ++ new
  admitted : ∀ j ∈ new, L.admits j.continuation j.hops = true
  ready : (jobs'.map Job.continuation).Perm (L.ready s')

/-- What a step of the loop is. -/
inductive Steps (L : EventLoop σ α κ) (M : Machine σ α ε)
    (q : Queued σ κ) : LoopAction α κ → Queued σ κ → List ε → Prop
  | outside {a : α} {new : List (Job κ)} {q' : Queued σ κ} {obs : List ε}
      (hr : L.resumes q.state a = none)
      (hs : M.step q.state a = some (q'.state, obs))
      (hq : L.Enqueues q'.state q.jobs new q'.jobs) :
      Steps L M q (.outside a new) q' obs
  | run {a : α} {k : κ} {jobs new : List (Job κ)} {q' : Queued σ κ}
      {obs : List ε} (hj : q.jobs = ⟨k, 0⟩ :: jobs)
      (hr : L.resumes q.state a = some k)
      (hs : M.step q.state a = some (q'.state, obs))
      (hq : L.Enqueues q'.state jobs new q'.jobs) :
      Steps L M q (.run a new) q' obs
  | pass {k : κ} {n : Nat} {jobs : List (Job κ)}
      (hj : q.jobs = ⟨k, n + 1⟩ :: jobs) :
      Steps L M q .pass ⟨q.state, jobs ++ [⟨k, n⟩]⟩ []

/-- The queue after a step: the jobs left, with the new ones at their places.
-/
theorem enqueue_eq {jobs new : List (Job κ)} {p : σ × List ε}
    {q' : Queued σ κ} {obs : List ε}
    (h : L.enqueue jobs new p = some (q', obs)) :
    p = (q'.state, obs) ∧ L.Enqueues q'.state jobs new q'.jobs := by
  unfold enqueue at h
  split at h
  · rename_i hnew
    cases h
    exact ⟨rfl, rfl, hnew.1, hnew.2⟩
  · cases h

/-- **What a step of the loop is.** -/
theorem step_cases {q q' : Queued σ κ} {a : LoopAction α κ}
    {obs : List ε} (h : (L.machine M).step q a = some (q', obs)) :
    L.Steps M q a q' obs := by
  have h : L.step M q a = some (q', obs) := h
  cases a with
  | outside a new =>
      rw [step] at h
      split at h
      · rename_i hr
        obtain ⟨p, hs, hp⟩ := Option.bind_eq_some_iff.mp h
        obtain ⟨rfl, hq⟩ := enqueue_eq hp
        exact .outside hr hs hq
      · cases h
  | run a new =>
      unfold step at h
      dsimp only at h
      split at h
      · rename_i k jobs hj
        split at h
        · rename_i hr
          obtain ⟨p, hs, hp⟩ := Option.bind_eq_some_iff.mp h
          obtain ⟨rfl, hq⟩ := enqueue_eq hp
          exact .run hj hr hs hq
        · cases h
      · cases h
  | pass =>
      unfold step at h
      dsimp only at h
      split at h
      · rename_i k n jobs hj
        cases h
        exact .pass hj
      · cases h

/-- The guard of the loop asks `G` of every step of the machine. -/
def guarded (G : Guard σ α ε) : Guard (Queued σ κ) (LoopAction α κ) ε :=
  fun tr q a => match a with
  | .outside a _ | .run a _ => G tr q.state a
  | .pass => True

instance (G : Guard σ α ε) [∀ tr s a, Decidable (G tr s a)] (tr : List ε)
    (q : Queued σ κ) (a : LoopAction α κ) :
    Decidable (guarded G tr q a) := by
  unfold guarded
  split <;> infer_instance

/-- **A run of the loop is a run of the machine.**  An invariant `I` of the
loop may give the guard `G'` of the machine. -/
theorem base_run {G G' : Guard σ α ε} (I : Queued σ κ → Prop)
    (init : ∀ q, (L.machine M).init q → I q)
    (step : ∀ q tr a q' obs, I q → (∃ past, M.Run G' past q.state tr) →
      guarded G tr q a → L.Steps M q a q' obs → I q')
    (guard : ∀ q tr a, I q → guarded G tr q a → guarded G' tr q a)
    {past : List (Queued σ κ)} {q : Queued σ κ} {tr : List ε}
    (h : (L.machine M).Run (guarded G) past q tr) :
    I q ∧ ∃ past, M.Run G' past q.state tr := by
  induction h with
  | init hq => exact ⟨init _ hq, [], .init hq.1⟩
  | @step past q q' tr obs a _ hg hs ih =>
      obtain ⟨hI, past', hrun⟩ := ih
      have hG := guard q tr a hI hg
      have hsteps := step_cases hs
      refine ⟨step q tr a q' obs hI ⟨past', hrun⟩ hg hsteps, ?_⟩
      cases hsteps with
      | outside _ hs => exact ⟨_, hrun.step hG hs⟩
      | run _ _ hs => exact ⟨_, hrun.step hG hs⟩
      | pass =>
          rw [List.append_nil]
          exact ⟨past', hrun⟩

end EventLoop

end Twolk.Lib

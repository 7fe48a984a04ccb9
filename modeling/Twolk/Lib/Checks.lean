/-
  Twolk.Lib.Checks
  ────────────────
  **FAIL FAST, OR COLLECT.**

  A sequence of checks that stops at the first error, against the list of all
  the errors its parts would find: `Reports r errors` says that `r` ends with
  the first of `errors`, and returns when there is none.  Sequencing appends
  (`Reports.bind`), a loop over a list concatenates (`Reports.mapIdx`).

  `Code σ ε α` is code that may throw and keeps what it has done to a state;
  `Code.run_bind` runs it part by part.
-/
import Mathlib.Data.List.Forall2
import Mathlib.Tactic.Common

namespace Twolk.Lib

variable {σ ε α β γ : Type}

/-! ## §1. Checks. -/

/-- The error a check ends with. -/
def errorOf : Except ε α → Option ε
  | .ok _ => none
  | .error e => some e

/-- The check fails with the first of `errors`, if there is one. -/
def Reports (r : Except ε α) (errors : List ε) : Prop :=
  errorOf r = errors.head?

/-- Apply `f` to every element and its index, from `i` on. -/
def mapIdxFrom (f : γ → Nat → Except ε α) :
    Nat → List γ → Except ε (List α)
  | _, [] => .ok []
  | i, x :: xs => do
      let y ← f x i
      let ys ← mapIdxFrom f (i + 1) xs
      return y :: ys

/-- What each element is reported for. -/
def errorsFrom (errors : γ → Nat → List ε) : Nat → List γ → List ε
  | _, [] => []
  | i, x :: xs => errors x i ++ errorsFrom errors (i + 1) xs

/-- A function of errors goes through to each entry. -/
theorem map_errorsFrom (g : ε → β) (errors : γ → Nat → List ε) :
    ∀ (i : Nat) (xs : List γ), (errorsFrom errors i xs).map g =
      errorsFrom (fun x i => (errors x i).map g) i xs
  | _, [] => rfl
  | i, x :: xs => by
      rw [errorsFrom, List.map_append, map_errorsFrom g errors (i + 1) xs]
      rfl

/-- An error of a list is an error of one of its entries. -/
theorem mem_errorsFrom {errors : γ → Nat → List ε} {e : ε} :
    ∀ {i : Nat} {xs : List γ}, e ∈ errorsFrom errors i xs →
      ∃ x j, e ∈ errors x j
  | i, x :: xs, h => by
      rcases List.mem_append.mp h with h | h
      · exact ⟨x, i, h⟩
      · exact mem_errorsFrom h

theorem bind_eq_ok {r : Except ε α} {f : α → Except ε β} {b : β} :
    (r >>= f) = .ok b ↔ ∃ a, r = .ok a ∧ f a = .ok b := by
  constructor
  · intro h
    cases r with
    | error e => cases h
    | ok a => exact ⟨a, rfl, h⟩
  · rintro ⟨a, rfl, hf⟩
    exact hf

/-- A list passes when each of its elements does. By induction on the elements.
-/
theorem mapIdxFrom_eq_ok {f : γ → Nat → Except ε α} {P : γ → α → Prop}
    (hf : ∀ x i y, f x i = .ok y ↔ P x y) :
    ∀ (xs : List γ) (i : Nat) (ys : List α),
      mapIdxFrom f i xs = .ok ys ↔ List.Forall₂ P xs ys
  | [], i, ys => by
      rw [List.forall₂_nil_left_iff]
      exact ⟨fun h => (Except.ok.inj h).symm, fun h => congrArg _ h.symm⟩
  | x :: xs, i, ys => by
      rw [mapIdxFrom, bind_eq_ok, List.forall₂_cons_left_iff]
      simp only [bind_eq_ok, hf, mapIdxFrom_eq_ok hf xs (i + 1)]
      constructor
      · rintro ⟨y, hy, ys, hys, h⟩
        exact ⟨y, ys, hy, hys, (Except.ok.inj h).symm⟩
      · rintro ⟨y, ys, hy, hys, rfl⟩
        exact ⟨y, hy, ys, hys, rfl⟩

namespace Reports

variable {r : Except ε α} {f : α → Except ε β} {errors more : List ε}

theorem ok (a : α) : Reports (.ok a : Except ε α) [] := rfl

theorem self (r : Except ε α) : Reports r (errorOf r).toList := by
  cases r <;> rfl

/-- One check after another reports the faults of the first, then those of the
second. -/
theorem bind (h : Reports r errors)
    (hf : ∀ a, r = .ok a → Reports (f a) more) :
    Reports (r >>= f) (errors ++ more) := by
  unfold Reports at *
  rw [List.head?_append, ← h]
  cases r with
  | error e => rfl
  | ok a => exact hf a rfl

/-- After a check that may fail, one that cannot adds no fault. -/
theorem bind_nil (h : Reports r errors)
    (hf : ∀ a, r = .ok a → Reports (f a) []) : Reports (r >>= f) errors := by
  have hall := h.bind hf
  rwa [List.append_nil] at hall

/-- Changing the result of a check leaves its faults. -/
theorem map (h : Reports r errors) (g : α → β) :
    Reports (r >>= fun a => .ok (g a)) errors :=
  h.bind_nil fun _ _ => .ok _

/-- The faults of a list are those of its elements in turn. By induction on the
elements. -/
theorem mapIdxFrom {f : γ → Nat → Except ε α} {errors : γ → Nat → List ε}
    (hf : ∀ x i, Reports (f x i) (errors x i)) :
    ∀ (xs : List γ) (i : Nat),
      Reports (Lib.mapIdxFrom f i xs) (errorsFrom errors i xs)
  | [], _ => .ok _
  | x :: xs, i =>
      (hf x i).bind fun _ _ => (mapIdxFrom hf xs (i + 1)).map _

/-- A check fails with the first of its faults. -/
theorem iff (h : Reports r errors) {e : ε} :
    r = .error e ↔ errors.head? = some e := by
  unfold Reports at h
  rw [← h]
  cases r with
  | error e' => simp [errorOf]
  | ok a => simp [errorOf]

end Reports

/-! ## §2. Code that may throw. -/

/-- Code that may throw, over a state. -/
abbrev Code (σ ε α : Type) := ExceptT ε (StateM σ) α

namespace Code

/-- How it ends, and what it has done by then. -/
def runFrom (c : Code σ ε α) (s : σ) : Except ε α × σ :=
  StateT.run (ExceptT.run c) s

/-- A check, which does nothing but throw. -/
def check (r : Except ε α) : Code σ ε α := ExceptT.mk (pure r)

variable {c : Code σ ε α} {k : α → Code σ ε β} {r : Except ε α} {s s' : σ}

theorem run_pure (a : α) : (pure a : Code σ ε α).runFrom s = (.ok a, s) := rfl

theorem run_bind : (c >>= k).runFrom s = match c.runFrom s with
    | (.ok a, s) => (k a).runFrom s
    | (.error e, s) => (.error e, s) := by
  show (match StateT.run (ExceptT.run c) s with
    | (r, s) => StateT.run (ExceptT.bindCont k r) s) = _
  unfold runFrom
  cases StateT.run (ExceptT.run c) s with
  | mk r s => cases r <;> rfl

/-- The first part returns, and the rest with it. -/
theorem run_bind_eq_ok {b : β} : (c >>= k).runFrom s = (.ok b, s') ↔
    ∃ a s₁, c.runFrom s = (.ok a, s₁) ∧ (k a).runFrom s₁ = (.ok b, s') := by
  rw [run_bind]
  constructor
  · intro h
    split at h
    · rename_i a s₁ hc
      exact ⟨a, s₁, hc, h⟩
    · cases h
  · rintro ⟨a, s₁, hc, hk⟩
    rw [hc]
    exact hk

/-- A check passes, and the rest goes on from the same log. -/
theorem run_check_bind_eq_ok {b : β} :
    (check r >>= k).runFrom s = (.ok b, s') ↔
      ∃ a, r = .ok a ∧ (k a).runFrom s = (.ok b, s') := by
  rw [run_bind_eq_ok]
  constructor
  · rintro ⟨a, s₁, hr, hk⟩
    cases hr
    exact ⟨a, rfl, hk⟩
  · rintro ⟨a, rfl, hk⟩
    exact ⟨a, s, rfl, hk⟩

/-- From every state, the code fails with the first of `errors`. -/
def Reports (c : Code σ ε α) (errors : List ε) : Prop :=
  ∀ s, Lib.Reports (c.runFrom s).1 errors

namespace Reports

variable {errors more : List ε}

theorem check (h : Lib.Reports r errors) :
    (Code.check r : Code σ ε α).Reports errors :=
  fun _ => h

theorem pure (a : α) : (Pure.pure a : Code σ ε α).Reports [] :=
  fun _ => .ok a

/-- One part after another reports the faults of the first, then those of the
second. -/
theorem bind (h : c.Reports errors)
    (hk : ∀ a s s', c.runFrom s = (.ok a, s') → (k a).Reports more) :
    (c >>= k).Reports (errors ++ more) := by
  intro s
  have hc := h s
  unfold Lib.Reports at *
  rw [run_bind, List.head?_append, ← hc]
  rcases heq : c.runFrom s with ⟨r, s'⟩
  cases r with
  | error e => rfl
  | ok a => exact hk a s s' heq s'

/-- A check reports its own faults, and then those of the rest. -/
theorem check_bind (h : Lib.Reports r errors)
    (hk : ∀ a, r = .ok a → (k a).Reports more) :
    (Code.check r >>= k).Reports (errors ++ more) := by
  refine bind (check h) fun a s s' heq => hk a ?_
  exact (Prod.mk.inj heq).1

/-- After a part that may fail, one that cannot adds no fault. -/
theorem bind_nil (h : c.Reports errors)
    (hk : ∀ a s s', c.runFrom s = (.ok a, s') → (k a).Reports []) :
    (c >>= k).Reports errors := by
  have hall := h.bind hk
  rwa [List.append_nil] at hall

/-- Only the check can fail. -/
theorem check_bind_nil (h : Lib.Reports r errors)
    (hk : ∀ a, r = .ok a → (k a).Reports []) :
    (Code.check r >>= k).Reports errors := by
  have hall := check_bind h hk
  rwa [List.append_nil] at hall

end Reports

end Code

end Twolk.Lib

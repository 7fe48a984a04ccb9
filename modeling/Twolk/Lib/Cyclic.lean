/-
  Twolk.Lib.Cyclic
  ────────────────
  **A COUNTER TAKEN MODULO A LENGTH.**

  `residues n k m` are the residues of the `m` numbers from `k` on.

  Main results:
    * `residues_nodup`     — up to `n` of them are distinct,
    * `count_residues_le`  — any two residues come up equally often, up to
      one.
-/
import Mathlib.Data.Int.CardIntervalMod

namespace Twolk.Lib

/-- The residues modulo `n` of `k`, `k + 1`, …, `m` of them. -/
def residues (n : Nat) : Nat → Nat → List Nat
  | _, 0 => []
  | k, m + 1 => k % n :: residues n (k + 1) m

variable {n : Nat}

theorem length_residues : ∀ (m k : Nat), (residues n k m).length = m
  | 0, _ => rfl
  | m + 1, k => congrArg (· + 1) (length_residues m (k + 1))

/-- A run of picks is a run, and another one from where it ended. -/
theorem residues_add : ∀ (m m' k : Nat),
    residues n k (m + m') = residues n k m ++ residues n (k + m) m'
  | 0, m', k => by
      rw [Nat.zero_add]
      rfl
  | m + 1, m', k => by
      rw [Nat.succ_add]
      show k % n :: residues n (k + 1) (m + m') = _
      rw [residues_add m m' (k + 1), Nat.add_right_comm k 1 m]
      rfl

/-- The `i`-th residue, by induction on the numbers before it. -/
theorem getElem?_residues : ∀ (m k i : Nat), i < m →
    (residues n k m)[i]? = some ((k + i) % n)
  | m + 1, k, 0, _ => rfl
  | m + 1, k, i + 1, h => by
      show (residues n (k + 1) m)[i]? = _
      rw [getElem?_residues m (k + 1) i (Nat.lt_of_succ_lt_succ h)]
      congr 2
      omega

theorem lt_of_mem_residues (hn : 0 < n) {v : Nat} :
    ∀ (m k : Nat), v ∈ residues n k m → v < n
  | m + 1, k, h => by
      rcases List.mem_cons.mp h with rfl | h
      · exact Nat.mod_lt k hn
      · exact lt_of_mem_residues hn m (k + 1) h

/-- Numbers closer than `n` have different residues. -/
theorem mod_ne_of_lt {a b : Nat} (hlt : a < b) (hclose : b < a + n) :
    a % n ≠ b % n := by
  intro h
  have hdvd : n ∣ b - a := (Nat.modEq_iff_dvd' (Nat.le_of_lt hlt)).mp h
  have hle := Nat.le_of_dvd (by omega) hdvd
  omega

/-- Within one round no residue comes twice. -/
theorem not_mem_residues {a : Nat} : ∀ (m k : Nat), a < k → k + m ≤ a + n →
    a % n ∉ residues n k m
  | 0, _, _, _ => List.not_mem_nil
  | m + 1, k, hlt, hle => by
      intro h
      rcases List.mem_cons.mp h with h | h
      · exact mod_ne_of_lt hlt (by omega) h
      · exact not_mem_residues m (k + 1) (by omega) (by omega) h

/-- Up to `n` consecutive residues are distinct. -/
theorem residues_nodup : ∀ (m k : Nat), m ≤ n → (residues n k m).Nodup
  | 0, _, _ => List.nodup_nil
  | m + 1, k, h =>
      List.nodup_cons.mpr
        ⟨not_mem_residues m (k + 1) (by omega) (by omega),
          residues_nodup m (k + 1) (by omega)⟩

/-- How often `v` comes up is how often it has come up by the end, less how
often before the start. -/
theorem count_residues {v : Nat} (hv : v < n) : ∀ (m k : Nat),
    Nat.count (· ≡ v [MOD n]) k + (residues n k m).count v
      = Nat.count (· ≡ v [MOD n]) (k + m)
  | 0, k => rfl
  | m + 1, k => by
      have ih := count_residues hv m (k + 1)
      rw [Nat.count_succ, Nat.add_right_comm k 1 m] at ih
      show _ + (k % n :: residues n (k + 1) m).count v = _
      rw [List.count_cons, ← Nat.add_assoc k m 1, ← ih]
      simp only [Nat.ModEq, Nat.mod_eq_of_lt hv, beq_iff_eq]
      omega

/-- Any two residues come up equally often, up to one. -/
theorem count_residues_le {v w : Nat} (hv : v < n) (hw : w < n) (m k : Nat) :
    (residues n k m).count v ≤ (residues n k m).count w + 1 := by
  have hn : 0 < n := Nat.zero_lt_of_lt hv
  have hcv := count_residues hv m k
  have hcw := count_residues hw m k
  -- a residue comes up once in every round from zero on, the smaller ones
  -- first
  rw [Nat.count_modEq_card _ hn, Nat.count_modEq_card _ hn,
    Nat.mod_eq_of_lt hv] at hcv
  rw [Nat.count_modEq_card _ hn, Nat.count_modEq_card _ hn,
    Nat.mod_eq_of_lt hw] at hcw
  split at hcv <;> split at hcv <;> split at hcw <;> split at hcw <;> omega

end Twolk.Lib

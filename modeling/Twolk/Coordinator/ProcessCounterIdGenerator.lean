/-
  Twolk.Coordinator.ProcessCounterIdGenerator
  ───────────────────────────────────────────
  `id-gen-process.ts`: the counter behind the ids of members, routers and
  transports, which wraps to zero.

  Main results:
    * `draw_eq_range`   — until it wraps it counts up from zero, as the
      generators of `Twolk.Coordinator.State` do,
    * `next_ids_unique` — any `MAX_COUNTER` ids in a row are distinct, and
      the wrap is exact.
-/
import Twolk.Lib.Cyclic
import Twolk.Lib.JsNumber
import Twolk.Lib.Machine

namespace Twolk.Coordinator

open Twolk.Lib

/-- The counter of one kind of id. -/
structure ProcessCounterIdGenerator where
  counter : Nat
  deriving DecidableEq, Repr

namespace ProcessCounterIdGenerator

/-! ## §1. The generator. -/

/-- The maximum limit of `counter` before it wraps to zero. -/
def MAX_COUNTER : Nat := JsNumber.MAX_SAFE_INTEGER

/-- `new ProcessCounterIdGenerator()`. -/
def initial : ProcessCounterIdGenerator := ⟨0⟩

/-- `this.counter + 1`. -/
def incremented (g : ProcessCounterIdGenerator) : Nat :=
  JsNumber.add g.counter 1

/-- `next()`: the id, and the generator after it. -/
def next (g : ProcessCounterIdGenerator) : Nat × ProcessCounterIdGenerator :=
  (g.counter, ⟨g.incremented % MAX_COUNTER⟩)

/-- The ids of `m` calls of `next()`. -/
def draw : Nat → ProcessCounterIdGenerator → List Nat
  | 0, _ => []
  | m + 1, g => g.next.1 :: draw m g.next.2

/-- A generator is only ever asked for the next id. -/
def machine : Machine ProcessCounterIdGenerator Unit Nat where
  init g := g = initial
  step g _ := some (g.next.2, [g.next.1])

/-! ## §2. The wrap is exact. -/

variable {g : ProcessCounterIdGenerator}

/-- In the range of the counter, the JS addition is exact. -/
theorem incremented_eq (h : g.counter < MAX_COUNTER) :
    g.incremented = g.counter + 1 := by
  unfold MAX_COUNTER JsNumber.MAX_SAFE_INTEGER at h
  exact JsNumber.add_eq (by omega)

/-- The counter goes up by one, and round at its end. -/
theorem next_counter (h : g.counter < MAX_COUNTER) :
    g.next.2.counter = (g.counter + 1) % MAX_COUNTER := by
  show g.incremented % MAX_COUNTER = _
  rw [incremented_eq h]

theorem counter_next_lt (g : ProcessCounterIdGenerator) :
    g.next.2.counter < MAX_COUNTER :=
  Nat.mod_lt _ (by decide)

/-- The ids in a row are consecutive residues: by induction on the calls,
from a number `k` the counter is the residue of. -/
theorem draw_eq_residues : ∀ (m k : Nat) {g : ProcessCounterIdGenerator},
    g.counter = k % MAX_COUNTER → g.draw m = residues MAX_COUNTER k m
  | 0, _, _, _ => rfl
  | m + 1, k, g, h => by
      have hlt : g.counter < MAX_COUNTER := by
        rw [h]
        exact Nat.mod_lt k (by decide)
      show g.counter :: g.next.2.draw m = k % MAX_COUNTER :: _
      rw [draw_eq_residues m (k + 1) (by rw [next_counter hlt, h,
        Nat.mod_add_mod]), h]

/-- Until the counter wraps, the ids are those a counter gives that never
does. -/
theorem draw_eq_range {m : Nat} (h : m ≤ MAX_COUNTER) :
    initial.draw m = List.range m := by
  rw [draw_eq_residues m 0 (g := initial) rfl]
  refine List.ext_getElem? fun i => ?_
  by_cases hi : i < m
  · rw [getElem?_residues m 0 i hi, List.getElem?_range hi, Nat.zero_add,
      Nat.mod_eq_of_lt (Nat.lt_of_lt_of_le hi h)]
  · rw [List.getElem?_eq_none (by rw [length_residues]; omega),
      List.getElem?_eq_none (by rw [List.length_range]; omega)]

/-! ## §3. Runs. -/

variable {past : List ProcessCounterIdGenerator} {tr : List Nat}

/-- The ids drawn are the residues of the calls, and the counter that of
their number. -/
theorem run_residues (h : machine.Run anyStep past g tr) :
    tr = residues MAX_COUNTER 0 tr.length ∧
      g.counter = tr.length % MAX_COUNTER := by
  refine h.invariant (fun g tr => tr = residues MAX_COUNTER 0 tr.length ∧
    g.counter = tr.length % MAX_COUNTER) (fun g hg => ?_)
    fun g tr _ g' obs hI _ hs => ?_
  · rw [show g = initial from hg]
    exact ⟨rfl, rfl⟩
  · obtain ⟨htr, hc⟩ := hI
    cases hs
    have hlt : g.counter < MAX_COUNTER := by
      rw [hc]
      exact Nat.mod_lt _ (by decide)
    rw [List.length_append, List.length_singleton]
    refine ⟨?_, ?_⟩
    · rw [residues_add, ← htr, Nat.zero_add]
      show tr ++ [g.counter] = tr ++ [tr.length % MAX_COUNTER]
      rw [hc]
    · rw [next_counter hlt, hc, Nat.mod_add_mod]

/-- **Ids do not repeat.**  In every run of a generator: the next
`MAX_COUNTER` ids are distinct and below `MAX_COUNTER`; what `next()`
computes on the way is exact and a safe integer; and an id comes up again
only after `MAX_COUNTER` calls. -/
theorem next_ids_unique (h : machine.Run anyStep past g tr) :
    (g.draw MAX_COUNTER).Nodup ∧
      (∀ id ∈ g.draw MAX_COUNTER, id ≤ MAX_COUNTER - 1) ∧
      g.incremented = g.counter + 1 ∧
      (∀ v ∈ [g.counter, g.incremented, g.next.2.counter],
        v ≤ 2 ^ 53 - 1) ∧
      ∀ i j id, i < j → tr[i]? = some id → tr[j]? = some id →
        MAX_COUNTER ≤ j - i := by
  obtain ⟨htr, hc⟩ := run_residues h
  have hlt : g.counter < MAX_COUNTER := by
    rw [hc]
    exact Nat.mod_lt _ (by decide)
  have hdraw := draw_eq_residues MAX_COUNTER tr.length hc
  refine ⟨?_, fun id hid => ?_, incremented_eq hlt, fun v hv => ?_,
    fun i j id hij hi hj => ?_⟩
  · rw [hdraw]
    exact residues_nodup _ _ (Nat.le_refl _)
  · rw [hdraw] at hid
    exact Nat.le_sub_one_of_lt (lt_of_mem_residues (by decide) _ _ hid)
  · have hnext := counter_next_lt g
    have hmax : MAX_COUNTER = 2 ^ 53 - 1 := rfl
    simp only [List.mem_cons, List.not_mem_nil, or_false,
      incremented_eq hlt] at hv
    omega
  · have hj' : j < tr.length := (List.getElem?_eq_some_iff.mp hj).1
    rw [htr, getElem?_residues _ _ _ (Nat.lt_trans hij hj')] at hi
    rw [htr, getElem?_residues _ _ _ hj'] at hj
    rw [Nat.zero_add] at hi hj
    by_contra hclose
    refine mod_ne_of_lt hij (n := MAX_COUNTER) (by omega) ?_
    rw [Option.some.inj hi, Option.some.inj hj]

/-- A generator that has given out three ids. -/
theorem next_ids_unique_three :
    (draw MAX_COUNTER ⟨3⟩).Nodup ∧
      ∃ past, machine.Run anyStep past ⟨3⟩ [0, 1, 2] := by
  have hexec : machine.exec anyStep ([], ⟨0⟩, []) [(), (), ()]
      = some ([⟨0⟩, ⟨1⟩, ⟨2⟩], ⟨3⟩, [0, 1, 2]) := by decide +kernel
  have h : machine.Run anyStep [⟨0⟩, ⟨1⟩, ⟨2⟩] ⟨3⟩ [0, 1, 2] :=
    Machine.Run.of_exec (.init rfl) hexec
  exact ⟨(next_ids_unique h).1, _, h⟩

end ProcessCounterIdGenerator

end Twolk.Coordinator

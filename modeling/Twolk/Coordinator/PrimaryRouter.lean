/-
  Twolk.Coordinator.PrimaryRouter
  ───────────────────────────────
  **ONE ROUTER PER SPACE.**

  `RouterAllocator.allocate` hands out `space.primaryRouter`, or requests a
  router and stores it when the worker answers.  Two callers that both come
  before that answer request two routers of one space, and each resolves to
  its own (`two_routers`).  A nacked request leaves its record in the table,
  and a caller between the removal of a router and
  `space.primaryRouter = null` is handed the removed one.

  What holds: as long as every caller either finds the primary router in the
  table or finds no router of its space there at all (`allocatesInTurn`),
  the calls that resolve between two removals resolve to one router, and the
  table holds at most one router of the space.
-/
import Twolk.Coordinator.Routers

namespace Twolk.Coordinator

open Twolk.Lib

variable {κ : Type}

/-! ## §1. Resolutions between two removals. -/

/-- The routers calls for a space resolved to, cut at its removals. -/
structure Epochs where
  current : List RouterId
  closed : List (List RouterId)

namespace Epochs

variable (removal : Out κ → Bool) (uuid : Uuid)

/-- Read one observation. -/
def step (e : Epochs) (o : Out κ) : Epochs :=
  if removal o then ⟨[], e.current :: e.closed⟩
  else match o with
    | .routerResolved uuid' r =>
        if uuid' = uuid then { e with current := r :: e.current } else e
    | _ => e

/-- The epochs of a sequence of observations. -/
def ofTrace (tr : List (Out κ)) : Epochs :=
  tr.foldl (step removal uuid) ⟨[], []⟩

/-- All calls of each epoch resolved to one router. -/
def Agree (e : Epochs) : Prop :=
  ∀ l ∈ e.current :: e.closed, ∀ r ∈ l, ∀ r' ∈ l, r = r'

instance (e : Epochs) : Decidable e.Agree :=
  inferInstanceAs (Decidable (∀ l ∈ e.current :: e.closed, _))

/-- What a run has removed so far goes on from what it had. -/
theorem ofTrace_append (tr l : List (Out κ)) :
    ofTrace removal uuid (tr ++ l)
      = l.foldl (step removal uuid) (ofTrace removal uuid tr) :=
  List.foldl_append

theorem ofTrace_snoc (tr l : List (Out κ)) (o : Out κ) :
    ofTrace removal uuid (tr ++ (l ++ [o]))
      = step removal uuid (ofTrace removal uuid (tr ++ l)) o := by
  rw [← List.append_assoc, ofTrace_append, List.foldl_cons, List.foldl_nil]

variable {removal uuid}

/-- The calls of the current epoch resolved to routers with property `P`;
those of each closed epoch to one router. -/
structure Held (e : Epochs) (P : RouterId → Prop) : Prop where
  current : ∀ r ∈ e.current, P r
  closed : ∀ l ∈ e.closed, ∀ r ∈ l, ∀ r' ∈ l, r = r'

/-- A property of at most one router makes every epoch agree. -/
theorem Held.agree {e : Epochs} {P : RouterId → Prop} (h : e.Held P)
    (hP : ∀ r r', P r → P r' → r = r') : e.Agree := by
  intro l hl
  rcases List.mem_cons.mp hl with rfl | hl
  · exact fun r hr r' hr' => hP r r' (h.current r hr) (h.current r' hr')
  · exact h.closed l hl

/-- **The step rule for epochs**: `P` before the observation, `Q` after. -/
theorem Held.step {e : Epochs} {P Q : RouterId → Prop} {o : Out κ}
    (h : e.Held P) (hP : ∀ r r', P r → P r' → r = r')
    (keep : removal o = false → ∀ r, P r → Q r)
    (new : ∀ r, o = .routerResolved uuid r → Q r) :
    (e.step removal uuid o).Held Q := by
  unfold Epochs.step
  split
  · exact ⟨fun _ hr => (by cases hr), h.agree hP⟩
  · rename_i hrem
    replace keep := keep (by simpa using hrem)
    split
    · rename_i uuid' r
      split
      · rename_i heq
        subst heq
        refine ⟨fun r' hr' => ?_, h.closed⟩
        rcases List.mem_cons.mp hr' with rfl | hr'
        · exact new _ rfl
        · exact keep r' (h.current r' hr')
      · exact ⟨fun r' hr' => keep r' (h.current r' hr'), h.closed⟩
    · exact ⟨fun r' hr' => keep r' (h.current r' hr'), h.closed⟩

end Epochs

/-- `RouterAllocator.remove` took a router of `uuid` out of the table. -/
def Out.isRemoved (uuid : Uuid) : Out κ → Bool
  | .routerRemoved uuid' _ => uuid' = uuid
  | _ => false

/-- `applyTransition` set the primary router of `uuid` to `null`. -/
def Out.isCleared (uuid : Uuid) : Out κ → Bool
  | .routerCleared uuid' => uuid' = uuid
  | _ => false

/-- The observation is about a router of `uuid`. -/
def Out.aboutRouter (uuid : Uuid) : Out κ → Bool
  | .routerResolved uuid' _ | .routerRemoved uuid' _ | .routerCleared uuid' =>
      uuid' = uuid
  | _ => false

/-- Router `r` of space `uuid` is in `RouterAllocator.routers`. -/
def Coord.registered (c : Coord κ) (uuid : Uuid) (r : RouterId) : Prop :=
  r ∈ c.routers.keys ∧ (c.routerView r).map Prod.fst = some uuid

instance (c : Coord κ) (uuid : Uuid) (r : RouterId) :
    Decidable (c.registered uuid r) := inferInstanceAs (Decidable (_ ∧ _))

/-- **The allocation contract** of space `uuid`.  A removal of its router is
a call of `RouterAllocator.remove` followed, one `await` later, by
`space.primaryRouter = null`; the resolutions agree between two of either. -/
structure OneRouter (uuid : Uuid) (c : Coord κ) (tr : List (Out κ)) :
    Prop where
  removed : (Epochs.ofTrace (Out.isRemoved uuid) uuid tr).Agree
  cleared : (Epochs.ofTrace (Out.isCleared uuid) uuid tr).Agree
  table : ∀ r ∈ c.routers.keys, ∀ r' ∈ c.routers.keys,
    c.registered uuid r → c.registered uuid r' → r = r'

/-- A caller of `allocate` finds the primary router still in the table, or
no router of its space there. -/
def allocatesInTurn (uuid : Uuid) : Guard (Coord κ) (Action κ) (Out κ) :=
  fun _ c a => c.allocates a = some uuid →
    (∀ r ∈ c.primaryOf uuid, r ∈ c.routers.keys) ∧
    (c.primaryOf uuid = none → c.workerIds ≠ [] →
      ∀ r ∈ c.routers.keys, ¬ c.registered uuid r)

instance (uuid : Uuid) (tr : List (Out κ)) (c : Coord κ) (a : Action κ) :
    Decidable (allocatesInTurn uuid tr c a) := by
  unfold allocatesInTurn
  infer_instance

/-! ## §2. The invariant. -/

/-- Under the guard: at most one router of the space is registered, a
request under way is for it, and the calls of the current epoch resolved
to it. -/
structure PrimaryInv (uuid : Uuid) (tr : List (Out κ)) (c : Coord κ) :
    Prop where
  unique : ∀ r r', c.registered uuid r → c.registered uuid r' → r = r'
  requested : ∀ r w, c.routerRequests.get? r = some w → w.uuid = uuid →
    c.registered uuid r ∧ c.primaryOf uuid = none
  stored : (Epochs.ofTrace (Out.isCleared uuid) uuid (tr ++ c.out)).Held
    (c.primaryOf uuid = some ·)
  held : (Epochs.ofTrace (Out.isRemoved uuid) uuid (tr ++ c.out)).Held
    (c.registered uuid)

/-- A space has one primary router at a time. -/
theorem primaryOf_unique {c : Coord κ} {uuid : Uuid} (r r' : RouterId)
    (h : c.primaryOf uuid = some r) (h' : c.primaryOf uuid = some r') :
    r = r' :=
  Option.some.inj (h.symm.trans h')

/-- The invariant is what the contract says, and why. -/
theorem PrimaryInv.oneRouter {uuid : Uuid} {tr : List (Out κ)}
    {c : Coord κ} (hI : PrimaryInv uuid tr { c with out := [] }) :
    OneRouter uuid c tr where
  removed := by
    have h := hI.held
    rw [List.append_nil] at h
    exact h.agree hI.unique
  cleared := by
    have h := hI.stored
    rw [List.append_nil] at h
    exact h.agree primaryOf_unique
  table r _ r' _ := hI.unique r r'

/-- `c'` differs from `c` in nothing the invariant reads, except that fewer
requests are under way. -/
structure PrimaryFrame (uuid : Uuid) (c c' : Coord κ) : Prop where
  registered : ∀ r, c'.registered uuid r ↔ c.registered uuid r
  primary : c'.primaryOf uuid = c.primaryOf uuid
  requests : ∀ r w, c'.routerRequests.get? r = some w → w.uuid = uuid →
    c.routerRequests.get? r = some w
  out : ∃ l, c'.out = c.out ++ l ∧ ∀ o ∈ l, o.aboutRouter uuid = false

namespace PrimaryFrame

variable {uuid : Uuid} {c c' : Coord κ}

/-- Observations that are not about a router of the space are no part of
its epochs. -/
theorem held_append {removal : Out κ → Bool} {P : RouterId → Prop}
    (hP : ∀ r r', P r → P r' → r = r') :
    ∀ (l : List (Out κ)) (e : Epochs),
      (∀ o ∈ l, o.aboutRouter uuid = false) → e.Held P →
      (l.foldl (Epochs.step removal uuid) e).Held P
  | [], _, _, he => he
  | o :: l, e, h, he => by
      have ho := h o List.mem_cons_self
      rw [List.foldl_cons]
      refine held_append hP l _
        (fun o ho => h o (List.mem_cons_of_mem _ ho))
        (he.step hP (fun _ _ hr => hr) ?_)
      rintro r rfl
      simp [Out.aboutRouter] at ho

/-- A stretch that allocates no router keeps the invariant. -/
theorem inv {tr : List (Out κ)} (h : PrimaryFrame uuid c c')
    (hI : PrimaryInv uuid tr c) : PrimaryInv uuid tr c' := by
  obtain ⟨l, hl, hq⟩ := h.out
  constructor
  case unique =>
    intro r r'
    rw [h.registered, h.registered]
    exact hI.unique r r'
  case requested =>
    intro r w hw hu
    rw [h.registered, h.primary]
    exact hI.requested r w (h.requests r w hw hu) hu
  case stored =>
    rw [hl, ← List.append_assoc, Epochs.ofTrace_append, h.primary]
    exact held_append primaryOf_unique l _ hq hI.stored
  case held =>
    have hreg : c'.registered uuid = c.registered uuid :=
      funext fun r => propext (h.registered r)
    rw [hl, ← List.append_assoc, Epochs.ofTrace_append, hreg]
    exact held_append hI.unique l _ hq hI.held

/-- A stretch that leaves the router table alone keeps the primary router. -/
theorem of_eq (heap : ∀ r, (c'.routerView r).map Prod.fst
      = (c.routerView r).map Prod.fst) (routers : c'.routers = c.routers)
    (primary : c'.primaryOf uuid = c.primaryOf uuid)
    (requests : ∀ r w, c'.routerRequests.get? r = some w → w.uuid = uuid →
      c.routerRequests.get? r = some w)
    (out : ∃ l, c'.out = c.out ++ l ∧ ∀ o ∈ l, o.aboutRouter uuid = false) :
    PrimaryFrame uuid c c' where
  registered r := by rw [Coord.registered, Coord.registered, heap, routers]
  primary := primary
  requests := requests
  out := out

end PrimaryFrame

theorem MediaFrame.primary {c c' : Coord κ} (h : MediaFrame c c')
    (uuid : Uuid) : PrimaryFrame uuid c c' := by
  refine .of_eq (fun r => ?_) h.routers ?_ (fun r w hw _ => ?_) ?_
  · exact congrArg (Option.map Prod.fst) (h.routerHeap r)
  · rw [Coord.primaryOf, h.spaces]
    rfl
  · exact h.routerRequests ▸ hw
  · obtain ⟨l, hl, hm⟩ := h.out
    refine ⟨l, hl, fun o ho => ?_⟩
    have := hm o ho
    cases o <;> first | rfl | cases this

/-! ## §3. Each effect keeps the invariant. -/

section Effects

variable {uuid : Uuid} {tr : List (Out κ)} {c : Coord κ}

/-- The caller was handed the primary router, which is in the table. -/
theorem PrimaryInv.resolve (hI : PrimaryInv uuid tr c) {uuid' : Uuid}
    {r : RouterId} {t : Task κ}
    (hr : uuid' = uuid → c.primaryOf uuid = some r ∧ c.registered uuid r) :
    PrimaryInv uuid tr ((c.emit (.routerResolved uuid' r)).defer t) := by
  constructor
  case unique => exact hI.unique
  case requested => exact hI.requested
  case stored =>
    show (Epochs.ofTrace _ uuid (tr ++ (c.out ++ [_]))).Held _
    rw [Epochs.ofTrace_snoc]
    refine hI.stored.step primaryOf_unique (fun _ _ h => h) ?_
    rintro r' ⟨⟩
    exact (hr rfl).1
  case held =>
    show (Epochs.ofTrace _ uuid (tr ++ (c.out ++ [_]))).Held _
    rw [Epochs.ofTrace_snoc]
    refine hI.held.step hI.unique (fun _ _ h => h) ?_
    rintro r' ⟨⟩
    exact (hr rfl).2

/-- A caller requests a router while the table holds none of its space. -/
theorem PrimaryInv.request (hI : PrimaryInv uuid tr c) (hwf : RouterWF c)
    {w : RouterWaiter κ} (workerId : WorkerId)
    (strategy : RoundRobinStrategy)
    (hp : c.primaryOf w.uuid = none)
    (hg : w.uuid = uuid → ∀ r, ¬ c.registered uuid r) :
    PrimaryInv uuid tr
      (RouterAllocator.request c w.uuid workerId strategy w) := by
  -- the id is fresh, so no router has it yet
  have hnew : c.routerView c.routerIdGen = none := by
    by_contra h
    exact absurd (hwf.fresh _ h) (Nat.lt_irrefl _)
  -- the new router is the only one registered in addition
  have hreg : ∀ r, Coord.registered
      (RouterAllocator.request c w.uuid workerId strategy w) uuid r ↔
        c.registered uuid r ∨ r = c.routerIdGen ∧ w.uuid = uuid := by
    intro r
    simp only [Coord.registered, Coord.routerView, RouterAllocator.request,
      JsMap.get?_set, JsSet.mem_keys_add]
    by_cases hr : r = c.routerIdGen
    · subst hr
      have : c.routerHeap.get? c.routerIdGen = none := by
        simpa [Coord.routerView] using hnew
      simp [this]
    · simp [hr]
  have hreq : ∀ r w', (RouterAllocator.request c w.uuid workerId strategy
      w).routerRequests.get? r = some w' →
        c.routerRequests.get? r = some w' ∨
          r = c.routerIdGen ∧ w' = w := by
    intro r w' h
    have h : (c.routerRequests.set c.routerIdGen w).get? r = some w' := h
    rw [JsMap.get?_set] at h
    split at h
    · rename_i heq
      cases h
      exact .inr ⟨heq, rfl⟩
    · exact .inl h
  constructor
  -- the guard says that the space had no router when this one was asked for
  case unique =>
    intro r r' h h'
    rcases (hreg r).mp h with h | ⟨rfl, hu⟩
    · rcases (hreg r').mp h' with h' | ⟨rfl, hu⟩
      · exact hI.unique r r' h h'
      · exact absurd h (hg hu r)
    · rcases (hreg r').mp h' with h' | ⟨rfl, -⟩
      · exact absurd h' (hg hu r')
      · rfl
  case requested =>
    intro r w' h hu
    rcases hreq r w' h with h | ⟨rfl, rfl⟩
    · obtain ⟨hr, hp⟩ := hI.requested r w' h hu
      exact ⟨(hreg r).mpr (.inl hr), hp⟩
    · exact ⟨(hreg _).mpr (.inr ⟨rfl, hu⟩), hu ▸ hp⟩
  -- the epochs do not change, as a request is not about a router's life
  case stored =>
    show (Epochs.ofTrace _ uuid (tr ++ (c.out ++ [_]))).Held _
    rw [Epochs.ofTrace_snoc]
    exact hI.stored.step primaryOf_unique (fun _ _ h => h)
      fun r h => by cases h
  case held =>
    show (Epochs.ofTrace _ uuid (tr ++ (c.out ++ [_]))).Held _
    rw [Epochs.ofTrace_snoc]
    exact hI.held.step hI.unique (fun _ r h => (hreg r).mpr (.inl h))
      fun r h => by cases h

/-- A worker answers the request for the registered router. -/
theorem PrimaryInv.routerAck (hI : PrimaryInv uuid tr c) (hwf : RouterWF c)
    {id : RouterId} {w : RouterWaiter κ} (caps : Json)
    (hw : c.routerRequests.get? id = some w) :
    PrimaryInv uuid tr (RouterAllocator.onRouterAck c id w caps) := by
  rw [onRouterAck_eq hwf caps hw]
  generalize hc' : ({ c with
      routerRequests := c.routerRequests.delete id
      routerHeap := c.routerHeap.modify id fun r =>
        { r with rtpCapabilities := some caps }
      spaces := c.spaces.modify w.uuid fun s =>
        { s with primaryRouter := some id }
      tasks := c.tasks ++ [.allocated w (.ok id)]
      out := c.out ++ [.routerResolved w.uuid id] } : Coord κ) = c'
  have hreg : ∀ r, c'.registered uuid r ↔ c.registered uuid r := by
    subst hc'
    intro r
    simp only [Coord.registered, Coord.routerView, JsMap.get?_modify]
    split
    · rename_i h
      subst h
      cases c.routerHeap.get? r <;> rfl
    · rfl
  have hreq : ∀ r w', c'.routerRequests.get? r = some w' →
      r ≠ id ∧ c.routerRequests.get? r = some w' := by
    subst hc'
    intro r w' h
    have h : (c.routerRequests.delete id).get? r = some w' := h
    rw [JsMap.get?_delete] at h
    split at h
    · cases h
    · rename_i hne
      exact ⟨hne, h⟩
  have hother : w.uuid ≠ uuid → c'.primaryOf uuid = c.primaryOf uuid := by
    intro hne
    subst hc'
    rw [Coord.primaryOf, JsMap.get?_modify_of_ne _ _ (Ne.symm hne)]
    rfl
  have hown : w.uuid = uuid → c.registered uuid id ∧
      c.primaryOf uuid = none ∧ c'.primaryOf uuid = some id := by
    rintro rfl
    obtain ⟨hr, hp⟩ := hI.requested id w hw rfl
    refine ⟨hr, hp, ?_⟩
    obtain ⟨st, hst⟩ :=
      Option.ne_none_iff_exists'.mp (hwf.requestedKnown id w hw)
    obtain ⟨space, hs, -⟩ := Option.map_eq_some_iff.mp hst
    subst hc'
    rw [Coord.primaryOf, JsMap.get?_modify_self, hs]
    rfl
  have hout : c'.out = c.out ++ [.routerResolved w.uuid id] := by
    subst hc'
    rfl
  constructor
  case unique =>
    intro r r'
    rw [hreg, hreg]
    exact hI.unique r r'
  case requested =>
    intro r w' h hu
    obtain ⟨hne, h⟩ := hreq r w' h
    obtain ⟨hr, hp⟩ := hI.requested r w' h hu
    refine ⟨(hreg r).mpr hr, ?_⟩
    -- another request under way would be for the same router
    rw [hother fun heq => hne (hI.unique r id hr (hown heq).1)]
    exact hp
  case stored =>
    rw [hout, Epochs.ofTrace_snoc]
    refine hI.stored.step primaryOf_unique (fun _ r h => ?_) ?_
    · by_cases heq : w.uuid = uuid
      · rw [(hown heq).2.1] at h
        cases h
      · rw [hother heq]
        exact h
    · rintro r ⟨⟩
      exact (hown rfl).2.2
  case held =>
    rw [hout, Epochs.ofTrace_snoc]
    refine hI.held.step hI.unique (fun _ r h => (hreg r).mpr h) ?_
    rintro r ⟨⟩
    exact (hreg _).mpr (hown rfl).1

/-- `RouterAllocator.remove` of the primary router of a space. -/
theorem PrimaryInv.remove (hI : PrimaryInv uuid tr c) (hwf : RouterWF c)
    {uuid' : Uuid} {r : RouterId} (hp : c.primaryOf uuid' = some r) :
    PrimaryInv uuid tr (RouterAllocator.remove c r) := by
  obtain ⟨caps, hv⟩ := hwf.primary uuid' r hp
  obtain ⟨router, hr, hown⟩ := Option.map_eq_some_iff.mp hv
  have hown : router.owningSpace = uuid' := (Prod.mk.inj hown).1
  unfold RouterAllocator.remove
  rw [hr]
  dsimp only
  split
  · rw [hown]
    generalize hc' : ({ c with
        transports := router.transports.keys.foldl JsMap.delete c.transports
        routers := c.routers.delete r
        out := c.out ++ [.routerRemoved uuid' r] } : Coord κ) = c'
    have hreg : ∀ r', c'.registered uuid r' ↔
        r' ≠ r ∧ c.registered uuid r' := by
      subst hc'
      intro r'
      simp only [Coord.registered, Coord.routerView, JsMap.mem_keys_delete,
        and_assoc]
    have hne : uuid' ≠ uuid → ∀ r', c.registered uuid r' → r' ≠ r := by
      rintro hne r' ⟨-, hr'⟩ rfl
      rw [hv] at hr'
      exact hne (Option.some.inj hr')
    have hout : c'.out = c.out ++ [.routerRemoved uuid' r] := by
      subst hc'
      rfl
    have hpr : c'.primaryOf uuid = c.primaryOf uuid := by
      subst hc'
      rfl
    constructor
    case unique =>
      intro r₁ r₂ h₁ h₂
      exact hI.unique r₁ r₂ ((hreg r₁).mp h₁).2 ((hreg r₂).mp h₂).2
    case requested =>
      intro r' w h hu
      have h : c.routerRequests.get? r' = some w := by
        subst hc'
        exact h
      obtain ⟨hr', hp'⟩ := hI.requested r' w h hu
      refine ⟨(hreg r').mpr ⟨hne ?_ r' hr', hr'⟩, hpr ▸ hp'⟩
      -- no request is under way for the space whose router goes
      rintro rfl
      rw [hp] at hp'
      cases hp'
    case stored =>
      rw [hout, Epochs.ofTrace_snoc, hpr]
      exact hI.stored.step primaryOf_unique (fun _ _ h => h)
        fun _ h => by cases h
    case held =>
      rw [hout, Epochs.ofTrace_snoc]
      refine hI.held.step hI.unique (fun hrem r' h => ?_)
        fun _ h => by cases h
      exact (hreg r').mpr ⟨hne (of_decide_eq_false hrem) r' h, h⟩
  · exact hI

theorem PrimaryInv.without (hI : PrimaryInv uuid tr c) (i : Nat) :
    PrimaryInv uuid tr (c.without i) :=
  { hI with }

/-- `space.primaryRouter = null`, `policy.onEnded(..)`. -/
theorem PrimaryInv.afterEnd (hI : PrimaryInv uuid tr c) (uuid' : Uuid) :
    PrimaryInv uuid tr (c.afterEnd uuid') := by
  have hother : uuid' ≠ uuid →
      (c.afterEnd uuid').primaryOf uuid = c.primaryOf uuid := fun hne => by
    rw [Coord.primaryOf, spaces_afterEnd_of_ne (Ne.symm hne)]
    rfl
  have hself : uuid' = uuid → (c.afterEnd uuid').primaryOf uuid = none := by
    rintro rfl
    refine (primaryRouter_modify _ _ (fun _ => by rfl) uuid').trans ?_
    rw [JsMap.get?_modify_self]
    cases c.spaces.get? uuid' <;> rfl
  constructor
  case unique => exact hI.unique
  case requested =>
    intro r w h hu
    obtain ⟨hr, hp⟩ := hI.requested r w h hu
    refine ⟨hr, ?_⟩
    by_cases heq : uuid' = uuid
    · exact hself heq
    · rw [hother heq]
      exact hp
  case stored =>
    show (Epochs.ofTrace _ uuid (tr ++ (c.out ++ [_] ++ [_]))).Held _
    rw [Epochs.ofTrace_snoc, Epochs.ofTrace_snoc]
    refine Epochs.Held.step (P := ((c.afterEnd uuid').primaryOf uuid
      = some ·)) ?_ primaryOf_unique (fun _ _ h => h) fun _ h => by cases h
    refine hI.stored.step primaryOf_unique (fun hrem r h => ?_)
      fun _ h => by cases h
    rw [hother (of_decide_eq_false hrem)]
    exact h
  case held =>
    show (Epochs.ofTrace _ uuid (tr ++ (c.out ++ [_] ++ [_]))).Held _
    rw [Epochs.ofTrace_snoc, Epochs.ofTrace_snoc]
    refine Epochs.Held.step (P := c.registered uuid) ?_ hI.unique
      (fun _ _ h => h) fun _ h => by cases h
    exact hI.held.step hI.unique (fun _ _ h => h) fun _ h => by cases h

end Effects

/-! ## §4. Every run. -/

section Runs

variable [Callback κ] {uuid : Uuid} {tr : List (Out κ)}

/-- An effect of a guarded stretch keeps the invariant. -/
theorem primary_effect {base c c' : Coord κ} {a : Action κ}
    (hg : allocatesInTurn uuid tr base a) (he : Effect base a c c')
    (hwf : RouterWF c) (hI : PrimaryInv uuid tr c) :
    PrimaryInv uuid tr c' := by
  -- most effects register no router and end none
  cases he with
  | media h => exact (h.frame.primary uuid).inv hI
  | createSpace _ uuid' data policy hn =>
      refine PrimaryFrame.inv ?_ hI
      refine .of_eq (fun _ => rfl) rfl ?_ (fun _ _ h _ => h)
        ⟨[], by simp, by simp⟩
      simp only [Coord.primaryOf, JsMap.get?_set]
      split
      · rename_i h
        rw [h, hn]
        rfl
      · rfl
  | subscribe | unsubscribe | workers =>
      refine PrimaryFrame.inv ?_ hI
      exact .of_eq (fun _ => rfl) rfl rfl (fun _ _ h _ => h)
        ⟨[], (List.append_nil _).symm, by simp⟩
  -- the guard names the router that a waiting request is given
  | @resolve space r w ha hs hr =>
      refine hI.resolve fun heq => ?_
      have hp : base.primaryOf w.uuid = some r := by
        rw [Coord.primaryOf, hs]
        exact hr
      obtain ⟨caps, hv⟩ := hwf.primary w.uuid r hp
      rw [heq] at ha hp hv
      exact ⟨hp, (hg ha).1 r hp, by rw [hv]; rfl⟩
  -- the guard excludes a second router for the space
  | @request space w workerId strategy ha hs hr hn =>
      have hp : base.primaryOf w.uuid = none := by
        rw [Coord.primaryOf, hs]
        exact hr
      refine hI.request hwf workerId strategy hp fun heq r hreg => ?_
      exact (hg (heq ▸ ha)).2 (heq ▸ hp) hn r hreg.1 hreg
  | routerAck ha hw => exact hI.routerAck hwf _ hw
  | routerNack ha hw =>
      refine PrimaryFrame.inv ?_ hI
      exact .of_eq (fun _ => rfl) rfl rfl
        (fun _ _ h _ => JsMap.get?_of_get?_delete h)
        ⟨[], (List.append_nil _).symm, by simp⟩
  | take =>
      refine PrimaryFrame.inv ?_ hI
      exact .of_eq (fun _ => rfl) rfl rfl (fun _ _ h _ => h)
        ⟨[], (List.append_nil _).symm, by simp⟩
  | run =>
      refine PrimaryFrame.inv ?_ hI
      exact .of_eq (fun _ => rfl) rfl
        (primaryRouter_modify _ _ (fun _ => by rfl) uuid)
        (fun _ _ h _ => h) ⟨[], (List.append_nil _).symm, by simp⟩
  | @finish i => exact (hI.without i).afterEnd _
  | finishNow =>
      refine PrimaryFrame.inv ?_ hI
      exact .of_eq (fun _ => rfl) rfl
        (primaryRouter_modify _ _ (fun _ => by rfl) uuid)
        (fun _ _ h _ => h) ⟨_, rfl, by simp [Out.aboutRouter]⟩
  -- the router that is removed is the primary one
  | @beginEnd _ uuid' space r k hs _ hr =>
      have hp : c.primaryOf uuid' = some r := by
        rw [Coord.primaryOf, hs]
        exact hr
      refine PrimaryFrame.inv ?_ (hI.remove hwf hp)
      exact .of_eq (fun _ => rfl) rfl rfl (fun _ _ h _ => h)
        ⟨[], (List.append_nil _).symm, by simp⟩
  | join =>
      refine PrimaryFrame.inv
        ((TransportAllocator.request_frame _ _ _ _).primary uuid) ?_
      refine PrimaryFrame.inv ?_ hI
      exact .of_eq (fun _ => rfl) rfl
        (primaryRouter_modify _ _ (fun _ => by rfl) uuid)
        (fun _ _ h _ => h) ⟨_, rfl, by simp [Out.aboutRouter]⟩
  | removeMember =>
      refine PrimaryFrame.inv ?_ hI
      exact .of_eq (fun _ => rfl) rfl
        (primaryRouter_modify _ _ (fun _ => by rfl) uuid)
        (fun _ _ h _ => h) ⟨[], (List.append_nil _).symm, by simp⟩

omit [Callback κ] in
/-- There is no router yet. -/
theorem primaryInv_initial :
    PrimaryInv uuid [] (Coord.initial : Coord κ) where
  unique r r' h := by cases h.1
  requested r w h := by cases h
  stored := ⟨fun _ h => (by cases h), fun _ h => (by cases h)⟩
  held := ⟨fun _ h => (by cases h), fun _ h => (by cases h)⟩

omit [Callback κ] in
/-- The outbox becomes part of the observations. -/
theorem PrimaryInv.flush {c : Coord κ} (hI : PrimaryInv uuid tr c) :
    PrimaryInv uuid (tr ++ c.out) { c with out := [] } where
  unique := hI.unique
  requested := hI.requested
  stored := by
    rw [List.append_nil]
    exact hI.stored
  held := by
    rw [List.append_nil]
    exact hI.held

/-- **The allocation contract holds in every run whose callers of
`allocate` come in turn.** -/
theorem oneRouter_of_allocatesInTurn (uuid : Uuid)
    {past : List (Coord κ)} {c : Coord κ} {tr : List (Out κ)}
    (h : (machine κ).Run (allocatesInTurn uuid) past c tr) :
    OneRouter uuid c tr := by
  refine PrimaryInv.oneRouter (run_invariant (fun _ _ _ _ h => h)
    (fun tr c => RouterWF c ∧ PrimaryInv uuid tr c)
    ⟨routerWF_initial, primaryInv_initial⟩
    (fun tr c hI => ⟨{ hI.1 with }, hI.2.flush⟩)
    (fun tr c a d d' _ hg _ he hI => ?_) h).2
  exact ⟨routerWF_effect he hI.1, primary_effect hg he hI.1 hI.2⟩

end Runs

/-! ## §5. Two requests in flight. -/

/-- Two servers subscribe before the worker answers. -/
def twoRequests : List (Action Unit) :=
  [.mediaWorkerConnected 1,
   .createSpaceRequest "room" ⟨"Room", ""⟩ "subscription-driven" (),
   .subscribeToSpaceRequest 1 "room" (), .subscribeToSpaceRequest 2 "room" (),
   .routerAck 0 "caps", .routerAck 1 "caps"]

/-- Each caller resolves to a router of its own, and both are registered. -/
theorem two_routers : ∃ past c tr,
    (machine Unit).Run anyStep past c tr ∧
      .routerResolved "room" 0 ∈ tr ∧ .routerResolved "room" 1 ∈ tr ∧
      ¬ (Epochs.ofTrace (Out.isRemoved "room") "room" tr).Agree ∧
      c.registered "room" 0 ∧ c.registered "room" 1 ∧
      ¬ OneRouter "room" c tr := by
  obtain ⟨past, c, tr, hr, hp⟩ := Machine.Run.exists_of_exec
    (M := machine Unit) (G := anyStep) (l := twoRequests)
    (p := fun r => decide (.routerResolved "room" 0 ∈ r.2.2 ∧
      .routerResolved "room" 1 ∈ r.2.2 ∧
      ¬ (Epochs.ofTrace (Out.isRemoved "room") "room" r.2.2).Agree ∧
      r.2.1.registered "room" 0 ∧ r.2.1.registered "room" 1)) rfl
    (by decide)
  obtain ⟨h₀, h₁, hno, hr₀, hr₁⟩ := of_decide_eq_true hp
  exact ⟨past, c, tr, hr, h₀, h₁, hno, hr₀, hr₁,
    fun h => absurd (h.table 0 hr₀.1 1 hr₁.1 hr₀ hr₁) (by decide)⟩

/-- A second subscribe that comes after the router is stored is handed
it. -/
theorem oneRouter_of_allocatesInTurn_once : ∃ past c tr,
    (machine Unit).Run (allocatesInTurn "room") past c tr ∧
      c.routers.keys = [0] ∧ OneRouter "room" c tr := by
  obtain ⟨past, c, tr, hr, hp⟩ := Machine.Run.exists_of_exec
    (M := machine Unit) (G := allocatesInTurn "room")
    (l := [.mediaWorkerConnected 1,
      .createSpaceRequest "room" ⟨"Room", ""⟩ "subscription-driven" (),
      .subscribeToSpaceRequest 1 "room" (), .routerAck 0 "caps",
      .subscribeToSpaceRequest 2 "room" ()])
    (p := fun r => decide (r.2.1.routers.keys = [0])) rfl (by decide)
  exact ⟨past, c, tr, hr, of_decide_eq_true hp,
    oneRouter_of_allocatesInTurn "room" hr⟩

end Twolk.Coordinator

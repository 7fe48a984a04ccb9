/-
  Twolk.Coordinator.Routers
  ─────────────────────────
  **ROUTER RECORDS ARE WELL FORMED.**

  Router ids are issued once, so what a waiter, a space or the table knows
  by id has a record, and the record is owned by the space it was requested
  for.  A router becomes `ready` when its worker answers; only ready routers
  are handed to a caller or stored as a primary router.
-/
import Twolk.Coordinator.Effects

namespace Twolk.Coordinator

open Twolk.Lib

variable {κ : Type}

/-! ## §1. Reading routers. -/

/-- Owner and capabilities of a router, whatever its transports. -/
def Coord.routerView (c : Coord κ) (r : RouterId) :
    Option (Uuid × Option Json) :=
  (c.routerHeap.get? r).map fun router =>
    (router.owningSpace, router.rtpCapabilities)

/-- The router `space.primaryRouter` refers to. -/
def Coord.primaryOf (c : Coord κ) (uuid : Uuid) : Option RouterId :=
  (c.spaces.get? uuid).bind Space.primaryRouter

/-- Router `r` was requested for `uuid` and its worker has answered. -/
def Coord.ready (c : Coord κ) (uuid : Uuid) (r : RouterId) : Prop :=
  ∃ caps, c.routerView r = some (uuid, some caps)

/-- What the code relies on when it follows a router id. -/
structure RouterWF (c : Coord κ) : Prop where
  fresh : ∀ r, c.routerView r ≠ none → r < c.routerIdGen
  stored : ∀ r ∈ c.routers.keys, c.routerView r ≠ none
  requested : ∀ r w, c.routerRequests.get? r = some w →
    c.routerView r = some (w.uuid, none)
  primary : ∀ uuid r, c.primaryOf uuid = some r → c.ready uuid r
  allocated : ∀ w r, .allocated w (.ok r) ∈ c.tasks → c.ready w.uuid r
  /-- Callers asked for the router of a space in the store. -/
  requestedKnown : ∀ r w, c.routerRequests.get? r = some w →
    c.statusOf w.uuid ≠ none
  allocatedKnown : ∀ w r, .allocated w (.ok r) ∈ c.tasks →
    c.statusOf w.uuid ≠ none

/-! ## §2. Stretches that make no router. -/

/-- `c'` has the router records of `c` and refers to no more of them. -/
structure RouterFrame (c c' : Coord κ) : Prop where
  view : ∀ r, c'.routerView r = c.routerView r
  routerIdGen : c'.routerIdGen = c.routerIdGen
  routers : ∀ r ∈ c'.routers.keys, r ∈ c.routers.keys
  requests : ∀ r w, c'.routerRequests.get? r = some w →
    c.routerRequests.get? r = some w
  primary : ∀ uuid r, c'.primaryOf uuid = some r → c.primaryOf uuid = some r
  tasks : ∀ w r, .allocated w (.ok r) ∈ c'.tasks →
    .allocated w (.ok r) ∈ c.tasks
  known : ∀ uuid, c.statusOf uuid ≠ none → c'.statusOf uuid ≠ none

namespace RouterFrame

variable {c c' c'' : Coord κ}

theorem refl (c : Coord κ) : RouterFrame c c where
  view _ := rfl
  routerIdGen := rfl
  routers _ h := h
  requests _ _ h := h
  primary _ _ h := h
  tasks _ _ h := h
  known _ h := h

/-- A stretch that touches router state only through the space records. -/
theorem of_spaces (heap : c'.routerHeap = c.routerHeap)
    (gen : c'.routerIdGen = c.routerIdGen) (routers : c'.routers = c.routers)
    (requests : c'.routerRequests = c.routerRequests)
    (tasks : c'.tasks = c.tasks)
    (primary : ∀ uuid r, c'.primaryOf uuid = some r →
      c.primaryOf uuid = some r)
    (known : ∀ uuid, c.statusOf uuid ≠ none → c'.statusOf uuid ≠ none) :
    RouterFrame c c' where
  view r := by rw [Coord.routerView, Coord.routerView, heap]
  routerIdGen := gen
  routers r h := routers ▸ h
  requests r w h := requests ▸ h
  primary := primary
  tasks w r h := tasks ▸ h
  known := known

/-- A router that is ready for a space stays so. -/
theorem ready (h : RouterFrame c c') {uuid : Uuid} {r : RouterId}
    (hr : c.ready uuid r) : c'.ready uuid r := by
  obtain ⟨caps, hr⟩ := hr
  exact ⟨caps, by rw [h.view, hr]⟩

/-- A step that leaves the routers alone keeps them in order. -/
theorem wf (h : RouterFrame c c') (hI : RouterWF c) : RouterWF c' where
  fresh r hr := by
    rw [h.view] at hr
    rw [h.routerIdGen]
    exact hI.fresh r hr
  stored r hr := by
    rw [h.view]
    exact hI.stored r (h.routers r hr)
  requested r w hw := by
    rw [h.view]
    exact hI.requested r w (h.requests r w hw)
  primary uuid r hr := h.ready (hI.primary uuid r (h.primary uuid r hr))
  allocated w r hr := h.ready (hI.allocated w r (h.tasks w r hr))
  requestedKnown r w hw :=
    h.known _ (hI.requestedKnown r w (h.requests r w hw))
  allocatedKnown w r hr :=
    h.known _ (hI.allocatedKnown w r (h.tasks w r hr))

end RouterFrame

theorem MediaFrame.routerFrame {c c' : Coord κ} (h : MediaFrame c c') :
    RouterFrame c c' where
  view := h.routerHeap
  routerIdGen := h.routerIdGen
  routers r hr := h.routers ▸ hr
  requests r w hw := h.routerRequests ▸ hw
  primary uuid r hr := by
    rw [Coord.primaryOf, h.spaces] at hr
    exact hr
  tasks w r hr := (h.tasks _ hr).resolve_right (by simp [Task.quiet])
  known uuid hs := by
    rw [Coord.statusOf, h.spaces]
    exact hs

theorem without_routerFrame (c : Coord κ) (i : Nat) :
    RouterFrame c (c.without i) :=
  { RouterFrame.refl c with
    tasks := fun _ _ h => List.mem_of_mem_eraseIdx h }

/-- Updating a record neither adds nor removes a space. -/
theorem known_modify (spaces : JsMap Uuid Space) (uuid : Uuid)
    (f : Space → Space) (uuid' : Uuid) :
    ((spaces.modify uuid f).get? uuid').map Space.status ≠ none ↔
      (spaces.get? uuid').map Space.status ≠ none := by
  rw [JsMap.get?_modify]
  split
  · rename_i h
    subst h
    simp
  · rfl

/-- A change of space records that keeps their primary routers. -/
theorem primaryRouter_modify (spaces : JsMap Uuid Space) (uuid : Uuid)
    {f : Space → Space}
    (hf : ∀ s, (f s).primaryRouter = s.primaryRouter) (uuid' : Uuid) :
    ((spaces.modify uuid f).get? uuid').bind Space.primaryRouter
      = (spaces.get? uuid').bind Space.primaryRouter := by
  rw [JsMap.get?_modify]
  split
  · rename_i h
    subst h
    cases spaces.get? uuid' with
    | none => rfl
    | some s => exact hf s
  · rfl

/-- The end of a space concerns no other one. -/
theorem spaces_afterEnd_of_ne {c : Coord κ} {uuid uuid' : Uuid}
    (h : uuid ≠ uuid') :
    (c.afterEnd uuid').spaces.get? uuid = c.spaces.get? uuid := by
  show ((c.spaces.modify _ _).modify _ _).get? uuid = _
  rw [JsMap.get?_modify_of_ne _ _ h, JsMap.get?_modify_of_ne _ _ h]

/-- `RouterAllocator.remove` touches its own and the transport table. -/
theorem remove_eq (c : Coord κ) (r : RouterId) :
    ∃ transports routers l, RouterAllocator.remove c r
        = { c with transports, routers, out := c.out ++ l } ∧
      ∀ o ∈ l, ∃ uuid, o = .routerRemoved uuid r := by
  have same : ∃ transports routers l, c
        = { c with transports, routers, out := c.out ++ l } ∧
      ∀ o ∈ l, ∃ uuid, o = .routerRemoved uuid r :=
    ⟨_, _, [], by rw [List.append_nil], by simp⟩
  unfold RouterAllocator.remove
  split
  · split
    · exact same
    · exact ⟨_, _, [_], rfl, by simp⟩
  · exact same

theorem remove_routerFrame (c : Coord κ) (r : RouterId) :
    RouterFrame c (RouterAllocator.remove c r) := by
  unfold RouterAllocator.remove
  split
  · split
    · exact .refl c
    · exact { RouterFrame.refl c with
        routers := fun r' h => (JsMap.mem_keys_delete.mp h).2 }
  · exact .refl c

/-! ## §3. Every reachable state. -/

/-- A router that comes now is the new continuation, or came before. -/
theorem allocated_mem_defer {c : Coord κ} {t : Task κ} {w : RouterWaiter κ}
    {r : RouterId} (h : Task.allocated w (.ok r) ∈ (c.defer t).tasks) :
    Task.allocated w (.ok r) ∈ c.tasks ∨ t = .allocated w (.ok r) := by
  rcases List.mem_append.mp h with h | h
  · exact .inl h
  · exact .inr (List.mem_singleton.mp h).symm

/-- A router is asked for under a fresh id. -/
theorem request_wf {c : Coord κ} (hI : RouterWF c) {w : RouterWaiter κ}
    (hk : c.statusOf w.uuid ≠ none) (workerId : WorkerId)
    (strategy : RoundRobinStrategy) :
    RouterWF (RouterAllocator.request c w.uuid workerId strategy w) := by
  have hnew : c.routerView c.routerIdGen = none := by
    by_contra h
    exact absurd (hI.fresh _ h) (Nat.lt_irrefl _)
  have hview : ∀ r, Coord.routerView
      (RouterAllocator.request c w.uuid workerId strategy w) r
        = if r = c.routerIdGen then some (w.uuid, none)
          else c.routerView r := by
    intro r
    simp only [Coord.routerView, RouterAllocator.request, JsMap.get?_set]
    split <;> rfl
  -- every id known before is older than the new one
  have hold : ∀ r v, c.routerView r = some v → r ≠ c.routerIdGen := by
    rintro r v hv rfl
    rw [hnew] at hv
    cases hv
  have hready : ∀ u r, c.ready u r → Coord.ready
      (RouterAllocator.request c w.uuid workerId strategy w) u r := by
    rintro u r ⟨caps, h⟩
    exact ⟨caps, by rw [hview, if_neg (hold r _ h), h]⟩
  constructor
  case fresh =>
    intro r hr
    show r < c.routerIdGen + 1
    rw [hview] at hr
    split at hr
    · rename_i h
      exact h ▸ Nat.lt_succ_self _
    · exact Nat.lt_succ_of_lt (hI.fresh r hr)
  case stored =>
    intro r hr
    rw [hview]
    split
    · simp
    · rename_i hne
      rcases JsSet.mem_keys_add.mp hr with h | h
      · exact absurd h hne
      · exact hI.stored r h
  case requested =>
    intro r w' hw'
    have hw' : (c.routerRequests.set c.routerIdGen w).get? r
      = some w' := hw'
    rw [JsMap.get?_set] at hw'
    rw [hview]
    split at hw'
    · rename_i heq
      cases hw'
      rw [if_pos heq]
    · rename_i hne
      rw [if_neg hne]
      exact hI.requested r w' hw'
  case primary => exact fun u r hr => hready u r (hI.primary u r hr)
  case allocated =>
    exact fun w' r hr => hready w'.uuid r (hI.allocated w' r hr)
  case requestedKnown =>
    intro r w' hw'
    have hw' : (c.routerRequests.set c.routerIdGen w).get? r
      = some w' := hw'
    rw [JsMap.get?_set] at hw'
    split at hw'
    · cases hw'
      exact hk
    · exact hI.requestedKnown r w' hw'
  case allocatedKnown => exact fun w' r hr => hI.allocatedKnown w' r hr

/-- A worker's answer, with the owner of the router resolved: it is the
space the caller asked for. -/
theorem onRouterAck_eq {c : Coord κ} (hI : RouterWF c) {id : RouterId}
    {w : RouterWaiter κ} (caps : Json)
    (hw : c.routerRequests.get? id = some w) :
    RouterAllocator.onRouterAck c id w caps = { c with
      routerRequests := c.routerRequests.delete id
      routerHeap := c.routerHeap.modify id fun r =>
        { r with rtpCapabilities := some caps }
      spaces := c.spaces.modify w.uuid fun s =>
        { s with primaryRouter := some id }
      tasks := c.tasks ++ [.allocated w (.ok id)]
      out := c.out ++ [.routerResolved w.uuid id] } := by
  obtain ⟨router, hr, hown⟩ :=
    Option.map_eq_some_iff.mp (hI.requested id w hw)
  have hown : router.owningSpace = w.uuid := (Prod.mk.inj hown).1
  unfold RouterAllocator.onRouterAck
  rw [hr]
  dsimp only
  rw [hown]

/-- A router has come: it is the one that was asked for. -/
theorem onRouterAck_wf {c : Coord κ} (hI : RouterWF c) {id : RouterId}
    {w : RouterWaiter κ} (caps : Json)
    (hw : c.routerRequests.get? id = some w) :
    RouterWF (RouterAllocator.onRouterAck c id w caps) := by
  have hv := hI.requested id w hw
  rw [onRouterAck_eq hI caps hw]
  -- the step is named, so that each clause rewrites what it needs
  generalize hc' : ({ c with
      routerRequests := c.routerRequests.delete id
      routerHeap := c.routerHeap.modify id fun r =>
        { r with rtpCapabilities := some caps }
      spaces := c.spaces.modify w.uuid fun s =>
        { s with primaryRouter := some id }
      tasks := c.tasks ++ [.allocated w (.ok id)]
      out := c.out ++ [.routerResolved w.uuid id] } : Coord κ) = c'
  -- the router that is acked gets its capabilities, and no other changes
  have hview : ∀ r, c'.routerView r
      = if r = id then some (w.uuid, some caps) else c.routerView r := by
    intro r
    subst hc'
    simp only [Coord.routerView, JsMap.get?_modify]
    split
    · rename_i h
      subst h
      obtain ⟨router, hr, hown⟩ := Option.map_eq_some_iff.mp hv
      rw [hr, Option.map_some, Option.map_some, (Prod.mk.inj hown).1]
    · rfl
  have hknown : ∀ u, c'.statusOf u ≠ none ↔ c.statusOf u ≠ none := by
    subst hc'
    exact known_modify c.spaces w.uuid _
  have hnew : c'.ready w.uuid id := ⟨caps, by rw [hview, if_pos rfl]⟩
  -- a router that was ready has capabilities already, and is another one
  have hready : ∀ u r, c.ready u r → c'.ready u r := by
    rintro u r ⟨caps', h⟩
    refine ⟨caps', ?_⟩
    rw [hview, if_neg, h]
    rintro rfl
    rw [hv] at h
    cases h
  have hold : ∀ r, c'.routerView r ≠ none → c.routerView r ≠ none := by
    intro r h
    rw [hview] at h
    split at h
    · rename_i heq
      rw [heq, hv]
      simp
    · exact h
  constructor
  case fresh =>
    intro r h
    subst hc'
    exact hI.fresh r (hold r h)
  case stored =>
    intro r h
    have hs : c.routerView r ≠ none := by
      subst hc'
      exact hI.stored r h
    rw [hview]
    split
    · simp
    · exact hs
  case requested =>
    intro r w' h
    have h : (c.routerRequests.delete id).get? r = some w' := by
      subst hc'
      exact h
    -- the request that was acked is gone, the others stay
    rw [JsMap.get?_delete] at h
    split at h
    · cases h
    · rename_i hne
      rw [hview, if_neg hne]
      exact hI.requested r w' h
  case primary =>
    intro u r hp
    have h : ((c.spaces.modify w.uuid fun s =>
        { s with primaryRouter := some id }).get? u).bind
          Space.primaryRouter = some r := by
      subst hc'
      exact hp
    rw [JsMap.get?_modify] at h
    split at h
    -- the space that waited for it points to it, and it is ready
    · rename_i heq
      subst heq
      cases hs : c.spaces.get? w.uuid with
      | none => rw [hs] at h; cases h
      | some s =>
        rw [hs] at h
        cases h
        exact hnew
    · exact hready u r (hI.primary u r h)
  case allocated =>
    intro w' r h
    have h : Task.allocated w' (.ok r)
        ∈ c.tasks ++ [.allocated w (.ok id)] := by
      subst hc'
      exact h
    rcases List.mem_append.mp h with h | h
    · exact hready w'.uuid r (hI.allocated w' r h)
    -- so is the one that the continuation carries
    · cases List.mem_singleton.mp h
      exact hnew
  case requestedKnown =>
    intro r w' h
    have h : (c.routerRequests.delete id).get? r = some w' := by
      subst hc'
      exact h
    exact (hknown _).mpr
      (hI.requestedKnown r w' (JsMap.get?_of_get?_delete h))
  case allocatedKnown =>
    intro w' r h
    have h : Task.allocated w' (.ok r)
        ∈ c.tasks ++ [.allocated w (.ok id)] := by
      subst hc'
      exact h
    rcases List.mem_append.mp h with h | h
    · exact (hknown _).mpr (hI.allocatedKnown w' r h)
    · cases List.mem_singleton.mp h
      exact (hknown _).mpr (hI.requestedKnown id w hw)

section Reachable

variable [Callback κ]

/-- Router records stay well formed, effect by effect. -/
theorem routerWF_effect {base c c' : Coord κ} {a : Action κ}
    (h : Effect base a c c') (hI : RouterWF c) : RouterWF c' := by
  cases h with
  | media h => exact h.frame.routerFrame.wf hI
  | createSpace uuid data policy hn =>
      refine RouterFrame.wf ?_ hI
      refine .of_spaces rfl rfl rfl rfl rfl (fun uuid' r hr => ?_)
        fun uuid' hs => ?_
      · simp only [Coord.primaryOf, JsMap.get?_set] at hr
        split at hr
        · cases hr
        · exact hr
      · simp only [Coord.statusOf, JsMap.get?_set]
        split
        · simp
        · exact hs
  | @subscribe i =>
      refine RouterFrame.wf ?_ ((without_routerFrame base i).wf hI)
      exact .of_spaces rfl rfl rfl rfl rfl (fun _ _ hr => hr) fun _ hs => hs
  | unsubscribe | workers =>
      refine RouterFrame.wf ?_ hI
      exact .of_spaces rfl rfl rfl rfl rfl (fun _ _ hr => hr) fun _ hs => hs
  -- a primary router is handed on, and it is ready
  | @resolve space r w ha hs hr =>
      refine { hI with
        allocated := fun w' r' hm => ?_
        allocatedKnown := fun w' r' hm => ?_ }
      · rcases allocated_mem_defer hm with hm | hm
        · exact hI.allocated w' r' hm
        · cases hm
          exact hI.primary w.uuid r (by rw [Coord.primaryOf, hs]; exact hr)
      · rcases allocated_mem_defer hm with hm | hm
        · exact hI.allocatedKnown w' r' hm
        · cases hm
          show Option.map Space.status (base.spaces.get? w.uuid) ≠ none
          rw [hs]
          simp
  -- a new router has not been acked, and needs a known space
  | request ha hs =>
      refine request_wf hI ?_ _ _
      rw [Coord.statusOf, hs]
      simp
  | routerAck ha hw => exact onRouterAck_wf hI _ hw
  | routerNack ha hw =>
      refine RouterFrame.wf ?_ hI
      refine { RouterFrame.refl base with
        requests := fun r w' h => ?_
        tasks := fun w' r' hm => ?_ }
      · exact JsMap.get?_of_get?_delete h
      · rcases List.mem_append.mp hm with hm | hm
        · exact hm
        · cases List.mem_singleton.mp hm
  | take => exact (without_routerFrame _ _).wf hI
  | @run i =>
      refine RouterFrame.wf ?_ ((without_routerFrame base i).wf hI)
      exact .of_spaces rfl rfl rfl rfl rfl
        (fun uuid r hr =>
          (primaryRouter_modify _ _ (fun _ => by rfl) uuid).symm.trans hr)
        fun uuid => (known_modify _ _ _ uuid).mpr
  | finishNow | removeMember =>
      refine RouterFrame.wf ?_ hI
      exact .of_spaces rfl rfl rfl rfl rfl
        (fun uuid r hr =>
          (primaryRouter_modify _ _ (fun _ => by rfl) uuid).symm.trans hr)
        fun uuid => (known_modify _ _ _ uuid).mpr
  -- the space loses its primary router, so it owes nothing
  | @finish i uuid =>
      refine RouterFrame.wf ?_ ((without_routerFrame base i).wf hI)
      refine .of_spaces rfl rfl rfl rfl rfl (fun uuid' r hr => ?_)
        fun uuid' hs =>
          (known_modify _ _ _ uuid').mpr ((known_modify _ _ _ uuid').mpr hs)
      have hr := (primaryRouter_modify _ _ (fun _ => by rfl) uuid').symm.trans
        hr
      rw [JsMap.get?_modify] at hr
      split at hr
      · rename_i heq
        subst heq
        cases hs : (base.without i).spaces.get? uuid' with
        | none => rw [hs] at hr; cases hr
        | some s => rw [hs] at hr; cases hr
      · exact hr
  -- the router is removed after the space let go of it
  | @beginEnd _ uuid space r =>
      refine RouterFrame.wf ?_ ((remove_routerFrame c r).wf hI)
      refine { RouterFrame.refl _ with tasks := fun w' r' hm => ?_ }
      rcases allocated_mem_defer hm with hm | hm
      · exact hm
      · cases hm
  | @join i =>
      refine (TransportAllocator.request_frame _ _ _ _).routerFrame.wf ?_
      refine RouterFrame.wf ?_ ((without_routerFrame base i).wf hI)
      exact .of_spaces rfl rfl rfl rfl rfl
        (fun uuid r hr =>
          (primaryRouter_modify _ _ (fun _ => by rfl) uuid).symm.trans hr)
        fun uuid => (known_modify _ _ _ uuid).mpr

omit [Callback κ] in
theorem routerWF_initial : RouterWF (Coord.initial (κ := κ)) where
  fresh r h := absurd rfl h
  stored r h := by cases h
  requested r w h := by cases h
  primary uuid r h := by cases h
  allocated w r h := by cases h
  requestedKnown r w h := by cases h
  allocatedKnown w r h := by cases h

/-- In every reachable state the routers are in order. -/
theorem routerWF_reachable {c : Coord κ} (h : (machine κ).Reachable c) :
    RouterWF c :=
  reachable_invariant RouterWF (fun _ _ hI => { hI with })
    routerWF_initial (fun _ _ _ _ _ he hI => routerWF_effect he hI) h

end Reachable

end Twolk.Coordinator

/-
  Twolk.Coordinator.Lifecycle
  ───────────────────────────
  **A SPACE MOVES THROUGH `initialized → running → ended`.**

  `applyTransition` reads the status before its `await` and writes it
  after, so a transition that was legal when it started may be stale when
  it resumes.  Two subscribes of an `initialized` space both set out for
  `running`; if the first one's server leaves again before the second
  router request is answered, the second continuation takes the space out
  of `ended` (`space_restarts`).

  What holds: as long as no transition of a space overlaps the one that
  ends it (`endsAlone`), the successive values of its status are a prefix
  of the intended sequence and `onEnded` is called at most once.
-/
import Twolk.Coordinator.Routers

namespace Twolk.Coordinator

open Twolk.Lib

variable {κ : Type}

/-! ## §1. The intended lifecycle. -/

/-- One move of the status a reader of the store sees. -/
inductive Advance : Option SpaceStatus → Option SpaceStatus → Prop
  | stay (st : Option SpaceStatus) : Advance st st
  | create : Advance none (some .initialized)
  | run : Advance (some .initialized) (some .running)
  | finish : Advance (some .running) (some .ended)

/-- Append the status unless it is the last one recorded. -/
def recordStatus (history : List SpaceStatus) (st : Option SpaceStatus) :
    List SpaceStatus :=
  match st with
  | none => history
  | some st => if history.getLast? = some st then history
      else history ++ [st]

/-- The successive values of a space's status along some states. -/
def statusHistory (uuid : Uuid) (states : List (Coord κ)) :
    List SpaceStatus :=
  states.foldl (fun history c => recordStatus history (c.statusOf uuid)) []

/-- The intended history of a space that has reached a status. -/
def historyUpTo : Option SpaceStatus → List SpaceStatus
  | none => []
  | some .initialized => [.initialized]
  | some .running => [.initialized, .running]
  | some .ended => [.initialized, .running, .ended]

/-- A status that moves one place is recorded. -/
theorem recordStatus_of_advance {st st' : Option SpaceStatus}
    (h : Advance st st') :
    recordStatus (historyUpTo st) st' = historyUpTo st' := by
  cases h with
  | stay =>
      rcases st with _ | st
      · rfl
      · cases st <;> rfl
  | create => rfl
  | run => rfl
  | finish => rfl

/-- Histories are prefixes of the whole one. -/
theorem historyUpTo_prefix (st : Option SpaceStatus) :
    historyUpTo st <+: [.initialized, .running, .ended] := by
  rcases st with _ | st
  · exact List.nil_prefix
  · cases st
    · exact ⟨[.running, .ended], rfl⟩
    · exact ⟨[.ended], rfl⟩
    · exact List.prefix_rfl

/-- The observation is `policy.onEnded(uuid)`. -/
def Out.isOnEnded (uuid : Uuid) : Out κ → Bool
  | .onEnded uuid' => uuid' = uuid
  | _ => false

/-- **The lifecycle contract** of space `uuid` for a run that went through
`past`, stands in `c` and has observed `tr`. -/
def FollowsLifecycle (uuid : Uuid) (past : List (Coord κ)) (c : Coord κ)
    (tr : List (Out κ)) : Prop :=
  statusHistory uuid (past ++ [c]) <+: [.initialized, .running, .ended] ∧
    tr.countP (Out.isOnEnded uuid) ≤ 1

instance (uuid : Uuid) (past : List (Coord κ)) (c : Coord κ)
    (tr : List (Out κ)) : Decidable (FollowsLifecycle uuid past c tr) :=
  inferInstanceAs (Decidable (_ ∧ _))

/-! ## §2. Transitions under way. -/

/-- The caller of `allocate` is on its way to set `uuid` to `running`. -/
def RouterWaiter.runs (uuid : Uuid) : RouterWaiter κ → Bool
  | .transition uuid' _ => uuid' = uuid
  | .addMember .. => false

/-- The continuation sets `uuid` to `running`. -/
def Task.runs (uuid : Uuid) : Task κ → Bool
  | .allocated waiter (.ok _) => waiter.runs uuid
  | _ => false

/-- The continuation sets `uuid` to `ended`. -/
def Task.ends (uuid : Uuid) : Task κ → Bool
  | .routerRemoved uuid' _ => uuid' = uuid
  | _ => false

theorem RouterWaiter.uuid_of_runs {uuid : Uuid} {w : RouterWaiter κ}
    (h : w.runs uuid = true) : w.uuid = uuid ∧ w.isTransition = true := by
  cases w with
  | transition uuid' k => exact ⟨of_decide_eq_true h, rfl⟩
  | addMember => cases h

/-- The step does not let a transition of `uuid` overlap the end of it:
the continuation that ends the space is the only one about to write its
status, and no router arrives for a transition of an ended space. -/
def endsAlone (uuid : Uuid) : Guard (Coord κ) (Action κ) (Out κ)
  | _, c, .resume i => ∀ t ∈ c.tasks[i]?, t.ends uuid = true →
      ∀ t' ∈ c.tasks.eraseIdx i, ¬ t'.runs uuid ∧ ¬ t'.ends uuid
  | _, c, .routerAck id _ => ∀ w ∈ c.routerRequests.get? id,
      w.runs uuid = true → c.statusOf uuid ≠ some .ended
  | _, _, _ => True

instance (uuid : Uuid) (tr : List (Out κ)) (c : Coord κ) (a : Action κ) :
    Decidable (endsAlone uuid tr c a) := by
  cases a <;> unfold endsAlone <;> infer_instance

/-! ## §3. The invariant. -/

/-- What is under way, and how often `onEnded` was called, at each status. -/
structure LifecycleInv (uuid : Uuid) (tr : List (Out κ)) (c : Coord κ) :
    Prop where
  idle : c.statusOf uuid ≠ some .running → ∀ t ∈ c.tasks, ¬ t.ends uuid
  running : c.statusOf uuid = some .running → c.primaryOf uuid ≠ none
  ended : c.statusOf uuid = some .ended → ∀ t ∈ c.tasks, ¬ t.runs uuid
  /-- A router was stored before the caller of `allocate` resumes. -/
  stored : ∀ t ∈ c.tasks, t.runs uuid = true → c.primaryOf uuid ≠ none
  onEnded : (tr ++ c.out).countP (Out.isOnEnded uuid)
    = if c.statusOf uuid = some .ended then 1 else 0

/-- `c'` is `c` with fewer pending transitions, as far as the invariant
can see. -/
structure LifecycleFrame (uuid : Uuid) (c c' : Coord κ) : Prop where
  status : c'.statusOf uuid = c.statusOf uuid
  primary : c'.primaryOf uuid = c.primaryOf uuid
  tasks : ∀ t ∈ c'.tasks, t.runs uuid = true ∨ t.ends uuid = true →
    t ∈ c.tasks
  out : c'.out.countP (Out.isOnEnded uuid)
    = c.out.countP (Out.isOnEnded uuid)

namespace LifecycleFrame

variable {uuid : Uuid} {c c' : Coord κ}

/-- What keeps out of the space keeps the invariant. -/
theorem inv {tr : List (Out κ)} (h : LifecycleFrame uuid c c')
    (hI : LifecycleInv uuid tr c) : LifecycleInv uuid tr c' where
  idle := by
    rw [h.status]
    exact fun hs t hm hend => hI.idle hs t (h.tasks t hm (.inr hend)) hend
  running := by
    rw [h.status, h.primary]
    exact hI.running
  ended := by
    rw [h.status]
    exact fun hs t hm hrun => hI.ended hs t (h.tasks t hm (.inl hrun)) hrun
  stored := by
    rw [h.primary]
    exact fun t hm hrun => hI.stored t (h.tasks t hm (.inl hrun)) hrun
  onEnded := by
    rw [h.status, List.countP_append, h.out, ← List.countP_append]
    exact hI.onEnded

/-- A stretch that leaves the record of the space alone. -/
theorem of_get (hs : c'.spaces.get? uuid = c.spaces.get? uuid)
    (ht : ∀ t ∈ c'.tasks, t.runs uuid = true ∨ t.ends uuid = true →
      t ∈ c.tasks)
    (ho : c'.out.countP (Out.isOnEnded uuid)
      = c.out.countP (Out.isOnEnded uuid)) : LifecycleFrame uuid c c' where
  status := by rw [Coord.statusOf, Coord.statusOf, hs]
  primary := by rw [Coord.primaryOf, Coord.primaryOf, hs]
  tasks := ht
  out := ho

end LifecycleFrame

/-- The media layer is invisible to the invariant. -/
theorem MediaFrame.lifecycle {c c' : Coord κ} (h : MediaFrame c c')
    (uuid : Uuid) : LifecycleFrame uuid c c' := by
  refine .of_get (by rw [h.spaces]) (fun t hm ht => ?_) ?_
  · refine (h.tasks t hm).resolve_right fun hq => ?_
    cases t with
    | allocated w result =>
        cases result with
        | error e => simp [Task.runs, Task.ends] at ht
        | ok r => cases hq
    | routerRemoved uuid' k => cases hq
    | _ => simp [Task.runs, Task.ends] at ht
  · obtain ⟨l, hl, hm⟩ := h.out
    rw [hl, List.countP_append, Nat.add_eq_left, List.countP_eq_zero]
    intro o ho hend
    have := hm o ho
    cases o <;> simp_all [Out.media, Out.isOnEnded]

/-- Updating a record in a way that keeps its status. -/
theorem statusOf_modify (spaces : JsMap Uuid Space) (uuid : Uuid)
    {f : Space → Space} (hf : ∀ s, (f s).status = s.status) (uuid' : Uuid) :
    ((spaces.modify uuid f).get? uuid').map Space.status
      = (spaces.get? uuid').map Space.status := by
  rw [JsMap.get?_modify]
  split
  · rename_i h
    subst h
    cases spaces.get? uuid' with
    | none => rfl
    | some s => exact congrArg some (hf s)
  · rfl

/-! ## §4. Each effect keeps the invariant. -/

section Effects

variable {uuid : Uuid} {tr : List (Out κ)} {base c : Coord κ}
  {a : Action κ}

/-- `out` grew by observations other than `onEnded(uuid)`. -/
theorem countP_onEnded_append {l : List (Out κ)} {o : Out κ}
    (h : o.isOnEnded uuid = false) :
    (l ++ [o]).countP (Out.isOnEnded uuid)
      = l.countP (Out.isOnEnded uuid) := by
  rw [List.countP_append, List.countP_singleton, h]
  rfl

/-- Only spaces in the store have transitions under way. -/
theorem known_of_runs (hwf : RouterWF c) {t : Task κ} (ht : t ∈ c.tasks)
    (hrun : t.runs uuid = true) : c.statusOf uuid ≠ none := by
  cases t with
  | allocated w result =>
      cases result with
      | error e => cases hrun
      | ok r =>
        rw [← (RouterWaiter.uuid_of_runs hrun).1]
        exact hwf.allocatedKnown w r ht
  | _ => cases hrun

/-- Another space, or this one, initialized. -/
theorem LifecycleInv.createSpace (hI : LifecycleInv uuid tr c)
    (hwf : RouterWF c) {uuid' : Uuid} (hn : c.spaces.get? uuid' = none)
    (space : Space) (hst : space.status = .initialized) :
    LifecycleInv uuid tr { c with spaces := c.spaces.set uuid' space } := by
  by_cases heq : uuid' = uuid
  · subst heq
    have hnone : c.statusOf uuid' = none := by rw [Coord.statusOf, hn]; rfl
    have hnew : Coord.statusOf
        { c with spaces := c.spaces.set uuid' space } uuid'
          = some .initialized := by
      rw [Coord.statusOf, JsMap.get?_set_self, Option.map_some, hst]
    constructor
    case idle => exact fun _ => hI.idle (by rw [hnone]; simp)
    case running =>
      rw [hnew]
      exact fun h => by cases h
    case ended =>
      rw [hnew]
      exact fun h => by cases h
    case stored =>
      exact fun t hm hrun => absurd hnone (known_of_runs hwf hm hrun)
    case onEnded =>
      rw [hnew]
      exact hI.onEnded.trans (by rw [hnone]; rfl)
  · refine LifecycleFrame.inv ?_ hI
    exact .of_get (JsMap.get?_set_of_ne _ _ (Ne.symm heq)) (fun _ h _ => h)
      rfl

/-- The caller of `allocate` found the primary router. -/
theorem LifecycleInv.resolve (hI : LifecycleInv uuid tr c)
    {space : Space} {r : RouterId} {w : RouterWaiter κ}
    (hs : c.spaces.get? w.uuid = some space)
    (hr : space.primaryRouter = some r)
    (hi : w.isTransition = true → space.status = .initialized) :
    LifecycleInv uuid tr
      ((c.emit (.routerResolved w.uuid r)).defer (.allocated w (.ok r))) := by
  by_cases hrun : w.runs uuid = true
  · obtain ⟨rfl, htr⟩ := RouterWaiter.uuid_of_runs hrun
    have hst : c.statusOf w.uuid = some .initialized := by
      rw [Coord.statusOf, hs, Option.map_some, hi htr]
    have hp : c.primaryOf w.uuid ≠ none := by
      rw [Coord.primaryOf, hs, Option.bind_some, hr]
      simp
    refine ⟨fun _ t hm => ?_, fun h => hI.running h, fun h => ?_,
      fun t hm ht => hp, ?_⟩
    · rcases List.mem_append.mp hm with hm | hm
      · exact hI.idle (by rw [hst]; simp) t hm
      · cases List.mem_singleton.mp hm
        exact fun h => by cases h
    · exact absurd (hst.symm.trans h) (by simp)
    · show (tr ++ (c.out ++ [_])).countP _ = _
      rw [← List.append_assoc, countP_onEnded_append rfl]
      exact hI.onEnded
  · refine LifecycleFrame.inv ?_ hI
    refine .of_get rfl (fun t hm ht => ?_)
      (countP_onEnded_append rfl)
    rcases List.mem_append.mp hm with hm | hm
    · exact hm
    · cases List.mem_singleton.mp hm
      simp [Task.runs, Task.ends, hrun] at ht

/-- A router is asked for. -/
theorem LifecycleInv.request (hI : LifecycleInv uuid tr c)
    {w : RouterWaiter κ} (workerId : WorkerId)
    (strategy : RoundRobinStrategy) :
    LifecycleInv uuid tr
      (RouterAllocator.request c w.uuid workerId strategy w) := by
  refine { hI with onEnded := ?_ }
  show (tr ++ (c.out ++ [_])).countP _ = _
  rw [← List.append_assoc, countP_onEnded_append rfl]
  exact hI.onEnded

/-- A worker's answer stores the router and readies its caller. -/
theorem LifecycleInv.routerAck (hI : LifecycleInv uuid tr c)
    (hwf : RouterWF c) {id : RouterId} {w : RouterWaiter κ} (caps : Json)
    (hw : c.routerRequests.get? id = some w)
    (hg : w.runs uuid = true → c.statusOf uuid ≠ some .ended) :
    LifecycleInv uuid tr (RouterAllocator.onRouterAck c id w caps) := by
  rw [onRouterAck_eq hwf caps hw]
  generalize hc' : ({ c with
      routerRequests := c.routerRequests.delete id
      routerHeap := c.routerHeap.modify id fun r =>
        { r with rtpCapabilities := some caps }
      spaces := c.spaces.modify w.uuid fun s =>
        { s with primaryRouter := some id }
      tasks := c.tasks ++ [.allocated w (.ok id)]
      out := c.out ++ [.routerResolved w.uuid id] } : Coord κ) = c'
  have hst : c'.statusOf uuid = c.statusOf uuid := by
    subst hc'
    exact statusOf_modify c.spaces w.uuid (fun _ => by rfl) uuid
  have hp : c.primaryOf uuid ≠ none → c'.primaryOf uuid ≠ none := by
    subst hc'
    intro h
    simp only [Coord.primaryOf, JsMap.get?_modify] at h ⊢
    split
    · rename_i heq
      subst heq
      cases hs : c.spaces.get? w.uuid with
      | none => rw [hs] at h; exact absurd rfl h
      | some s => simp
    · exact h
  -- the new continuation runs `uuid` only when its router was just stored
  have hnew : w.runs uuid = true → c'.primaryOf uuid ≠ none := by
    intro hrun
    obtain ⟨rfl, -⟩ := RouterWaiter.uuid_of_runs hrun
    have hex : c.statusOf w.uuid ≠ none := hwf.requestedKnown id w hw
    subst hc'
    simp only [Coord.primaryOf, JsMap.get?_modify_self]
    cases hs : c.spaces.get? w.uuid with
    | none => exact absurd (by rw [Coord.statusOf, hs]; rfl) hex
    | some s => simp
  have htasks : ∀ t ∈ c'.tasks, t ∈ c.tasks ∨ t = .allocated w (.ok id) := by
    subst hc'
    intro t ht
    rcases List.mem_append.mp ht with ht | ht
    · exact .inl ht
    · exact .inr (List.mem_singleton.mp ht)
  have hout : (tr ++ c'.out).countP (Out.isOnEnded uuid)
      = (tr ++ c.out).countP (Out.isOnEnded uuid) := by
    subst hc'
    rw [← List.append_assoc, countP_onEnded_append rfl]
  constructor
  case idle =>
    rw [hst]
    intro h t ht
    rcases htasks t ht with ht | rfl
    · exact hI.idle h t ht
    · exact fun hend => by cases hend
  case running =>
    rw [hst]
    exact fun h => hp (hI.running h)
  case ended =>
    rw [hst]
    intro h t ht
    rcases htasks t ht with ht | rfl
    · exact hI.ended h t ht
    · exact fun hrun => hg hrun h
  case stored =>
    intro t ht hrun
    rcases htasks t ht with ht | rfl
    · exact hp (hI.stored t ht hrun)
    · exact hnew hrun
  case onEnded =>
    rw [hout, hst]
    exact hI.onEnded

/-- A router ack moves no status. -/
theorem statusOf_onRouterAck (c : Coord κ) (id : RouterId)
    (w : RouterWaiter κ) (caps : Json) :
    (RouterAllocator.onRouterAck c id w caps).statusOf uuid
      = c.statusOf uuid := by
  unfold RouterAllocator.onRouterAck
  split
  · rfl
  · exact statusOf_modify c.spaces _ (fun _ => by rfl) uuid

/-- Removing a router is invisible to the invariant. -/
theorem remove_lifecycleFrame (c : Coord κ) (r : RouterId) :
    LifecycleFrame uuid c (RouterAllocator.remove c r) := by
  unfold RouterAllocator.remove
  split
  · split
    · exact .of_get rfl (fun _ h _ => h) rfl
    · exact .of_get rfl (fun _ h _ => h)
        (countP_onEnded_append rfl)
  · exact .of_get rfl (fun _ h _ => h) rfl

/-- The first half of a transition to `ended`. -/
theorem LifecycleInv.beginEnd (hI : LifecycleInv uuid tr c) {uuid' : Uuid}
    {space : Space} (hs : c.spaces.get? uuid' = some space)
    (hst : space.status = .running) (r : RouterId) (k : AfterTransition κ) :
    LifecycleInv uuid tr
      ((RouterAllocator.remove c r).defer (.routerRemoved uuid' k)) := by
  have hst : (RouterAllocator.remove c r).statusOf uuid' = some .running := by
    rw [(remove_lifecycleFrame c r).status, Coord.statusOf, hs,
      Option.map_some, hst]
  have hI := (remove_lifecycleFrame c r).inv hI
  generalize RouterAllocator.remove c r = d at hI hst ⊢
  have hnew : ∀ t ∈ (d.defer (.routerRemoved uuid' k)).tasks,
      t.runs uuid = true → t ∈ d.tasks := by
    intro t ht hrun
    rcases List.mem_append.mp ht with ht | ht
    · exact ht
    · cases List.mem_singleton.mp ht
      cases hrun
  refine ⟨fun h t ht => ?_, hI.running, fun h t ht hrun => ?_,
    fun t ht hrun => hI.stored t (hnew t ht hrun) hrun, hI.onEnded⟩
  · rcases List.mem_append.mp ht with ht | ht
    · exact hI.idle h t ht
    · cases List.mem_singleton.mp ht
      intro hend
      obtain rfl : uuid' = uuid := of_decide_eq_true hend
      exact h hst
  · exact hI.ended h t (hnew t ht hrun) hrun

/-- `setStatus` writes the status of the space itself. -/
theorem statusOf_setStatus {space : Space} {status : SpaceStatus}
    (hs : c.spaces.get? uuid = some space) :
    (SpaceService.setStatus c uuid status).statusOf uuid = some status := by
  simp [Coord.statusOf, SpaceService.setStatus, hs]

/-- The second half of a transition to `running`. -/
theorem LifecycleInv.run {i : Nat} {k : AfterTransition κ} {r : RouterId}
    (hb : LifecycleInv uuid tr c) (hwf : RouterWF c)
    (ht : c.tasks[i]? = some (.allocated (.transition uuid k) (.ok r))) :
    LifecycleInv uuid tr
        (SpaceService.setStatus (c.without i) uuid .running) ∧
      Advance (c.statusOf uuid)
        ((SpaceService.setStatus (c.without i) uuid .running).statusOf
          uuid) := by
  have hm := List.mem_of_getElem? ht
  have hrun : (Task.allocated (.transition uuid k) (.ok r)).runs uuid = true
    := by simp [Task.runs, RouterWaiter.runs]
  have hne : c.statusOf uuid ≠ none := known_of_runs hwf hm hrun
  have hnend : c.statusOf uuid ≠ some .ended := fun h =>
    hb.ended h _ hm hrun
  obtain ⟨space, hs, -⟩ :=
    Option.map_eq_some_iff.mp (Option.ne_none_iff_exists'.mp hne).choose_spec
  have hnew : (SpaceService.setStatus (c.without i) uuid .running).statusOf
      uuid = some .running := statusOf_setStatus hs
  have hp : (SpaceService.setStatus (c.without i) uuid .running).primaryOf
      uuid = c.primaryOf uuid :=
    primaryRouter_modify c.spaces uuid (fun _ => by rfl) uuid
  have htasks : ∀ t ∈ (c.without i).tasks, t ∈ c.tasks := fun t h =>
    List.mem_of_mem_eraseIdx h
  constructor
  · constructor
    · exact fun h => absurd hnew h
    · rw [hp]
      exact fun _ => hb.stored _ hm hrun
    · rw [hnew]
      exact fun h => by cases h
    · rw [hp]
      exact fun t h => hb.stored t (htasks t h)
    · rw [hnew]
      exact hb.onEnded.trans (if_neg hnend)
  · rw [hnew]
    cases hst : c.statusOf uuid with
    | none => exact absurd hst hne
    | some st =>
      cases st with
      | initialized => exact .run
      | running => exact .stay _
      | ended => exact absurd hst hnend

/-- The second half of a transition to `ended`, with no other transition
about to resume. -/
theorem LifecycleInv.finish {i : Nat} {k : AfterTransition κ}
    (hb : LifecycleInv uuid tr c)
    (ht : c.tasks[i]? = some (.routerRemoved uuid k))
    (hg : ∀ t ∈ c.tasks.eraseIdx i, ¬ t.runs uuid ∧ ¬ t.ends uuid) :
    LifecycleInv uuid tr ((c.without i).afterEnd uuid) ∧
      Advance (c.statusOf uuid)
        (((c.without i).afterEnd uuid).statusOf uuid) := by
  have hm := List.mem_of_getElem? ht
  have hend : (Task.routerRemoved uuid k).ends uuid = true := by
    simp [Task.ends]
  have hst : c.statusOf uuid = some .running := by
    by_contra h
    exact hb.idle h _ hm hend
  obtain ⟨space, hs, -⟩ := Option.map_eq_some_iff.mp hst
  have hs' : (c.without i).spaces.get? uuid = some space := hs
  have hnew : ((c.without i).afterEnd uuid).statusOf uuid = some .ended := by
    simp [Coord.statusOf, Coord.afterEnd, hs']
  constructor
  · constructor
    · exact fun _ t h => (hg t h).2
    · rw [hnew]
      exact fun h => by cases h
    · exact fun _ t h => (hg t h).1
    · exact fun t h hrun => absurd hrun (hg t h).1
    · rw [hnew, if_pos rfl]
      have h0 := hb.onEnded
      rw [hst, if_neg (by simp), List.countP_append] at h0
      simp only [Coord.afterEnd, Coord.without, List.countP_append,
        List.countP_singleton, Out.isOnEnded, decide_true, if_true]
      simp
      omega
  · rw [hnew, hst]
    exact .finish

end Effects

/-! ## §5. Every run. -/

section Runs

variable [Callback κ] {uuid : Uuid} {tr : List (Out κ)}

/-- An effect of a guarded stretch keeps the invariant, and the status has
moved at most one place since the stretch began. -/
theorem lifecycle_effect {base c c' : Coord κ} {a : Action κ}
    (hg : endsAlone uuid tr base a) (hwfb : RouterWF base)
    (hb : LifecycleInv uuid tr base) (he : Effect base a c c')
    (hwf : RouterWF c) (hI : LifecycleInv uuid tr c)
    (hadv : Advance (base.statusOf uuid) (c.statusOf uuid)) :
    LifecycleInv uuid tr c' ∧
      Advance (base.statusOf uuid) (c'.statusOf uuid) := by
  -- effects the invariant cannot see
  have frame : LifecycleFrame uuid c c' → LifecycleInv uuid tr c' ∧
      Advance (base.statusOf uuid) (c'.statusOf uuid) := fun h =>
    ⟨h.inv hI, by rw [h.status]; exact hadv⟩
  cases he with
  | media h => exact frame (h.frame.lifecycle uuid)
  | createSpace _ uuid' data policy hn =>
      refine ⟨hI.createSpace hwf hn _ rfl, ?_⟩
      by_cases heq : uuid = uuid'
      · subst heq
        have h0 : c.statusOf uuid = none := by rw [Coord.statusOf, hn]; rfl
        rw [h0] at hadv
        have hb0 : base.statusOf uuid = none := by
          cases h : base.statusOf uuid with
          | none => rfl
          | some st => rw [h] at hadv; cases hadv
        rw [hb0]
        simpa [Coord.statusOf] using Advance.create
      · have hget := congrArg (Option.map Space.status)
          (JsMap.get?_set_of_ne c.spaces
            (v := ⟨.initialized, policy, none, data, ∅⟩) heq)
        show Advance _ (Option.map Space.status _)
        rw [hget]
        exact hadv
  | subscribe | take =>
      exact frame (.of_get rfl (fun _ h _ => List.mem_of_mem_eraseIdx h) rfl)
  | unsubscribe | workers =>
      exact frame (.of_get rfl (fun _ h _ => h) rfl)
  | resolve ha hs hr hi => exact ⟨hI.resolve hs hr hi, hadv⟩
  | request => exact ⟨hI.request _ _, hadv⟩
  | @routerAck id w caps ha hw =>
      subst ha
      refine ⟨hI.routerAck hwf caps hw (hg w (Option.mem_def.mpr hw)), ?_⟩
      rw [statusOf_onRouterAck]
      exact hadv
  | @routerNack id w message ha hw =>
      refine frame (.of_get rfl (fun t hm ht => ?_) rfl)
      rcases List.mem_append.mp hm with hm | hm
      · exact hm
      · cases List.mem_singleton.mp hm
        simp [Task.runs, Task.ends] at ht
  | @run i uuid' k r ha ht =>
      by_cases heq : uuid = uuid'
      · subst heq
        exact hb.run hwfb ht
      · exact frame (.of_get (JsMap.get?_modify_of_ne _ _ heq)
          (fun _ h _ => List.mem_of_mem_eraseIdx h) rfl)
  | @finish i uuid' k ha ht =>
      by_cases heq : uuid = uuid'
      · subst heq ha
        exact hb.finish ht
          (hg _ (Option.mem_def.mpr ht) (by simp [Task.ends]))
      · refine frame (.of_get (spaces_afterEnd_of_ne heq)
          (fun _ h _ => List.mem_of_mem_eraseIdx h) ?_)
        simp [Coord.afterEnd, Coord.without, Out.isOnEnded, Ne.symm heq]
  | @finishNow _ uuid' space hs he hr =>
      by_cases heq : uuid = uuid'
      · subst heq
        have h : c.statusOf uuid = some .running := by
          rw [Coord.statusOf, hs, Option.map_some, he.running]
        refine absurd ?_ (hI.running h)
        rw [Coord.primaryOf, hs, Option.bind_some, hr]
      · refine frame (.of_get (JsMap.get?_modify_of_ne _ _ heq)
          (fun _ h _ => h) ?_)
        exact countP_onEnded_append (by simp [Out.isOnEnded, Ne.symm heq])
  | beginEnd _ k hs he hr => 
      refine ⟨hI.beginEnd hs he.running _ k, ?_⟩
      show Advance _ (Coord.statusOf (RouterAllocator.remove c _) uuid)
      rw [(remove_lifecycleFrame c _).status]
      exact hadv
  | join ha ht =>
      refine frame ⟨statusOf_modify _ _ (fun _ => by rfl) _,
        primaryRouter_modify _ _ (fun _ => by rfl) _,
        fun _ h _ => List.mem_of_mem_eraseIdx h, ?_⟩
      exact (countP_onEnded_append rfl).trans (countP_onEnded_append rfl)
  | removeMember ha hm hh =>
      exact frame ⟨statusOf_modify _ _ (fun _ => by rfl) _,
        primaryRouter_modify _ _ (fun _ => by rfl) _,
        fun _ h _ => h, rfl⟩

/-- A guarded stretch, from the invariant of the state it starts in. -/
theorem lifecycle_act {c c' : Coord κ} {a : Action κ}
    (hg : endsAlone uuid tr c a) (hwf : RouterWF c)
    (hI : LifecycleInv uuid tr c) (h : c.act a = some c') :
    LifecycleInv uuid tr c' ∧
      Advance (c.statusOf uuid) (c'.statusOf uuid) := by
  refine (act_invariant (fun d => RouterWF d ∧ LifecycleInv uuid tr d ∧
    Advance (c.statusOf uuid) (d.statusOf uuid)) ⟨hwf, hI, .stay _⟩ h ?_).2
  rintro d d' he ⟨hwfd, hId, hadv⟩
  exact ⟨routerWF_effect he hwfd,
    lifecycle_effect hg hwf hI he hwfd hId hadv⟩

omit [Callback κ] in
/-- The outbox becomes part of the observations. -/
theorem LifecycleInv.flush {c : Coord κ} (hI : LifecycleInv uuid tr c) :
    LifecycleInv uuid (tr ++ c.out) { c with out := [] } :=
  { hI with
    onEnded := by
      rw [List.append_nil]
      exact hI.onEnded }

omit [Callback κ] in
/-- The space does not exist yet. -/
theorem lifecycleInv_initial :
    LifecycleInv uuid [] (Coord.initial : Coord κ) where
  idle _ _ h := by cases h
  running h := by cases h
  ended h := by cases h
  stored t h := by cases h
  onEnded := rfl

/-- The invariant and the history of every guarded run. -/
theorem lifecycle_run {past : List (Coord κ)} {c : Coord κ}
    (h : (machine κ).Run (endsAlone uuid) past c tr) :
    LifecycleInv uuid tr { c with out := [] } ∧
      statusHistory uuid (past ++ [c]) = historyUpTo (c.statusOf uuid) := by
  induction h with
  | init h =>
    cases h
    exact ⟨lifecycleInv_initial, rfl⟩
  | @step past s s' tr obs a hr hg hs ih =>
    obtain ⟨hI, hhist⟩ := ih
    obtain ⟨c', hact, hp⟩ := Option.map_eq_some_iff.mp hs
    obtain ⟨rfl, rfl⟩ := Prod.mk.inj hp
    have hwf : RouterWF { s with out := [] } :=
      { routerWF_reachable hr.reachable with }
    have hg' : endsAlone uuid tr { s with out := [] } a := by
      cases a <;> exact hg
    obtain ⟨hI', hadv⟩ := lifecycle_act hg' hwf hI hact
    refine ⟨hI'.flush, ?_⟩
    rw [statusHistory, List.foldl_append, ← statusHistory, hhist]
    exact recordStatus_of_advance hadv

/-- **The lifecycle contract holds in every run in which no transition of
the space overlaps its end.** -/
theorem lifecycle_of_endsAlone (uuid : Uuid) {past : List (Coord κ)}
    {c : Coord κ} {tr : List (Out κ)}
    (h : (machine κ).Run (endsAlone uuid) past c tr) :
    FollowsLifecycle uuid past c tr := by
  obtain ⟨hI, hhist⟩ := lifecycle_run h
  constructor
  · rw [hhist]
    exact historyUpTo_prefix _
  · have := hI.onEnded
    rw [List.append_nil] at this
    rw [this]
    split <;> omega

end Runs

/-! ## §6. Two subscribes in flight. -/

section Overlap

/-- Two servers subscribe; the first one is answered, leaves and ends the
space, then the worker answers the second router request. -/
def overlappingSubscribes : List (Action Unit) :=
  [.mediaWorkerConnected 1,
   .createSpaceRequest "room" ⟨"Room", ""⟩ "subscription-driven" (),
   .subscribeToSpaceRequest 1 "room" (), .subscribeToSpaceRequest 2 "room" (),
   .routerAck 0 "caps", .resume 0, .resume 0,
   .unsubscribeFromSpaceRequest 1 "room" (), .resume 0, .resume 0,
   .routerAck 1 "caps", .resume 0]

/-- The space leaves `ended` again. -/
theorem space_restarts : ∃ past c tr,
    (machine Unit).Run anyStep past c tr ∧
      statusHistory "room" (past ++ [c])
        = [.initialized, .running, .ended, .running] ∧
      ¬ FollowsLifecycle "room" past c tr := by
  obtain ⟨past, c, tr, hr, hp⟩ := Machine.Run.exists_of_exec
    (M := machine Unit) (G := anyStep) (l := overlappingSubscribes)
    (p := fun r => decide (statusHistory "room" (r.1 ++ [r.2.1])
        = [.initialized, .running, .ended, .running] ∧
      ¬ FollowsLifecycle "room" r.1 r.2.1 r.2.2)) rfl (by decide)
  exact ⟨past, c, tr, hr, of_decide_eq_true hp⟩

/-- A first life of a space, with no overlap: its history is the whole one. -/
theorem lifecycle_of_endsAlone_once : ∃ past c tr,
    (machine Unit).Run (endsAlone "room") past c tr ∧
      statusHistory "room" (past ++ [c])
        = [.initialized, .running, .ended] ∧
      FollowsLifecycle "room" past c tr := by
  obtain ⟨past, c, tr, hr, hp⟩ := Machine.Run.exists_of_exec
    (M := machine Unit) (G := endsAlone "room")
    (l := overlappingSubscribes.take 10)
    (p := fun r => decide (statusHistory "room" (r.1 ++ [r.2.1])
        = [.initialized, .running, .ended])) rfl (by decide)
  exact ⟨past, c, tr, hr, of_decide_eq_true hp,
    lifecycle_of_endsAlone "room" hr⟩

end Overlap

end Twolk.Coordinator

/-
  Twolk.Coordinator.Desertion
  ───────────────────────────
  **A RUNNING SPACE THAT NOBODY IS IN IS ABOUT TO END.**

  The policy is asked when a server unsubscribes and when a member leaves,
  and the last of them finds the space deserted: from there on the removal
  of its router is under way.  A space that starts to run has nobody either,
  but the subscription that started it, which is accepted as soon as its
  continuation runs.

  Main results:
    * `tasks_act`           — a continuation waits until it is resumed,
    * `winds_act`           — a deserted space that runs has a continuation
      that ends it or subscribes to it,
    * `ran_act`             — what has run stays run,
    * `subscribed_known`    — servers subscribe to spaces in the store.
-/
import Twolk.Coordinator.Ended
import Twolk.Coordinator.Answers

namespace Twolk.Coordinator

open Twolk.Lib

variable {κ : Type}

/-! ## §1. Deserted spaces. -/

/-- The continuation subscribes a server to `uuid`. -/
def Task.accepts (uuid : Uuid) : Task κ → Bool
  | .transitioned (.subscribe _ uuid' _) (.ok _) => uuid' = uuid
  | _ => false

/-- The continuation of a subscription to `uuid` that was accepted finds a
router with its capabilities. -/
def subscribesServed (uuid : Uuid) : Guard (Coord κ) (Action κ) (Out κ)
  | _, c, .resume i => ∀ t ∈ c.tasks[i]?, t.accepts uuid = true →
      (c.capabilitiesOf uuid).isSome = true
  | _, _, _ => True

instance (uuid : Uuid) (tr : List (Out κ)) (c : Coord κ) :
    ∀ a, Decidable (subscribesServed uuid tr c a)
  | .resume i => inferInstanceAs (Decidable (∀ t ∈ c.tasks[i]?,
      t.accepts uuid = true → (c.capabilitiesOf uuid).isSome = true))
  | .createSpaceRequest .. | .readSpaceRequest .. |
    .subscribeToSpaceRequest .. | .unsubscribeFromSpaceRequest .. |
    .addMemberRequest .. | .removeMemberRequest .. | .spaceUpdateStream .. |
    .tryJoinSpaceRequest .. | .signalingServerConnected .. |
    .signalingServerDisconnected _ | .mediaWorkerConnected _ |
    .mediaWorkerDisconnected _ | .routerAck .. | .routerNack .. |
    .transportAck .. | .transportNack .. | .updateAck .. |
    .updateNack .. => .isTrue trivial

/-- Only the continuation of a removed router ends a space. -/
theorem Task.of_ends {uuid : Uuid} {t : Task κ} (h : t.ends uuid = true) :
    ∃ k, t = .routerRemoved uuid k := by
  cases t with
  | routerRemoved uuid' k =>
      obtain rfl := of_decide_eq_true h
      exact ⟨k, rfl⟩
  | _ => cases h

/-- Only the continuation of a subscription accepts a server. -/
theorem Task.of_accepts {uuid : Uuid} {t : Task κ}
    (h : t.accepts uuid = true) :
    ∃ S cb, t = .transitioned (.subscribe S uuid cb) (.ok ()) := by
  cases t with
  | transitioned k result =>
      cases k with
      | subscribe S uuid' cb =>
          cases result with
          | error e => cases h
          | ok =>
              obtain rfl := of_decide_eq_true h
              exact ⟨S, cb, rfl⟩
      | _ => cases h
  | _ => cases h

/-- If `uuid` runs with nobody in it, it is about to end, or somebody comes. -/
def Winds (uuid : Uuid) (c : Coord κ) : Prop :=
  c.statusOf uuid = some .running → (∀ S, ¬ c.subscribed S uuid) →
    c.membersOf uuid = [] →
      ∃ t ∈ c.tasks, t.ends uuid = true ∨ t.accepts uuid = true

/-- The space has been running. -/
def Coord.ran (uuid : Uuid) (c : Coord κ) : Prop :=
  c.statusOf uuid = some .running ∨ c.statusOf uuid = some .ended

/-! ## §2. Continuations wait. -/

/-- A transport ack leaves the ready continuations where they are. -/
theorem onTransportAck_keeps (c : Coord κ) (id : TransportId)
    (options : Json) {t : Task κ} (h : t ∈ c.tasks) :
    t ∈ (TransportAllocator.onTransportAck c id options).tasks := by
  unfold TransportAllocator.onTransportAck
  split
  · exact h
  · dsimp only
    split
    · rw [publishParams_tasks]
      exact List.mem_append_left _ h
    · split
      · exact h
      · rw [publishParams_tasks]
        exact h

section Tasks

variable [Callback κ] {base c c' : Coord κ} {a : Action κ} {t : Task κ}

/-- The stretch resumes `t`. -/
def Action.resumes (base : Coord κ) (t : Task κ) (a : Action κ) : Prop :=
  ∃ i, a = .resume i ∧ base.tasks[i]? = some t

/-- A continuation stays ready until it is resumed. -/
theorem tasks_mediaEffect (hn : ¬ a.resumes base t) (hb : t ∈ base.tasks)
    (h : MediaEffect base a c c') (ht : t ∈ c.tasks) : t ∈ c'.tasks := by
  cases h with
  | emit => exact ht
  | answer => exact List.mem_append_left _ ht
  | dropTransport => exact ht
  | mesh ha hi =>
      rw [allocateConsumers_tasks]
      rcases (mem_eraseIdx_or hi).mp hb with rfl | hin
      · exact absurd ⟨_, ha, hi⟩ hn
      · exact hin
  | transportAck => exact onTransportAck_keeps _ _ _ hb
  | transportNack => exact hb
  | publishUpdate => exact hb
  | @updateAck id r resp =>
      obtain ⟨heap, l, heq, -⟩ := onUpdateAck_eq base id r resp
      rw [heq]
      exact hb
  | @updateNack id r message =>
      obtain ⟨l, heq, -⟩ := onUpdateNack_eq base id r message
      rw [heq]
      exact hb

/-- **A continuation waits until it is resumed.** -/
theorem tasks_act (h : base.act a = some c') (hb : t ∈ base.tasks)
    (hn : ¬ a.resumes base t) : t ∈ c'.tasks := by
  have htaken : ∀ {i t'}, a = .resume i → base.tasks[i]? = some t' →
      t ∈ (base.without i).tasks := by
    intro i t' ha hi
    rcases (mem_eraseIdx_or hi).mp hb with rfl | hin
    · exact absurd ⟨i, ha, hi⟩ hn
    · exact hin
  refine act_invariant (fun d => t ∈ d.tasks) hb h fun d d' he ht => ?_
  cases he with
  | media h => exact tasks_mediaEffect hn hb h ht
  | createSpace | unsubscribe | workers | request | removeMember
    | finishNow => exact ht
  | subscribe _ _ ha hi => exact htaken ha hi
  | resolve => exact List.mem_append_left _ hb
  | @routerAck id w caps =>
      unfold RouterAllocator.onRouterAck
      split
      · exact hb
      · exact List.mem_append_left _ hb
  | routerNack => exact List.mem_append_left _ hb
  | take ha hi => exact htaken ha hi
  | run ha hi => exact htaken ha hi
  | finish ha hi => exact htaken ha hi
  | @beginEnd _ uuid space r =>
      obtain ⟨transports, routers, l, heq, -⟩ := remove_eq d r
      rw [heq]
      exact List.mem_append_left _ ht
  | join ha hi => exact htaken ha hi

end Tasks

/-! ## §3. What a status becomes. -/

section Status

variable [Callback κ] {uuid : Uuid} {base c c' : Coord κ} {a : Action κ}

/-- What one effect does to the status of a space. -/
inductive Restates (base : Coord κ) (a : Action κ) (uuid : Uuid) :
    Option SpaceStatus → Option SpaceStatus → Prop
  | same (st : Option SpaceStatus) : Restates base a uuid st st
  | created : Restates base a uuid none (some .initialized)
  | running {st : Option SpaceStatus} {i : Nat} {k : AfterTransition κ}
      {r : RouterId} (hk : st ≠ none) (ha : a = .resume i)
      (ht : base.tasks[i]? = some (.allocated (.transition uuid k) (.ok r))) :
      Restates base a uuid st (some .running)
  | ended {st : Option SpaceStatus} (hk : st ≠ none) :
      Restates base a uuid st (some .ended)

/-- How an effect may move the status of the space. -/
theorem restates_effect (h : Effect base a c c') :
    Restates base a uuid (c.statusOf uuid) (c'.statusOf uuid) := by
  -- most effects leave the spaces or their statuses alone
  have hspaces : ∀ {c c' : Coord κ}, c'.spaces = c.spaces →
      Restates base a uuid (c.statusOf uuid) (c'.statusOf uuid) := by
    intro c c' hs
    rw [Coord.statusOf, Coord.statusOf, hs]
    exact .same _
  have hsame : ∀ {c c' : Coord κ}, c'.statusOf uuid = c.statusOf uuid →
      Restates base a uuid (c.statusOf uuid) (c'.statusOf uuid) := by
    intro c c' hs
    rw [hs]
    exact .same _
  -- the others write one status, of a space that exists
  have hset : ∀ {spaces : JsMap Uuid Space} {st : SpaceStatus},
      (∀ hk : (spaces.get? uuid).map Space.status ≠ none,
        Restates base a uuid ((spaces.get? uuid).map Space.status)
          (some st)) →
      Restates base a uuid ((spaces.get? uuid).map Space.status)
        (((spaces.modify uuid fun s => { s with status := st }).get?
          uuid).map Space.status) := by
    intro spaces st h
    rw [JsMap.get?_modify_self]
    cases hs : spaces.get? uuid with
    | none => exact .same _
    | some s =>
        rw [hs] at h
        exact h (by simp)
  have hother : ∀ {spaces : JsMap Uuid Space} {uuid' : Uuid}
      {f : Space → Space}, uuid ≠ uuid' →
      Restates base a uuid ((spaces.get? uuid).map Space.status)
        (((spaces.modify uuid' f).get? uuid).map Space.status) := by
    intro spaces uuid' f hne
    rw [JsMap.get?_modify_of_ne _ _ hne]
    exact .same _
  -- by the kind of effect: only `run`, `finish` and `finishNow` set a status
  cases h with
  | media h => exact hspaces h.frame.spaces
  | createSpace _ uuid' data policy hn =>
      show Restates base a uuid _ (((c.spaces.set uuid' _).get? uuid).map _)
      by_cases heq : uuid = uuid'
      · rw [heq, JsMap.get?_set_self, Coord.statusOf, hn]
        exact .created
      · rw [JsMap.get?_set_of_ne _ _ heq]
        exact .same _
  | subscribe | unsubscribe | workers | resolve | request | routerNack
    | take => exact hspaces rfl
  | @routerAck id w caps =>
      rw [statusOf_onRouterAck]
      exact .same _
  | @run i uuid' k r ha ht =>
      -- a router was allocated, and the space runs
      show Restates base a uuid _ (((base.spaces.modify uuid' _).get?
        uuid).map _)
      by_cases heq : uuid = uuid'
      · subst heq
        exact hset fun hk => .running hk ha ht
      · exact hother heq
  | @finish i uuid' =>
      -- the router is cleared first, which leaves the status
      show Restates base a uuid _ ((((base.spaces.modify uuid' _).modify
        uuid' _).get? uuid).map _)
      by_cases heq : uuid = uuid'
      · subst heq
        have hclear := statusOf_modify base.spaces uuid (f := fun s =>
          { s with primaryRouter := none }) (fun _ => by rfl) uuid
        rw [Coord.statusOf, ← hclear]
        exact hset fun hk => .ended hk
      · rw [JsMap.get?_modify_of_ne _ _ heq]
        exact hother heq
  | @finishNow _ uuid' =>
      show Restates base a uuid _ (((c.spaces.modify uuid' _).get?
        uuid).map _)
      by_cases heq : uuid = uuid'
      · subst heq
        exact hset fun hk => .ended hk
      · exact hother heq
  | @beginEnd _ uuid' space r =>
      obtain ⟨transports, routers, l, heq, -⟩ := remove_eq c r
      rw [heq]
      exact hspaces rfl
  | @join i uuid' =>
      exact hsame (statusOf_modify base.spaces uuid' (fun _ => by rfl) uuid)
  | @removeMember _ cb id member =>
      exact hsame (statusOf_modify c.spaces member.owningSpace
        (fun _ => by rfl) uuid)

/-- **What has run stays run.** -/
theorem ran_act (h : base.act a = some c') (hI : base.ran uuid) :
    c'.ran uuid := by
  refine act_invariant (Coord.ran uuid) hI h fun d d' he hd => ?_
  have hst : Restates base a uuid (d.statusOf uuid) (d'.statusOf uuid) :=
    restates_effect he
  unfold Coord.ran at hd ⊢
  generalize d.statusOf uuid = st, d'.statusOf uuid = st' at hst hd ⊢
  cases hst with
  | same => exact hd
  | created => simp at hd
  | running => exact .inl rfl
  | ended => exact .inr rfl

/-- A space that runs ran before, or starts in this stretch. -/
theorem running_act (h : base.act a = some c')
    (hs : c'.statusOf uuid = some .running) :
    base.statusOf uuid = some .running ∨ ∃ i k r, a = .resume i ∧
      base.tasks[i]? = some (.allocated (.transition uuid k) (.ok r)) := by
  revert hs
  refine act_invariant (fun d => d.statusOf uuid = some .running →
    base.statusOf uuid = some .running ∨ ∃ i k r, a = .resume i ∧
      base.tasks[i]? = some (.allocated (.transition uuid k) (.ok r)))
    .inl h fun d d' he hd hs => ?_
  have hst : Restates base a uuid (d.statusOf uuid) (d'.statusOf uuid) :=
    restates_effect he
  rw [hs] at hst
  generalize d.statusOf uuid = st at hst hd
  cases hst with
  | same => exact hd rfl
  | running _ ha ht => exact .inr ⟨_, _, _, ha, ht⟩

/-- **Servers are subscribed to spaces in the store.** -/
theorem subscribed_known (h : (machine κ).Reachable c) {S : ServerId}
    (hS : c.subscribed S uuid) : c.statusOf uuid ≠ none := by
  revert S uuid
  refine reachable_invariant (fun c => ∀ {uuid : Uuid} {S : ServerId},
    c.subscribed S uuid → c.statusOf uuid ≠ none) (fun _ _ hI => hI) ?_ ?_ h
  · rintro uuid S ⟨servers, hs, -⟩
    cases hs
  · intro base a d d' hb he hd uuid S hS
    have hkeep : d.statusOf uuid ≠ none → d'.statusOf uuid ≠ none := by
      have hst : Restates base a uuid (d.statusOf uuid) (d'.statusOf uuid) :=
        restates_effect he
      generalize d.statusOf uuid = st, d'.statusOf uuid = st' at hst ⊢
      cases hst with
      | same => exact id
      | _ => simp
    cases he with
    | media h =>
        rw [Coord.subscribed, h.frame.spaceToSubscribedMap] at hS
        exact hkeep (hd hS)
    | @subscribe i cb S' uuid' ha ht hr =>
        rcases subscribed_subscribe.mp hS with hS | ⟨-, rfl⟩
        · exact hkeep (hb hS)
        · rw [Coord.statusOf]
          show (base.spaces.get? uuid).map _ ≠ none
          cases hs : base.spaces.get? uuid with
          | none =>
              rw [hs] at hr
              cases hr
          | some space => simp
    | unsubscribe => exact hkeep (hb (subscribed_unsubscribe.mp hS).1)
    | createSpace | workers | resolve | request | routerNack | take | run
      | finish | finishNow | join | removeMember => exact hkeep (hd hS)
    | @routerAck id w caps =>
        have hold : base.subscribed S uuid := by
          unfold RouterAllocator.onRouterAck at hS
          split at hS
          · exact hS
          · exact hS
        exact hkeep (hd hold)
    | @beginEnd _ uuid' space r =>
        obtain ⟨transports, routers, l, heq, -⟩ := remove_eq d r
        rw [heq] at hS
        exact hkeep (hd hS)

end Status

/-! ## §4. Whoever asks for a transition subscribes. -/

/-- Callers of `allocate` that are transitions are those of subscribes, and
no unsubscribe fails. -/
structure Waiters (c : Coord κ) : Prop where
  requested : ∀ r w, c.routerRequests.get? r = some w → w.subscribes
  prompt : ∀ t ∈ c.tasks, t.prompt

/-- A router that has come is for a subscription. -/
theorem Waiters.allocated {c : Coord κ} (h : Waiters c)
    {w : RouterWaiter κ} {r : RouterId}
    (hin : .allocated w (.ok r) ∈ c.tasks) : w.subscribes :=
  h.prompt _ hin

section Waiters

variable [Callback κ] {base c c' : Coord κ} {a : Action κ}

omit [Callback κ] in
/-- Fewer requests and continuations, the same invariant. -/
theorem Waiters.sub (hI : Waiters c)
    (requests : ∀ r w, c'.routerRequests.get? r = some w →
      c.routerRequests.get? r = some w)
    (tasks : ∀ t ∈ c'.tasks, t ∈ c.tasks) : Waiters c' where
  requested r w hw := hI.requested r w (requests r w hw)
  prompt t ht := hI.prompt t (tasks t ht)

omit [Callback κ] in
/-- One more prompt continuation changes nothing about who waits for a
router. -/
theorem Waiters.defer (hI : Waiters c) {t : Task κ} (ht : t.prompt) :
    Waiters (c.defer t) where
  requested := hI.requested
  prompt t' hin := by
    rcases List.mem_append.mp hin with hin | hin
    · exact hI.prompt t' hin
    · rw [List.mem_singleton.mp hin]
      exact ht

/-- The media services add no one who waits for a router. -/
theorem waiters_mediaEffect (hb : Waiters base)
    (h : MediaEffect base a c c') (hI : Waiters c) : Waiters c' where
  requested r w hw :=
    hI.requested r w (h.frame.routerFrame.requests r w hw)
  prompt t ht := by
    rcases h.mem_tasks ht with ht | ⟨id, rfl⟩ | ⟨-, -, hp⟩
    · exact hI.prompt t ht
    · trivial
    · rcases hp with hp | ⟨i, -, t', ht', hnot⟩
      · exact hp
      · exact absurd (hb.prompt t' (List.mem_of_getElem? ht')) hnot

/-- Those who wait for a router wait with a subscription. -/
theorem waiters_effect (hb : Waiters base) (h : Effect base a c c')
    (hI : Waiters c) : Waiters c' := by
  -- by the kind of effect: a router is requested for a subscribe only
  cases h with
  | media h => exact waiters_mediaEffect hb h hI
  | createSpace | unsubscribe | workers | finishNow | removeMember =>
      exact hI.sub (fun _ _ h => h) fun _ h => h
  | subscribe | take | run | finish | join =>
      exact hb.sub (fun _ _ h => h) fun _ h => List.mem_of_mem_eraseIdx h
  -- what is resolved at once waits in the queue
  | @resolve space r w _ _ _ _ hk =>
      have hemit : Waiters (base.emit (.routerResolved w.uuid r)) :=
        hb.sub (fun _ _ h => h) fun _ h => h
      exact hemit.defer (t := .allocated w (.ok r)) hk
  | request _ _ _ _ _ hk =>
      refine ⟨fun r w hw => ?_, hb.prompt⟩
      have hw : (base.routerRequests.set base.routerIdGen _).get? r
          = some w := hw
      rw [JsMap.get?_set] at hw
      split at hw
      · cases hw
        exact hk
      · exact hb.requested r w hw
  -- the waiter of a router moves from the requests to the queue
  | @routerAck id w caps _ hget =>
      unfold RouterAllocator.onRouterAck
      split
      · exact hb
      · have hasked : Task.prompt (.allocated w (.ok id)) :=
          hb.requested id w hget
        exact (hb.defer hasked).sub
          (fun r w' hw => JsMap.get?_of_get?_delete hw) fun _ h => h
  | @routerNack id w message _ hget =>
      have hasked : Task.prompt
          (.allocated w (.error ("newRouterRequest nacked: " ++ message))) :=
        hb.requested id w hget
      exact (hb.defer hasked).sub
        (fun r w' hw => JsMap.get?_of_get?_delete hw) fun _ h => h
  -- the continuation of `remove` waits for no router
  | @beginEnd _ uuid space r k =>
      obtain ⟨transports, routers, l, heq, -⟩ := remove_eq c r
      rw [heq]
      have hremoved : Waiters { c with
          transports, routers, out := c.out ++ l } :=
        hI.sub (fun _ _ h => h) fun _ h => h
      exact hremoved.defer (t := .routerRemoved uuid k) trivial

/-- In every reachable state, routers are waited for by subscriptions only. -/
theorem waiters_reachable (h : (machine κ).Reachable c) : Waiters c := by
  refine reachable_invariant Waiters (fun _ _ hI => ⟨hI.requested,
    hI.prompt⟩) ⟨?_, ?_⟩ (fun _ _ _ _ hb he hI => waiters_effect hb he hI) h
  · exact fun _ _ hw => nomatch hw
  · exact fun _ hin => nomatch hin

end Waiters

/-! ## §5. Who is asked when somebody leaves. -/

/-- `c'` has the subscribers and the members of the space that `c` has. -/
structure Grows (uuid : Uuid) (c c' : Coord κ) : Prop where
  subscribed : ∀ S, c.subscribed S uuid → c'.subscribed S uuid
  members : ∀ m ∈ c.membersOf uuid, m ∈ c'.membersOf uuid

theorem TurnFrame.grows {c c' : Coord κ} (h : TurnFrame c c')
    (uuid : Uuid) : Grows uuid c c' where
  subscribed S hS := by
    rw [Coord.subscribed, h.spaceToSubscribedMap]
    exact hS
  members m hm := by
    rw [h.members.membersOf]
    exact hm

/-- Growth adds up. -/
theorem Grows.trans {uuid : Uuid} {c c' c'' : Coord κ} (h : Grows uuid c c')
    (h' : Grows uuid c' c'') : Grows uuid c c'' where
  subscribed S hS := h'.subscribed S (h.subscribed S hS)
  members m hm := h'.members m (h.members m hm)

/-- Settling a transition readies a continuation, and does nothing else. -/
theorem settle_eq (c : Coord κ) (k : AfterTransition κ)
    (result : Except String Unit) :
    ∃ tasks, SpaceService.settle c k result = { c with tasks } := by
  cases k with
  | memberLeft => exact ⟨_, rfl⟩
  | subscribe => exact ⟨_, rfl⟩
  | unsubscribe => exact ⟨_, rfl⟩

/-- A space does not run when `endSpace` has ended it. -/
theorem endSpace_status (c : Coord κ) (uuid : Uuid) (k : AfterTransition κ) :
    (SpaceService.endSpace c uuid k).statusOf uuid ≠ some .running := by
  obtain ⟨tasks, heq⟩ := settle_eq
    (SpaceService.setStatus (c.emit (.onEnded uuid)) uuid .ended) k (.ok ())
  unfold SpaceService.endSpace
  rw [heq]
  show ((c.spaces.modify uuid _).get? uuid).map Space.status ≠ _
  rw [JsMap.get?_modify_self]
  cases c.spaces.get? uuid with
  | none => simp
  | some space => simp

/-- When the policy has been asked, a deserted space is about to end. -/
theorem transitionPromise_winds {c : Coord κ} {uuid : Uuid} {space : Space}
    (hs : c.spaces.get? uuid = some space) (k : AfterTransition κ) :
    Winds uuid (SpaceService.transitionPromise c uuid space
      (SpaceLifecyclePolicy.shouldEnd space.status
        (SpaceService.subscriberCount c uuid) space.members.size) k) := by
  unfold SpaceLifecyclePolicy.shouldEnd
  -- the policy ends a space that runs without subscribers and members
  split
  · rename_i hd
    show Winds uuid (SpaceService.applyTransition c uuid space .ended k)
    unfold SpaceService.applyTransition
    rw [if_neg (by rw [hd.1]; decide), if_neg (by simp),
      if_pos ⟨rfl, hd.1⟩]
    -- the end waits for its router, or is done in the same stretch
    split
    · intro _ _ _
      exact ⟨.routerRemoved uuid k,
        List.mem_append_right _ (List.mem_singleton_self _),
        .inl (decide_eq_true rfl)⟩
    · exact fun hrun => absurd hrun (endSpace_status c uuid k)
  -- otherwise one of the three does not hold
  · rename_i hd
    obtain ⟨tasks, heq⟩ := settle_eq c k (.ok ())
    show Winds uuid (SpaceService.settle c k (.ok ()))
    rw [heq]
    intro hrun hsub hmem
    refine absurd ⟨?_, ?_, ?_⟩ hd
    · have hrun : (c.spaces.get? uuid).map Space.status = some .running := hrun
      rw [hs] at hrun
      exact Option.some.inj hrun
    · exact subscriberCount_eq_zero_iff.mpr hsub
    · have hmem : c.membersOf uuid = [] := hmem
      rw [Coord.membersOf, hs] at hmem
      rw [JsMap.size_eq_length_keys]
      exact List.length_eq_zero_iff.mpr hmem

section Leaving

variable [Callback κ] {base c c' : Coord κ} {a : Action κ} {uuid : Uuid}

/-- An unsubscription keeps what winds the space up. -/
theorem onUnsubscribeFromSpaceRequest_winds (S : ServerId) (cb : κ)
    (h : Winds uuid c) : Winds uuid
      (SpaceService.onUnsubscribeFromSpaceRequest c S uuid cb) := by
  unfold SpaceService.onUnsubscribeFromSpaceRequest
  split
  · unfold Coord.nackSync
    split
    · exact h
    · exact h
  · rename_i space hs
    cases space.policy with
    | subscriptionDriven =>
        exact transitionPromise_winds (c := SpaceService.unsubscribe c S uuid)
          hs (.unsubscribe cb)

omit [Callback κ] in
/-- So does a member who leaves. -/
theorem notifyMemberLeft_winds (c : Coord κ) (uuid : Uuid) :
    Winds uuid (SpaceService.notifyMemberLeft c uuid) := by
  unfold SpaceService.notifyMemberLeft
  split
  · rename_i hs
    intro hrun
    rw [Coord.statusOf, hs] at hrun
    cases hrun
  · rename_i space hs
    cases space.policy with
    | subscriptionDriven => exact transitionPromise_winds hs .memberLeft

/-- A removal that goes through drops transports first. -/
theorem onRemoveMemberRequest_cases (c : Coord κ) (id : MemberId) (cb : κ) :
    MediaFrame c (MemberService.onRemoveMemberRequest c id cb) ∨
      ∃ d member, MediaFrame c d ∧ c.memberHeap.get? id = some member ∧
        MemberService.onRemoveMemberRequest c id cb
          = (SpaceService.notifyMemberLeft (MemberService.remove d id member)
            member.owningSpace).ackSync cb .void := by
  unfold MemberService.onRemoveMemberRequest
  split
  · split
    · exact .inl (.refl c)
    · rename_i member hh
      -- what is removed before the member are transports
      have hdropped : ∀ {d : Coord κ} {q : Coord κ × Bool}, MediaFrame c d →
          MemberService.removeConsumers d
            (member.memberToConsumerMap.entries.map Prod.snd) = q →
          MediaFrame c q.1 := by
        rintro d _ hd rfl
        exact hd.trans (MemberService.removeConsumers_frame _ d)
      dsimp only
      split
      -- a consumer entry without a transport throws, and the member stays
      · rename_i d heq
        left
        have hf : MediaFrame c d := by
          split at heq
          · exact hdropped (.refl c) heq
          · exact hdropped (TransportAllocator.remove_frame c _) heq
        exact hf.trans (emit_frame d rfl)
      · rename_i d heq
        right
        have hf : MediaFrame c d := by
          split at heq
          · exact hdropped (.refl c) heq
          · exact hdropped (TransportAllocator.remove_frame c _) heq
        exact ⟨d, member, hf, hh, rfl⟩
  · exact .inl (nackSync_frame c cb _)

/-- Unless somebody leaves, nobody does. -/
theorem grows_act (hwf : CoordWF base) (h : base.act a = some c')
    (hunsub : ∀ S cb, a ≠ .unsubscribeFromSpaceRequest S uuid cb)
    (hremove : ∀ id cb, a = .removeMemberRequest id cb →
      base.spaceOf id ≠ some uuid) : Grows uuid base c' := by
  -- by the kind of stretch: two of them take something away
  cases act_stretch hwf.router hwf.member hwf.transport h with
  | silent _ _ h | served _ _ h | servedTwice _ _ _ h | refused _ _ h
    | ignored _ _ h | asked _ _ _ h | nacked h | dropped _ h
    | unsubscribed _ h | caught _ h | forwarded _ _ _ _ _ h
    | updateNacked _ h => exact { h.frame.grows uuid with }
  -- the hypotheses exclude the one about this space
  | @unsubscribing S uuid' cb _ _ h =>
      have hne : uuid ≠ uuid' := by
        rintro rfl
        exact hunsub S cb rfl
      refine Grows.trans ?_ (h.frame.grows uuid)
      exact ⟨fun S' hS => subscribed_unsubscribe.mpr
        ⟨hS, fun heq => hne heq.2⟩, fun _ hm => hm⟩
  | @removed id cb member _ _ hh h =>
      refine Grows.trans ?_ (h.frame.grows uuid)
      refine ⟨fun _ hS => hS, fun m hm => (membersOf_remove uuid m).mpr
        ⟨hm, ?_⟩⟩
      rintro ⟨-, rfl⟩
      refine hremove id cb rfl ?_
      rw [Coord.spaceOf, hh]
      rfl
  | subscribed _ h =>
      refine Grows.trans ?_ (h.frame.grows uuid)
      exact ⟨fun _ hS => subscribed_subscribe.mpr (.inl hS), fun _ hm => hm⟩
  | @added i uuid' data state cb _ hk h =>
      refine Grows.trans ?_ (h.frame.grows uuid)
      exact ⟨fun _ hS => hS, fun m hm =>
        (membersOf_add data state uuid' uuid hk m).mpr (.inl hm)⟩
  | updated _ h =>
      rcases h with ⟨_, _, _, h⟩ | ⟨_, _, _, h⟩
      · exact { h.frame.grows uuid with }
      · exact { h.frame.grows uuid with }

/-- A subscription that finds the capabilities is recorded. -/
theorem resumeSubscribe_subscribed (S : ServerId) (cb : κ)
    (h : (c.capabilitiesOf uuid).isSome = true) :
    (SpaceService.resumeSubscribe c S uuid cb).subscribed S uuid := by
  obtain ⟨caps, hcaps⟩ := Option.isSome_iff_exists.mp h
  obtain ⟨space, hs, hr⟩ := Option.bind_eq_some_iff.mp hcaps
  unfold SpaceService.resumeSubscribe
  rw [hs]
  dsimp only
  rw [hr]
  have hnew : (SpaceService.subscribe c S uuid).subscribed S uuid :=
    subscribed_subscribe.mpr (.inr ⟨rfl, rfl⟩)
  unfold Coord.ackThen
  dsimp only
  split
  · exact hnew
  · exact hnew

/-- When nobody has left, the space was deserted before. -/
theorem winds_grows (hwaiters : Waiters base) {tr : List (Out κ)}
    (hg : subscribesServed uuid tr base a) (h : base.act a = some c')
    (hgrows : Grows uuid base c') (hI : Winds uuid base) :
    Winds uuid c' := by
  intro hrun hsub hmem
  -- the space ran before, or has just started to
  rcases running_act h hrun with hold | ⟨i, k, r, rfl, ht⟩
  · have hmem' : base.membersOf uuid = [] := by
      refine List.eq_nil_iff_forall_not_mem.mpr fun m hm => ?_
      have hin := hgrows.members m hm
      rw [hmem] at hin
      cases hin
    obtain ⟨t, hin, ht⟩ := hI hold
      (fun S hS => hsub S (hgrows.subscribed S hS)) hmem'
    -- the continuation that winds it up may be the one that runs
    by_cases hres : a.resumes base t
    · -- the continuation has run, and done what it is for
      exfalso
      obtain ⟨i, rfl, hi⟩ := hres
      have hact : c' = resumeTask (base.without i) t := by
        have h : (base.tasks[i]?).map _ = some c' := h
        rw [hi] at h
        exact (Option.some.inj h).symm
      rcases ht with hend | hacc
      · obtain ⟨k, rfl⟩ := Task.of_ends hend
        rw [hact] at hrun
        exact endSpace_status _ _ _ hrun
      · have hcaps := hg _ hi hacc
        obtain ⟨S, cb, rfl⟩ := Task.of_accepts hacc
        refine hsub S ?_
        rw [hact]
        exact resumeSubscribe_subscribed S cb hcaps
    · exact ⟨t, tasks_act h hin hres, ht⟩
  · -- the space has just started to run
    have hact : c' = SpaceService.resumeRunning (base.without i) uuid k := by
      have h : (base.tasks[i]?).map _ = some c' := h
      rw [ht] at h
      exact (Option.some.inj h).symm
    obtain ⟨S, cb, rfl⟩ := hwaiters.allocated (List.mem_of_getElem? ht)
    refine ⟨.transitioned (.subscribe S uuid cb) (.ok ()), ?_,
      .inr (decide_eq_true rfl)⟩
    rw [hact]
    exact List.mem_append_right _ (List.mem_singleton_self _)

/-- **A deserted space that runs is about to end**, or somebody is about to
subscribe to it. -/
theorem winds_act (hwf : CoordWF base) (hwaiters : Waiters base)
    {tr : List (Out κ)} (hg : subscribesServed uuid tr base a)
    (h : base.act a = some c') (hI : Winds uuid base) : Winds uuid c' := by
  -- the handlers that take something away ask the policy themselves
  by_cases hunsub : ∃ S cb, a = .unsubscribeFromSpaceRequest S uuid cb
  · obtain ⟨S, cb, rfl⟩ := hunsub
    cases h
    exact onUnsubscribeFromSpaceRequest_winds S cb hI
  · by_cases hremove : ∃ id cb, a = .removeMemberRequest id cb ∧
        base.spaceOf id = some uuid
    · obtain ⟨id, cb, rfl, hspace⟩ := hremove
      cases h
      rcases onRemoveMemberRequest_cases base id cb with hf | hleft
      · refine winds_grows hwaiters hg rfl ?_ hI
        refine ⟨fun S hS => ?_, fun m hm => ?_⟩
        · rw [Coord.subscribed, hf.spaceToSubscribedMap]
          exact hS
        · rw [Coord.membersOf, hf.spaces]
          exact hm
      · obtain ⟨d, member, hf, hh, heq⟩ := hleft
        rw [Coord.spaceOf, hh] at hspace
        cases hspace
        rw [heq]
        unfold Coord.ackSync
        dsimp only
        split
        · exact notifyMemberLeft_winds _ _
        · exact notifyMemberLeft_winds _ _
    -- the others leave subscribers and members where they are
    · have hgrows : Grows uuid base c' := by
        refine grows_act hwf h ?_ ?_
        · rintro S cb rfl
          exact hunsub ⟨S, cb, rfl⟩
        · rintro id cb rfl hspace
          exact hremove ⟨id, cb, rfl, hspace⟩
      exact winds_grows hwaiters hg h hgrows hI

end Leaving

end Twolk.Coordinator

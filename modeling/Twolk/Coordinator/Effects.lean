/-
  Twolk.Coordinator.Effects
  ─────────────────────────
  **WHAT A STRETCH CAN DO, SAID ONCE.**

  `Effect base a c c'` lists the state changes a stretch of action `a` from
  state `base` is made of, each with what the code has checked by then.
  `act_effects` decomposes every action into a chain of them, so an
  invariant of the coordinator is proved once per effect and never looks at
  a handler again (`act_invariant`).

  Control-layer stretches are split into their single writes; a stretch of
  the media layer is one `MediaEffect`, and `MediaEffect.frame` says that it
  leaves the control layer alone.
-/
import Twolk.Coordinator.Frame
import Mathlib.Logic.Relation

namespace Twolk.Coordinator

open Twolk.Lib

variable {κ : Type}

/-! ## §1. The effects. -/

/-- The space whose router the caller of `allocate` asked for. -/
def RouterWaiter.uuid : RouterWaiter κ → Uuid
  | .transition uuid _ => uuid
  | .addMember spaceUuid .. => spaceUuid

/-- The caller of `allocate` is `applyTransition`. -/
def RouterWaiter.isTransition : RouterWaiter κ → Bool
  | .transition .. => true
  | .addMember .. => false

/-- A transition that asks for a router is that of a subscribe. -/
def RouterWaiter.subscribes : RouterWaiter κ → Prop
  | .transition uuid k => ∃ serverId cb, k = .subscribe serverId uuid cb
  | .addMember .. => True

/-- The space action `a` calls `allocate` for. -/
def Coord.allocates (c : Coord κ) : Action κ → Option Uuid
  | .subscribeToSpaceRequest _ uuid _ =>
      if c.statusOf uuid = some .initialized then some uuid else none
  | .addMemberRequest serverId spaceUuid .. =>
      if SpaceService.isSubscribed c serverId spaceUuid then some spaceUuid
      else none
  | _ => none

/-- The continuation only answers a publisher. -/
def Task.answers : Task κ → Bool
  | .transitioned .. | .caught .. | .allocated _ (.error _) => true
  | _ => false

/-- An unsubscribe waits for no router, and its transition does not fail. -/
def Task.prompt : Task κ → Prop
  | .allocated w _ => w.subscribes
  | .transitioned (.unsubscribe _) (.error _) => False
  | _ => True

/-- Observations that answer a publisher, or say what it threw. -/
def Out.replies : Out κ → Bool
  | .ack .. | .nack .. | .thrown _ | .unhandledRejection _ => true
  | _ => false

/-- Observations that answer a publisher or announce a finished update. -/
def Out.answers : Out κ → Bool
  | .ack .. | .nack .. | .thrown _ | .unhandledRejection _ |
    .spaceUpdate _ (.producerConnectedEvent _) => true
  | _ => false

/-- The capabilities a subscriber of `uuid` is answered with. -/
def Coord.capabilitiesOf (c : Coord κ) (uuid : Uuid) : Option Json :=
  (c.spaces.get? uuid).bind fun space => space.primaryRouter.bind fun r =>
    (c.routerHeap.get? r).bind Router.rtpCapabilities

/-- The continuation answers `cb` inside a `.then` body, and `cb` throws:
the `.catch` answers it again. -/
def Task.rethrows [Callback κ] (c : Coord κ) (cb : κ) : Task κ → Prop
  | .transitioned (.subscribe _ uuid cb') (.ok _) => cb' = cb ∧
      if (c.capabilitiesOf uuid).isSome then Callback.ackThrows cb ≠ none
      else Callback.nackThrows cb "space router not allocated yet" ≠ none
  | .transitioned (.unsubscribe cb') (.ok _)
  | .allocated (.addMember _ _ _ cb') (.ok _) =>
      cb' = cb ∧ Callback.ackThrows cb ≠ none
  | _ => False

instance [Callback κ] [DecidableEq κ] (c : Coord κ) (cb : κ) (t : Task κ) :
    Decidable (t.rethrows c cb) := by
  unfold Task.rethrows
  split <;> infer_instance

/-- The policy asks to end the space whose record is `space`. -/
structure Coord.deserted (c : Coord κ) (uuid : Uuid) (space : Space) :
    Prop where
  running : space.status = .running
  subscribers : SpaceService.subscriberCount c uuid = 0
  members : space.members.size = 0

/-- `c` without its `i`-th continuation. -/
def Coord.without (c : Coord κ) (i : Nat) : Coord κ :=
  { c with tasks := c.tasks.eraseIdx i }

/-- `c` after the second half of a transition to `ended`. -/
def Coord.afterEnd (c : Coord κ) (uuid : Uuid) : Coord κ :=
  { c with
    spaces := (c.spaces.modify uuid fun s =>
        { s with primaryRouter := none }).modify uuid fun s =>
      { s with status := .ended }
    out := c.out ++ [.routerCleared uuid] ++ [.onEnded uuid] }

/-- One state change of the media layer. -/
inductive MediaEffect [Callback κ] (base : Coord κ) (a : Action κ) :
    Coord κ → Coord κ → Prop
  | emit (c : Coord κ) {o : Out κ} (ho : o.replies = true) :
      MediaEffect base a c (c.emit o)
  | answer (c : Coord κ) {t : Task κ} (ht : t.answers = true)
      (hr : ∀ cb message, t = .caught cb message →
        ∃ i, a = .resume i ∧ ∃ t' ∈ base.tasks[i]?, t'.rethrows base cb)
      (hp : t.prompt ∨
        ∃ i, a = .resume i ∧ ∃ t' ∈ base.tasks[i]?, ¬ t'.prompt) :
      MediaEffect base a c (c.defer t)
  | dropTransport (c : Coord κ) {cb : κ} {id : MemberId} {member : Member}
      {t : TransportId} (ha : a = .removeMemberRequest id cb)
      (hm : id ∈ base.members.keys)
      (hh : base.memberHeap.get? id = some member)
      (hc : c.memberHeap = base.memberHeap)
      (ht : member.producer = some t ∨
        ∃ source, member.memberToConsumerMap.get? source = some (some t)) :
      MediaEffect base a c (TransportAllocator.remove c t)
  | mesh {i : Nat} {id : TransportId} (ha : a = .resume i)
      (ht : base.tasks[i]? = some (.producerAllocated id)) :
      MediaEffect base a base
        (MemberService.allocateConsumers (base.without i) id)
  | transportAck {id : TransportId} {options : Json}
      (ha : a = .transportAck id options)
      (h : id ∈ base.transportRequests.keys) :
      MediaEffect base a base
        (TransportAllocator.onTransportAck base id options)
  | transportNack {id : TransportId} {message : String}
      (ha : a = .transportNack id message)
      (h : id ∈ base.transportRequests.keys) :
      MediaEffect base a base (TransportAllocator.onTransportNack base id)
  | publishUpdate {transport : TransportId} {t : Transport}
      (update : TransportUpdateC) (uuid : Uuid) (memberId : MemberId)
      (cb : κ) (ht : base.transportHeap.get? transport = some t)
      (hst : t.status ≠ .unallocated) :
      MediaEffect base a base (SpaceUpdateDispatcher.publish base transport
        update uuid memberId cb)
  | updateAck {id : Nat} {r : UpdateRequest κ} {resp : TransportUpdateAck}
      (ha : a = .updateAck id resp)
      (h : base.updateRequests.get? id = some r) :
      MediaEffect base a base
        (SpaceUpdateDispatcher.onUpdateAck base id r resp)
  | updateNack {id : Nat} {r : UpdateRequest κ} {message : String}
      (ha : a = .updateNack id message)
      (h : base.updateRequests.get? id = some r) :
      MediaEffect base a base
        (SpaceUpdateDispatcher.onUpdateNack base id r message)

/-- One state change of the stretch of action `a` that began in `base`. -/
inductive Effect [Callback κ] (base : Coord κ) (a : Action κ) :
    Coord κ → Coord κ → Prop
  | media {c c' : Coord κ} (h : MediaEffect base a c c') :
      Effect base a c c'
  | createSpace (c : Coord κ) (uuid : Uuid) (data : SpaceData)
      (policy : SpaceLifecyclePolicy) (h : c.spaces.get? uuid = none) :
      Effect base a c { c with
        spaces := c.spaces.set uuid
          { status := .initialized, policy, primaryRouter := none, data,
            members := ∅ } }
  | subscribe {i : Nat} {cb : κ} (serverId : ServerId) (uuid : Uuid)
      (ha : a = .resume i) (ht : base.tasks[i]?
        = some (.transitioned (.subscribe serverId uuid cb) (.ok ())))
      (hr : ((base.spaces.get? uuid).bind Space.primaryRouter).isSome) :
      Effect base a base
        (SpaceService.subscribe (base.without i) serverId uuid)
  | unsubscribe {cb : κ} (serverId : ServerId) (uuid : Uuid)
      (ha : a = .unsubscribeFromSpaceRequest serverId uuid cb) :
      Effect base a base (SpaceService.unsubscribe base serverId uuid)
  /-- Workers and signaling servers come, go and are picked. -/
  | workers (workerIds : List WorkerId) (servers : List ServerEntry)
      (serverStrategy : RoundRobinStrategy) :
      Effect base a base { base with workerIds, servers, serverStrategy }
  | resolve {space : Space} {r : RouterId} {w : RouterWaiter κ}
      (ha : base.allocates a = some w.uuid)
      (hs : base.spaces.get? w.uuid = some space)
      (hr : space.primaryRouter = some r)
      (hi : w.isTransition = true → space.status = .initialized)
      (hk : w.subscribes) :
      Effect base a base ((base.emit (.routerResolved w.uuid r)).defer
        (.allocated w (.ok r)))
  | request {space : Space} {w : RouterWaiter κ} {workerId : WorkerId}
      {strategy : RoundRobinStrategy} (ha : base.allocates a = some w.uuid)
      (hs : base.spaces.get? w.uuid = some space)
      (hr : space.primaryRouter = none) (hn : base.workerIds ≠ [])
      (hi : w.isTransition = true → space.status = .initialized)
      (hk : w.subscribes) :
      Effect base a base
        (RouterAllocator.request base w.uuid workerId strategy w)
  | routerAck {id : RouterId} {w : RouterWaiter κ} {caps : Json}
      (ha : a = .routerAck id caps)
      (h : base.routerRequests.get? id = some w) :
      Effect base a base (RouterAllocator.onRouterAck base id w caps)
  | routerNack {id : RouterId} {w : RouterWaiter κ} {message : String}
      (ha : a = .routerNack id message)
      (h : base.routerRequests.get? id = some w) :
      Effect base a base (RouterAllocator.onRouterNack base id w message)
  /-- A continuation that only answers begins. -/
  | take {i : Nat} {t : Task κ} (ha : a = .resume i)
      (ht : base.tasks[i]? = some t) (hq : t.answers = true) :
      Effect base a base (base.without i)
  | run {i : Nat} {uuid : Uuid} {k : AfterTransition κ} {r : RouterId}
      (ha : a = .resume i)
      (ht : base.tasks[i]? = some (.allocated (.transition uuid k) (.ok r))) :
      Effect base a base
        (SpaceService.setStatus (base.without i) uuid .running)
  | finish {i : Nat} {uuid : Uuid} {k : AfterTransition κ}
      (ha : a = .resume i)
      (ht : base.tasks[i]? = some (.routerRemoved uuid k)) :
      Effect base a base ((base.without i).afterEnd uuid)
  | finishNow (c : Coord κ) {uuid : Uuid} {space : Space}
      (hs : c.spaces.get? uuid = some space) (he : c.deserted uuid space)
      (hr : space.primaryRouter = none) :
      Effect base a c
        (SpaceService.setStatus (c.emit (.onEnded uuid)) uuid .ended)
  | beginEnd (c : Coord κ) {uuid : Uuid} {space : Space} {r : RouterId}
      (k : AfterTransition κ) (hs : c.spaces.get? uuid = some space)
      (he : c.deserted uuid space) (hr : space.primaryRouter = some r) :
      Effect base a c
        ((RouterAllocator.remove c r).defer (.routerRemoved uuid k))
  | join {i : Nat} {uuid : Uuid} {data : MemberData} {state : MemberState}
      {cb : κ} {r : RouterId} (ha : a = .resume i)
      (ht : base.tasks[i]?
        = some (.allocated (.addMember uuid data state cb) (.ok r))) :
      Effect base a base
        (TransportAllocator.request
          (MemberService.add (base.without i) data state uuid) r
          base.memberIdGen none)
  | removeMember (c : Coord κ) {cb : κ} {id : MemberId} {member : Member}
      (ha : a = .removeMemberRequest id cb) (hm : id ∈ base.members.keys)
      (hh : base.memberHeap.get? id = some member)
      (hmc : c.members = base.members)
      (hc : c.memberHeap = base.memberHeap) :
      Effect base a c (MemberService.remove c id member)

theorem Task.quiet_of_answers {t : Task κ} (ht : t.answers = true) :
    t.quiet = true := by
  cases t with
  | allocated w result => cases result <;> first | rfl | cases ht
  | transitioned | caught => rfl
  | routerRemoved | producerAllocated => cases ht

theorem Out.answers_of_replies {o : Out κ} (ho : o.replies = true) :
    o.answers = true := by
  cases o <;> first | rfl | cases ho

/-- An answer concerns no space. -/
theorem Out.media_of_answers {o : Out κ} (ho : o.answers = true) :
    o.media = true := by
  cases o <;> first | rfl | cases ho

/-- Taking up a continuation of the media layer concerns no space. -/
theorem without_frame (c : Coord κ) {i : Nat} {t : Task κ}
    (ht : c.tasks[i]? = some t) (hq : t.quiet = true) :
    MediaFrame c (c.without i) :=
  { MediaFrame.refl c with
    kept := fun t' h hq' => by
      rcases (mem_eraseIdx_or ht).mp h with rfl | h
      · rw [hq] at hq'
        cases hq'
      · exact h
    tasks := fun _ h => .inl (List.mem_of_mem_eraseIdx h) }

/-- The media layer leaves the control layer alone. -/
theorem MediaEffect.frame [Callback κ] {base c c' : Coord κ} {a : Action κ}
    (h : MediaEffect base a c c') : MediaFrame c c' := by
  cases h with
  | emit _ ho =>
      exact emit_frame c (Out.media_of_answers (Out.answers_of_replies ho))
  | answer _ ht => exact defer_frame c (Task.quiet_of_answers ht)
  | dropTransport => exact TransportAllocator.remove_frame c _
  | mesh ha ht =>
      exact (without_frame _ ht rfl).trans
        (MemberService.allocateConsumers_frame _ _)
  | transportAck => exact TransportAllocator.onTransportAck_frame _ _ _
  | transportNack => exact TransportAllocator.onTransportNack_frame _ _
  | publishUpdate => exact SpaceUpdateDispatcher.publish_frame _ _ _ _ _ _
  | updateAck => exact SpaceUpdateDispatcher.onUpdateAck_frame _ _ _ _
  | updateNack => exact SpaceUpdateDispatcher.onUpdateNack_frame _ _ _ _

/-- A chain of effects of one stretch. -/
abbrev Effects [Callback κ] (base : Coord κ) (a : Action κ) :
    Coord κ → Coord κ → Prop :=
  Relation.ReflTransGen (Effect base a)

/-! ## §2. Answers as effects. -/

section Answers

variable [Callback κ] {base : Coord κ} {a : Action κ} (c : Coord κ) (cb : κ)

theorem emit_effects {o : Out κ} (ho : o.replies = true) :
    Effects base a c (c.emit o) :=
  .single (.media (.emit c ho))

theorem ackSync_effects (resp : Response) :
    Effects base a c (c.ackSync cb resp) := by
  unfold Coord.ackSync
  have h : Effects base a c (c.emit (.ack cb resp)) := emit_effects c rfl
  split
  · exact h
  · exact h.trans (emit_effects _ rfl)

theorem nackSync_effects (message : String) :
    Effects base a c (c.nackSync cb message) := by
  unfold Coord.nackSync
  have h : Effects base a c (c.emit (.nack cb message)) := emit_effects c rfl
  split
  · exact h
  · exact h.trans (emit_effects _ rfl)

/-- An ack; what its callback throws goes to the callers of a continuation. -/
theorem ackThen_effects (resp : Response) (wrap : String → String)
    (hr : Callback.ackThrows cb ≠ none → ∃ i, a = .resume i ∧
      ∃ t ∈ base.tasks[i]?, t.rethrows base cb) :
    Effects base a c (c.ackThen cb resp wrap) := by
  unfold Coord.ackThen
  have h : Effects base a c (c.emit (.ack cb resp)) := emit_effects c rfl
  split
  · exact h
  · rename_i e he
    refine h.tail (.media (.answer _ rfl (fun cb' message hc => ?_)
      (.inl trivial)))
    cases hc
    exact hr (by simp [he])

theorem nackThen_effects (message : String)
    (hr : Callback.nackThrows cb message ≠ none → ∃ i, a = .resume i ∧
      ∃ t ∈ base.tasks[i]?, t.rethrows base cb) :
    Effects base a c (c.nackThen cb message) := by
  unfold Coord.nackThen
  have h : Effects base a c (c.emit (.nack cb message)) := emit_effects c rfl
  split
  · exact h
  · rename_i e he
    refine h.tail (.media (.answer _ rfl (fun cb' message hc => ?_)
      (.inl trivial)))
    cases hc
    exact hr (by simp [he])

theorem nackCatch_effects (message : String) :
    Effects base a c (c.nackCatch cb message) := by
  unfold Coord.nackCatch
  have h : Effects base a c (c.emit (.nack cb message)) := emit_effects c rfl
  split
  · exact h
  · exact h.trans (emit_effects _ rfl)

omit [Callback κ] in
/-- A transition that succeeds is prompt. -/
theorem prompt_ok (k : AfterTransition κ) :
    (Task.transitioned k (.ok ())).prompt := by
  cases k <;> trivial

/-- A transition that has settled readies what waited for it. -/
theorem settle_effects (k : AfterTransition κ) (result : Except String Unit)
    (hp : (Task.transitioned k result).prompt ∨
      ∃ i, a = .resume i ∧ ∃ t ∈ base.tasks[i]?, ¬ t.prompt) :
    Effects base a c (SpaceService.settle c k result) := by
  have hc : ∀ cb message, Task.transitioned k result = .caught cb message →
      ∃ i, a = .resume i ∧ ∃ t ∈ base.tasks[i]?, t.rethrows base cb :=
    fun _ _ h => nomatch h
  cases k with
  | memberLeft => exact .refl
  | subscribe => exact .single (.media (.answer c rfl hc hp))
  | unsubscribe => exact .single (.media (.answer c rfl hc hp))

end Answers

/-! ## §3. Handlers as effects. -/

section Handlers

variable [Callback κ] {base : Coord κ} {a : Action κ}

/-- A router is there, asked for, or cannot be had. -/
theorem allocate_effects {space : Space} {w : RouterWaiter κ}
    (ha : base.allocates a = some w.uuid)
    (hs : base.spaces.get? w.uuid = some space)
    (hi : w.isTransition = true → space.status = .initialized)
    (hk : w.subscribes) :
    Effects base a base (RouterAllocator.allocate base w.uuid space w) := by
  unfold RouterAllocator.allocate
  split
  · rename_i r hr
    exact .single (.resolve ha hs hr hi hk)
  · rename_i hr
    split
    · exact .single (.media (.answer _ rfl (fun _ _ h => nomatch h) (.inl hk)))
    · rename_i hn
      split
      · exact .single (.media
          (.answer _ rfl (fun _ _ h => nomatch h) (.inl hk)))
      · refine .single (.request ha hs hr (fun h => hn ?_) hi hk)
        rw [h, List.length_nil]

/-- A space that is to run gets its router first. -/
theorem transitionToRun_effects {uuid : Uuid} {space : Space}
    {k : AfterTransition κ}
    (ha : space.status = .initialized → base.allocates a = some uuid)
    (hs : base.spaces.get? uuid = some space)
    (hk : ∃ serverId cb, k = .subscribe serverId uuid cb) :
    Effects base a base
      (SpaceService.applyTransition base uuid space .running k) := by
  unfold SpaceService.applyTransition
  split
  · exact settle_effects base k _ (.inl (prompt_ok k))
  · split
    · rename_i h
      exact allocate_effects (w := .transition uuid k) (ha h.2) hs
        (fun _ => h.2) hk
    · split
      · rename_i h
        exact absurd h.1 (by decide)
      · exact settle_effects base k _ (.inl (prompt_ok k))

/-- A transition the policy asks for when nobody is left. -/
theorem shouldEnd_effects {c : Coord κ} {uuid : Uuid} {space : Space}
    {k : AfterTransition κ} (hs : c.spaces.get? uuid = some space) :
    Effects base a c (SpaceService.transitionPromise c uuid space
      (SpaceLifecyclePolicy.shouldEnd space.status
        (SpaceService.subscriberCount c uuid) space.members.size) k) := by
  unfold SpaceLifecyclePolicy.shouldEnd
  split
  · rename_i hd
    have he : c.deserted uuid space := ⟨hd.1, hd.2.1, hd.2.2⟩
    simp only [SpaceService.transitionPromise,
      SpaceService.applyTransition, hd.1, reduceCtorEq, if_false,
      and_self, if_true]
    split
    · rename_i r hr
      exact .single (.beginEnd c k hs he hr)
    · rename_i hr
      exact Relation.ReflTransGen.head (.finishNow c hs he hr)
        (settle_effects _ k _ (.inl (prompt_ok k)))
  · exact settle_effects c k _ (.inl (prompt_ok k))

/-- A member has left: the space may end. -/
theorem notifyMemberLeft_effects (c : Coord κ) (uuid : Uuid) :
    Effects base a c (SpaceService.notifyMemberLeft c uuid) := by
  unfold SpaceService.notifyMemberLeft
  split
  · exact .refl
  · rename_i space hs
    exact shouldEnd_effects hs

/-- A space is created under a new uuid. -/
theorem onCreateSpaceRequest_effects {uuid : Uuid} (data : SpaceData)
    (policyType : String) (cb : κ) (h : base.spaces.get? uuid = none) :
    Effects base a base
      (SpaceService.onCreateSpaceRequest base uuid data policyType cb) := by
  unfold SpaceService.onCreateSpaceRequest
  split
  · exact emit_effects base rfl
  · exact Relation.ReflTransGen.head (.createSpace base uuid data _ h)
      (ackSync_effects _ cb _)

/-- Reading a space changes nothing. -/
theorem onReadSpaceRequest_effects (uuid : Uuid) (cb : κ) :
    Effects base a base (SpaceService.onReadSpaceRequest base uuid cb) := by
  unfold SpaceService.onReadSpaceRequest
  split
  · exact nackSync_effects base cb _
  · exact ackSync_effects base cb _

/-- Asking for a server picks one, and no more. -/
theorem onTryJoinSpaceRequest_effects (spaceUuid : Uuid) (cb : κ) :
    Effects base a base (onTryJoinSpaceRequest base spaceUuid cb) := by
  unfold onTryJoinSpaceRequest
  split
  · exact nackSync_effects base cb _
  · split
    · exact nackSync_effects base cb _
    · split
      · exact nackSync_effects base cb _
      · rename_i serverUrl strategy _
        have h : Effects base a base
            ({ base with serverStrategy := strategy }.emit
              (.ack cb (.tryJoinSpace serverUrl))) :=
          Relation.ReflTransGen.head (.workers _ _ strategy)
            (emit_effects _ rfl)
        dsimp only
        split
        · exact h
        · exact h.trans (nackSync_effects _ cb _)

/-- A subscription starts the space, waits for its router, or is answered. -/
theorem onSubscribeToSpaceRequest_effects (serverId : ServerId)
    (uuid : Uuid) (cb : κ)
    (ha : a = .subscribeToSpaceRequest serverId uuid cb) :
    Effects base a base
      (SpaceService.onSubscribeToSpaceRequest base serverId uuid cb) := by
  unfold SpaceService.onSubscribeToSpaceRequest
  split
  · exact nackSync_effects base cb _
  · rename_i space hs
    split
    · exact nackSync_effects base cb _
    · unfold SpaceService.transitionPromise
      split
      · rename_i dest hd
        obtain rfl : dest = .running := by
          simp only [SpaceLifecyclePolicy.onSubscribe] at hd
          split at hd
          · exact (Option.some.inj hd).symm
          · cases hd
        refine transitionToRun_effects (fun h => ?_) hs ⟨serverId, cb, rfl⟩
        rw [ha, Coord.allocates, Coord.statusOf, hs, Option.map_some, h,
          if_pos rfl]
      · exact settle_effects base _ _ (.inl (prompt_ok _))

/-- An unsubscription is recorded at once; the space may end. -/
theorem onUnsubscribeFromSpaceRequest_effects (serverId : ServerId)
    (uuid : Uuid) (cb : κ)
    (ha : a = .unsubscribeFromSpaceRequest serverId uuid cb) :
    Effects base a base
      (SpaceService.onUnsubscribeFromSpaceRequest base serverId uuid
        cb) := by
  unfold SpaceService.onUnsubscribeFromSpaceRequest
  split
  · exact nackSync_effects base cb _
  · rename_i space hs
    exact Relation.ReflTransGen.head (.unsubscribe serverId uuid ha)
      (shouldEnd_effects hs)

/-- A member is added once the space has a router. -/
theorem onAddMemberRequest_effects (serverId : ServerId) (uuid : Uuid)
    (data : MemberData) (state : MemberState) (cb : κ)
    (ha : a = .addMemberRequest serverId uuid data state cb) :
    Effects base a base (MemberService.onAddMemberRequest base serverId uuid
      data state cb) := by
  unfold MemberService.onAddMemberRequest
  split
  · rename_i hsub
    split
    · exact nackSync_effects base cb _
    · rename_i space hs
      refine allocate_effects (w := .addMember uuid data state cb) ?_ hs
        (fun h => by cases h) trivial
      rw [ha, Coord.allocates, if_pos hsub]
      rfl
  · exact nackSync_effects base cb _

/-- The consumer transports of a member are removed in order, until one is
missing. -/
theorem removeConsumers_effects {cb : κ} {id : MemberId} {member : Member}
    (ha : a = .removeMemberRequest id cb) (hm : id ∈ base.members.keys)
    (hh : base.memberHeap.get? id = some member) :
    ∀ (l : List (Option TransportId)) (c : Coord κ),
      c.memberHeap = base.memberHeap →
      (∀ e ∈ l, ∃ source, member.memberToConsumerMap.get? source = some e) →
      Effects base a c (MemberService.removeConsumers c l).1
  | [], _, _, _ => .refl
  | some t :: rest, c, hc, hl => by
      obtain ⟨source, hsrc⟩ := hl (some t) List.mem_cons_self
      refine Relation.ReflTransGen.head
        (.media (.dropTransport c ha hm hh hc (.inr ⟨source, hsrc⟩))) ?_
      exact removeConsumers_effects ha hm hh rest _ hc
        fun e he => hl e (List.mem_cons_of_mem _ he)
  | none :: _, _, _, _ => .refl

omit [Callback κ] in
/-- The members stay as they are meanwhile. -/
theorem removeConsumers_members : ∀ (l : List (Option TransportId))
    (c : Coord κ), (MemberService.removeConsumers c l).1.members = c.members ∧
      (MemberService.removeConsumers c l).1.memberHeap = c.memberHeap
  | [], _ => ⟨rfl, rfl⟩
  | some t :: rest, c =>
      removeConsumers_members rest (TransportAllocator.remove c t)
  | none :: _, _ => ⟨rfl, rfl⟩

/-- `onRemoveMemberRequest` from the loop over the consumers on, started in
`c` with the tables of `base`. -/
theorem removeRest_effects {cb : κ} {id : MemberId} {member : Member}
    {c : Coord κ} (ha : a = .removeMemberRequest id cb)
    (hm : id ∈ base.members.keys)
    (hh : base.memberHeap.get? id = some member)
    (hmc : c.members = base.members) (hhc : c.memberHeap = base.memberHeap) :
    Effects base a c
      (match MemberService.removeConsumers c
          (member.memberToConsumerMap.entries.map Prod.snd) with
        | (c, false) => c.emit
            (.thrown "Cannot read properties of undefined (reading 'id')")
        | (c, true) =>
            let c := MemberService.remove c id member
            let c := SpaceService.notifyMemberLeft c member.owningSpace
            c.ackSync cb .void) := by
  -- every entry that is removed is in the member's map
  have hl : ∀ e ∈ member.memberToConsumerMap.entries.map Prod.snd,
      ∃ source, member.memberToConsumerMap.get? source = some e := by
    intro e he
    obtain ⟨⟨source, e'⟩, hmem, rfl⟩ := List.mem_map.mp he
    exact ⟨source, JsMap.mem_entries.mp hmem⟩
  -- the consumers go first, and touch neither table of members
  have hr := removeConsumers_effects ha hm hh _ c hhc hl
  have hkeep := removeConsumers_members
    (member.memberToConsumerMap.entries.map Prod.snd) c
  generalize MemberService.removeConsumers c
    (member.memberToConsumerMap.entries.map Prod.snd) = p at hr hkeep ⊢
  obtain ⟨c', done⟩ := p
  -- an entry without a transport throws before the member is removed
  cases done with
  | false => exact hr.trans (emit_effects _ rfl)
  | true =>
    have hremove : Effect base a c' (MemberService.remove c' id member) :=
      .removeMember c' ha hm hh (hkeep.1.trans hmc) (hkeep.2.trans hhc)
    exact (hr.tail hremove).trans
      ((notifyMemberLeft_effects _ _).trans (ackSync_effects _ cb _))

/-- A removal: the transports, the member, and then the space may end. -/
theorem onRemoveMemberRequest_effects (id : MemberId) (cb : κ)
    (ha : a = .removeMemberRequest id cb) :
    Effects base a base
      (MemberService.onRemoveMemberRequest base id cb) := by
  unfold MemberService.onRemoveMemberRequest
  split
  · rename_i hm
    rw [JsMap.has_eq_true_iff_mem] at hm
    split
    · exact .refl
    · rename_i member hh
      cases ht : member.producer with
      | none => exact removeRest_effects ha hm hh rfl rfl
      | some t =>
        exact Relation.ReflTransGen.head
          (.media (.dropTransport base ha hm hh rfl (.inl ht)))
          (removeRest_effects ha hm hh rfl rfl)
  · exact nackSync_effects base cb _

/-- What is done with a transport that is allocated. -/
theorem withAllocated_effects (transport : Option TransportId) (cb : κ)
    {k : TransportId → TransportStatus → Coord κ}
    (hk : ∀ id t, base.transportHeap.get? id = some t →
      t.status ≠ .unallocated → Effects base a base (k id t.status)) :
    Effects base a base
      (SpaceUpdateDispatcher.withAllocated base transport cb k) := by
  unfold SpaceUpdateDispatcher.withAllocated
  split
  · exact nackSync_effects base cb _
  · rename_i id status h
    obtain ⟨id', -, h⟩ := Option.bind_eq_some_iff.mp h
    obtain ⟨t, ht, h⟩ := Option.map_eq_some_iff.mp h
    cases h
    split
    · exact nackSync_effects base cb _
    · rename_i hst
      exact hk id t ht hst

/-- An update of a space is published to a worker, or refused. -/
theorem onSpaceUpdate_effects (uuid : Uuid) (update : SpaceUpdateS)
    (cb : κ) :
    Effects base a base
      (SpaceUpdateDispatcher.onSpaceUpdate base uuid update cb) := by
  have hconnect : ∀ (memberId : MemberId) (dtls : Json) (id : TransportId)
      (t : Transport), base.transportHeap.get? id = some t →
      t.status ≠ .unallocated → Effects base a base
        (SpaceUpdateDispatcher.connect base uuid memberId dtls cb id
          t.status) := by
    intro memberId dtls id t ht hst
    unfold SpaceUpdateDispatcher.connect
    split
    · exact .refl
    · exact .single (.media (.publishUpdate _ _ _ _ ht hst))
  unfold SpaceUpdateDispatcher.onSpaceUpdate
  split
  · exact nackSync_effects base cb _
  · cases update <;> dsimp only <;> split <;>
      first
        | exact nackSync_effects base cb _
        | exact withAllocated_effects _ cb (hconnect _ _)
        | exact withAllocated_effects _ cb fun id t ht hst =>
            .single (.media (.publishUpdate _ _ _ _ ht hst))
        | skip
    -- the consume branch looks up the source member as well
    split
    · exact nackSync_effects base cb _
    · refine withAllocated_effects _ cb fun id t ht hst => ?_
      split
      · exact emit_effects base rfl
      · exact .single (.media (.publishUpdate _ _ _ _ ht hst))

/-! ## §4. Continuations as effects. -/

/-- A subscription is accepted. -/
theorem resumeSubscribe_effects {i : Nat} {serverId : ServerId}
    {uuid : Uuid} {cb : κ} (ha : a = .resume i)
    (ht : base.tasks[i]?
      = some (.transitioned (.subscribe serverId uuid cb) (.ok ()))) :
    Effects base a base
      (SpaceService.resumeSubscribe (base.without i) serverId uuid cb) := by
  have htake : Effects base a base (base.without i) :=
    .single (.take ha ht rfl)
  unfold SpaceService.resumeSubscribe
  -- a space that is not there accepts nobody
  split
  · exact htake
  · rename_i space hs
    have hs' : base.spaces.get? uuid = some space := hs
    -- without a router the request is nacked, with one it is subscribed
    split
    · rename_i hnone
      have hcaps : base.capabilitiesOf uuid = none := by
        rw [Coord.capabilitiesOf, hs', Option.bind_some]
        exact hnone
      refine htake.trans (nackThen_effects _ cb _ fun hthrow =>
        ⟨i, ha, _, ht, rfl, ?_⟩)
      rw [hcaps]
      exact hthrow
    · rename_i caps hsome
      have hcaps : base.capabilitiesOf uuid = some caps := by
        rw [Coord.capabilitiesOf, hs', Option.bind_some]
        exact hsome
      obtain ⟨r, hr, -⟩ := Option.bind_eq_some_iff.mp hsome
      refine Relation.ReflTransGen.head (.subscribe serverId uuid ha ht ?_)
        (ackThen_effects _ cb _ _ fun hthrow => ⟨i, ha, _, ht, rfl, ?_⟩)
      · rw [hs', Option.bind_some, hr]
        rfl
      · rw [hcaps]
        exact hthrow

/-- What goes on after a transition, by who waited for it. -/
theorem resumeTransitioned_effects {i : Nat} {k : AfterTransition κ}
    {result : Except String Unit} (ha : a = .resume i)
    (ht : base.tasks[i]? = some (.transitioned k result)) :
    Effects base a base
      (SpaceService.resumeTransitioned (base.without i) k result) := by
  have htake : Effects base a base (base.without i) :=
    .single (.take ha ht rfl)
  cases k with
  | memberLeft => exact htake
  | subscribe serverId uuid cb =>
      cases result with
      | error e => exact htake.trans (nackCatch_effects _ cb e)
      | ok _ => exact resumeSubscribe_effects ha ht
  | unsubscribe cb =>
      cases result with
      | error e => exact htake.trans (nackCatch_effects _ cb e)
      | ok _ =>
        exact htake.trans
          (ackThen_effects _ cb _ _ fun h => ⟨i, ha, _, ht, rfl, h⟩)

/-- What goes on when a router has come, or has not. -/
theorem resumeAllocated_effects {i : Nat} {w : RouterWaiter κ}
    {result : Except String RouterId} (ha : a = .resume i)
    (ht : base.tasks[i]? = some (.allocated w result)) :
    Effects base a base (resumeAllocated (base.without i) w result) := by
  cases result with
  | error e =>
      have htake : Effects base a base (base.without i) :=
        .single (.take ha ht rfl)
      cases w with
      | transition uuid k =>
          refine htake.trans (settle_effects _ k _ ?_)
          cases k with
          | subscribe => exact .inl trivial
          | memberLeft => exact .inl trivial
          | unsubscribe =>
              -- the router was not asked for by an unsubscribe
              exact .inr ⟨i, ha, _, ht, fun ⟨_, _, h⟩ => nomatch h⟩
      | addMember uuid data state cb =>
          exact htake.trans (nackCatch_effects _ cb _)
  | ok r =>
      cases w with
      | transition uuid k =>
          exact Relation.ReflTransGen.head (.run ha ht)
            (settle_effects _ k _ (.inl (prompt_ok k)))
      | addMember uuid data state cb =>
          exact Relation.ReflTransGen.head (.join ha ht)
            (ackThen_effects _ cb _ _ fun h => ⟨i, ha, _, ht, rfl, h⟩)

/-- **What a continuation does**, by its kind. -/
theorem resume_effects {i : Nat} {t : Task κ} (ha : a = .resume i)
    (ht : base.tasks[i]? = some t) :
    Effects base a base (resumeTask (base.without i) t) := by
  cases t with
  | allocated w result => exact resumeAllocated_effects ha ht
  | routerRemoved uuid k =>
      exact Relation.ReflTransGen.head (.finish ha ht)
        (settle_effects _ k _ (.inl (prompt_ok k)))
  | transitioned k result => exact resumeTransitioned_effects ha ht
  | producerAllocated id => exact .single (.media (.mesh ha ht))
  | caught cb message =>
      exact Relation.ReflTransGen.head (.take ha ht rfl)
        (nackCatch_effects _ cb message)

/-- **Every stretch is a chain of effects.** -/
theorem act_effects {c c' : Coord κ} {a : Action κ}
    (h : c.act a = some c') : Effects c a c c' := by
  -- one handler for each request, and one effect for each answer
  cases a with
  | createSpaceRequest uuid data policyType cb =>
      simp only [Coord.act] at h
      split at h
      · cases h
      · rename_i hn
        rw [Bool.not_eq_true, JsMap.has_eq_false_iff] at hn
        cases h
        exact onCreateSpaceRequest_effects data policyType cb hn
  | readSpaceRequest uuid cb =>
      cases h
      exact onReadSpaceRequest_effects uuid cb
  | subscribeToSpaceRequest serverId uuid cb =>
      cases h
      exact onSubscribeToSpaceRequest_effects serverId uuid cb rfl
  | unsubscribeFromSpaceRequest serverId uuid cb =>
      cases h
      exact onUnsubscribeFromSpaceRequest_effects serverId uuid cb rfl
  | addMemberRequest serverId uuid data state cb =>
      cases h
      exact onAddMemberRequest_effects serverId uuid data state cb rfl
  | removeMemberRequest id cb =>
      cases h
      exact onRemoveMemberRequest_effects id cb rfl
  | spaceUpdateStream uuid update cb =>
      cases h
      exact onSpaceUpdate_effects uuid update cb
  | tryJoinSpaceRequest spaceUuid cb =>
      cases h
      exact onTryJoinSpaceRequest_effects spaceUuid cb
  | signalingServerConnected serverId serverUrl =>
      cases h
      exact .single (.workers _ _ _)
  | signalingServerDisconnected serverId =>
      cases h
      exact .single (.workers _ _ _)
  | mediaWorkerConnected workerId =>
      cases h
      exact .single (.workers _ _ _)
  | mediaWorkerDisconnected workerId =>
      cases h
      exact .single (.workers _ _ _)
  | routerAck id caps =>
      obtain ⟨w, hw, rfl⟩ := Option.map_eq_some_iff.mp h
      exact .single (.routerAck rfl hw)
  | routerNack id message =>
      obtain ⟨w, hw, rfl⟩ := Option.map_eq_some_iff.mp h
      exact .single (.routerNack rfl hw)
  -- an answer is heard only while its request waits
  | transportAck id options =>
      simp only [Coord.act] at h
      split at h
      · rename_i hr
        cases h
        have hmem := JsMap.has_eq_true_iff_mem.mp hr
        exact .single (.media (.transportAck rfl hmem))
      · cases h
  | transportNack id message =>
      simp only [Coord.act] at h
      split at h
      · rename_i hr
        cases h
        have hmem := JsMap.has_eq_true_iff_mem.mp hr
        exact .single (.media (.transportNack rfl hmem))
      · cases h
  | updateAck id resp =>
      obtain ⟨r, hr, rfl⟩ := Option.map_eq_some_iff.mp h
      exact .single (.media (.updateAck rfl hr))
  | updateNack id message =>
      obtain ⟨r, hr, rfl⟩ := Option.map_eq_some_iff.mp h
      exact .single (.media (.updateNack rfl hr))
  -- a continuation has effects of its own
  | resume i =>
      obtain ⟨t, ht, rfl⟩ := Option.map_eq_some_iff.mp h
      exact resume_effects rfl ht

end Handlers

/-! ## §5. Invariants, effect by effect. -/

section Invariants

variable [Callback κ]

/-- An invariant kept by every effect is kept by every stretch.  The
effects may use that it held where the stretch began. -/
theorem act_invariant (I : Coord κ → Prop) {c c' : Coord κ} {a : Action κ}
    (hI : I c) (h : c.act a = some c')
    (step : ∀ d d', Effect c a d d' → I d → I d') : I c' := by
  have he := act_effects h
  clear h
  induction he with
  | refl => exact hI
  | tail _ he ih => exact step _ _ he ih

/-- An invariant of the state that does not read the outbox and is kept by
every effect holds in every reachable state. -/
theorem reachable_invariant (I : Coord κ → Prop)
    (hout : ∀ c out, I c → I { c with out }) (init : I Coord.initial)
    (step : ∀ c a d d', I c → Effect c a d d' → I d → I d')
    {c : Coord κ} (h : (machine κ).Reachable c) : I c := by
  refine h.invariant I (fun s hs => ?_) fun s a s' obs hI hs => ?_
  · obtain rfl : s = Coord.initial := hs
    exact init
  · obtain ⟨c', hc', hp⟩ := Option.map_eq_some_iff.mp hs
    cases hp
    exact act_invariant I (hout s [] hI) hc'
      fun d d' he => step _ a d d' (hout s [] hI) he

/-- The same for guarded runs and their observations: `I tr c` reads the
observations `tr ++ c.out`, and a stretch starts with an empty outbox. -/
theorem run_invariant {G : Guard (Coord κ) (Action κ) (Out κ)}
    (hG : ∀ tr c a out, G tr c a → G tr { c with out } a)
    (I : List (Out κ) → Coord κ → Prop) (init : I [] Coord.initial)
    (flush : ∀ tr c, I tr c → I (tr ++ c.out) { c with out := [] })
    (step : ∀ tr c a d d', c.out = [] → G tr c a → I tr c →
      Effect c a d d' → I tr d → I tr d')
    {past : List (Coord κ)} {c : Coord κ} {tr : List (Out κ)}
    (h : (machine κ).Run G past c tr) : I tr { c with out := [] } := by
  refine h.invariant (fun s tr => I tr { s with out := [] })
    (fun s hs => ?_) fun s tr a s' obs hI hg hs => ?_
  · obtain rfl : s = Coord.initial := hs
    exact init
  · obtain ⟨c', hc', hp⟩ := Option.map_eq_some_iff.mp hs
    cases hp
    exact flush tr _ (act_invariant (I tr) hI hc'
      fun d d' he => step tr _ a d d' rfl (hG tr s a [] hg) hI he)

end Invariants

end Twolk.Coordinator

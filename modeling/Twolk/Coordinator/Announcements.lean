/-
  Twolk.Coordinator.Announcements
  ───────────────────────────────
  **WHAT THE COORDINATOR TELLS THE SIGNALING SERVERS, AND WHEN.**

  There are two `C:` space updates.  `C:transportParamsEvent` is published
  when a worker acks a transport, and names the transport's owner and, for a
  consumer, the owner of the transport it consumes from.
  `C:producerConnectedEvent` is published when a worker acks a produce,
  whatever the status of the transport.

  Main results:
    * `announcement_act` — no other stretch announces anything,
    * `producerConnected_act` — a member whose producer is connected keeps
      it connected,
    * `stateOf_act` — a member's state is the one it was added with.
-/
import Twolk.Coordinator.Handshakes
import Twolk.Coordinator.Mesh

namespace Twolk

/-- The update asks a worker to produce. -/
def TransportUpdateC.isProduce : TransportUpdateC → Bool
  | .transportProducerProduceEvent .. => true
  | _ => false

end Twolk

namespace Twolk.Coordinator

open Twolk.Lib

variable {κ : Type}

/-! ## §1. Announcements. -/

/-- What the stretch of an action may announce, and to the subscribers of
which space. -/
inductive Coord.Announcement (c : Coord κ) :
    Action κ → Uuid → SpaceUpdateC → Prop
  | params {id : TransportId} {options : Json} {T : Transport}
      {source : Option MemberId} {uuid : Uuid}
      (h : id ∈ c.transportRequests.keys)
      (hT : c.transportHeap.get? id = some T)
      (hs : c.consumesFromMember T = some source)
      (hu : c.routerOwner T.owningRouter = some uuid) :
      c.Announcement (.transportAck id options) uuid
        (.transportParamsEvent T.owningMember source options)
  | connected {id : Nat} {r : UpdateRequest κ} {resp : TransportUpdateAck}
      (hr : c.updateRequests.get? id = some r)
      (hp : r.update.isProduce = true)
      (hs : SpaceService.hasSubscribers c r.uuid = true) :
      c.Announcement (.updateAck id resp) r.uuid
        (.producerConnectedEvent r.memberId)

/-- All that `c` announces is among `P`. -/
def Coord.AnnouncesOnly (P : Uuid → SpaceUpdateC → Prop) (c : Coord κ) :
    Prop :=
  ∀ uuid update, .spaceUpdate uuid update ∈ c.out → P uuid update

section Announced

variable {base c c' : Coord κ} {P : Uuid → SpaceUpdateC → Prop}

/-- What is observed next is allowed, so all that was observed is. -/
theorem Coord.AnnouncesOnly.append {l : List (Out κ)}
    (h : c.AnnouncesOnly P) (hout : c'.out = c.out ++ l)
    (hl : ∀ uuid update, .spaceUpdate uuid update ∈ l → P uuid update) :
    c'.AnnouncesOnly P := by
  intro uuid update hm
  rw [hout] at hm
  rcases List.mem_append.mp hm with hm | hm
  · exact h uuid update hm
  · exact hl uuid update hm

/-- What has been announced is read off the output. -/
theorem Coord.AnnouncesOnly.of_out (h : c.AnnouncesOnly P)
    (hout : c'.out = c.out) : c'.AnnouncesOnly P := by
  intro uuid update hm
  rw [hout] at hm
  exact h uuid update hm

/-- Nothing is announced with an answer. -/
theorem Coord.AnnouncesOnly.replied {l : List (Out κ)}
    (h : c.AnnouncesOnly P) (hout : c'.out = c.out ++ l)
    (hl : ∀ o ∈ l, o.replies = true) : c'.AnnouncesOnly P := by
  refine h.append hout fun uuid update hm => ?_
  have hno := hl _ hm
  cases hno

/-- What is announced with params is the transport that has just been
allocated. -/
theorem mem_paramsEvents {T : Transport} {source : Option MemberId}
    {options : Json} {uuid : Uuid} {update : SpaceUpdateC}
    (h : .spaceUpdate uuid update ∈ c.paramsEvents T source options) :
    c.routerOwner T.owningRouter = some uuid ∧
      update = .transportParamsEvent T.owningMember source options := by
  unfold Coord.paramsEvents at h
  split at h
  · cases h
  · rename_i uuid' hu
    split at h
    · cases List.mem_singleton.mp h
      exact ⟨hu, rfl⟩
    · cases h

variable [Callback κ] {a : Action κ}

/-- A nack announces nothing. -/
theorem answerNack_announces (h : c.AnnouncesOnly P) (r : UpdateRequest κ)
    (message : String) :
    (SpaceUpdateDispatcher.answerNack c r message).AnnouncesOnly P := by
  obtain ⟨l, heq, hl⟩ := answerNack_eq c r message
  rw [heq]
  exact h.replied rfl hl

theorem answerAck_announces (h : c.AnnouncesOnly P) (r : UpdateRequest κ)
    (resp : Response) {k : Coord κ → Coord κ}
    (hk : (c.emit (.ack r.cb resp)).AnnouncesOnly P →
      (k (c.emit (.ack r.cb resp))).AnnouncesOnly P) :
    (SpaceUpdateDispatcher.answerAck c r resp k).AnnouncesOnly P := by
  have hack : (c.emit (.ack r.cb resp)).AnnouncesOnly P :=
    h.replied rfl (by simp [Out.replies])
  unfold SpaceUpdateDispatcher.answerAck
  dsimp only
  split
  · exact hk hack
  · exact answerNack_announces hack r _

/-- Of the updates a worker acks, only a produce is announced. -/
theorem onUpdateAck_announces {id : Nat} {r : UpdateRequest κ}
    {resp : TransportUpdateAck} (hr : base.updateRequests.get? id = some r)
    (h : base.AnnouncesOnly (base.Announcement (.updateAck id resp))) :
    (SpaceUpdateDispatcher.onUpdateAck base id r resp).AnnouncesOnly
      (base.Announcement (.updateAck id resp)) := by
  unfold SpaceUpdateDispatcher.onUpdateAck
  dsimp only
  split
  · exact answerAck_announces (h.of_out (by rfl)) r _ fun hc => hc
  · rename_i kind rtpParameters hp
    refine answerAck_announces (h.of_out (by rfl)) r _ fun hc => ?_
    split
    · rename_i hs
      refine hc.append rfl fun uuid update hm => ?_
      cases List.mem_singleton.mp hm
      exact .connected hr (by rw [hp]; rfl) hs
    · exact hc
  · exact answerAck_announces (h.of_out (by rfl)) r _ fun hc => hc
  · exact answerAck_announces (h.of_out (by rfl)) r _ fun hc => hc

/-- What the media services announce is the params of a transport just acked.
-/
theorem announcement_media (hwf : CoordWF base)
    (h : MediaEffect base a c c')
    (hI : c.AnnouncesOnly (base.Announcement a)) :
    c'.AnnouncesOnly (base.Announcement a) := by
  cases h with
  | @emit _ o ho =>
      refine hI.replied rfl fun o' hm => ?_
      rw [List.mem_singleton.mp hm]
      exact ho
  | answer | dropTransport | transportNack => exact hI
  -- the requests of a mesh announce nothing but themselves
  | mesh ha ht =>
      obtain ⟨T, uuid, -, -, -, heq⟩ := mesh_eq hwf.transport hwf.member ht
      obtain ⟨-, -, -, hout⟩ := requestAll_published T.owningRouter
        (meshEdges base uuid T.owningMember _)
        ((base.without _).emit (.consumersAllocated T.owningMember))
      rw [heq]
      refine Coord.AnnouncesOnly.append (hI.append rfl ?_) hout ?_
      · intro uuid update hm
        cases List.mem_singleton.mp hm
      · intro uuid update hm
        obtain ⟨t, -, ht⟩ := List.mem_map.mp hm
        cases ht
  -- an ack announces its own transport, to its own members
  | @transportAck id options ha hm =>
      subst ha
      obtain ⟨T, hT, -⟩ := hwf.transport.requested id hm
      rw [onTransportAck_eq options hT (hwf.transport.source_ne hT)]
      refine hI.append rfl fun uuid update ho => ?_
      rcases List.mem_cons.mp ho with ho | ho
      · cases ho
      · -- a consumer whose producing transport is gone announces nothing
        cases hs : base.consumesFromMember T with
        | none =>
            rw [hs] at ho
            cases ho
        | some source =>
            rw [hs] at ho
            obtain ⟨hu, rfl⟩ := mem_paramsEvents ho
            exact .params hm hT hs hu
  | publishUpdate =>
      refine hI.append rfl fun uuid update hm => ?_
      cases List.mem_singleton.mp hm
  | updateAck ha hr =>
      subst ha
      exact onUpdateAck_announces hr hI
  | @updateNack id r message =>
      unfold SpaceUpdateDispatcher.onUpdateNack
      exact answerNack_announces (hI.of_out (by rfl)) r message

/-- Every effect announces what its action is about. -/
theorem announcement_effect (hwf : CoordWF base) (h : Effect base a c c')
    (hI : c.AnnouncesOnly (base.Announcement a)) :
    c'.AnnouncesOnly (base.Announcement a) := by
  -- what an effect adds here is one message that is no update
  have hone : ∀ {c c' : Coord κ} {o : Out κ},
      c.AnnouncesOnly (base.Announcement a) → c'.out = c.out ++ [o] →
      (∀ uuid update, o ≠ .spaceUpdate uuid update) →
      c'.AnnouncesOnly (base.Announcement a) := by
    intro c c' o hc hout ho
    refine hc.append hout fun uuid update hm => ?_
    exact absurd (List.mem_singleton.mp hm).symm (ho uuid update)
  cases h with
  | media h => exact announcement_media hwf h hI
  | createSpace | subscribe | unsubscribe | workers | routerNack | take
    | run | removeMember => exact hI
  | resolve | request | finishNow =>
      exact hone hI rfl fun _ _ ho => nomatch ho
  | routerAck ha hw =>
      rw [onRouterAck_eq hwf.router _ hw]
      exact hone hI rfl fun _ _ ho => nomatch ho
  -- the end of a space clears its router and calls `onEnded`
  | @finish i uuid k =>
      have hcleared : ((base.without i).emit
          (.routerCleared uuid)).AnnouncesOnly (base.Announcement a) :=
        hone hI rfl fun _ _ ho => nomatch ho
      exact hone hcleared rfl fun _ _ ho => nomatch ho
  | @beginEnd _ uuid space r =>
      obtain ⟨transports, routers, l, heq, hl⟩ := remove_eq c r
      rw [heq]
      refine hI.append rfl fun uuid update hm => ?_
      obtain ⟨uuid', ho⟩ := hl _ hm
      cases ho
  | @join i uuid data state =>
      have hadded : (MemberService.add (base.without i) data state
          uuid).AnnouncesOnly (base.Announcement a) :=
        hone hI rfl fun _ _ ho => nomatch ho
      exact hone hadded rfl fun _ _ ho => nomatch ho

/-- **What a stretch announces.** -/
theorem announcement_act (hwf : CoordWF base) (hout : base.out = [])
    (h : base.act a = some c') :
    c'.AnnouncesOnly (base.Announcement a) := by
  refine act_invariant _ ?_ h fun _ _ he hI => announcement_effect hwf he hI
  intro uuid update hm
  rw [hout] at hm
  cases hm

end Announced

/-! ## §2. Connected producers. -/

/-- The producer transport of `m` is connected. -/
def Coord.producerConnected (c : Coord κ) (m : MemberId) : Prop :=
  (c.producerOf m).bind c.transportStatus = some .connected

instance (c : Coord κ) (m : MemberId) : Decidable (c.producerConnected m) :=
  inferInstanceAs (Decidable (_ = _))

section Producers

variable {base c c' : Coord κ} {m : MemberId} {p : TransportId}

/-- A stretch that leaves the members alone keeps their producers. -/
theorem producerOf_of_eq (h : c'.memberHeap = c.memberHeap)
    (hp : c.producerOf m = some p) : c'.producerOf m = some p := by
  rwa [Coord.producerOf, h]

variable [Callback κ] {a : Action κ}

/-- The media services keep the producer of a member. -/
theorem producerOf_media (hwf : CoordWF base) (h : MediaEffect base a c c')
    (hp : c.producerOf m = some p) : c'.producerOf m = some p := by
  cases h with
  | emit | answer | dropTransport | transportNack | publishUpdate =>
      exact hp
  | mesh ha ht =>
      obtain ⟨T, uuid, -, -, -, heq⟩ := mesh_eq hwf.transport hwf.member ht
      rw [heq]
      exact producerOf_of_eq (requestAll_tables _ _ _).1 hp
  | @transportAck id options ha hm =>
      obtain ⟨T, hT, -⟩ := hwf.transport.requested id hm
      rw [(onTransportAck_spec options hT
        (hwf.transport.source_ne hT)).producerOf]
      exact hp
  | @updateAck id r resp =>
      obtain ⟨heap, l, heq, -, -⟩ := onUpdateAck_eq base id r resp
      rw [heq]
      exact hp
  | @updateNack id r message =>
      obtain ⟨l, heq, -⟩ := onUpdateNack_eq base id r message
      rw [heq]
      exact hp

/-- A member keeps its producer for good. -/
theorem producerOf_effect (hwf : CoordWF base) (h : Effect base a c c')
    (hp : c.producerOf m = some p) : c'.producerOf m = some p := by
  cases h with
  | media h => exact producerOf_media hwf h hp
  | createSpace | subscribe | unsubscribe | workers | resolve | request
    | routerNack | take | run | finish | finishNow | removeMember =>
      exact hp
  | routerAck ha hw =>
      rw [onRouterAck_eq hwf.router _ hw]
      exact hp
  | @beginEnd _ uuid space r =>
      obtain ⟨transports, routers, l, heq, -⟩ := remove_eq c r
      rw [heq]
      exact hp
  | @join i uuid data state cb r =>
      have hne : m ≠ base.memberIdGen := by
        rintro rfl
        have hnew := hwf.member.spaceOf_new
        unfold Coord.spaceOf at hnew
        unfold Coord.producerOf at hp
        rw [Option.map_eq_none_iff.mp hnew] at hp
        cases hp
      have hjoin := (join_spec (base.without i) uuid data state r).producerOf m
      exact hjoin.trans ((if_neg hne).trans hp)

/-- A member keeps its producer transport. -/
theorem producerOf_act (hwf : CoordWF base) (h : base.act a = some c')
    (hp : base.producerOf m = some p) : c'.producerOf m = some p :=
  act_invariant (fun c => c.producerOf m = some p) hp h
    fun _ _ he hc => producerOf_effect hwf he hc

/-- **A connected producer stays connected.** -/
theorem producerConnected_act (hwf : CoordWF base)
    (h : base.act a = some c') (hm : base.producerConnected m) :
    c'.producerConnected m := by
  obtain ⟨p, hp, hst⟩ := Option.bind_eq_some_iff.mp hm
  exact Option.bind_eq_some_iff.mpr
    ⟨p, producerOf_act hwf h hp, connected_act hwf h hst⟩

end Producers

/-! ## §3. Member states. -/

/-- The state of a member record. -/
def Coord.stateOf (c : Coord κ) (m : MemberId) : Option MemberState :=
  (c.memberHeap.get? m).map Member.state

theorem MediaFrame.stateOf {c c' : Coord κ} (h : MediaFrame c c')
    (m : MemberId) : c'.stateOf m = c.stateOf m := by
  have hframe := congrArg (Option.map fun e => e.2.2) (h.memberHeap m)
  rw [Option.map_map, Option.map_map] at hframe
  exact hframe

section States

variable [Callback κ] {base c c' : Coord κ} {a : Action κ}

/-- Where a member's state comes from: it had it before, or was added with
it. -/
def Coord.StateFrom (base c : Coord κ) : Prop :=
  ∀ m state, c.stateOf m = some state → base.stateOf m = some state ∨
    ∃ uuid data cb, Waiting.addMember uuid data state cb ∈ base.waiting

/-- The state of a member changes with updates of it only. -/
theorem stateOf_effect (h : Effect base a c c') (hI : base.StateFrom c) :
    base.StateFrom c' := by
  cases h with
  | media h =>
      intro m state hm
      rw [h.frame.stateOf] at hm
      exact hI m state hm
  | createSpace | subscribe | unsubscribe | workers | resolve | request
    | routerNack | take | run | finish | finishNow | removeMember =>
      exact hI
  | routerAck =>
      unfold RouterAllocator.onRouterAck
      split <;> exact hI
  | @beginEnd _ uuid space r =>
      obtain ⟨transports, routers, l, heq, -⟩ := remove_eq c r
      rw [heq]
      exact hI
  | @join i uuid data state cb r ha ht =>
      intro m state' hm
      have hjoin := (join_spec (base.without i) uuid data state r).memberHeap m
      have hm := (congrArg (Option.map Member.state) hjoin).symm.trans hm
      split at hm
      · cases hm
        refine .inr ⟨uuid, data, cb, List.mem_append_right _ ?_⟩
        exact List.mem_filterMap.mpr ⟨_, List.mem_of_getElem? ht, rfl⟩
      · exact hI m state' hm

/-- **A member's state is the one it was added with.** -/
theorem stateOf_act (h : base.act a = some c') : base.StateFrom c' :=
  act_invariant base.StateFrom (fun _ _ hm => .inl hm) h
    fun _ _ he hI => stateOf_effect he hI

end States

end Twolk.Coordinator

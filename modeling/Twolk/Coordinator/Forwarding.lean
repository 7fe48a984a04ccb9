/-
  Twolk.Coordinator.Forwarding
  ────────────────────────────
  **WHAT A FORWARDED CLIENT MESSAGE MAKES A WORKER DO.**

  `onSpaceUpdate` has five branches of one shape.  `targetOf` is the
  transport a branch is about, and `onSpaceUpdate_cases` says once what all
  of them can do: refuse, publish one update for the target, or answer
  nothing at all (a connect of a connected transport).

  The transport a member's message is about is that member's own
  (`targetOf_owned`), whatever source the client names.
-/
import Twolk.Coordinator.Transports

namespace Twolk

open Twolk.Lib

/-! ## §1. The target of a message. -/

/-- The member whose message it is. -/
def SpaceUpdateS.memberId : SpaceUpdateS → MemberId
  | .memberProducerConnectEvent memberId _
  | .memberProducerProduceEvent memberId _ _
  | .memberConsumerConnectEvent memberId _ _
  | .memberConsumerConsumeEvent memberId _ _
  | .memberConsumerResumeEvent memberId _ => memberId

/-- The update connects a transport. -/
def SpaceUpdateS.isConnect : SpaceUpdateS → Bool
  | .memberProducerConnectEvent .. | .memberConsumerConnectEvent .. => true
  | _ => false

/-- The request connects a transport. -/
def TransportUpdateC.isConnect : TransportUpdateC → Bool
  | .transportConnectEvent _ => true
  | _ => false

namespace Coordinator

variable {κ : Type}

/-- The transport of `member` a message is about. -/
def Member.transportFor (member : Member) :
    SpaceUpdateS → Option TransportId
  | .memberProducerConnectEvent .. | .memberProducerProduceEvent .. =>
      member.producer
  | .memberConsumerConnectEvent _ _ sourceMemberId
  | .memberConsumerConsumeEvent _ _ sourceMemberId
  | .memberConsumerResumeEvent _ sourceMemberId =>
      SpaceUpdateDispatcher.consumerOf member sourceMemberId

/-- The transport a message to `uuid` is about. -/
def Coord.targetOf (c : Coord κ) (uuid : Uuid) (update : SpaceUpdateS) :
    Option TransportId :=
  ((c.spaces.get? uuid).bind fun space =>
    SpaceUpdateDispatcher.findMember c space update.memberId).bind
      fun member => member.transportFor update

/-- The producing transport a consume message to `uuid` names: that of the
source member, when it is in the space. -/
def Coord.namedSource (c : Coord κ) (uuid : Uuid) :
    SpaceUpdateS → Option (Option TransportId)
  | .memberConsumerConsumeEvent _ _ sourceMemberId =>
      ((c.spaces.get? uuid).bind fun space =>
        SpaceUpdateDispatcher.findMember c space sourceMemberId).map
          Member.producer
  | _ => none

/-- `u` is what the dispatcher makes of `update`, for a target in
`status`. -/
inductive Coord.Forwards (c : Coord κ) (uuid : Uuid)
    (status : TransportStatus) : SpaceUpdateS → TransportUpdateC → Prop
  | connect {update : SpaceUpdateS} (dtlsParameters : Json)
      (hc : update.isConnect = true) (hs : status ≠ .connected) :
      Forwards c uuid status update (.transportConnectEvent dtlsParameters)
  | produce (memberId : MemberId) (kind rtpParameters : Json) :
      Forwards c uuid status
        (.memberProducerProduceEvent memberId kind rtpParameters)
        (.transportProducerProduceEvent kind rtpParameters)
  | consume {memberId sourceMemberId : MemberId} {rtpCapabilities : Json}
      {producer : TransportId}
      (hp : c.namedSource uuid (.memberConsumerConsumeEvent memberId
        rtpCapabilities sourceMemberId) = some (some producer)) :
      Forwards c uuid status
        (.memberConsumerConsumeEvent memberId rtpCapabilities sourceMemberId)
        (.transportConsumerConsumeEvent rtpCapabilities producer)
  | resume (memberId sourceMemberId : MemberId) :
      Forwards c uuid status
        (.memberConsumerResumeEvent memberId sourceMemberId)
        .transportConsumerResumeEvent

/-- What the dispatcher forwards does not depend on what was observed before.
-/
theorem Coord.Forwards.of_out {c : Coord κ} {out : List (Out κ)}
    {uuid : Uuid} {status : TransportStatus} {update : SpaceUpdateS}
    {u : TransportUpdateC}
    (h : Coord.Forwards { c with out } uuid status update u) :
    c.Forwards uuid status update u := by
  cases h with
  | connect dtlsParameters hc hs => exact .connect dtlsParameters hc hs
  | produce => exact .produce _ _ _
  | consume hp => exact .consume hp
  | resume => exact .resume _ _

/-- What the dispatcher does with a message. -/
inductive Dispatched [Callback κ] (c : Coord κ) (uuid : Uuid)
    (update : SpaceUpdateS) (cb : κ) : Coord κ → Prop
  | refused (message : String) :
      Dispatched c uuid update cb (c.nackSync cb message)
  /-- A connected transport is not connected again, and not answered. -/
  | connected {t : TransportId} {T : Transport}
      (htarget : c.targetOf uuid update = some t)
      (ht : c.transportHeap.get? t = some T) (hs : T.status = .connected)
      (hc : update.isConnect = true) : Dispatched c uuid update cb c
  /-- `sourceMember.producer!.id` of a member without a producer. -/
  | thrown {e : String} (hn : c.namedSource uuid update = some none) :
      Dispatched c uuid update cb (c.emit (.thrown e))
  | published {t : TransportId} {T : Transport} {u : TransportUpdateC}
      (htarget : c.targetOf uuid update = some t)
      (ht : c.transportHeap.get? t = some T) (hs : T.status ≠ .unallocated)
      (hu : c.Forwards uuid T.status update u) :
      Dispatched c uuid update cb (SpaceUpdateDispatcher.publish c t u uuid
        update.memberId cb)

/-! ## §2. The dispatcher, once. -/

section Dispatch

variable [Callback κ] {c : Coord κ} {uuid : Uuid} {update : SpaceUpdateS}
  {cb : κ}

/-- The check in front of every branch: the transport is allocated, or the
update is refused. -/
theorem withAllocated_dispatched (update : SpaceUpdateS) {member : Member}
    (hm : ((c.spaces.get? uuid).bind fun space =>
      SpaceUpdateDispatcher.findMember c space update.memberId)
        = some member)
    {k : TransportId → TransportStatus → Coord κ}
    (hk : ∀ t T, c.targetOf uuid update = some t →
      c.transportHeap.get? t = some T → T.status ≠ .unallocated →
      Dispatched c uuid update cb (k t T.status)) :
    Dispatched c uuid update cb (SpaceUpdateDispatcher.withAllocated c
      (member.transportFor update) cb k) := by
  unfold SpaceUpdateDispatcher.withAllocated
  split
  · exact .refused _
  · rename_i id status h
    obtain ⟨id', hid, h⟩ := Option.bind_eq_some_iff.mp h
    obtain ⟨T, hT, h⟩ := Option.map_eq_some_iff.mp h
    cases h
    have htarget : c.targetOf uuid update = some id := by
      rw [Coord.targetOf, hm]
      exact hid
    split
    · exact .refused _
    · rename_i hst
      exact hk id T htarget hT hst

/-- A connect is forwarded once; later ones are answered at once. -/
theorem connect_dispatched {t : TransportId} {T : Transport}
    (dtlsParameters : Json) (hc : update.isConnect = true)
    (htarget : c.targetOf uuid update = some t)
    (ht : c.transportHeap.get? t = some T) (hs : T.status ≠ .unallocated) :
    Dispatched c uuid update cb (SpaceUpdateDispatcher.connect c uuid
      update.memberId dtlsParameters cb t T.status) := by
  unfold SpaceUpdateDispatcher.connect
  split
  · rename_i hst
    exact .connected htarget ht hst hc
  · rename_i hst
    exact .published htarget ht hs (.connect dtlsParameters hc hst)

/-- **The dispatcher's specification.** -/
theorem onSpaceUpdate_dispatched (c : Coord κ) (uuid : Uuid)
    (update : SpaceUpdateS) (cb : κ) :
    Dispatched c uuid update cb
      (SpaceUpdateDispatcher.onSpaceUpdate c uuid update cb) := by
  unfold SpaceUpdateDispatcher.onSpaceUpdate
  split
  · exact .refused _
  · rename_i space hs
    -- `namedSource` looks members up in the same space
    have hfind : ∀ {m : MemberId} {member : Member},
        SpaceUpdateDispatcher.findMember c space m = some member →
        ((c.spaces.get? uuid).bind fun space =>
          SpaceUpdateDispatcher.findMember c space m) = some member := by
      intro m member hm
      rw [hs, Option.bind_some, hm]
    -- by the kind of update: members are looked up first, the transport next
    cases update with
    | memberProducerConnectEvent memberId dtlsParameters =>
        dsimp only
        split
        · exact .refused _
        · rename_i member hm
          exact withAllocated_dispatched
            (.memberProducerConnectEvent memberId dtlsParameters)
            (hfind hm) fun t T => connect_dispatched dtlsParameters rfl
    | memberProducerProduceEvent memberId kind rtpParameters =>
        dsimp only
        split
        · exact .refused _
        · rename_i member hm
          exact withAllocated_dispatched
            (.memberProducerProduceEvent memberId kind
              rtpParameters)
            (hfind hm) fun t T htarget ht hst =>
              .published htarget ht hst (.produce _ _ _)
    | memberConsumerConnectEvent memberId dtlsParameters sourceMemberId =>
        dsimp only
        split
        · exact .refused _
        · rename_i member hm
          exact withAllocated_dispatched
            (.memberConsumerConnectEvent memberId dtlsParameters
              sourceMemberId)
            (hfind hm) fun t T => connect_dispatched dtlsParameters rfl
    | memberConsumerConsumeEvent memberId rtpCapabilities sourceMemberId =>
        dsimp only
        split
        · exact .refused _
        · rename_i member hm
          -- a consume looks a second member up, whose producer it needs
          split
          · exact .refused _
          · rename_i sourceMember hsrc
            have hnamed : c.namedSource uuid (.memberConsumerConsumeEvent
                memberId rtpCapabilities sourceMemberId)
                  = some sourceMember.producer := by
              rw [Coord.namedSource, hfind hsrc]
              rfl
            refine withAllocated_dispatched
              (.memberConsumerConsumeEvent memberId
                rtpCapabilities sourceMemberId)
              (hfind hm) fun t T htarget ht hst => ?_
            split
            · rename_i hp
              exact .thrown (hnamed.trans (congrArg some hp))
            · rename_i producer hp
              exact .published htarget ht hst
                (.consume (hnamed.trans (congrArg some hp)))
    | memberConsumerResumeEvent memberId sourceMemberId =>
        dsimp only
        split
        · exact .refused _
        · rename_i member hm
          exact withAllocated_dispatched
            (.memberConsumerResumeEvent memberId sourceMemberId)
            (hfind hm) fun t T htarget ht hst =>
              .published htarget ht hst (.resume _ _)

end Dispatch

/-! ## §3. Messages are about the member's own transports. -/

section Owned

variable {c : Coord κ} {uuid : Uuid} {update : SpaceUpdateS}

/-- A member that is found is in the space. -/
theorem mem_of_findMember {m : MemberId} {member : Member}
    (h : ((c.spaces.get? uuid).bind fun space =>
      SpaceUpdateDispatcher.findMember c space m) = some member) :
    m ∈ c.membersOf uuid ∧ c.memberHeap.get? m = some member := by
  obtain ⟨space, hs, h⟩ := Option.bind_eq_some_iff.mp h
  unfold SpaceUpdateDispatcher.findMember at h
  split at h
  · rename_i hm
    rw [JsMap.has_eq_true_iff_mem] at hm
    rw [Coord.membersOf, hs]
    exact ⟨hm, h⟩
  · cases h

/-- An entry of a consumer map is a consumer of its owner's, and consumes
from the member it is filed under. -/
theorem consumerOf_owned (hwf : TransportWF c) {m b : MemberId}
    {member : Member} {t : TransportId}
    (hm : c.memberHeap.get? m = some member)
    (ht : SpaceUpdateDispatcher.consumerOf member b = some t) :
    ∃ T s, c.transportHeap.get? t = some T ∧ T.owningMember = m ∧
      T.consumesFromTransportId = some s ∧ c.producerOf b = some s := by
  have hb : member.memberToConsumerMap.get? b = some (some t) :=
    Option.join_eq_some_iff.mp ht
  obtain ⟨T, s, S, hT, hown, -, hs, hS, hSb⟩ :=
    hwf.consumers m member b t hm hb
  obtain ⟨S', hS', hn, -⟩ := hwf.source t T s hT hs
  have hp := hwf.isProducer s S' hS' hn
  rw [hS] at hS'
  cases hS'
  exact ⟨T, s, hT, hown, hs, hSb ▸ hp⟩

/-- **A message is about a transport of its own member.** -/
theorem targetOf_owned (hwf : TransportWF c) {t : TransportId}
    (h : c.targetOf uuid update = some t) :
    ∃ T, c.transportHeap.get? t = some T ∧
      T.owningMember = update.memberId := by
  obtain ⟨member, hfind, ht⟩ := Option.bind_eq_some_iff.mp h
  obtain ⟨-, hm⟩ := mem_of_findMember hfind
  have hproducer : ∀ {m : MemberId}, c.memberHeap.get? m = some member →
      member.producer = some t →
      ∃ T, c.transportHeap.get? t = some T ∧ T.owningMember = m := by
    intro m hm hp
    obtain ⟨p, T, hp', hT, hown, -⟩ := hwf.producer m member.owningSpace
      (by rw [Coord.spaceOf, hm]; rfl)
    rw [Coord.producerOf, hm, Option.bind_some, hp] at hp'
    cases hp'
    exact ⟨T, hT, hown⟩
  have hconsumer : ∀ {m b : MemberId}, c.memberHeap.get? m = some member →
      SpaceUpdateDispatcher.consumerOf member b = some t →
      ∃ T, c.transportHeap.get? t = some T ∧ T.owningMember = m := by
    intro m b hm hb
    obtain ⟨T, s, hT, hown, -⟩ := consumerOf_owned hwf hm hb
    exact ⟨T, hT, hown⟩
  cases update with
  | memberProducerConnectEvent | memberProducerProduceEvent =>
      exact hproducer hm ht
  | memberConsumerConnectEvent | memberConsumerConsumeEvent
    | memberConsumerResumeEvent => exact hconsumer hm ht

/-- **A consume names the producer its target was allocated for**: that of
a member of the space. -/
theorem consume_source (hwf : TransportWF c) {t : TransportId}
    {T : Transport} {rtpCapabilities : Json} {producer : TransportId}
    {status : TransportStatus} (h : c.targetOf uuid update = some t)
    (hT : c.transportHeap.get? t = some T)
    (hu : c.Forwards uuid status update
      (.transportConsumerConsumeEvent rtpCapabilities producer)) :
    T.consumesFromTransportId = some producer ∧
      ∃ source ∈ c.membersOf uuid, c.producerOf source = some producer := by
  cases hu with
  | @consume memberId source _ _ hp =>
    obtain ⟨sourceMember, hfind, hp⟩ := Option.map_eq_some_iff.mp hp
    obtain ⟨hmem, hsm⟩ := mem_of_findMember hfind
    have hsp : c.producerOf source = some producer := by
      rw [Coord.producerOf, hsm]
      exact hp
    obtain ⟨member, hfind, ht⟩ := Option.bind_eq_some_iff.mp h
    obtain ⟨-, hm⟩ := mem_of_findMember hfind
    obtain ⟨T', s, hT', -, hs, hps⟩ := consumerOf_owned hwf hm ht
    rw [hT] at hT'
    cases hT'
    rw [hsp] at hps
    cases hps
    exact ⟨hs, source, hmem, hsp⟩

end Owned

end Coordinator

end Twolk

/-
  Twolk.Coordinator.Sources
  ─────────────────────────
  **WHOM A CONSUMER TRANSPORT CONSUMES FROM.**

  The ack of a consumer transport looks its producing transport up in the
  table, and names the owner in the update it publishes.  A removal takes
  the producer of the member out of the table before the member, and nothing
  puts it back, so the owner it finds is a member still.

  Main results:
    * `producing_reachable` — the owner of a producer in the table is a
      member,
    * `heard_transportAck`  — what the ack of a transport announces,
    * `source_member`       — the source it names is another member of the
      owner's space.
-/
import Twolk.Coordinator.Announcements
import Twolk.Coordinator.Duplicates
import Twolk.Coordinator.Traces

namespace Twolk.Coordinator

open Twolk.Lib

variable {κ : Type}

/-! ## §1. A transport that has left the table. -/

section Absent

variable {base c c' : Coord κ} {p : TransportId}

/-- Removing transports adds none. -/
theorem removeConsumers_transports : ∀ (l : List (Option TransportId))
    (c : Coord κ),
    ∀ t ∈ (MemberService.removeConsumers c l).1.transports.keys,
      t ∈ c.transports.keys
  | [], _, _, h => h
  | none :: _, _, _, h => h
  | some t :: rest, c, t', h => by
      have hin := removeConsumers_transports rest
        (TransportAllocator.remove c t) t' h
      exact (JsMap.mem_keys_delete.mp hin).2

variable [Callback κ] {a : Action κ}

/-- A transport that is gone does not come back. -/
theorem absent_media (hwf : CoordWF base) {T : Transport}
    (hT : base.transportHeap.get? p = some T)
    (h : MediaEffect base a c c') (hp : p ∉ c.transports.keys) :
    p ∉ c'.transports.keys := by
  cases h with
  | emit | answer | transportNack | publishUpdate => exact hp
  | dropTransport => exact fun hin => hp (JsMap.mem_keys_delete.mp hin).2
  | mesh ha ht =>
      obtain ⟨P, uuid, -, -, -, heq⟩ := mesh_eq hwf.transport hwf.member ht
      obtain ⟨-, hadded, -⟩ := requestAll_added P.owningRouter
        (meshEdges base uuid P.owningMember _)
        ((base.without _).emit (.consumersAllocated P.owningMember))
      rw [heq]
      intro hin
      rcases hadded p hin with hold | hfresh
      · exact hp hold
      · -- the id of a stored transport is not given again
        have hlt := hwf.transport.fresh p T hT
        exact Nat.lt_irrefl _ (Nat.lt_of_lt_of_le hlt hfresh)
  | @transportAck id options ha hm =>
      obtain ⟨T', hT', -⟩ := hwf.transport.requested id hm
      rw [(onTransportAck_spec options hT'
        (hwf.transport.source_ne hT')).transports]
      exact hp
  | @updateAck id r resp =>
      obtain ⟨heap, l, heq, -, -⟩ := onUpdateAck_eq base id r resp
      rw [heq]
      exact hp
  | @updateNack id r message =>
      obtain ⟨l, heq, -⟩ := onUpdateNack_eq base id r message
      rw [heq]
      exact hp

/-- **Nothing puts a transport back.** -/
theorem absent_effect (hwf : CoordWF base) {T : Transport}
    (hT : base.transportHeap.get? p = some T) (h : Effect base a c c')
    (hp : p ∉ c.transports.keys) : p ∉ c'.transports.keys := by
  cases h with
  | media h => exact absent_media hwf hT h hp
  | createSpace | subscribe | unsubscribe | workers | resolve | request
    | routerNack | take | run | finish | finishNow | removeMember =>
      exact hp
  | routerAck ha hw =>
      rw [onRouterAck_eq hwf.router _ hw]
      exact hp
  | beginEnd => exact fun hin => hp (remove_transports.mp hin).1
  | @join i uuid data state cb r =>
      intro hin
      rcases ((join_spec (base.without i) uuid data state r).transports
        p).mp hin with heq | hold
      · have hlt := hwf.transport.fresh p T hT
        exact Nat.ne_of_lt hlt heq
      · exact hp hold

/-- The removal of a member takes its producer out of the table. -/
theorem removed_absent {id : MemberId} {M : Member} {cb : κ}
    (hm : id ∈ c.members.keys) (hM : c.memberHeap.get? id = some M)
    (hp : M.producer = some p) :
    p ∉ (MemberService.onRemoveMemberRequest c id cb).transports.keys := by
  unfold MemberService.onRemoveMemberRequest
  rw [if_pos (JsMap.has_eq_true_iff_mem.mpr hm), hM]
  dsimp only
  rw [hp]
  dsimp only
  have hdrop : p ∉ (TransportAllocator.remove c p).transports.keys :=
    fun hin => (JsMap.mem_keys_delete.mp hin).1 rfl
  have hrest := removeConsumers_transports
    (M.memberToConsumerMap.entries.map Prod.snd)
    (TransportAllocator.remove c p) p
  generalize MemberService.removeConsumers (TransportAllocator.remove c p)
    (M.memberToConsumerMap.entries.map Prod.snd) = q at hrest ⊢
  obtain ⟨d, done⟩ := q
  intro hin
  cases done with
  | false => exact hdrop (hrest hin)
  | true =>
      refine hdrop (hrest ?_)
      have hacked := (ackSync_traceFrame _ cb .void).transports p hin
      exact (notifyMemberLeft_traces (MemberService.remove d id M)
        M.owningSpace).1.transports p hacked

end Absent

/-! ## §2. The owner of a registered producer. -/

/-- The owner of a producer in the table is a member. -/
def Coord.Producing (c : Coord κ) : Prop :=
  ∀ m p, c.producerOf m = some p → p ∈ c.transports.keys →
    m ∈ c.members.keys

section Producing

variable [Callback κ] {c base : Coord κ} {a : Action κ}

/-- No action takes the producer of a member away. -/
theorem producing_act (hwf : CoordWF base) (h : base.act a = some c)
    (hI : base.Producing) : c.Producing := by
  intro m p hp hin
  by_contra hm
  obtain ⟨M, hM, -⟩ := Option.bind_eq_some_iff.mp hp
  have hgone : c.gone m := by
    refine ⟨?_, hm⟩
    rw [Coord.spaceOf, hM]
    intro h
    cases h
  -- the producer it has is the one it had
  have hkept : ∀ uuid, base.spaceOf m = some uuid →
      base.producerOf m = some p ∧
        ∃ T, base.transportHeap.get? p = some T := by
    intro uuid hu
    obtain ⟨q, T, hq, hT, -⟩ := hwf.transport.producer m uuid hu
    have hq' := producerOf_act hwf h hq
    rw [hp] at hq'
    cases hq'
    exact ⟨hq, T, hT⟩
  rcases act_gone hwf h hgone with ⟨hs, hold⟩ | ⟨hmem, cb, rfl, hi⟩
  · obtain ⟨uuid, hu⟩ := Option.ne_none_iff_exists'.mp hs
    obtain ⟨hq, T, hT⟩ := hkept uuid hu
    have habsent : p ∉ base.transports.keys := fun h => hold (hI m p hq h)
    exact act_invariant (fun d => p ∉ d.transports.keys) habsent h
      (fun _ _ he => absent_effect hwf hT he) hin
  · obtain ⟨uuid, hu⟩ := Option.ne_none_iff_exists'.mp
      (hwf.member.stored m hmem)
    obtain ⟨M', hM', -⟩ := Option.map_eq_some_iff.mp hu
    obtain ⟨hq, -⟩ := hkept uuid hu
    rw [Coord.producerOf, hM', Option.bind_some] at hq
    cases h
    exact removed_absent hmem hM' hq hin

/-- **The owner of a producer in the table is a member.** -/
theorem producing_reachable (h : (machine κ).Reachable c) : c.Producing := by
  obtain ⟨past, tr, h⟩ := h
  induction h with
  | init h =>
      cases h
      exact fun _ _ hp => nomatch hp
  | @step past s s' tr obs a hr hg hs ih =>
      obtain ⟨c', hact, heq⟩ := Option.map_eq_some_iff.mp hs
      cases heq
      have hwf := coordWF_reachable hr.reachable
      have hbase : CoordWF { s with out := [] } := ⟨{ hwf.router with },
        { hwf.member with }, { hwf.transport with }⟩
      exact producing_act hbase hact ih

end Producing

/-! ## §3. The ack of a transport. -/

section Acked

variable {base c : Coord κ} {id : TransportId}

/-- **What the ack of a transport announces.** -/
theorem heard_transportAck [Callback κ] (hwf : CoordWF base)
    (hout : base.out = []) {options : Json}
    (h : base.act (.transportAck id options) = some c) :
    ∃ T, id ∈ base.transportRequests.keys ∧
      base.transportHeap.get? id = some T ∧
      c.out.filter Out.heard = match base.consumesFromMember T with
        | none => []
        | some source => base.paramsEvents T source options := by
  simp only [Coord.act] at h
  split at h
  · rename_i hreq
    rw [JsMap.has_eq_true_iff_mem] at hreq
    obtain ⟨T, hT, -⟩ := hwf.transport.requested id hreq
    refine ⟨T, hreq, hT, ?_⟩
    cases h
    rw [onTransportAck_eq options hT (hwf.transport.source_ne hT)]
    dsimp only
    rw [hout, List.nil_append]
    show List.filter _ (_ :: _) = _
    rw [List.filter_cons_of_neg (by simp [Out.heard])]
    cases base.consumesFromMember T with
    | none => rfl
    | some source =>
        refine List.filter_eq_self.mpr fun o ho => ?_
        dsimp only at ho
        unfold Coord.paramsEvents at ho
        split at ho
        · cases ho
        · split at ho
          · rw [List.mem_singleton.mp ho]
            rfl
          · cases ho
  · cases h

/-- **The source an ack names** is another member of the owner's space, and
what the transport consumes from is its producer. -/
theorem source_member (hwf : CoordWF c) (hp : c.Producing) {T : Transport}
    {b : MemberId} (hT : c.transportHeap.get? id = some T)
    (hb : c.consumesFromMember T = some (some b)) :
    b ≠ T.owningMember ∧ b ∈ c.members.keys ∧
      c.spaceOf b = c.spaceOf T.owningMember ∧
      ∃ p, T.consumesFromTransportId = some p ∧
        c.producerOf b = some p := by
  obtain ⟨p, S, hsource, hin, hS, rfl⟩ := consumesFromMember_eq_some hb
  obtain ⟨S', hS', hnone, hne, hspace⟩ := hwf.transport.source id T p hT
    hsource
  rw [hS] at hS'
  cases hS'
  have hprod := hwf.transport.isProducer p S hS hnone
  exact ⟨hne, hp S.owningMember p hprod hin, hspace, p, hsource, hprod⟩

/-- An ack that names no source is the ack of a producer. -/
theorem producer_of_unsourced {T : Transport}
    (h : c.consumesFromMember T = some none) :
    T.consumesFromTransportId = none := by
  unfold Coord.consumesFromMember at h
  split at h
  · rename_i hn
    exact hn
  · obtain ⟨S, -, heq⟩ := Option.map_eq_some_iff.mp h
    cases heq

end Acked

end Twolk.Coordinator

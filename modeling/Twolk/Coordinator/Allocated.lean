/-
  Twolk.Coordinator.Allocated
  ───────────────────────────
  **WHICH TRANSPORTS HAVE BEEN ALLOCATED**, for whom and with what options.

  A transport is allocated by its worker's ack, once: the ack takes the
  request out of the table, and nothing writes the options again.

  Main results:
    * `allocated_act`          — only the ack of a transport allocates it,
    * `allocated_transportAck` — and it does so with the options it carries.
-/
import Twolk.Coordinator.Handshakes

namespace Twolk.Coordinator

open Twolk.Lib

variable {κ : Type}

/-! ## §1. Allocated transports. -/

/-- The owner of a transport that has been allocated, and its options. -/
def Coord.allocated (c : Coord κ) (t : TransportId) :
    Option (MemberId × Option Json) :=
  (c.transportHeap.get? t).bind fun T =>
    if T.status = .unallocated then none else some (T.owningMember, T.options)

section Allocated

variable {base c c' : Coord κ} {t : TransportId}

/-- A transport that is not allocated has no options yet. -/
theorem allocated_eq_none (h : ∀ T, c.transportHeap.get? t = some T →
    T.status = .unallocated) : c.allocated t = none := by
  unfold Coord.allocated
  cases hT : c.transportHeap.get? t with
  | none => rfl
  | some T =>
      show (if T.status = .unallocated then none else _) = none
      rw [if_pos (h T hT)]

/-- A requested transport is not allocated. -/
theorem allocated_request (hI : TransportWF c) (router : RouterId)
    (member : MemberId) (source : Option TransportId) :
    (TransportAllocator.request c router member source).allocated t
      = c.allocated t := by
  by_cases h : t = c.transportIdGen
  · have hold : c.allocated t = none := by
      rw [Coord.allocated, hI.heap_next (Nat.le_of_eq h.symm)]
      rfl
    rw [hold]
    apply allocated_eq_none
    intro T hT
    rw [transportHeap_request, if_pos h] at hT
    cases hT
    rfl
  · rw [Coord.allocated, transportHeap_request, if_neg h]
    rfl

/-- Asking for further transports allocates none. -/
theorem allocated_requestAll (hI : TransportWF c) (router : RouterId)
    (edges : List (MemberId × TransportId)) :
    (requestAll router c edges).allocated t = c.allocated t := by
  have hheap := requestAll_heap router edges c fun _ h => hI.heap_next h
  by_cases h : c.transportIdGen ≤ t
  · have hold : c.allocated t = none := by
      rw [Coord.allocated, hI.heap_next h]
      rfl
    rw [hold]
    apply allocated_eq_none
    intro T hT
    rw [hheap, if_pos h] at hT
    obtain ⟨e, -, rfl⟩ := Option.map_eq_some_iff.mp hT
    rfl
  · rw [Coord.allocated, hheap, if_neg h]
    rfl

/-- Connecting a transport leaves its options as they are. -/
theorem allocated_connected {id : TransportId} {T : Transport}
    (hT : c.transportHeap.get? id = some T) (hst : T.status ≠ .unallocated) :
    { c with transportHeap := c.transportHeap.modify id fun t =>
      { t with status := .connected } }.allocated t = c.allocated t := by
  show ((c.transportHeap.modify id _).get? t).bind _ = _
  rw [JsMap.get?_modify]
  by_cases h : t = id
  · subst h
    rw [if_pos rfl, hT, Coord.allocated, hT]
    show some _ = if _ then none else _
    rw [if_neg hst]
  · rw [if_neg h]
    rfl

variable [Callback κ] {a : Action κ}

/-- Only its own ack allocates a transport. -/
theorem allocated_media (hwf : CoordWF base) (h : MediaEffect base a c c')
    (hn : ∀ options, a ≠ .transportAck t options)
    (hc : c.allocated t = base.allocated t) :
    c'.allocated t = base.allocated t := by
  cases h with
  | emit | answer | dropTransport => exact hc
  | transportNack | publishUpdate => rfl
  | mesh ha ht =>
      obtain ⟨T, uuid, -, -, -, heq⟩ := mesh_eq hwf.transport hwf.member ht
      rw [heq]
      exact allocated_requestAll
        (c := (base.without _).emit (.consumersAllocated T.owningMember))
        { hwf.transport.without _ with } _ _
  | @transportAck id options ha hm =>
      have hne : t ≠ id := by
        rintro rfl
        exact hn options ha
      rw [Coord.allocated, onTransportAck_heap base id options hne]
      rfl
  | @updateAck id r resp hr hget =>
      obtain ⟨heap, l, heq, -, hheap⟩ := onUpdateAck_eq base id r resp
      rw [heq]
      rcases hheap with rfl | rfl
      · rfl
      · obtain ⟨T, hT, hst⟩ := hwf.transport.updated id r hget
        exact allocated_connected hT hst
  | @updateNack id r message =>
      obtain ⟨l, heq, -⟩ := onUpdateNack_eq base id r message
      rw [heq]
      rfl

/-- The same over all effects of a stretch. -/
theorem allocated_effect (hwf : CoordWF base) (h : Effect base a c c')
    (hn : ∀ options, a ≠ .transportAck t options)
    (hc : c.allocated t = base.allocated t) :
    c'.allocated t = base.allocated t := by
  cases h with
  | media h => exact allocated_media hwf h hn hc
  | createSpace | finishNow | removeMember => exact hc
  | subscribe | unsubscribe | workers | resolve | request | routerNack
    | take | run | finish => rfl
  | routerAck =>
      unfold RouterAllocator.onRouterAck
      split
      · rfl
      · rfl
  | @beginEnd _ uuid space r =>
      obtain ⟨transports, routers, l, heq, -⟩ := remove_eq c r
      rw [heq]
      exact hc
  | join => exact allocated_request { hwf.transport with } _ _ _

/-- **Only its ack allocates a transport.** -/
theorem allocated_act (hwf : CoordWF base) (h : base.act a = some c')
    (hn : ∀ options, a ≠ .transportAck t options) :
    c'.allocated t = base.allocated t :=
  act_invariant (fun c => c.allocated t = base.allocated t) rfl h
    fun _ _ he hc => allocated_effect hwf he hn hc

/-- **The ack of a transport allocates it**, with the options it carries. -/
theorem allocated_transportAck (hwf : CoordWF base) {options : Json}
    {T : Transport} (hT : base.transportHeap.get? t = some T)
    (h : base.act (.transportAck t options) = some c') :
    base.allocated t = none ∧
      c'.allocated t = some (T.owningMember, some options) := by
  simp only [Coord.act] at h
  split at h
  · rename_i hreq
    rw [JsMap.has_eq_true_iff_mem] at hreq
    obtain ⟨T', hT', hst⟩ := hwf.transport.requested t hreq
    rw [hT] at hT'
    cases hT'
    cases h
    constructor
    · apply allocated_eq_none
      intro T' hT'
      rw [hT] at hT'
      cases hT'
      exact hst
    · rw [onTransportAck_eq options hT (hwf.transport.source_ne hT)]
      show ((base.transportHeap.modify t _).get? t).bind _ = _
      rw [JsMap.get?_modify_self, hT]
      rfl
  · cases h

end Allocated

end Twolk.Coordinator

/-
  Twolk.Coordinator.Frame
  ───────────────────────
  **WHAT THE MEDIA LAYER LEAVES ALONE.**

  Transport allocation, the consumer mesh, the update dispatcher and the
  answers to publishers never touch spaces, subscriptions, routers or the
  member table; the only continuations they make ready are `quiet` and the
  only observations they make are `media` ones.  `MediaFrame c c'` says so
  in one relation, which composes; every later invariant of the control
  layer is carried across these stretches by one lemma about it.
-/
import Twolk.Coordinator.Step

namespace Twolk.Coordinator

open Twolk.Lib

variable {κ : Type}

/-! ## §1. The frame relation. -/

/-- Continuations that carry no lifecycle transition and no member. -/
def Task.quiet : Task κ → Bool
  | .allocated _ (.ok _) | .routerRemoved .. => false
  | .allocated _ (.error _) | .transitioned .. | .producerAllocated .. |
    .caught .. => true

/-- Observations the media layer makes. -/
def Out.media : Out κ → Bool
  | .newRouterRequest .. | .onEnded .. | .routerResolved .. |
    .routerRemoved .. | .routerCleared .. | .memberAdded .. => false
  | _ => true

/-- `c'` differs from `c` in media state only. -/
structure MediaFrame (c c' : Coord κ) : Prop where
  spaces : c'.spaces = c.spaces
  spaceSubscriptions : c'.spaceSubscriptions = c.spaceSubscriptions
  spaceToSubscribedMap : c'.spaceToSubscribedMap = c.spaceToSubscribedMap
  routerIdGen : c'.routerIdGen = c.routerIdGen
  routers : c'.routers = c.routers
  routerRequests : c'.routerRequests = c.routerRequests
  routerHeap : ∀ r, (c'.routerHeap.get? r).map
      (fun r => (r.owningSpace, r.rtpCapabilities))
    = (c.routerHeap.get? r).map fun r => (r.owningSpace, r.rtpCapabilities)
  memberIdGen : c'.memberIdGen = c.memberIdGen
  members : c'.members = c.members
  memberHeap : ∀ m, (c'.memberHeap.get? m).map
      (fun m => (m.owningSpace, m.data, m.state))
    = (c.memberHeap.get? m).map fun m => (m.owningSpace, m.data, m.state)
  kept : ∀ t ∈ c.tasks, t.quiet = false → t ∈ c'.tasks
  tasks : ∀ t ∈ c'.tasks, t ∈ c.tasks ∨ t.quiet = true
  out : ∃ l, c'.out = c.out ++ l ∧ ∀ o ∈ l, o.media = true

namespace MediaFrame

variable {c c' c'' : Coord κ}

theorem refl (c : Coord κ) : MediaFrame c c where
  spaces := rfl
  spaceSubscriptions := rfl
  spaceToSubscribedMap := rfl
  routerIdGen := rfl
  routers := rfl
  routerRequests := rfl
  routerHeap _ := rfl
  memberIdGen := rfl
  members := rfl
  memberHeap _ := rfl
  kept _ h _ := h
  tasks _ h := .inl h
  out := ⟨[], by simp, by simp⟩

theorem trans (h : MediaFrame c c') (h' : MediaFrame c' c'') :
    MediaFrame c c'' where
  spaces := h'.spaces.trans h.spaces
  spaceSubscriptions := h'.spaceSubscriptions.trans h.spaceSubscriptions
  spaceToSubscribedMap :=
    h'.spaceToSubscribedMap.trans h.spaceToSubscribedMap
  routerIdGen := h'.routerIdGen.trans h.routerIdGen
  routers := h'.routers.trans h.routers
  routerRequests := h'.routerRequests.trans h.routerRequests
  routerHeap r := (h'.routerHeap r).trans (h.routerHeap r)
  memberIdGen := h'.memberIdGen.trans h.memberIdGen
  members := h'.members.trans h.members
  memberHeap m := (h'.memberHeap m).trans (h.memberHeap m)
  kept t ht hq := h'.kept t (h.kept t ht hq) hq
  tasks t ht := (h'.tasks t ht).elim (h.tasks t) .inr
  out := by
    obtain ⟨l, hl, hm⟩ := h.out
    obtain ⟨l', hl', hm'⟩ := h'.out
    refine ⟨l ++ l', by rw [hl', hl, List.append_assoc], ?_⟩
    intro o ho
    exact (List.mem_append.mp ho).elim (hm o) (hm' o)

end MediaFrame

/-- What is emitted for media concerns no space. -/
theorem emit_frame (c : Coord κ) {o : Out κ} (ho : o.media = true) :
    MediaFrame c (c.emit o) :=
  { MediaFrame.refl c with out := ⟨[o], rfl, by simpa using ho⟩ }

theorem defer_frame (c : Coord κ) {t : Task κ} (ht : t.quiet = true) :
    MediaFrame c (c.defer t) :=
  { MediaFrame.refl c with
    kept := fun _ h _ => List.mem_append_left _ h
    tasks := fun t' h => by
      rcases List.mem_append.mp h with h | h
      · exact .inl h
      · exact .inr (List.mem_singleton.mp h ▸ ht) }

/-! ## §2. Answers. -/

section Answers

variable [Callback κ] (c : Coord κ) (cb : κ)

theorem nackSync_frame (message : String) :
    MediaFrame c (c.nackSync cb message) := by
  unfold Coord.nackSync
  have h := emit_frame c (o := .nack cb message) rfl
  split
  · exact h
  · exact h.trans (emit_frame _ rfl)

theorem nackCatch_frame (message : String) :
    MediaFrame c (c.nackCatch cb message) := by
  unfold Coord.nackCatch
  have h := emit_frame c (o := .nack cb message) rfl
  split
  · exact h
  · exact h.trans (emit_frame _ rfl)

end Answers

/-! ## §3. Transports. -/

namespace TransportAllocator

theorem request_frame (c : Coord κ) (router : RouterId) (member : MemberId)
    (source : Option TransportId) :
    MediaFrame c (request c router member source) :=
  { MediaFrame.refl c with
    routerHeap := fun r => by
      simp only [request, JsMap.get?_modify]
      split
      · rename_i h
        subst h
        cases c.routerHeap.get? r <;> rfl
      · rfl
    memberHeap := fun m => by
      simp only [request]
      split
      · simp only [JsMap.get?_modify]
        split
        · rename_i h
          subst h
          cases c.memberHeap.get? m <;> rfl
        · rfl
      · rfl
    out := ⟨_, rfl, by simp [Out.media]⟩ }

theorem allocate_frame (c : Coord κ) (router : RouterId)
    (member : MemberId) (source : Option TransportId) :
    MediaFrame c (allocate c router member source) := by
  unfold allocate
  split
  · exact request_frame c router member none
  · split
    · exact request_frame c router member _
    · exact .refl c

theorem publishParams_frame (c : Coord κ) (t : Transport) (options : Json) :
    MediaFrame c (publishParams c t options) := by
  unfold publishParams
  split
  · exact .refl c
  · split
    · exact emit_frame c rfl
    · exact .refl c

theorem remove_frame (c : Coord κ) (id : TransportId) :
    MediaFrame c (remove c id) :=
  { MediaFrame.refl c with }

theorem onTransportNack_frame (c : Coord κ) (id : TransportId) :
    MediaFrame c (onTransportNack c id) :=
  { MediaFrame.refl c with }

/-- Changing a member's consumer map is invisible to the frame. -/
theorem setConsumer_frame (c : Coord κ) (member source : MemberId)
    (entry : Option TransportId) :
    MediaFrame c { c with
      memberHeap := c.memberHeap.modify member fun m =>
        { m with
          memberToConsumerMap := m.memberToConsumerMap.set source entry } } :=
  { MediaFrame.refl c with
    memberHeap := fun m => by
      simp only [JsMap.get?_modify]
      split
      · rename_i h
        subst h
        cases c.memberHeap.get? m <;> rfl
      · rfl }

theorem onTransportAck_frame (c : Coord κ) (id : TransportId)
    (options : Json) : MediaFrame c (onTransportAck c id options) := by
  unfold onTransportAck
  split
  · exact .refl c
  · rename_i t _
    have h : MediaFrame c { c with
        transportRequests := c.transportRequests.delete id
        transportHeap := c.transportHeap.modify id fun t =>
          { t with status := .allocated, options := some options }
        out := c.out ++ [.transportAllocated id] } :=
      { MediaFrame.refl c with out := ⟨_, rfl, by simp [Out.media]⟩ }
    dsimp only
    split
    · exact (h.trans (defer_frame _ rfl)).trans (publishParams_frame _ _ _)
    · split
      · exact h
      · exact (h.trans (setConsumer_frame _ _ _ _)).trans
          (publishParams_frame _ _ _)

end TransportAllocator

/-! ## §4. The consumer mesh. -/

namespace MemberService

theorem allocatePair_frame (router : RouterId) (newMember : MemberId)
    (source : TransportId) (c : Coord κ) (other : MemberId) :
    MediaFrame c (allocatePair router newMember source c other) := by
  unfold allocatePair
  split
  · exact .refl c
  · have h := TransportAllocator.allocate_frame c router other (some source)
    dsimp only
    split
    · exact h
    · exact h.trans (TransportAllocator.allocate_frame _ _ _ _)

/-- A loop keeps what each of its turns keeps. -/
theorem foldl_frame {α : Type} {f : Coord κ → α → Coord κ}
    (hf : ∀ c a, MediaFrame c (f c a)) (l : List α) :
    ∀ c, MediaFrame c (l.foldl f c) := by
  induction l with
  | nil => exact .refl
  | cons a l ih => exact fun c => (hf c a).trans (ih (f c a))

/-- Storing a member's producer is invisible to the frame. -/
theorem setProducer_frame (c : Coord κ) (member : MemberId)
    (id : TransportId) :
    MediaFrame c { c with
      memberHeap := c.memberHeap.modify member fun m =>
        { m with producer := some id } } :=
  { MediaFrame.refl c with
    memberHeap := fun m => by
      simp only [JsMap.get?_modify]
      split
      · rename_i h
        subst h
        cases c.memberHeap.get? m <;> rfl
      · rfl }

theorem allocateConsumers_frame (c : Coord κ) (id : TransportId) :
    MediaFrame c (allocateConsumers c id) := by
  unfold allocateConsumers
  split
  · exact .refl c
  · rename_i t _
    have h := (setProducer_frame c t.owningMember id).trans
      (emit_frame _ (o := .consumersAllocated t.owningMember) rfl)
    dsimp only
    split
    · exact h
    · exact h.trans (foldl_frame (allocatePair_frame _ _ _) _ _)

/-- Removing transports concerns no space. -/
theorem removeConsumers_frame : ∀ (l : List (Option TransportId))
    (c : Coord κ), MediaFrame c (removeConsumers c l).1
  | [], c => .refl c
  | some id :: rest, c =>
      (TransportAllocator.remove_frame c id).trans
        (removeConsumers_frame rest _)
  | none :: _, c => .refl c

end MemberService

/-! ## §5. The update dispatcher. -/

namespace SpaceUpdateDispatcher

/-- Publishing an update concerns no space. -/
theorem publish_frame (c : Coord κ) (transport : TransportId)
    (update : TransportUpdateC) (uuid : Uuid) (memberId : MemberId)
    (cb : κ) :
    MediaFrame c (publish c transport update uuid memberId cb) :=
  { MediaFrame.refl c with out := ⟨_, rfl, by simp [Out.media]⟩ }

variable [Callback κ]

theorem answerNack_frame (c : Coord κ) (r : UpdateRequest κ)
    (message : String) : MediaFrame c (answerNack c r message) :=
  nackCatch_frame c r.cb _

/-- An ack concerns no space if what follows it does not. -/
theorem answerAck_frame (c : Coord κ) (r : UpdateRequest κ)
    (resp : Response) {k : Coord κ → Coord κ}
    (hk : ∀ c, MediaFrame c (k c)) :
    MediaFrame c (answerAck c r resp k) := by
  unfold answerAck
  have h := emit_frame c (o := .ack r.cb resp) rfl
  dsimp only
  split
  · exact h.trans (hk _)
  · exact h.trans (answerNack_frame _ _ _)

theorem onUpdateAck_frame (c : Coord κ) (id : Nat) (r : UpdateRequest κ)
    (resp : TransportUpdateAck) :
    MediaFrame c (onUpdateAck c id r resp) := by
  unfold onUpdateAck
  have h : MediaFrame c
      { c with updateRequests := c.updateRequests.delete id } :=
    { MediaFrame.refl c with }
  dsimp only
  split
  · have h' : MediaFrame c { c with
        updateRequests := c.updateRequests.delete id
        transportHeap := c.transportHeap.modify r.transport fun t =>
          { t with status := .connected } } := { MediaFrame.refl c with }
    exact h'.trans (answerAck_frame _ _ _ .refl)
  · refine h.trans (answerAck_frame _ _ _ fun c => ?_)
    split
    · exact emit_frame c rfl
    · exact .refl c
  · exact h.trans (answerAck_frame _ _ _ .refl)
  · exact h.trans (answerAck_frame _ _ _ .refl)

theorem onUpdateNack_frame (c : Coord κ) (id : Nat) (r : UpdateRequest κ)
    (message : String) : MediaFrame c (onUpdateNack c id r message) := by
  have h : MediaFrame c
      { c with updateRequests := c.updateRequests.delete id } :=
    { MediaFrame.refl c with }
  exact h.trans (answerNack_frame _ r message)

end SpaceUpdateDispatcher

end Twolk.Coordinator

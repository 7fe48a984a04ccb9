/-
  Twolk.Web.Tracks
  ────────────────
  **WHOSE TRACK IS PLAYED, AND WHERE THE USER'S TRACK GOES.**

  The page plays a member's track when the member emits `transportReady`,
  and asks the space for the track at that moment.  It hands over its own
  user's track in an effect: either the producer is ready then, or a
  listener waits for the next `transportReady` of the producing member.

  Main results:
    * `plays_consumer_track` — whatever track the space has for a member, the
      page plays it: no late or failed handshake of an earlier member object
      or an earlier transport gets in between,
    * `user_track_once`      — each run of the effect sets its track on one
      transport, once; a producing member that gets another transport stays
      silent until the effect runs again.
-/
import Twolk.Web.Handshake

namespace Twolk.Web.Transports

open Twolk.Lib Signaling

/-! ## §1. Tracks of consumers. -/

/-- The promises of a chain before its transport is ready. -/
def ConsumerChain.live : ConsumerChain → Bool
  | .consuming _ | .mediaConsume _ | .resuming .. => true
  | .done | .failed _ => false

namespace Page

/-- The members the space has. -/
def present (w : Page) (id : MemberId) : Prop :=
  w.space.consumerMembers.has id = true

/-- The members of a snapshot leave the view alone here. By induction on them.
-/
theorem foldl_addInitial_space (m : MemberId) :
    ∀ (l : List ClientSideMember) (w : Page),
      (l.foldl (addInitial m) w).space = w.space
  | [], _ => rfl
  | member :: l, w => by
      have hfirst : (addInitial m w member).space = w.space := by
        unfold addInitial
        split <;> rfl
      exact (foldl_addInitial_space m l (addInitial m w member)).trans hfirst

theorem receiveSpace_space (w : Page) (event : ServerToClientEvent) :
    (w.receiveSpace event).space = w.space.receive event := by
  cases event with
  | spaceInit m caps clientSideSpace =>
      unfold receiveSpace
      dsimp only
      split
      · rfl
      · exact foldl_addInitial_space m clientSideSpace.members _
  | memberJoin member =>
      unfold receiveSpace
      dsimp only
      split <;> rfl
  | _ => rfl

end Page

/-- The members an event brings. -/
def Brings (w : Space) (id : MemberId) : ServerToClientEvent → Prop
  | .spaceInit m _ clientSideSpace => ¬ w.spaceInitReceived = true ∧
      id ≠ m ∧ ∃ member ∈ clientSideSpace.members, member.id = id
  | .memberJoin member => ¬ (w.consumerMembers.has member.id = true ∨
      w.producerMemberId = some member.id) ∧ id = member.id
  | _ => False

/-- A member is present who was, or whom the event brings. -/
theorem brings_of_has (w : Space) (event : ServerToClientEvent)
    {id : MemberId}
    (h : (w.receive event).consumerMembers.has id = true) :
    w.consumerMembers.has id = true ∨ Brings w id event := by
  rw [JsMap.has_eq_true_iff_mem] at h ⊢
  -- by the event: only a snapshot and a join add members
  cases event with
  | spaceInit m caps clientSideSpace =>
      change id ∈ (w.handleSpaceInit m caps
        clientSideSpace).consumerMembers.keys at h
      unfold Space.handleSpaceInit at h
      split at h
      · exact .inl h
      · rename_i hnew
        -- the snapshot adds the others it shows, if it is the first one
        rcases Space.addInitial_members (m := m) clientSideSpace.members
          { w with
            producerMemberId := some m
            uuid := some clientSideSpace.uuid
            data := some clientSideSpace.data } id with
          ⟨-, hget⟩ | ⟨hne, member, hin, hid, -⟩
        · rw [JsMap.mem_keys] at h ⊢
          rw [← hget]
          exact .inl h
        · exact .inr ⟨hnew, hne, member, hin, hid⟩
  | memberJoin member =>
      change id ∈ (w.handleMemberJoin member).consumerMembers.keys at h
      unfold Space.handleMemberJoin at h
      split at h
      · exact .inl h
      · rename_i hnew
        exact (JsMap.mem_keys_set.mp h).symm.imp_right fun hid => ⟨hnew, hid⟩
  | memberLeave memberId =>
      change id ∈ (w.handleMemberLeave memberId).consumerMembers.keys at h
      unfold Space.handleMemberLeave at h
      split at h
      · exact .inl (JsMap.mem_keys_delete.mp h).2
      · exact .inl h
  | memberStateUpdate memberId newState =>
      change id ∈ (w.handleMemberStateUpdate memberId
        newState).consumerMembers.keys at h
      unfold Space.handleMemberStateUpdate at h
      split at h
      · exact .inl h
      · split at h
        · exact .inl (JsMap.mem_keys_modify.mp h)
        · exact .inl h
  | transportParams memberId options =>
      change id ∈ (w.handleTransportParams memberId
        options).consumerMembers.keys at h
      unfold Space.handleTransportParams at h
      split at h
      · exact .inl h
      · split at h <;> exact .inl h
  | _ => exact .inl h

theorem modify_concat {α : Type} (l : List α) (a : α) (f : α → α) :
    (l ++ [a]).modify l.length f = l ++ [f a] := by
  refine List.ext_getElem? fun i => ?_
  rw [List.getElem?_modify, Acks.getElem?_concat, Acks.getElem?_concat]
  by_cases h : i = l.length
  · rw [if_pos h, if_pos h, h]
    simp
  · rw [if_neg h, if_neg h]
    cases l[i]? <;> simp [Ne.symm h]

/-- The page plays what the `present` members send. -/
structure Playing (present : MemberId → Prop) (w : Page) : Prop where
  known : ∀ id, present id → w.memberRef id < w.nextRef
  distinct : ∀ id id', present id → present id' →
    w.memberRef id = w.memberRef id' → id = id'
  bound : ∀ ref t, w.transport ref = some t → ref < w.nextRef
  /-- The transport of a member tells the member. -/
  waits : ∀ id t, present id → w.transport (w.memberRef id) = some t →
    ∃ T, w.consumers[t]? = some T ∧ (T.assigned = none →
      T.onceReadyHandlers = [(w.memberRef id, id)])
  unassigned : ∀ (t : Nat) T, w.consumers[t]? = some T →
    T.chain.live = true → T.assigned = none
  plays : ∀ id t T c, present id → w.transport (w.memberRef id) = some t →
    w.consumers[t]? = some T → T.assigned = some c → c.kind = "audio" →
    w.consumerAudio.get? id = some c.track

namespace Playing

variable {present present' : MemberId → Prop} {w w' : Page} {t : Nat}
  {T : ConsumerTransport}

/-- The invariant holds for fewer members as well. -/
theorem mono (h : Playing present w) (hp : ∀ id, present' id → present id) :
    Playing present' w where
  known id hin := h.known id (hp id hin)
  distinct id id' hin hin' := h.distinct id id' (hp id hin) (hp id' hin')
  bound := h.bound
  waits id t hin := h.waits id t (hp id hin)
  unassigned := h.unassigned
  plays id t T c hin := h.plays id t T c (hp id hin)

/-- What is played depends on these parts of the page only. -/
theorem congr (h : Playing present w) (hm : w'.memberRef = w.memberRef)
    (hn : w'.nextRef = w.nextRef) (ht : w'.transport = w.transport)
    (hc : w'.consumers = w.consumers)
    (ha : w'.consumerAudio = w.consumerAudio) : Playing present w' := by
  obtain ⟨h₁, h₂, h₃, h₄, h₅, h₆⟩ := h
  constructor
  · rwa [hm, hn]
  · rwa [hm]
  · rwa [ht, hn]
  · rwa [hm, ht, hc]
  · rwa [hc]
  · rwa [hm, ht, hc, ha]

/-- A new member has no transport yet, and plays nothing. -/
theorem newMember (h : Playing present w) (id : MemberId) :
    Playing (fun id' => present id' ∨ id' = id) (w.newMember id) := by
  have hself : (w.newMember id).memberRef id = w.nextRef :=
    Function.update_self ..
  have hother : ∀ {id'}, id' ≠ id →
      (w.newMember id).memberRef id' = w.memberRef id' := fun hne =>
    Function.update_of_ne hne ..
  have hold : ∀ {id'}, present id' ∨ id' = id → id' ≠ id → present id' :=
    fun hin hne => hin.resolve_right hne
  -- nothing is assigned to the next reference yet
  have hnone : w.transport w.nextRef = none := by
    cases ht : w.transport w.nextRef with
    | none => rfl
    | some t => exact absurd (h.bound _ _ ht) (Nat.lt_irrefl _)
  refine ⟨fun id' hin => ?_, fun id₁ id₂ hin₁ hin₂ heq => ?_,
    fun ref t ht => Nat.lt_succ_of_lt (h.bound ref t ht),
    fun id' t hin ht => ?_, h.unassigned,
    fun id' t T c hin ht hT hc hk => ?_⟩
  -- its reference is the new one, and it differs from all others
  · show _ < w.nextRef + 1
    by_cases hid : id' = id
    · rw [hid, hself]
      exact Nat.lt_succ_self _
    · rw [hother hid]
      exact Nat.lt_succ_of_lt (h.known id' (hold hin hid))
  -- two members share a reference only if they are the same
  · by_cases hid₁ : id₁ = id
    · by_cases hid₂ : id₂ = id
      · rw [hid₁, hid₂]
      · rw [hid₁, hself, hother hid₂] at heq
        have hlt := h.known id₂ (hold hin₂ hid₂)
        rw [← heq] at hlt
        exact absurd hlt (Nat.lt_irrefl _)
    · by_cases hid₂ : id₂ = id
      · rw [hid₂, hself, hother hid₁] at heq
        have hlt := h.known id₁ (hold hin₁ hid₁)
        rw [heq] at hlt
        exact absurd hlt (Nat.lt_irrefl _)
      · rw [hother hid₁, hother hid₂] at heq
        exact h.distinct id₁ id₂ (hold hin₁ hid₁) (hold hin₂ hid₂) heq
  -- the new member waits for no transport
  · by_cases hid : id' = id
    · rw [hid, hself] at ht
      exact absurd (hnone.symm.trans ht) (Option.some_ne_none t).symm
    · rw [hother hid] at ht ⊢
      exact h.waits id' t (hold hin hid) ht
  · by_cases hid : id' = id
    · rw [hid, hself] at ht
      exact absurd (hnone.symm.trans ht) (Option.some_ne_none t).symm
    · rw [hother hid] at ht
      exact h.plays id' t T c (hold hin hid) ht hT hc hk

/-- The members of a snapshot, one by one. -/
theorem foldl_addInitial (m : MemberId) : ∀ (l : List ClientSideMember)
    {present : MemberId → Prop} {w : Page}, Playing present w →
    Playing (fun id => present id ∨
      id ≠ m ∧ ∃ member ∈ l, member.id = id) (l.foldl (Page.addInitial m) w)
  | [], present, w, h => h.mono fun id hin => hin.resolve_right fun hnot =>
      absurd hnot.2.choose_spec.1 List.not_mem_nil
  | member :: l, present, w, h => by
      have hfirst : Playing (fun id => present id ∨
          id ≠ m ∧ id = member.id) (Page.addInitial m w member) := by
        unfold Page.addInitial
        split
        · rename_i hid
          exact h.mono fun id hin => hin.resolve_right fun hnot =>
            hnot.1 (hnot.2.trans hid)
        · exact (h.newMember member.id).mono fun id hin =>
            hin.imp_right And.right
      refine (foldl_addInitial m l hfirst).mono fun id hin => ?_
      rcases hin with hin | ⟨hne, member', hmem, hid⟩
      · exact .inl (.inl hin)
      · rcases List.mem_cons.mp hmem with rfl | hmem
        · exact .inl (.inr ⟨hne, hid.symm⟩)
        · exact .inr ⟨hne, member', hmem, hid⟩

/-- An event of the channel keeps what is played, for the members it leaves. -/
theorem receiveSpace (h : Playing w.present w) (event : ServerToClientEvent) :
    Playing (w.receiveSpace event).present (w.receiveSpace event) := by
  have hspace : Playing w.present { w with space := w.space.receive event } :=
    h.congr rfl rfl rfl rfl rfl
  have hhas : ∀ id, (w.receiveSpace event).present id →
      w.present id ∨ Brings w.space id event := fun id hin => by
    unfold Page.present at hin
    rw [Page.receiveSpace_space] at hin
    exact brings_of_has w.space event hin
  cases event with
  | spaceInit m caps clientSideSpace =>
      by_cases hreceived : w.space.spaceInitReceived = true
      · have heq : w.receiveSpace (.spaceInit m caps clientSideSpace)
            = { w with
              space := w.space.receive (.spaceInit m caps clientSideSpace) }
          := if_pos hreceived
        rw [heq] at hhas ⊢
        exact hspace.mono fun id hin =>
          (hhas id hin).resolve_right fun hb => hb.1 hreceived
      · have heq : w.receiveSpace (.spaceInit m caps clientSideSpace)
            = clientSideSpace.members.foldl (Page.addInitial m) { w with
              space := w.space.receive (.spaceInit m caps clientSideSpace) }
          := if_neg hreceived
        rw [heq] at hhas ⊢
        exact (foldl_addInitial m clientSideSpace.members hspace).mono
          fun id hin => (hhas id hin).imp_right And.right
  | memberJoin member =>
      by_cases hold : w.space.consumerMembers.has member.id = true ∨
          w.space.producerMemberId = some member.id
      · have heq : w.receiveSpace (.memberJoin member)
            = { w with space := w.space.receive (.memberJoin member) } :=
          if_pos hold
        rw [heq] at hhas ⊢
        exact hspace.mono fun id hin =>
          (hhas id hin).resolve_right fun hb => hb.1 hold
      · have heq : w.receiveSpace (.memberJoin member)
            = Page.newMember { w with
              space := w.space.receive (.memberJoin member) } member.id :=
          if_neg hold
        rw [heq] at hhas ⊢
        exact (hspace.newMember member.id).mono fun id hin =>
          (hhas id hin).imp_right And.right
  | _ => exact hspace.mono fun id hin =>
      (hhas id hin).resolve_right not_false

/-- A new transport that no member has plays nothing. -/
theorem append (h : Playing present w) (T : ConsumerTransport)
    (hT : T.assigned = none) :
    Playing present { w with consumers := w.consumers ++ [T] } := by
  have hsame : ∀ {t : Nat} {T' : ConsumerTransport},
      w.consumers[t]? = some T' → (w.consumers ++ [T])[t]? = some T' := by
    intro t T' hT'
    obtain ⟨hlt, -⟩ := List.getElem?_eq_some_iff.mp hT'
    rw [List.getElem?_append_left hlt]
    exact hT'
  refine ⟨h.known, h.distinct, h.bound, fun id t hin ht => ?_,
    fun t T' hT' hlive => ?_, fun id t T' c hin ht hT' hc hk => ?_⟩
  · obtain ⟨T', hT', hhandlers⟩ := h.waits id t hin ht
    exact ⟨T', hsame hT', hhandlers⟩
  · change (w.consumers ++ [T])[t]? = some T' at hT'
    rw [Acks.getElem?_concat] at hT'
    split at hT'
    · cases hT'
      exact hT
    · exact h.unassigned t T' hT' hlive
  · obtain ⟨T₀, hT₀, -⟩ := h.waits id t hin ht
    have hT' : (w.consumers ++ [T])[t]? = some T' := hT'
    rw [hsame hT₀] at hT'
    cases hT'
    exact h.plays id t T' c hin ht hT₀ hc hk

/-- A new transport of a member is not ready, and plays nothing. -/
theorem assign (h : Playing present w) {id : MemberId} (hin : present id)
    (T : ConsumerTransport) (hT : T.assigned = none)
    (hhandlers : T.onceReadyHandlers = [(w.memberRef id, id)]) :
    Playing present { w with
      consumers := w.consumers ++ [T]
      transport := Function.update w.transport (w.memberRef id)
        (some w.consumers.length) } := by
  have happend := h.append T hT
  have hnew : (w.consumers ++ [T])[w.consumers.length]? = some T :=
    List.getElem?_concat_length
  -- the transport of a present member is the new one, or as before
  have hcases : ∀ {id' t}, present id' → Function.update w.transport
      (w.memberRef id) (some w.consumers.length) (w.memberRef id') = some t →
      (id' = id ∧ t = w.consumers.length) ∨
        w.transport (w.memberRef id') = some t := by
    intro id' t hin' ht
    by_cases hid : w.memberRef id' = w.memberRef id
    · rw [hid, Function.update_self] at ht
      exact .inl ⟨h.distinct id' id hin' hin hid, (Option.some.inj ht).symm⟩
    · rw [Function.update_of_ne hid] at ht
      exact .inr ht
  refine ⟨h.known, h.distinct, fun ref t ht => ?_, fun id' t hin' ht => ?_,
    happend.unassigned, fun id' t T' c hin' ht hT' hc hk => ?_⟩
  · by_cases href : ref = w.memberRef id
    · rw [href]
      exact h.known id hin
    · exact h.bound ref t ((Function.update_of_ne href ..).symm.trans ht)
  · rcases hcases hin' ht with ⟨rfl, rfl⟩ | ht
    · exact ⟨T, hnew, fun _ => hhandlers⟩
    · exact happend.waits id' t hin' ht
  · rcases hcases hin' ht with ⟨rfl, rfl⟩ | ht
    · have hT' : (w.consumers ++ [T])[w.consumers.length]? = some T' := hT'
      rw [hnew] at hT'
      cases hT'
      rw [hT] at hc
      cases hc
    · exact happend.plays id' t T' c hin' ht hT' hc hk

/-- A chain goes on, or fails, before its transport is ready. -/
theorem setChain (h : Playing present w) (hT : w.consumers[t]? = some T)
    (hlive : T.chain.live = true) (chain : ConsumerChain) :
    Playing present { w with
      consumers := w.consumers.set t { T with chain } } := by
  obtain ⟨hlt, -⟩ := List.getElem?_eq_some_iff.mp hT
  have hnone := h.unassigned t T hT hlive
  have hget : ∀ t' : Nat, (w.consumers.set t { T with chain })[t']?
      = if t = t' then some { T with chain } else w.consumers[t']? := by
    intro t'
    rw [List.getElem?_set, if_pos hlt]
  refine ⟨h.known, h.distinct, h.bound, fun id t' hin ht => ?_,
    fun t' T' hT' hlive' => ?_, fun id t' T' c hin ht hT' hc hk => ?_⟩
  · obtain ⟨T', hT', hhandlers⟩ := h.waits id t' hin ht
    by_cases heq : t = t'
    · subst heq
      rw [hT] at hT'
      cases hT'
      exact ⟨_, (hget t).trans (if_pos rfl), hhandlers⟩
    · exact ⟨T', ((hget t').trans (if_neg heq)).trans hT', hhandlers⟩
  · have hT' := (hget t').symm.trans hT'
    split at hT'
    · cases hT'
      exact hnone
    · exact h.unassigned t' T' hT' hlive'
  · have hT' := (hget t').symm.trans hT'
    split at hT'
    · cases hT'
      rw [hnone] at hc
      cases hc
    · exact h.plays id t' T' c hin ht hT' hc hk

end Playing

/-! ### A transport becomes ready. -/

namespace Page

variable {w w' : Page}

/-- The track the space has for a member is that of its transport. -/
theorem getConsumerTrack_ok_iff {id : MemberId} {track : Track} :
    w.getConsumerTrack id = .ok track ↔ w.present id ∧ ∃ t T c,
      w.transport (w.memberRef id) = some t ∧ w.consumers[t]? = some T ∧
      T.assigned = some c ∧ c.kind = "audio" ∧ c.track = track := by
  unfold getConsumerTrack consumerTransport present
  by_cases hin : w.space.consumerMembers.has id = true
  · rw [if_pos hin]
    cases ht : w.transport (w.memberRef id) with
    | none => simp
    | some t =>
        cases hT : w.consumers[t]? with
        | none => simp [mediasoupConsumer, hT]
        | some T =>
            cases hc : T.assigned with
            | none => simp [mediasoupConsumer, hT, hc]
            | some c =>
                by_cases hk : c.kind = "audio"
                · simp [mediasoupConsumer, hT, hc, hk, hin]
                · simp [mediasoupConsumer, hT, hc, hk]
  · rw [if_neg hin]
    simp [hin]

/-- Handlers play what the space has for their member.  By induction on the
handlers. -/
theorem notifyConsumers_audio (id : MemberId) :
    ∀ (l : List (MemberRef × MemberId)) (w : Page),
      (w.notifyConsumers l).1.consumerAudio.get? id = w.consumerAudio.get? id ∨
      ∃ track, w.getConsumerTrack id = .ok track ∧
        (w.notifyConsumers l).1.consumerAudio.get? id = some track
  | [], _ => .inl rfl
  | handler :: l, w => by
      unfold notifyConsumers
      cases h : w.consumerReady handler with
      | error e => exact .inl rfl
      | ok w₁ =>
          obtain ⟨track, htrack, rfl⟩ := consumerReady_ok h
          rcases notifyConsumers_audio id l { w with
              consumerAudio := w.consumerAudio.set handler.2 track } with
            hsame | ⟨track', htrack', haudio⟩
          · by_cases hid : id = handler.2
            · refine .inr ⟨track, by rw [hid]; exact htrack, ?_⟩
              refine hsame.trans ?_
              rw [hid]
              exact JsMap.get?_set_self ..
            · exact .inl (hsame.trans (JsMap.get?_set_of_ne _ _ hid))
          · exact .inr ⟨track', htrack', haudio⟩

/-- The handler of a member whose track is there plays it. -/
theorem notifyConsumers_own {handler : MemberRef × MemberId} {track : Track}
    (h : w.getConsumerTrack handler.2 = .ok track) :
    (w.notifyConsumers [handler]).1.consumerAudio.get? handler.2
      = some track := by
  unfold notifyConsumers consumerReady
  rw [h]
  exact JsMap.get?_set_self ..

end Page

namespace Playing

variable {w w' : Page} {t : Nat} {T : ConsumerTransport}

/-- **A transport becomes ready**: its member's page plays the new track, or
it is no longer the transport of a member. -/
theorem ready (h : Playing w.present w) (hT : w.consumers[t]? = some T)
    (hlive : T.chain.live = true) (c : MediasoupConsumer)
    (T' : ConsumerTransport) (hassigned : T'.assigned = some c)
    (hlive' : T'.chain.live = false) (consumerAudio : JsMap MemberId Track)
    (haudio : (Page.notifyConsumers { w with
      consumers := w.consumers.set t { T with assigned := some c } }
      T.onceReadyHandlers).1.consumerAudio = consumerAudio) :
    Playing w.present { w with
      consumers := w.consumers.set t T', consumerAudio } := by
  obtain ⟨hlt, -⟩ := List.getElem?_eq_some_iff.mp hT
  -- one transport changes, the others are as they were
  have hget : ∀ (T₁ : ConsumerTransport) (t' : Nat),
      (w.consumers.set t T₁)[t']?
        = if t = t' then some T₁ else w.consumers[t']? := by
    intro T₁ t'
    rw [List.getElem?_set, if_pos hlt]
  refine ⟨h.known, h.distinct, h.bound, fun id t' hin ht => ?_,
    fun t' T₁ hT₁ hl => ?_, fun id t' T₁ c' hin ht hT₁ hc hk => ?_⟩
  -- a transport with a consumer waits for none
  · obtain ⟨T₁, hT₁, hhandlers⟩ := h.waits id t' hin ht
    by_cases heq : t = t'
    · refine ⟨T', (hget T' t').trans (if_pos heq), fun hnone => ?_⟩
      rw [hassigned] at hnone
      cases hnone
    · exact ⟨T₁, ((hget T' t').trans (if_neg heq)).trans hT₁, hhandlers⟩
  -- it is not in progress any more
  · have hT₁ := (hget T' t').symm.trans hT₁
    split at hT₁
    · cases hT₁
      rw [hlive'] at hl
      cases hl
    · exact h.unassigned t' T₁ hT₁ hl
  · have hT₁ := (hget T' t').symm.trans hT₁
    show consumerAudio.get? id = some c'.track
    rw [← haudio]
    by_cases heq : t = t'
    · -- its one handler is the member's
      subst heq
      rw [if_pos rfl] at hT₁
      cases hT₁
      rw [hassigned] at hc
      cases hc
      obtain ⟨T₀, hT₀, hhandlers⟩ := h.waits id t hin ht
      rw [hT] at hT₀
      cases hT₀
      have hown : (Page.notifyConsumers { w with
          consumers := w.consumers.set t { T with assigned := some c } }
          [(w.memberRef id, id)]).1.consumerAudio.get? id = some c.track :=
        Page.notifyConsumers_own (Page.getConsumerTrack_ok_iff.mpr
          ⟨hin, t, { T with assigned := some c }, c, ht,
            (hget _ t).trans (if_pos rfl), rfl, hk, rfl⟩)
      rwa [← hhandlers (h.unassigned t T hT hlive)] at hown
    -- another member is played as before, unless a handler of this one named
    -- it
    · rw [if_neg heq] at hT₁
      have hplays := h.plays id t' T₁ c' hin ht hT₁ hc hk
      rcases Page.notifyConsumers_audio id T.onceReadyHandlers { w with
          consumers := w.consumers.set t { T with assigned := some c } } with
        hsame | ⟨track, htrack, hget'⟩
      · exact hsame.trans hplays
      · obtain ⟨-, t₂, T₂, c₂, ht₂, hT₂, hc₂, -, htr⟩ :=
          Page.getConsumerTrack_ok_iff.mp htrack
        have ht₂ : some t' = some t₂ := ht.symm.trans ht₂
        cases ht₂
        have hT₂ : w.consumers[t']? = some T₂ :=
          ((hget _ t').trans (if_neg heq)).symm.trans hT₂
        rw [hT₁] at hT₂
        cases hT₂
        rw [hc] at hc₂
        cases hc₂
        rw [hget', ← htr]

/-- The consumer is assigned, and its track is played. -/
theorem assignMediasoupConsumer (h : Playing w.present w)
    (hT : w.consumers[t]? = some T) (hlive : T.chain.live = true)
    (c : MediasoupConsumer) :
    Playing (w.assignMediasoupConsumer t T c).1.present
      (w.assignMediasoupConsumer t T c).1 := by
  obtain ⟨consumerAudio, hm⟩ := Page.notifyConsumers_audioOnly
    T.onceReadyHandlers
    { w with consumers := w.consumers.set t { T with assigned := some c } }
  have hready : ∀ T' : ConsumerTransport, T'.assigned = some c →
      T'.chain.live = false → Playing w.present { w with
        consumers := (w.consumers.set t { T with assigned := some c }).set t T'
        consumerAudio } := by
    intro T' hassigned hlive'
    rw [List.set_set]
    exact h.ready hT hlive c T' hassigned hlive' consumerAudio (by rw [hm])
  unfold Page.assignMediasoupConsumer
  dsimp only
  split
  · rename_i w₁ heq
    rw [heq] at hm
    subst hm
    exact hready _ rfl rfl
  · rename_i w₁ e heq
    rw [heq] at hm
    subst hm
    exact hready _ rfl rfl

/-- A transport is created; nothing is played yet. -/
theorem runHandler (h : Playing w.present w) (device : Json → Bool)
    (caps : Json) (cId : String) (request : TransportRequest) :
    Playing (w.runHandler device caps cId request).1.present
      (w.runHandler device caps cId request).1 := by
  cases request with
  | createProducer options =>
      unfold Page.runHandler
      dsimp only
      split <;> exact h.congr rfl rfl rfl rfl rfl
  | createConsumer options memberId =>
      unfold Page.runHandler
      dsimp only
      split
      · split
        · rename_i hin
          have hassign := h.assign (T := {
            options, assigned := none
            onceReadyHandlers := [(w.memberRef memberId, memberId)]
            sourceMemberId := memberId
            chain := .consuming w.socket.requests.length }) hin rfl rfl
          refine hassign.congr rfl rfl rfl ?_ rfl
          exact modify_concat _ _ _
        · exact (h.append _ rfl).congr rfl rfl rfl rfl rfl
      · exact h

/-- What is not about consumers keeps what is played. -/
theorem producersOnly (h : Playing w.present w)
    (hp : Page.ProducersOnly w w') : Playing w'.present w' := by
  obtain ⟨producers, producerTransport, userMediaTrack, effectTrack,
    trackHandlers, rfl⟩ := hp
  exact h.congr rfl rfl rfl rfl rfl

/-- **A step of the page keeps what is played in step.** -/
theorem step (h : Playing w.present w) {device : Json → Bool} {a : Action}
    {out : List Out} (hs : w.step device a = some (w', out)) :
    Playing w'.present w' := by
  -- by the action: most leave transports and members alone
  cases a with
  | receive event =>
      rw [Page.step, Page.receive] at hs
      split at hs
      · cases hs
        exact h.congr rfl rfl rfl rfl rfl
      · cases hs
        -- the deferred request runs once, and then its handler
        exact h.receiveSpace event
  | disconnected =>
      cases hs
      exact h.congr rfl rfl rfl rfl rfl
  | runHandler i caps cId =>
      rw [Page.step] at hs
      split at hs
      · cases hs
      · obtain ⟨request, -, heq⟩ := Option.map_eq_some_iff.mp hs
        have hran : Playing (Page.present { w with ran := w.ran ++ [i] })
            { w with ran := w.ran ++ [i] } := h.congr rfl rfl rfl rfl rfl
        have hrun := runHandler hran device caps cId request
        rwa [heq] at hrun
  | timeout i =>
      obtain ⟨r, -, hs⟩ := Option.bind_eq_some_iff.mp hs
      split at hs
      -- the chain fails or goes on; only its last step plays a track
      · cases hs
        exact h.congr rfl rfl rfl rfl rfl
      · cases hs
  | continueConsumer t =>
      obtain ⟨T, hT, hs⟩ := Option.bind_eq_some_iff.mp hs
      obtain ⟨outcome, -, hs⟩ := Option.bind_eq_some_iff.mp hs
      unfold Page.continueConsumer at hs
      split at hs
      · rename_i hchain
        cases hs
        exact h.setChain hT (by rw [hchain]; rfl) _
      · rename_i c r value hchain
        have hready := h.assignMediasoupConsumer hT (by rw [hchain]; rfl) c
        rwa [Option.some.inj hs] at hready
      · rename_i hchain
        cases hs
        exact h.setChain hT (by rw [hchain]; rfl) _
      · rename_i hchain
        cases hs
        exact h.setChain hT (by rw [hchain]; rfl) _
      · cases hs
  | mediaConsumed t c cId =>
      obtain ⟨T, hT, hs⟩ := Option.bind_eq_some_iff.mp hs
      split at hs
      · rename_i hchain
        cases hs
        exact (h.setChain hT (by rw [hchain]; rfl)
          (.resuming c w.socket.requests.length)).congr rfl rfl rfl rfl rfl
      · cases hs
  | mediaConsumeRejected t message =>
      obtain ⟨T, hT, hs⟩ := Option.bind_eq_some_iff.mp hs
      split at hs
      · rename_i hchain
        cases hs
        exact h.setChain hT (by rw [hchain]; rfl) _
      · cases hs
  | produced t p =>
      obtain ⟨T, -, hs⟩ := Option.bind_eq_some_iff.mp hs
      split at hs
      · have hq := Page.assignMediasoupProducer_quiet w t p
        rw [Option.some.inj hs] at hq
        exact h.producersOnly hq.1
      · cases hs
  | produceRejected t message =>
      obtain ⟨T, -, hs⟩ := Option.bind_eq_some_iff.mp hs
      split at hs
      · cases hs
        exact h.congr rfl rfl rfl rfl rfl
      · cases hs
  | producerConnect t dtlsParameters cId =>
      obtain ⟨T, -, heq⟩ := Option.map_eq_some_iff.mp hs
      cases heq
      exact h.congr rfl rfl rfl rfl rfl
  | producerProduce t kind rtpParameters cId =>
      obtain ⟨T, -, heq⟩ := Option.map_eq_some_iff.mp hs
      cases heq
      exact h.congr rfl rfl rfl rfl rfl
  | consumerConnect t dtlsParameters cId =>
      obtain ⟨T, -, heq⟩ := Option.map_eq_some_iff.mp hs
      cases heq
      exact h.congr rfl rfl rfl rfl rfl
  | answerRaised r =>
      rw [Page.step] at hs
      split at hs
      · obtain ⟨outcome, -, heq⟩ := Option.map_eq_some_iff.mp hs
        cases heq
        exact h.congr rfl rfl rfl rfl rfl
      · cases hs
  | userMedia track =>
      cases hs
      exact h.congr rfl rfl rfl rfl rfl
  | trackEffect =>
      rw [Page.step] at hs
      split at hs
      · cases hs
      · obtain ⟨track, -, heq⟩ := Option.map_eq_some_iff.mp hs
        have hq := Page.trackEffect_quiet w track
        rw [heq] at hq
        exact h.producersOnly hq.1
  | trackReplaced t i =>
      obtain ⟨T, -, hs⟩ := Option.bind_eq_some_iff.mp hs
      obtain ⟨track, -, heq⟩ := Option.map_eq_some_iff.mp hs
      cases heq
      exact h.congr rfl rfl rfl rfl rfl
  | replaceTrackRejected t i message =>
      obtain ⟨T, -, hs⟩ := Option.bind_eq_some_iff.mp hs
      obtain ⟨track, -, heq⟩ := Option.map_eq_some_iff.mp hs
      cases heq
      exact h.congr rfl rfl rfl rfl rfl

theorem initial (producerData : MemberData) (isMuted : Bool) :
    Playing (Page.initial producerData isMuted).present
      (Page.initial producerData isMuted) where
  known id hin := Bool.noConfusion hin
  distinct id id' hin := Bool.noConfusion hin
  bound ref t ht := by cases ht
  waits id t hin := Bool.noConfusion hin
  unassigned t T hT := by cases hT
  plays id t T c hin := Bool.noConfusion hin

end Playing

section Runs

variable {device : Json → Bool} {producerData : MemberData} {isMuted : Bool}
  {w : Page}

end Runs

/-! ## §2. The user's track. -/

namespace Page

/-- The track transport `t` of the producing member carries. -/
def userTrack (w : Page) (t : Nat) : Option Track :=
  w.producers[t]?.bind ProducerTransport.track

/-- The tracks transport `t` is about to carry. -/
def replacing (w : Page) (t : Nat) : List Track :=
  (w.producers[t]?.map ProducerTransport.replacing).getD []

end Page

/-! ### What is seen of it. -/

/-- The track the effect has run with. -/
def Out.handed : Out → Option Track
  | .trackEffect track => some track
  | _ => none

/-- The track `setTrack` was called with, and for which transport. -/
def Out.setting : Out → Option (Nat × Track)
  | .setTrack t track => some (t, track)
  | _ => none

/-- The track `replaceTrack` was called with, and for which transport. -/
def Out.replacement : Out → Option (Nat × Track)
  | .replaceTrack t track => some (t, track)
  | _ => none

/-- The observation has no part in the user's track. -/
def Out.trackless : Out → Bool
  | .trackEffect _ | .setTrack .. | .replaceTrack .. => false
  | _ => true

/-- The tracks the effect has run with, in order. -/
def handedIn (tr : List Out) : List Track := tr.filterMap Out.handed

/-- The calls of `setTrack`, in order. -/
def settingsIn (tr : List Out) : List (Nat × Track) :=
  tr.filterMap Out.setting

/-- The calls of `replaceTrack`, in order. -/
def replacementsIn (tr : List Out) : List (Nat × Track) :=
  tr.filterMap Out.replacement

@[simp]
theorem handedIn_append (tr out : List Out) :
    handedIn (tr ++ out) = handedIn tr ++ handedIn out :=
  List.filterMap_append

@[simp]
theorem settingsIn_append (tr out : List Out) :
    settingsIn (tr ++ out) = settingsIn tr ++ settingsIn out :=
  List.filterMap_append

@[simp]
theorem replacementsIn_append (tr out : List Out) :
    replacementsIn (tr ++ out) = replacementsIn tr ++ replacementsIn out :=
  List.filterMap_append

section Trackless

variable {out : List Out}

/-- Trackless observations hand over, set and replace nothing. -/
theorem trackless_none {o : Out} (h : o.trackless = true) :
    o.handed = none ∧ o.setting = none ∧ o.replacement = none := by
  cases o with
  | trackEffect | setTrack | replaceTrack => cases h
  | _ => exact ⟨rfl, rfl, rfl⟩

/-- Outputs without tracks hand none in. -/
theorem handedIn_trackless (h : ∀ o ∈ out, o.trackless = true) :
    handedIn out = [] :=
  List.filterMap_eq_nil_iff.mpr fun o ho => (trackless_none (h o ho)).1

theorem settingsIn_trackless (h : ∀ o ∈ out, o.trackless = true) :
    settingsIn out = [] :=
  List.filterMap_eq_nil_iff.mpr fun o ho => (trackless_none (h o ho)).2.1

theorem replacementsIn_trackless (h : ∀ o ∈ out, o.trackless = true) :
    replacementsIn out = [] :=
  List.filterMap_eq_nil_iff.mpr fun o ho => (trackless_none (h o ho)).2.2

end Trackless

/-! ### What the steps show. -/

namespace Page

variable {w w' : Page} {out : List Out} {device : Json → Bool}

theorem runHandler_trackless (w : Page) (device : Json → Bool) (caps : Json)
    (cId : String) (request : TransportRequest) :
    ∀ o ∈ (w.runHandler device caps cId request).2, o.trackless = true := by
  cases request with
  | createProducer options =>
      unfold runHandler
      dsimp only
      split <;> simp [Out.trackless]
  | createConsumer options memberId =>
      unfold runHandler
      dsimp only
      split
      · split <;> simp [createConsumer, Out.trackless]
      · simp [Out.trackless]

theorem assignMediasoupConsumer_trackless (w : Page) (t : Nat)
    (T : ConsumerTransport) (c : MediasoupConsumer) :
    ∀ o ∈ (w.assignMediasoupConsumer t T c).2, o.trackless = true := by
  unfold assignMediasoupConsumer
  dsimp only
  split <;> simp [Out.trackless]

/-- The effect and a transport that becomes ready set the user's track. -/
def setsTrack : Action → Bool
  | .trackEffect | .produced .. => true
  | _ => false

/-- Outside these steps nothing has a part in the user's track. -/
theorem step_trackless {a : Action}
    (hs : w.step device a = some (w', out)) (ha : setsTrack a = false) :
    ∀ o ∈ out, o.trackless = true := by
  -- by the action: only `produced` and the effect set a track
  cases a with
  | receive event =>
      rw [step, receive] at hs
      split at hs <;> cases hs <;> simp [Out.trackless]
  | disconnected | userMedia =>
      cases hs
      simp
  -- a handler creates transports, and hands nothing over
  | runHandler i caps cId =>
      rw [step] at hs
      split at hs
      · cases hs
      · obtain ⟨request, -, heq⟩ := Option.map_eq_some_iff.mp hs
        have hquiet := runHandler_trackless { w with ran := w.ran ++ [i] }
          device caps cId request
        rwa [heq] at hquiet
  | timeout i =>
      obtain ⟨r, -, hs⟩ := Option.bind_eq_some_iff.mp hs
      split at hs <;> cases hs
      simp
  | continueConsumer t =>
      obtain ⟨T, -, hs⟩ := Option.bind_eq_some_iff.mp hs
      obtain ⟨outcome, -, hs⟩ := Option.bind_eq_some_iff.mp hs
      unfold continueConsumer at hs
      split at hs
      · cases hs
        simp [Out.trackless]
      · rename_i c r value hchain
        have hquiet := w.assignMediasoupConsumer_trackless t T c
        rwa [Option.some.inj hs] at hquiet
      · cases hs
        simp [Out.trackless]
      · cases hs
        simp [Out.trackless]
      · cases hs
  | mediaConsumed t | mediaConsumeRejected t | produceRejected t =>
      obtain ⟨T, -, hs⟩ := Option.bind_eq_some_iff.mp hs
      split at hs <;> cases hs
      simp [Out.trackless]
  | produced | trackEffect => cases ha
  | producerConnect t | producerProduce t | consumerConnect t =>
      obtain ⟨T, -, heq⟩ := Option.map_eq_some_iff.mp hs
      cases heq
      simp [Out.trackless]
  | answerRaised r =>
      rw [step] at hs
      split at hs
      · obtain ⟨outcome, -, heq⟩ := Option.map_eq_some_iff.mp hs
        cases heq
        cases outcome <;> simp [Out.trackless, answerRaised]
      · cases hs
  | trackReplaced t | replaceTrackRejected t =>
      obtain ⟨T, -, hs⟩ := Option.bind_eq_some_iff.mp hs
      obtain ⟨track, -, heq⟩ := Option.map_eq_some_iff.mp hs
      cases heq
      simp [Out.trackless]

end Page

/-! ### The invariant. -/

/-- The producing member has the last transport, and each transport tells
it when it is ready. -/
structure Placed (w : Page) : Prop where
  current : w.producerTransport
    = if w.producers.length = 0 then none else some (w.producers.length - 1)
  fresh : ∀ (t : Nat) T, w.producers[t]? = some T → T.chain = .producing →
    T.assigned = none ∧ T.onceReadyHandlers = [()]

/-- Where the tracks went that the effect ran with: the page is in `w`, and
`tr` was seen. -/
structure Tracking (w : Page) (tr : List Out) : Prop extends Placed w where
  /-- Each was set once, or its listener still waits. -/
  once : (handedIn tr).Perm
    ((settingsIn tr).map Prod.snd ++ w.trackHandlers)
  calls : (replacementsIn tr).Sublist (settingsIn tr)
  pending : ∀ t, ∀ track ∈ w.replacing t, (t, track) ∈ replacementsIn tr
  carried : ∀ t track, w.userTrack t = some track →
    (t, track) ∈ replacementsIn tr
  latest : (handedIn tr).getLast? = w.effectTrack
  /-- Before the first transport is ready, all of them wait. -/
  waiting : w.producers.length ≤ 1 → w.producerIsReady = false →
    settingsIn tr = [] ∧ w.trackHandlers = handedIn tr
  ready : w.producers.length = 1 → w.producerIsReady = true →
    w.trackHandlers = [] ∧
      (replacementsIn tr).getLast? = w.effectTrack.map fun track => (0, track)

/-- The current transport is the newest one. -/
theorem Placed.current_eq {w : Page} {t : Nat} {T : ProducerTransport}
    (h : Placed w) (hT : w.producers[t]? = some T) :
    w.producerTransport = some (w.producers.length - 1) := by
  obtain ⟨hlt, -⟩ := List.getElem?_eq_some_iff.mp hT
  rw [h.current, if_neg (by omega)]

/-- Without a transport the producer is not ready. -/
theorem Placed.not_ready {w : Page} (h : Placed w)
    (hlen : w.producers.length = 0) : w.producerIsReady = false := by
  unfold Page.producerIsReady
  rw [h.current, if_pos hlen]
  rfl

/-! ### Setting a track. -/

namespace Page

variable {w : Page} {t : Nat}

/-- What is seen when `setProducerTrack` finds transport `t`. -/
def settingOf (t : Nat) (assigned : Bool) (track : Track) : List Out :=
  [.setTrack t track, if assigned then .replaceTrack t track
    else .unhandledRejection "mediasoup producer not assigned"]

/-- The transports when `setTrack` of `t` was called with `tracks`. -/
def withTracks (w : Page) (t : Nat) (tracks : List Track) :
    List ProducerTransport :=
  if (w.mediasoupProducer t).isSome then
    w.producers.modify t fun T =>
      { T with replacing := T.replacing ++ tracks }
  else w.producers

/-- What `setProducerTrack` does where it finds a transport. -/
theorem setProducerTrack_eq (track : Track)
    (hcurrent : w.producerTransport = some t) :
    w.setProducerTrack track
      = .ok ({ w with producers := w.withTracks t [track] },
        settingOf t (w.mediasoupProducer t).isSome track) := by
  unfold setProducerTrack
  split
  · rename_i hnone
    rw [hcurrent] at hnone
    cases hnone
  · rename_i t' ht
    obtain rfl : t' = t := Option.some.inj (ht.symm.trans hcurrent)
    unfold withTracks settingOf
    cases (w.mediasoupProducer t').isSome <;> rfl

/-- What is read of a transport that was given tracks. -/
theorem getElem?_withTracks (w : Page) (t t' : Nat) (tracks : List Track) :
    ∃ l, (w.withTracks t tracks)[t']? = w.producers[t']?.map (fun T =>
        { T with replacing := T.replacing ++ l }) ∧
      ∀ track ∈ l, t' = t ∧ (w.mediasoupProducer t).isSome = true ∧
        track ∈ tracks := by
  have hnone : w.producers[t']?
      = w.producers[t']?.map fun T =>
        { T with replacing := T.replacing ++ [] } := by
    cases w.producers[t']? with
    | none => rfl
    | some T => simp
  unfold withTracks
  split
  · rename_i h
    rw [List.getElem?_modify]
    by_cases heq : t = t'
    · exact ⟨tracks, by simp [heq],
        fun track hin => ⟨heq.symm, h, hin⟩⟩
    · refine ⟨[], ?_, fun _ hin => absurd hin List.not_mem_nil⟩
      simp [heq]
  · exact ⟨[], hnone, fun _ hin => absurd hin List.not_mem_nil⟩

theorem withTracks_length (w : Page) (t : Nat) (tracks : List Track) :
    (w.withTracks t tracks).length = w.producers.length := by
  unfold withTracks
  split
  · exact List.length_modify ..
  · rfl

/-- Handing in tracks assigns no mediasoup producer. -/
theorem withTracks_assigned (w : Page) (t t' : Nat) (tracks : List Track) :
    ((w.withTracks t tracks)[t']?.bind fun T => T.assigned)
      = w.mediasoupProducer t' := by
  obtain ⟨l, hget, -⟩ := getElem?_withTracks w t t' tracks
  rw [hget]
  unfold mediasoupProducer
  cases w.producers[t']? <;> rfl

/-- Handlers in two lists do what they do in one. -/
theorem withTracks_append (w : Page) (t : Nat) (tracks tracks' : List Track)
    (handlers : List Track) :
    withTracks { w with
        producers := w.withTracks t tracks
        trackHandlers := handlers } t tracks'
      = w.withTracks t (tracks ++ tracks') := by
  have hsame : mediasoupProducer { w with
      producers := w.withTracks t tracks
      trackHandlers := handlers } t = w.mediasoupProducer t :=
    withTracks_assigned w t t tracks
  have hunfold : withTracks { w with
      producers := w.withTracks t tracks
      trackHandlers := handlers } t tracks'
      = if (w.mediasoupProducer t).isSome then
          (w.withTracks t tracks).modify t fun T =>
            { T with replacing := T.replacing ++ tracks' }
        else w.withTracks t tracks := by
    rw [← hsame]
    rfl
  rw [hunfold]
  unfold withTracks
  split
  · rw [List.modify_modify_eq]
    simp only [Function.comp_def, List.append_assoc]
  · rfl

theorem withTracks_nil (w : Page) (t : Nat) :
    w.withTracks t [] = w.producers := by
  refine List.ext_getElem? fun t' => ?_
  obtain ⟨l, hget, hl⟩ := getElem?_withTracks w t t' []
  have hnil : l = [] := List.eq_nil_iff_forall_not_mem.mpr
    fun track hin => List.not_mem_nil (hl track hin).2.2
  rw [hget, hnil]
  cases w.producers[t']? with
  | none => rfl
  | some T => simp

/-- **All waiting listeners set their tracks**, and none waits any more.  By
induction on the listeners. -/
theorem runTrackHandlers_eq (t : Nat) : ∀ (l : List Track) (w : Page),
    w.trackHandlers = l → w.producerTransport = some t →
    w.runTrackHandlers l
      = ({ w with producers := w.withTracks t l, trackHandlers := [] },
        l.flatMap (settingOf t (w.mediasoupProducer t).isSome), none)
  | [], w, hl, _ => by
      have hw : { w with trackHandlers := [] } = w := by rw [← hl]
      rw [withTracks_nil]
      exact congrArg (fun w : Page => (w, ([] : List Out), none)) hw.symm
  | track :: l, w, hl, hcurrent => by
      have hrest := runTrackHandlers_eq t l
        { w with producers := w.withTracks t [track], trackHandlers := l }
        rfl hcurrent
      have hassigned : mediasoupProducer
          { w with producers := w.withTracks t [track], trackHandlers := l } t
          = w.mediasoupProducer t := withTracks_assigned w t t [track]
      rw [withTracks_append, hassigned] at hrest
      unfold runTrackHandlers
      rw [setProducerTrack_eq track hcurrent]
      dsimp only
      rw [hl, List.erase_cons_head, hrest]
      rfl

end Page

section WithTracks

variable {w w' : Page} {t : Nat} {l : List Track}

/-- What a transport is about to carry after `setTrack` calls. -/
theorem replacing_of_withTracks (hp : w'.producers = w.withTracks t l)
    {t' : Nat} {track : Track} (hin : track ∈ w'.replacing t') :
    track ∈ w.replacing t' ∨
      t' = t ∧ (w.mediasoupProducer t).isSome = true ∧ track ∈ l := by
  obtain ⟨l', heq, hl⟩ := Page.getElem?_withTracks w t t' l
  unfold Page.replacing at hin ⊢
  rw [hp, heq] at hin
  cases hT : w.producers[t']? with
  | none =>
      rw [hT] at hin
      exact absurd hin List.not_mem_nil
  | some T =>
      rw [hT] at hin
      exact (List.mem_append.mp hin).imp_right (hl track)

/-- Setting producer tracks leaves the user's track alone. -/
theorem userTrack_of_withTracks (hp : w'.producers = w.withTracks t l) :
    w'.userTrack = w.userTrack := by
  funext t'
  obtain ⟨l', heq, -⟩ := Page.getElem?_withTracks w t t' l
  unfold Page.userTrack
  rw [hp, heq]
  cases w.producers[t']? <;> rfl

theorem producerIsReady_of_withTracks (hp : w'.producers = w.withTracks t l)
    (ht : w'.producerTransport = w.producerTransport) :
    w'.producerIsReady = w.producerIsReady := by
  unfold Page.producerIsReady
  rw [ht]
  refine congrArg (w.producerTransport.any ·) (funext fun t' => ?_)
  unfold Page.mediasoupProducer
  rw [hp, Page.withTracks_assigned]
  rfl

/-- And the transports in their places. -/
theorem Placed.withTracks (h : Placed w) (hp : w'.producers = w.withTracks t l)
    (ht : w'.producerTransport = w.producerTransport) : Placed w' where
  current := by
    rw [ht, hp, Page.withTracks_length]
    exact h.current
  fresh t' T' hT' hc := by
    obtain ⟨l', heq, -⟩ := Page.getElem?_withTracks w t t' l
    rw [hp, heq] at hT'
    obtain ⟨T, hT, rfl⟩ := Option.map_eq_some_iff.mp hT'
    exact h.fresh t' T hT hc

end WithTracks

/-- What is seen of `setTrack` calls on one transport. -/
theorem seen_settingOf (t : Nat) (b : Bool) (l : List Track) :
    handedIn (l.flatMap (Page.settingOf t b)) = [] ∧
    settingsIn (l.flatMap (Page.settingOf t b)) = l.map (Prod.mk t) ∧
    replacementsIn (l.flatMap (Page.settingOf t b))
      = if b then l.map (Prod.mk t) else [] := by
  induction l with
  | nil => exact ⟨rfl, rfl, by cases b <;> rfl⟩
  | cons track l ih =>
      obtain ⟨hh, hs, hr⟩ := ih
      rw [List.flatMap_cons, handedIn_append, settingsIn_append,
        replacementsIn_append, hh, hs, hr]
      cases b <;> exact ⟨rfl, rfl, rfl⟩

namespace Tracking

variable {w w' : Page} {tr out : List Out} {t : Nat} {T : ProducerTransport}
  {track : Track}

/-- A step by which no transport becomes ready, and that sets no track, keeps
the page in step. -/
theorem keep (h : Tracking w tr) (hp : Placed w')
    (hlen : w'.producers.length = w.producers.length)
    (hready : w'.producerIsReady = w.producerIsReady)
    (he : w'.effectTrack = w.effectTrack)
    (hh : w'.trackHandlers = w.trackHandlers)
    (hpending : ∀ t, ∀ track ∈ w'.replacing t, track ∈ w.replacing t)
    (hcarried : ∀ t track, w'.userTrack t = some track →
      w.userTrack t = some track ∨ track ∈ w.replacing t)
    (ho : ∀ o ∈ out, o.trackless = true) : Tracking w' (tr ++ out) := by
  have hhanded : handedIn (tr ++ out) = handedIn tr := by
    rw [handedIn_append, handedIn_trackless ho, List.append_nil]
  have hset : settingsIn (tr ++ out) = settingsIn tr := by
    rw [settingsIn_append, settingsIn_trackless ho, List.append_nil]
  have hcalls : replacementsIn (tr ++ out) = replacementsIn tr := by
    rw [replacementsIn_append, replacementsIn_trackless ho, List.append_nil]
  refine ⟨hp, ?_, ?_, fun t track hin => ?_, fun t track htr => ?_, ?_, ?_,
    ?_⟩
  · rw [hhanded, hset, hh]
    exact h.once
  · rw [hcalls, hset]
    exact h.calls
  · rw [hcalls]
    exact h.pending t track (hpending t track hin)
  · rw [hcalls]
    exact (hcarried t track htr).elim (h.carried t track)
      (h.pending t track)
  · rw [hhanded, he]
    exact h.latest
  · rw [hlen, hready, hset, hh, hhanded]
    exact h.waiting
  · rw [hlen, hready, hh, hcalls, he]
    exact h.ready

/-- So does a step that leaves alone the transports of the producing member, and
the listeners that wait for them. -/
theorem congr (h : Tracking w tr) (hp : w'.producers = w.producers)
    (ht : w'.producerTransport = w.producerTransport)
    (he : w'.effectTrack = w.effectTrack)
    (hh : w'.trackHandlers = w.trackHandlers)
    (ho : ∀ o ∈ out, o.trackless = true) : Tracking w' (tr ++ out) := by
  refine h.keep ⟨?_, ?_⟩ (by rw [hp]) ?_ he hh (fun t track hin => ?_)
    (fun t track htr => .inl ?_) ho
  · rw [ht, hp]
    exact h.current
  · rw [hp]
    exact h.fresh
  · unfold Page.producerIsReady Page.mediasoupProducer
    rw [hp, ht]
  · unfold Page.replacing at hin ⊢
    rwa [hp] at hin
  · unfold Page.userTrack at htr ⊢
    rwa [hp] at htr

/-- A new transport keeps the page in step. -/
theorem create (h : Tracking w tr) (options : Json) :
    Tracking ((w.createProducer options).assignProducerTransport
      w.producers.length) (tr ++ []) := by
  -- the new transport is the last one, and has no track
  have hproducers : ((w.createProducer options).assignProducerTransport
      w.producers.length).producers = w.producers ++
        [{ options, assigned := none, onceReadyHandlers := [()],
           chain := .producing, replacing := [], track := none }] :=
    modify_concat _ _ _
  have hlen : ((w.createProducer options).assignProducerTransport
      w.producers.length).producers.length = w.producers.length + 1 := by
    rw [hproducers, List.length_append, List.length_singleton]
  -- its producer is not there yet
  have hnot : ((w.createProducer options).assignProducerTransport
      w.producers.length).producerIsReady = false := by
    unfold Page.producerIsReady Page.mediasoupProducer
    rw [hproducers]
    show (((w.producers ++ [_])[w.producers.length]?).bind _).isSome = false
    rw [List.getElem?_concat_length]
    rfl
  have hold : ∀ t : Nat, t = w.producers.length → w.producers[t]? = none :=
    fun t heq => by rw [heq, List.getElem?_eq_none (Nat.le_refl _)]
  rw [List.append_nil]
  refine ⟨⟨?_, fun t T hT hc => ?_⟩, h.once, h.calls, fun t track hin => ?_,
    fun t track htr => ?_, h.latest, fun hle _ => ?_, fun _ hready => ?_⟩
  -- it is the current one from now on
  · rw [hlen, if_neg (by omega)]
    rfl
  · rw [hproducers, Acks.getElem?_concat] at hT
    split at hT
    · cases hT
      exact ⟨rfl, rfl⟩
    · exact h.fresh t T hT hc
  · unfold Page.replacing at hin
    rw [hproducers, Acks.getElem?_concat] at hin
    split at hin
    · exact absurd hin List.not_mem_nil
    · exact h.pending t track hin
  · unfold Page.userTrack at htr
    rw [hproducers, Acks.getElem?_concat] at htr
    split at htr
    · cases htr
    · exact h.carried t track htr
  · -- the first transport: none was ready before
    have hzero : w.producers.length = 0 := by omega
    exact h.waiting (by omega) (h.not_ready hzero)
  · rw [hnot] at hready
    cases hready

/-- So does another track of the user that is handed over. -/
theorem effect (h : Tracking w tr) (track : Track) :
    Tracking (w.trackEffect track).1 (tr ++ (w.trackEffect track).2) := by
  have hlatest : (handedIn tr ++ [track]).getLast? = some track :=
    List.getLast?_concat
  unfold Page.trackEffect
  dsimp only
  split
  · -- the producer is ready: its track is set now
    rename_i hready
    have hready : w.producerIsReady = true := hready
    obtain ⟨t, hcurrent, hassigned⟩ := (Option.any_eq_true _ _).mp hready
    have hset := Page.setProducerTrack_eq track
      (w := { w with effectTrack := some track }) hcurrent
    rw [show Page.mediasoupProducer { w with effectTrack := some track } t
      = w.mediasoupProducer t from rfl, hassigned] at hset
    rw [hset]
    dsimp only
    -- the page after the step, with its track on the way
    generalize hw' : ({ w with
      effectTrack := some track
      producers := Page.withTracks
        { w with effectTrack := some track } t [track] } : Page) = w'
    have hp : w'.producers = w.withTracks t [track] := by rw [← hw']; rfl
    have ht : w'.producerTransport = w.producerTransport := by rw [← hw']
    have hh : w'.trackHandlers = w.trackHandlers := by rw [← hw']
    have he : w'.effectTrack = some track := by rw [← hw']
    have hlen : w'.producers.length = w.producers.length := by
      rw [hp, Page.withTracks_length]
    have hnow := (producerIsReady_of_withTracks hp ht).trans hready
    generalize hout : Out.trackEffect track :: Page.settingOf t true track
      = out
    have hcalls : replacementsIn (tr ++ out)
        = replacementsIn tr ++ [(t, track)] := by
      rw [← hout]
      exact replacementsIn_append ..
    have hsets : settingsIn (tr ++ out)
        = settingsIn tr ++ [(t, track)] := by
      rw [← hout]
      exact settingsIn_append ..
    have hhanded : handedIn (tr ++ out) = handedIn tr ++ [track] := by
      rw [← hout]
      exact handedIn_append ..
    refine ⟨h.toPlaced.withTracks hp ht, ?_, ?_, fun t' track' hin => ?_,
      fun t' track' htr => ?_, ?_, fun _ hnot => ?_, fun hone _ => ?_⟩
    -- what was handed over is set now, or waits, in the same numbers
    · rw [hhanded, hsets, List.map_append, hh]
      refine (h.once.append_right [track]).trans ?_
      rw [List.append_assoc, List.append_assoc]
      exact List.perm_append_comm.append_left _
    · rw [hcalls, hsets]
      exact h.calls.append (List.Sublist.refl _)
    · rw [hcalls]
      -- the new replacement is pending; those from before still are
      rcases replacing_of_withTracks hp hin with hin | ⟨rfl, -, hin⟩
      · exact List.mem_append_left _ (h.pending t' track' hin)
      · rw [List.mem_singleton.mp hin]
        exact List.mem_append_right _ List.mem_cons_self
    · rw [hcalls]
      rw [userTrack_of_withTracks hp] at htr
      exact List.mem_append_left _ (h.carried t' track' htr)
    · rw [hhanded, he]
      exact hlatest
    · rw [hnow] at hnot
      cases hnot
    · rw [hlen] at hone
      have hzero := h.current
      rw [hcurrent, hone] at hzero
      cases hzero
      rw [hh, he, hcalls]
      -- it is the last one that was asked for
      exact ⟨(h.ready hone hready).1, List.getLast?_concat⟩
  · -- a listener waits
    rename_i hnot
    have hnot : w.producerIsReady = false := Bool.eq_false_iff.mpr hnot
    have hhanded : handedIn (tr ++ [.trackEffect track])
        = handedIn tr ++ [track] := handedIn_append ..
    have hsets : settingsIn (tr ++ [.trackEffect track]) = settingsIn tr :=
      (settingsIn_append ..).trans (List.append_nil _)
    have hcalls : replacementsIn (tr ++ [.trackEffect track])
        = replacementsIn tr :=
      (replacementsIn_append ..).trans (List.append_nil _)
    refine ⟨⟨h.current, h.fresh⟩, ?_, ?_, ?_, ?_, ?_, fun hle _ => ?_,
      fun _ hready => ?_⟩
    · rw [hhanded, hsets, ← List.append_assoc]
      exact h.once.append_right [track]
    · rw [hcalls, hsets]
      exact h.calls
    · rw [hcalls]
      exact h.pending
    · rw [hcalls]
      exact h.carried
    · rw [hhanded]
      exact hlatest
    · obtain ⟨hnone, hall⟩ := h.waiting hle hnot
      rw [hsets, hhanded, hall]
      exact ⟨hnone, rfl⟩
    · have hready : w.producerIsReady = true := hready
      rw [hnot] at hready
      cases hready

/-- A change of a transport that a reader does not see. -/
theorem map_modify {β : Type} {g : ProducerTransport → β}
    {f : ProducerTransport → ProducerTransport} (hg : ∀ T, g (f T) = g T)
    (l : List ProducerTransport) (t t' : Nat) :
    (l.modify t f)[t']?.map g = l[t']?.map g := by
  rw [List.getElem?_modify]
  cases l[t']? with
  | none => rfl
  | some T =>
      by_cases heq : t = t'
      · simp [heq, hg]
      · simp [heq]

/-- The page when transport `t` has got its producer. -/
def assigning (w : Page) (t : Nat) (p : MediasoupProducer) : Page :=
  { w with
    producers := w.producers.modify t fun T => { T with assigned := some p } }

/-- The page when its handlers have run, too. -/
def readied (w : Page) (t : Nat) (p : MediasoupProducer) : Page :=
  { w with
    producers := ((assigning w t p).withTracks (w.producers.length - 1)
      w.trackHandlers).modify t fun T =>
        { T with onceReadyHandlers := [], chain := .done }
    trackHandlers := [] }

/-- The producer that waiting listeners find is assigned. -/
def isCurrent (w : Page) (t : Nat) (p : MediasoupProducer) : Bool :=
  ((assigning w t p).mediasoupProducer (w.producers.length - 1)).isSome

/-- What `assignMediasoupProducer` does: the one handler of the transport
runs the listeners that wait. -/
theorem assignMediasoupProducer_eq (h : Placed w)
    (hT : w.producers[t]? = some T) (hhandlers : T.onceReadyHandlers = [()])
    (p : MediasoupProducer) :
    w.assignMediasoupProducer t p = (readied w t p, .produced t p ::
      w.trackHandlers.flatMap (Page.settingOf (w.producers.length - 1)
        (isCurrent w t p))) := by
  have hrun := Page.runTrackHandlers_eq (w.producers.length - 1)
    w.trackHandlers (assigning w t p) rfl (h.current_eq hT)
  have hnotify : (assigning w t p).notifyProducers [()]
      = ({ assigning w t p with
          producers := (assigning w t p).withTracks (w.producers.length - 1)
            w.trackHandlers
          trackHandlers := [] },
        w.trackHandlers.flatMap (Page.settingOf (w.producers.length - 1)
          (isCurrent w t p)), none) := by
    have hready : (assigning w t p).producerReady = _ := hrun
    unfold Page.notifyProducers
    rw [hready]
    dsimp only
    unfold Page.notifyProducers
    rw [List.append_nil]
    rfl
  unfold Page.assignMediasoupProducer
  rw [hT, Option.map_some, Option.getD_some, hhandlers]
  dsimp only
  rw [show Page.notifyProducers { w with
    producers := w.producers.modify t fun T =>
      { T with assigned := some p } } [()] = _ from hnotify]
  rfl

theorem readied_length (w : Page) (t : Nat) (p : MediasoupProducer) :
    (readied w t p).producers.length = w.producers.length := by
  unfold readied
  dsimp only
  rw [List.length_modify, Page.withTracks_length]
  exact List.length_modify ..

/-- A call of `replaceTrack` was there, or is for the track of the user. -/
theorem readied_replacing {t' : Nat} {p : MediasoupProducer}
    (hin : track ∈ (readied w t p).replacing t') :
    track ∈ w.replacing t' ∨ t' = w.producers.length - 1 ∧
      isCurrent w t p = true ∧ track ∈ w.trackHandlers := by
  unfold Page.replacing readied at hin
  dsimp only at hin
  rw [map_modify (g := ProducerTransport.replacing)
    (f := fun T => { T with onceReadyHandlers := [], chain := .done })
    fun _ => rfl] at hin
  refine (replacing_of_withTracks (w := assigning w t p)
    (show Page.producers { assigning w t p with
      producers := (assigning w t p).withTracks (w.producers.length - 1)
        w.trackHandlers } = _ from rfl) hin).imp_left fun hin => ?_
  unfold Page.replacing assigning at hin
  dsimp only at hin
  rw [map_modify (g := ProducerTransport.replacing)
    (f := fun T => { T with assigned := some p }) fun _ => rfl] at hin
  exact hin

theorem readied_userTrack (w : Page) (t t' : Nat) (p : MediasoupProducer) :
    (readied w t p).userTrack t' = w.userTrack t' := by
  have hread : ∀ w : Page, w.userTrack t'
      = (w.producers[t']?.map ProducerTransport.track).join := by
    intro w
    unfold Page.userTrack
    cases w.producers[t']? <;> rfl
  have htracks := userTrack_of_withTracks (w := assigning w t p)
    (show Page.producers { assigning w t p with
      producers := (assigning w t p).withTracks (w.producers.length - 1)
        w.trackHandlers } = _ from rfl)
  have hnow := congrFun htracks t'
  rw [hread, hread (assigning w t p)] at hnow
  rw [hread, hread w]
  unfold readied
  dsimp only
  rw [map_modify (g := ProducerTransport.track)
    (f := fun T => { T with onceReadyHandlers := [], chain := .done })
    fun _ => rfl]
  refine hnow.trans ?_
  unfold assigning
  dsimp only
  rw [map_modify (g := ProducerTransport.track)
    (f := fun T => { T with assigned := some p }) fun _ => rfl]

/-- The mediasoup producer comes to its own transport. -/
theorem readied_assigned (w : Page) (t t' : Nat) (p : MediasoupProducer) :
    (readied w t p).mediasoupProducer t'
      = if t = t' then w.producers[t']?.map fun _ => p
        else w.mediasoupProducer t' := by
  have hread : ∀ l : List ProducerTransport, (l[t']?.bind fun T => T.assigned)
      = (l[t']?.map fun T => T.assigned).join := by
    intro l
    cases l[t']? <;> rfl
  unfold Page.mediasoupProducer readied
  dsimp only
  rw [hread, map_modify (g := fun T => T.assigned)
    (f := fun T => { T with onceReadyHandlers := [], chain := .done })
    fun _ => rfl, ← hread, Page.withTracks_assigned]
  unfold Page.mediasoupProducer assigning
  dsimp only
  rw [List.getElem?_modify]
  cases w.producers[t']? with
  | none => split <;> rfl
  | some T =>
      show Transport.assigned _ = _
      by_cases heq : t = t' <;> simp [heq]

theorem readied_placed (h : Placed w) (p : MediasoupProducer) :
    Placed (readied w t p) where
  current := by
    rw [readied_length]
    exact h.current
  fresh t' T' hT' hc := by
    unfold readied at hT'
    dsimp only at hT'
    obtain ⟨l, heq, -⟩ := Page.getElem?_withTracks (assigning w t p)
      (w.producers.length - 1) t' w.trackHandlers
    rw [List.getElem?_modify, heq] at hT'
    unfold assigning at hT'
    dsimp only at hT'
    rw [List.getElem?_modify] at hT'
    cases hT : w.producers[t']? with
    | none =>
        rw [hT] at hT'
        cases hT'
    | some T =>
        rw [hT] at hT'
        by_cases heq : t = t'
        · simp only [if_pos heq] at hT'
          cases hT'
          cases hc
        · simp only [if_neg heq] at hT'
          cases hT'
          exact h.fresh t' T hT hc

/-- **A transport of the producing member becomes ready.** -/
theorem produced (h : Tracking w tr) (hT : w.producers[t]? = some T)
    (hc : T.chain = .producing) (p : MediasoupProducer) :
    Tracking (w.assignMediasoupProducer t p).1
      (tr ++ (w.assignMediasoupProducer t p).2) := by
  obtain ⟨hnone, hhandlers⟩ := h.fresh t T hT hc
  obtain ⟨hlt, -⟩ := List.getElem?_eq_some_iff.mp hT
  have hcurrent := h.current_eq hT
  have hlen := readied_length w t p
  rw [assignMediasoupProducer_eq h.toPlaced hT hhandlers p]
  dsimp only
  obtain ⟨hhanded, hsets, hcalls⟩ := seen_settingOf (w.producers.length - 1)
    (isCurrent w t p) w.trackHandlers
  generalize hout : Out.produced t p :: w.trackHandlers.flatMap
    (Page.settingOf (w.producers.length - 1) (isCurrent w t p)) = out
  have hhanded : handedIn (tr ++ out) = handedIn tr := by
    rw [handedIn_append, ← hout]
    exact (congrArg _ hhanded).trans (List.append_nil _)
  have hsets : settingsIn (tr ++ out) = settingsIn tr
      ++ w.trackHandlers.map (Prod.mk (w.producers.length - 1)) := by
    rw [settingsIn_append, ← hout]
    exact congrArg _ hsets
  have hcalls : replacementsIn (tr ++ out) = replacementsIn tr
      ++ if isCurrent w t p then
          w.trackHandlers.map (Prod.mk (w.producers.length - 1))
        else [] := by
    rw [replacementsIn_append, ← hout]
    exact congrArg _ hcalls
  -- the only transport is ready now, and was not
  have hready : w.producers.length ≤ 1 → w.producerIsReady = false ∧
      isCurrent w t p = true ∧ (readied w t p).producerIsReady = true := by
    intro hle
    have heq : w.producers.length - 1 = t := by omega
    have hassigned : (readied w t p).mediasoupProducer t = some p := by
      rw [readied_assigned, if_pos rfl, hT]
      rfl
    refine ⟨?_, ?_, ?_⟩
    · unfold Page.producerIsReady Page.mediasoupProducer
      rw [hcurrent, Option.any_some, heq, hT, Option.bind_some, hnone]
      rfl
    · unfold isCurrent Page.mediasoupProducer assigning
      dsimp only
      rw [heq, List.getElem?_modify, hT]
      simp
    · have ht : (readied w t p).producerTransport
          = some (w.producers.length - 1) := hcurrent
      unfold Page.producerIsReady
      rw [ht, Option.any_some, heq, hassigned]
      rfl
  refine ⟨readied_placed h.toPlaced p, ?_, ?_, fun t' track' hin => ?_,
    fun t' track' htr => ?_, ?_, fun hle hnot => ?_, fun hone _ => ⟨rfl, ?_⟩⟩
  · rw [hhanded, hsets, List.map_append, List.map_map]
    have hself : w.trackHandlers.map
        (Prod.snd ∘ Prod.mk (w.producers.length - 1)) = w.trackHandlers :=
      List.map_id' _
    rw [hself]
    exact h.once.trans (by rw [show (readied w t p).trackHandlers = [] from
      rfl, List.append_nil])
  · rw [hcalls, hsets]
    refine h.calls.append ?_
    split
    · exact List.Sublist.refl _
    · exact List.nil_sublist _
  · rw [hcalls]
    rcases readied_replacing hin with hin | ⟨rfl, hnow, hin⟩
    · exact List.mem_append_left _ (h.pending t' track' hin)
    · rw [if_pos hnow]
      exact List.mem_append_right _ (List.mem_map_of_mem hin)
  · rw [hcalls]
    rw [readied_userTrack] at htr
    exact List.mem_append_left _ (h.carried t' track' htr)
  · rw [hhanded]
    exact h.latest
  · rw [hlen] at hle
    rw [(hready hle).2.2] at hnot
    cases hnot
  · rw [hlen] at hone
    obtain ⟨hnot, hnow, -⟩ := hready (Nat.le_of_eq hone)
    obtain ⟨hidle, hall⟩ := h.waiting (Nat.le_of_eq hone) hnot
    have hcalled : replacementsIn tr = [] :=
      List.sublist_nil.mp (hidle ▸ h.calls)
    rw [hcalls, if_pos hnow, hcalled, List.nil_append, hone, hall,
      List.getLast?_map, h.latest]
    rfl

/-- A transport of which something else changes. -/
theorem setTransport (h : Tracking w tr) (hT : w.producers[t]? = some T)
    {T' : ProducerTransport} (ha : T'.assigned = T.assigned)
    (hf : T'.chain = .producing →
      T.chain = .producing ∧ T'.onceReadyHandlers = T.onceReadyHandlers)
    (hr : ∀ track ∈ T'.replacing, track ∈ T.replacing)
    (hc : ∀ track, T'.track = some track →
      T.track = some track ∨ track ∈ T.replacing)
    (ho : ∀ o ∈ out, o.trackless = true) :
    Tracking { w with producers := w.producers.set t T' } (tr ++ out) := by
  obtain ⟨hlt, -⟩ := List.getElem?_eq_some_iff.mp hT
  -- one transport changes, the others are as they were
  have hget : ∀ t' : Nat, (w.producers.set t T')[t']?
      = if t = t' then some T' else w.producers[t']? := by
    intro t'
    rw [List.getElem?_set, if_pos hlt]
  -- no producer comes or goes by this
  have hassigned : Page.mediasoupProducer { w with
      producers := w.producers.set t T' } = w.mediasoupProducer := by
    funext t'
    unfold Page.mediasoupProducer
    dsimp only
    rw [hget]
    split
    · rename_i heq
      rw [← heq, hT]
      exact ha
    · rfl
  refine h.keep ⟨?_, fun t' T₁ hT₁ hc => ?_⟩ (List.length_set ..) ?_ rfl rfl
    (fun t' track hin => ?_) (fun t' track htr => ?_) ho
  · rw [List.length_set]
    exact h.current
  · have hT₁ := (hget t').symm.trans hT₁
    split at hT₁
    · rename_i heq
      cases hT₁
      obtain ⟨hchain, hhandlers⟩ := hf hc
      obtain ⟨hnone, hone⟩ := h.fresh t T hT hchain
      exact ⟨ha.trans hnone, hhandlers.trans hone⟩
    · exact h.fresh t' T₁ hT₁ hc
  · unfold Page.producerIsReady
    rw [hassigned]
  -- what is pending there was pending before
  · unfold Page.replacing at hin ⊢
    dsimp only at hin
    rw [hget] at hin
    split at hin
    · rename_i heq
      rw [← heq, hT]
      exact hr track hin
    · exact hin
  · unfold Page.userTrack Page.replacing at *
    dsimp only at htr
    rw [hget] at htr
    split at htr
    · rename_i heq
      rw [← heq, hT]
      exact hc track htr
    · exact .inl htr

theorem runHandler (h : Tracking w tr) (device : Json → Bool) (caps : Json)
    (cId : String) (request : TransportRequest) :
    Tracking (w.runHandler device caps cId request).1
      (tr ++ (w.runHandler device caps cId request).2) := by
  have ho := w.runHandler_trackless device caps cId request
  revert ho
  cases request with
  | createProducer options =>
      unfold Page.runHandler
      dsimp only
      split
      · exact fun _ => h.create options
      · exact h.congr rfl rfl rfl rfl
  | createConsumer options memberId =>
      unfold Page.runHandler
      dsimp only
      split
      · split <;> exact h.congr rfl rfl rfl rfl
      · exact h.congr rfl rfl rfl rfl

/-- A consumer's transport becomes ready: only what is played changes. -/
theorem assignMediasoupConsumer (h : Tracking w tr) (t : Nat)
    (T : ConsumerTransport) (c : MediasoupConsumer) :
    Tracking (w.assignMediasoupConsumer t T c).1
      (tr ++ (w.assignMediasoupConsumer t T c).2) := by
  obtain ⟨consumerAudio, hm⟩ := Page.notifyConsumers_audioOnly
    T.onceReadyHandlers
    { w with consumers := w.consumers.set t { T with assigned := some c } }
  have ho := w.assignMediasoupConsumer_trackless t T c
  revert ho
  unfold Page.assignMediasoupConsumer
  dsimp only
  split
  · rename_i w₁ heq
    rw [heq] at hm
    subst hm
    exact h.congr rfl rfl rfl rfl
  · rename_i w₁ e heq
    rw [heq] at hm
    subst hm
    exact h.congr rfl rfl rfl rfl

/-- **A step of the page keeps it in step with the user's tracks.** -/
theorem step (h : Tracking w tr) {device : Json → Bool} {a : Action}
    (hs : w.step device a = some (w', out)) : Tracking w' (tr ++ out) := by
  have hquiet := Page.step_trackless hs
  -- by the action: `hquiet` says that most set no track
  cases a with
  | receive event =>
      have ho := hquiet rfl
      rw [Page.step, Page.receive] at hs
      split at hs
      · cases hs
        exact h.congr rfl rfl rfl rfl ho
      · obtain ⟨space, memberRef, nextRef, heq⟩ :=
          Page.receiveSpace_spaceOnly w event
        cases hs
        rw [heq]
        exact h.congr rfl rfl rfl rfl ho
  | disconnected | userMedia =>
      cases hs
      exact h.congr rfl rfl rfl rfl (hquiet rfl)
  -- the deferred request runs once, and then its handler
  | runHandler i caps cId =>
      rw [Page.step] at hs
      split at hs
      · cases hs
      · obtain ⟨request, -, heq⟩ := Option.map_eq_some_iff.mp hs
        have hran : Tracking { w with ran := w.ran ++ [i] } (tr ++ []) :=
          h.congr rfl rfl rfl rfl (by simp)
        rw [List.append_nil] at hran
        have hrun := runHandler hran device caps cId request
        rw [heq] at hrun
        exact hrun
  | timeout i =>
      obtain ⟨r, -, hs⟩ := Option.bind_eq_some_iff.mp hs
      split at hs
      · cases hs
        exact h.congr rfl rfl rfl rfl (hquiet rfl)
      · cases hs
  | continueConsumer t =>
      obtain ⟨T, -, hs⟩ := Option.bind_eq_some_iff.mp hs
      obtain ⟨outcome, -, hs⟩ := Option.bind_eq_some_iff.mp hs
      have ho := hquiet rfl
      unfold Page.continueConsumer at hs
      split at hs
      · cases hs
        exact h.congr rfl rfl rfl rfl ho
      · rename_i c r value hchain
        have hready := h.assignMediasoupConsumer t T c
        rwa [Option.some.inj hs] at hready
      · cases hs
        exact h.congr rfl rfl rfl rfl ho
      · cases hs
        exact h.congr rfl rfl rfl rfl ho
      · cases hs
  | mediaConsumed t | mediaConsumeRejected t =>
      obtain ⟨T, -, hs⟩ := Option.bind_eq_some_iff.mp hs
      split at hs
      · cases hs
        exact h.congr rfl rfl rfl rfl (hquiet rfl)
      · cases hs
  | produced t p =>
      obtain ⟨T, hT, hs⟩ := Option.bind_eq_some_iff.mp hs
      split at hs
      · rename_i hc
        have hproduced := h.produced hT hc p
        rwa [Option.some.inj hs] at hproduced
      · cases hs
  | produceRejected t message =>
      obtain ⟨T, hT, hs⟩ := Option.bind_eq_some_iff.mp hs
      split at hs
      · cases hs
        exact h.setTransport hT rfl (fun hc => by cases hc) (fun _ => id)
          (fun _ => .inl) (hquiet rfl)
      · cases hs
  | producerConnect t | producerProduce t | consumerConnect t =>
      obtain ⟨T, -, heq⟩ := Option.map_eq_some_iff.mp hs
      cases heq
      exact h.congr rfl rfl rfl rfl (hquiet rfl)
  | answerRaised r =>
      rw [Page.step] at hs
      split at hs
      · obtain ⟨outcome, -, heq⟩ := Option.map_eq_some_iff.mp hs
        cases heq
        exact h.congr rfl rfl rfl rfl (hquiet rfl)
      · cases hs
  | trackEffect =>
      rw [Page.step] at hs
      split at hs
      · cases hs
      · obtain ⟨track, -, heq⟩ := Option.map_eq_some_iff.mp hs
        have heffect := h.effect track
        rwa [heq] at heffect
  -- a replacement that is done has been asked for
  | trackReplaced t i =>
      obtain ⟨T, hT, hs⟩ := Option.bind_eq_some_iff.mp hs
      obtain ⟨track, htrack, heq⟩ := Option.map_eq_some_iff.mp hs
      cases heq
      refine h.setTransport hT rfl (fun hc => ⟨hc, rfl⟩)
        (fun _ hin => List.mem_of_mem_eraseIdx hin) (fun track' hc => ?_)
        (hquiet rfl)
      cases hc
      exact .inr (List.mem_of_getElem? htrack)
  | replaceTrackRejected t i message =>
      obtain ⟨T, hT, hs⟩ := Option.bind_eq_some_iff.mp hs
      obtain ⟨track, -, heq⟩ := Option.map_eq_some_iff.mp hs
      cases heq
      exact h.setTransport hT rfl (fun hc => ⟨hc, rfl⟩)
        (fun _ hin => List.mem_of_mem_eraseIdx hin) (fun _ => .inl)
        (hquiet rfl)

/-- Every call of `replaceTrack` is for a track just set. -/
theorem setProducerTrack_calls (hs : w.setProducerTrack track = .ok (w', out)) :
    (replacementsIn out).Sublist (settingsIn out) := by
  unfold Page.setProducerTrack at hs
  split at hs
  · cases hs
  · split at hs
    · cases hs
      exact List.Sublist.refl _
    · cases hs
      exact List.nil_sublist _

/-- `replaceTrack` is called behind a call of `setTrack` in the same step. -/
theorem step_calls (h : Tracking w tr) {device : Json → Bool} {a : Action}
    (hs : w.step device a = some (w', out)) :
    (replacementsIn out).Sublist (settingsIn out) := by
  have hnone : (∀ o ∈ out, o.trackless = true) →
      (replacementsIn out).Sublist (settingsIn out) := fun ho => by
    rw [replacementsIn_trackless ho]
    exact List.nil_sublist _
  cases a with
  | trackEffect =>
      rw [Page.step] at hs
      split at hs
      · cases hs
      · obtain ⟨track, -, heq⟩ := Option.map_eq_some_iff.mp hs
        unfold Page.trackEffect at heq
        dsimp only at heq
        split at heq
        · split at heq
          · rename_i hset
            have hcalls := setProducerTrack_calls hset
            cases heq
            exact hcalls
          · cases heq
            exact List.Sublist.refl _
        · cases heq
          exact List.Sublist.refl _
  | produced t p =>
      obtain ⟨T, hT, hs⟩ := Option.bind_eq_some_iff.mp hs
      split at hs
      · rename_i hc
        have heq := assignMediasoupProducer_eq h.toPlaced hT
          (h.fresh t T hT hc).2 p
        cases (Option.some.inj hs).symm.trans heq
        obtain ⟨-, hsets, hcalls⟩ := seen_settingOf (w.producers.length - 1)
          (isCurrent w t p) w.trackHandlers
        show (replacementsIn (List.flatMap _ _)).Sublist
          (settingsIn (List.flatMap _ _))
        rw [hcalls, hsets]
        split
        · exact List.Sublist.refl _
        · exact List.nil_sublist _
      · cases hs
  | _ => exact hnone (Page.step_trackless hs rfl)

theorem initial (producerData : MemberData) (isMuted : Bool) :
    Tracking (Page.initial producerData isMuted) [] where
  current := rfl
  fresh t T hT := by cases hT
  once := .refl _
  calls := .refl _
  pending t track hin := absurd hin List.not_mem_nil
  carried t track htr := by cases htr
  latest := rfl
  waiting _ _ := ⟨rfl, rfl⟩
  ready hlen := by cases hlen

end Tracking

section Runs

variable {device : Json → Bool} {producerData : MemberData} {isMuted : Bool}
  {past past₀ : List Page} {w w₀ : Page} {tr tr₀ rest : List Out}

/-- **In every run** the page is in step with the user's tracks. -/
theorem tracking
    (h : (machine device producerData isMuted).Run anyStep past w tr) :
    Tracking w tr :=
  h.invariant Tracking
    (fun w hw => by rw [show w = _ from hw]; exact .initial _ _)
    fun _ _ _ _ _ hI _ hs => hI.step hs

/-- From a state on, as long as the effect does not run. -/
theorem silent (h : Tracking w₀ tr₀)
    (hidle : w₀.trackHandlers = [])
    (hrest : ((machine device producerData isMuted).watched
      (fun _ _ out => out) w₀).Run anyStep past w rest)
    (hnone : handedIn rest = []) :
    settingsIn rest = [] ∧ replacementsIn rest = [] := by
  have hI := hrest.invariant
    (fun w rest => Tracking w (tr₀ ++ rest) ∧
      (replacementsIn rest).Sublist (settingsIn rest))
    (fun w hw => ⟨by rw [show w = w₀ from hw, List.append_nil]; exact h,
      List.Sublist.refl _⟩)
    fun w rest a w' out hI _ hs => by
      obtain ⟨⟨w₁, out₁⟩, hs₁, heq⟩ := Option.map_eq_some_iff.mp hs
      cases heq
      refine ⟨by rw [← List.append_assoc]; exact hI.1.step hs₁, ?_⟩
      rw [replacementsIn_append, settingsIn_append]
      exact hI.2.append (hI.1.step_calls hs₁)
  have hbefore := h.once.length_eq
  have hafter := hI.1.once.length_eq
  rw [hidle, List.append_nil, List.length_map] at hbefore
  rw [handedIn_append, settingsIn_append, hnone, List.append_nil,
    List.length_append, List.length_map, List.length_append] at hafter
  have hsets : settingsIn rest = [] := List.length_eq_zero_iff.mp (by omega)
  exact ⟨hsets, List.sublist_nil.mp (hsets ▸ hI.2)⟩

/-- **The user's track is handed to one transport.**  Each run of the effect
calls `setTrack` once, or its listener still waits; `replaceTrack` is called
by these calls only.  A producing member that has had one transport has been
given the track the effect ran with last, once the transport is ready; and
what a transport carries it was given.  When no listener waits, nothing is
given to any transport until the effect runs again: a member who reconnects
is silent. -/
theorem user_track_once
    (h : (machine device producerData isMuted).Run anyStep past w tr) :
    (handedIn tr).Perm ((settingsIn tr).map Prod.snd ++ w.trackHandlers) ∧
    (replacementsIn tr).Sublist (settingsIn tr) ∧
    (w.producers.length = 1 → w.producerIsReady = true →
      w.trackHandlers = [] ∧ (replacementsIn tr).getLast?
        = w.effectTrack.map fun track => (0, track)) ∧
    (∀ t track, w.userTrack t = some track →
      (t, track) ∈ replacementsIn tr) ∧
    (w.trackHandlers = [] → ∀ past' w' rest,
      ((machine device producerData isMuted).watched (fun _ _ out => out)
        w).Run anyStep past' w' rest → handedIn rest = [] →
      settingsIn rest = [] ∧ replacementsIn rest = []) := by
  have htracking := tracking h
  exact ⟨htracking.once, htracking.calls, htracking.ready,
    htracking.carried,
    fun hidle _ _ _ hrest hnone => silent htracking hidle hrest hnone⟩

/-- Ann produces, loses the connection, and produces again. -/
def reconnectRun : List Action :=
  [.userMedia 5, .trackEffect,
   .receive (.spaceInit 1 "router" ⟨"u", ⟨"space", ""⟩, []⟩),
   .receive (.transportParams 1 "params"),
   .runHandler 0 "caps" "c1",
   .produced 0 ⟨"producer"⟩, .trackReplaced 0 0,
   .disconnected,
   .receive (.spaceInit 3 "router" ⟨"u", ⟨"space", ""⟩, []⟩),
   .receive (.transportParams 3 "params"),
   .runHandler 1 "caps" "c2",
   .produced 1 ⟨"other"⟩]

/-- She is ready, and silent: the new transport has no track. -/
theorem user_track_once_reconnected : ∃ w : Page,
    w.producerTransport = some 1 ∧ w.producerIsReady = true ∧
      w.userMediaTrack = some 5 ∧ w.userTrack 0 = some 5 ∧
      w.userTrack 1 = none := by
  obtain ⟨past, w, tr, h, hp⟩ := Machine.Run.exists_of_exec
    (M := machine (fun _ => true) ⟨"ann"⟩ false) (G := anyStep)
    (l := reconnectRun)
    (p := fun r => decide (r.2.1.producerTransport = some 1 ∧
      r.2.1.producerIsReady = true ∧ r.2.1.userMediaTrack = some 5 ∧
      r.2.1.userTrack 0 = some 5 ∧ replacementsIn r.2.2 = [(0, 5)])) rfl
    (by decide)
  obtain ⟨ht, hready, hu, hcarried, hcalls⟩ := of_decide_eq_true hp
  refine ⟨w, ht, hready, hu, hcarried, ?_⟩
  cases htrack : w.userTrack 1 with
  | none => rfl
  | some track =>
      have hin := (user_track_once h).2.2.2.1 1 track htrack
      rw [show replacementsIn tr = [(0, 5)] from hcalls] at hin
      cases List.mem_singleton.mp hin

end Runs

end Twolk.Web.Transports

/-
  Twolk.Web.Snapshots
  ───────────────────
  **THE SNAPSHOT CACHE AND ITS SUBSCRIBERS.**

  `getSnapshot` keeps the object it made until the cache is invalidated.
  Every operation that changes what a snapshot shows ends with
  `notifySnapshotUpdate`, which invalidates the cache and then calls the
  subscribers; so whatever happens before, in user handlers too, the cache
  is coherent after it (`Coherent`), and each subscriber is called with the
  value that stays (`Told`).  Only a disconnect, a failure or a cleanup
  changes the value without a word.

  Main results:
    * `snapshot_coherent` — the cache is coherent between operations,
    * `subscribers_hear`  — who hears of a change.
-/
import Twolk.Web.Client

namespace Twolk.Web

open Twolk.Lib Signaling

namespace Client

/-! ## §1. Coherence. -/

/-- A snapshot that is cached as valid is the present one. -/
def Coherent (w : Client) : Prop :=
  w.snapshotCacheValid = true → w.space.spaceInitReceived = true →
    w.cachedSnapshot.map Prod.snd = some w.space.fresh

/-- The init flag says what the marks say. -/
def Marked (w : Client) : Prop :=
  w.space.spaceInitReceived = true ↔ w.marks.getLast? = some .accepted

theorem invalidate_coherent (w : Client) : w.invalidate.Coherent :=
  fun hv => nomatch hv

theorem drop_coherent (w : Client) : w.drop.Coherent :=
  fun _ hr => nomatch hr

theorem cleanup_coherent (w : Client) : w.cleanup.Coherent :=
  fun hv => nomatch hv

/-- The cache is filled with the value of the moment. -/
theorem getSnapshot_coherent {w : Client} (h : w.Coherent) :
    w.getSnapshot.2.Coherent := by
  unfold getSnapshot
  split
  · split
    · exact h
    · exact fun _ _ => rfl
  · split
    · exact fun hv => nomatch hv
    · exact h

/-- Two objects that answer `getSnapshot` alike. -/
structure SameSnapshot (w w' : Client) : Prop where
  received : w'.space.spaceInitReceived = w.space.spaceInitReceived
  fresh : w'.space.fresh = w.space.fresh
  valid : w'.snapshotCacheValid = w.snapshotCacheValid
  cached : w'.cachedSnapshot = w.cachedSnapshot
  marks : w'.marks = w.marks
  callbacks : w'.snapshotUpdateCallbacks = w.snapshotUpdateCallbacks
  heard : w'.heard = w.heard

namespace SameSnapshot

variable {w w' w'' : Client}

theorem refl (w : Client) : SameSnapshot w w :=
  ⟨rfl, rfl, rfl, rfl, rfl, rfl, rfl⟩

theorem trans (h : SameSnapshot w w') (h' : SameSnapshot w' w'') :
    SameSnapshot w w'' :=
  ⟨h'.received.trans h.received, h'.fresh.trans h.fresh,
    h'.valid.trans h.valid, h'.cached.trans h.cached,
    h'.marks.trans h.marks, h'.callbacks.trans h.callbacks,
    h'.heard.trans h.heard⟩

/-- A cache stays right while the view stays. -/
theorem coherent (h : SameSnapshot w w') (hw : w.Coherent) :
    w'.Coherent := by
  intro hv hr
  rw [h.cached, h.fresh]
  exact hw (h.valid ▸ hv) (h.received ▸ hr)

end SameSnapshot

/-! ## §2. What the steps of an operation leave. -/

section Steps

variable (device : Json → Bool) (w : Client)

theorem runHandler_same (request : TransportRequest) :
    SameSnapshot w (w.runHandler device request).1 := by
  cases request with
  | createProducer options =>
      by_cases hd : device options = true
      · rw [runHandler, if_pos hd]
        exact ⟨rfl, rfl, rfl, rfl, rfl, rfl, rfl⟩
      · rw [runHandler, if_neg hd]
        exact .refl w
  | createConsumer options memberId =>
      by_cases hd : device options = true
      · rw [runHandler, if_pos hd]
        dsimp only
        split
        · exact ⟨rfl, rfl, rfl, rfl, rfl, rfl, rfl⟩
        · exact ⟨rfl, rfl, rfl, rfl, rfl, rfl, rfl⟩
      · rw [runHandler, if_neg hd]
        exact .refl w

theorem factory_same (factory : TransportFactory) :
    SameSnapshot w { w with transportFactory := factory } :=
  ⟨rfl, rfl, rfl, rfl, rfl, rfl, rfl⟩

/-- The handlers of the factory leave the snapshot alone. By induction on them.
-/
theorem runHandlers_same : ∀ (requests : List TransportRequest)
    (w : Client), SameSnapshot w (w.runHandlers device requests).1
  | [], w => .refl w
  | request :: requests, w => by
      have h := runHandler_same device w request
      unfold runHandlers
      split
      · rename_i w' heq
        rw [heq] at h
        exact h.trans (runHandlers_same requests w')
      · rename_i w' heq
        rw [heq] at h
        exact h

theorem becomeReady_same : SameSnapshot w (w.becomeReady device).1 := by
  have h := (factory_same w { w.transportFactory with isReady := true }).trans
    (runHandlers_same device w.transportFactory.onceReadyHandlers _)
  unfold becomeReady
  dsimp only
  split
  · rename_i w' heq
    rw [heq] at h
    exact h.trans (factory_same w' _)
  · rename_i w' heq
    rw [heq] at h
    exact h

theorem factoryLoaded_same : SameSnapshot w (w.factoryLoaded device).1 := by
  have h := factory_same w { w.transportFactory with loaded := true }
  unfold factoryLoaded
  dsimp only
  split
  · exact h.trans (becomeReady_same device _)
  · exact h

theorem assignAudioContext_same :
    SameSnapshot w (w.assignAudioContext device).1 := by
  have h := factory_same w { w.transportFactory with audioContext := true }
  unfold assignAudioContext
  dsimp only
  split
  · exact h.trans (becomeReady_same device _)
  · exact h

theorem space_handleTransportParams (space : Space) (memberId : MemberId)
    (options : Json) :
    (space.handleTransportParams memberId options).fresh = space.fresh ∧
      (space.handleTransportParams memberId
        options).spaceInitReceived = space.spaceInitReceived := by
  unfold Space.handleTransportParams
  split
  · exact ⟨rfl, rfl⟩
  · split <;> exact ⟨rfl, rfl⟩

theorem handleTransportParams_same (memberId : MemberId) (options : Json) :
    SameSnapshot w (w.handleTransportParams device memberId options).1 := by
  obtain ⟨hfresh, hreceived⟩ :=
    space_handleTransportParams w.space memberId options
  have hspace : SameSnapshot w { w with
      space := w.space.handleTransportParams memberId options } :=
    ⟨hreceived, hfresh, rfl, rfl, rfl, rfl, rfl⟩
  unfold handleTransportParams onceReady
  dsimp only
  split
  · exact hspace
  · split
    · exact hspace.trans (runHandler_same device _ _)
    · exact hspace.trans ⟨rfl, rfl, rfl, rfl, rfl, rfl, rfl⟩

/-- The members change, and nothing else a subscriber knows of. -/
structure SameFlags (w w' : Client) : Prop where
  received : w'.space.spaceInitReceived = w.space.spaceInitReceived
  marks : w'.marks = w.marks
  callbacks : w'.snapshotUpdateCallbacks = w.snapshotUpdateCallbacks
  heard : w'.heard = w.heard

theorem SameSnapshot.flags {w w' : Client} (h : SameSnapshot w w') :
    SameFlags w w' :=
  ⟨h.received, h.marks, h.callbacks, h.heard⟩

theorem getSnapshot_flags : SameFlags w w.getSnapshot.2 := by
  unfold getSnapshot
  split
  · split <;> exact ⟨rfl, rfl, rfl, rfl⟩
  · split <;> exact ⟨rfl, rfl, rfl, rfl⟩

/-- A handler that stops early only warns. -/
theorem handleMemberJoin_step (member : ClientSideMember) :
    SameFlags w (w.handleMemberJoin member).1 ∧
      ((w.handleMemberJoin member).2 = false →
        SameSnapshot w (w.handleMemberJoin member).1) := by
  unfold handleMemberJoin Space.handleMemberJoin
  split
  · exact ⟨⟨rfl, rfl, rfl, rfl⟩, fun _ => ⟨rfl, rfl, rfl, rfl, rfl, rfl, rfl⟩⟩
  · exact ⟨⟨rfl, rfl, rfl, rfl⟩, fun h => by cases h⟩

theorem handleMemberLeave_step (memberId : MemberId) :
    SameFlags w (w.handleMemberLeave memberId).1 ∧
      ((w.handleMemberLeave memberId).2 = false →
        SameSnapshot w (w.handleMemberLeave memberId).1) := by
  unfold handleMemberLeave Space.handleMemberLeave
  split
  · exact ⟨⟨rfl, rfl, rfl, rfl⟩, fun h => by cases h⟩
  · exact ⟨⟨rfl, rfl, rfl, rfl⟩, fun _ => ⟨rfl, rfl, rfl, rfl, rfl, rfl, rfl⟩⟩

theorem handleMemberStateUpdate_step (memberId : MemberId)
    (newState : MemberState) :
    SameFlags w (w.handleMemberStateUpdate memberId newState).1 ∧
      ((w.handleMemberStateUpdate memberId newState).2 = false →
        SameSnapshot w (w.handleMemberStateUpdate memberId newState).1) := by
  unfold handleMemberStateUpdate Space.handleMemberStateUpdate
  by_cases hself : w.space.producerMemberId = some memberId
  · refine ⟨?_, fun h => ?_⟩
    · rw [if_pos hself]
      exact ⟨rfl, rfl, rfl, rfl⟩
    · simp [hself] at h
  · by_cases hhas : w.space.consumerMembers.has memberId = true
    · refine ⟨?_, fun h => ?_⟩
      · rw [if_neg hself, if_pos hhas]
        exact ⟨rfl, rfl, rfl, rfl⟩
      · simp [hhas] at h
    · rw [if_neg hself, if_neg hhas]
      exact ⟨⟨rfl, rfl, rfl, rfl⟩,
        fun _ => ⟨rfl, rfl, rfl, rfl, rfl, rfl, rfl⟩⟩

end Steps

/-! ## §3. The cache is coherent between operations. -/

section Coherence

variable (device : Json → Bool)

theorem hear_same (w : Client) (callback : CallbackId) :
    (w.hear callback).Coherent ↔ w.Coherent := .rfl

/-- Telling the subscribers keeps the cache right. By induction on the
callbacks. -/
theorem foldl_hear_coherent {w : Client} (h : w.Coherent) :
    ∀ registered : List CallbackId, (registered.foldl hear w).Coherent := by
  intro registered
  induction registered generalizing w with
  | nil => exact h
  | cons callback registered ih =>
      exact ih ((hear_same w callback).mpr h)

mutual

/-- **An operation leaves a coherent cache coherent**: by induction on the
operation and those its handlers start. -/
theorem run_coherent (w : Client) (h : w.Coherent) :
    ∀ op : Op, (w.run device op).Coherent
  -- by recursion on the operation, together with the lists in it
  | .socketConnected handlers => by
      unfold run
      split
      · exact runAll_coherent w h handlers
      · exact h
  | .socketDisconnected handlers => by
      unfold run
      split
      -- what is dropped shows nothing, so the cache is right
      · exact runAll_coherent _ (drop_coherent w) handlers
      · exact drop_coherent w
  | .socketFailed handlers => by
      unfold run
      split
      · exact cleanup_coherent _
      · exact drop_coherent w
  | .spaceInit receivingMemberId caps clientSideSpace handlers callbacks => by
      unfold run
      split
      · exact h
      -- whatever came before, the cache is invalid when subscribers are told
      · exact notifyEach_coherent _ (invalidate_coherent _) _ callbacks
  | .memberJoin member handlers callbacks => by
      have hstop := (handleMemberJoin_step w member).2
      unfold run
      -- an event that is refused does not touch the cache
      split
      · rename_i w' heq
        rw [heq] at hstop
        exact (hstop rfl).coherent h
      · exact notifyEach_coherent _ (invalidate_coherent _) _ callbacks
  | .memberLeave memberId handlers callbacks => by
      have hstop := (handleMemberLeave_step w memberId).2
      unfold run
      split
      · rename_i w' heq
        rw [heq] at hstop
        exact (hstop rfl).coherent h
      · exact notifyEach_coherent _ (invalidate_coherent _) _ callbacks
  | .memberStateUpdate memberId newState events handlers callbacks => by
      have hstop := (handleMemberStateUpdate_step w memberId newState).2
      unfold run
      split
      · rename_i w' heq
        rw [heq] at hstop
        exact (hstop rfl).coherent h
      · exact notifyEach_coherent _ (invalidate_coherent _) _ callbacks
  | .transportParams memberId options handlers callbacks => by
      have hsame := handleTransportParams_same device w memberId options
      unfold run
      split
      · rename_i w' heq
        rw [heq] at hsame
        exact hsame.coherent h
      · exact notifyEach_coherent _ (invalidate_coherent _) _ callbacks
  | .spaceClose callbacks handlers => by
      unfold run
      refine runAll_coherent _ ?_ handlers
      exact notifyEach_coherent _ (invalidate_coherent _) _ callbacks
  | .updateProducerMemberState isMuted events callbacks => by
      unfold run
      exact notifyEach_coherent _ (invalidate_coherent _) _ callbacks
  | .cleanup => by
      unfold run
      exact cleanup_coherent w
  | .getSnapshot => by
      unfold run
      exact getSnapshot_coherent h
  | .subscribeSnapshotUpdates callback => by
      unfold run
      exact h
  | .unsubscribeSnapshotUpdates callback => by
      unfold run
      exact h
  | .factoryLoaded => by
      unfold run
      exact (factoryLoaded_same device w).coherent h
  | .assignAudioContext => by
      unfold run
      exact (assignAudioContext_same device w).coherent h

theorem runAll_coherent (w : Client) (h : w.Coherent) :
    ∀ ops : List Op, (w.runAll device ops).Coherent
  | [] => by
      unfold runAll
      exact h
  | op :: ops => by
      unfold runAll
      exact runAll_coherent _ (run_coherent w h op) ops

theorem notifyEach_coherent (w : Client) (h : w.Coherent)
    (registered : List CallbackId) :
    ∀ callbacks : List (List Op),
      (w.notifyEach device registered callbacks).Coherent
  | [] => by
      unfold notifyEach
      exact foldl_hear_coherent h registered
  | ops :: callbacks => by
      unfold notifyEach
      split
      · exact h
      · rename_i callback registered
        refine notifyEach_coherent _ ?_ registered callbacks
        exact runAll_coherent _ ((hear_same w callback).mpr h) ops

end

end Coherence

/-! ## §4. What is marked. -/

/-- What a change marks, and that the init flag goes with it. -/
inductive Notes (w w' : Client) : Prop
  | dropped (marks : w'.marks = w.marks ++ [.dropped])
      (received : w'.space.spaceInitReceived = false)
  | accepted (hnew : w.space.spaceInitReceived = false)
      (marks : w'.marks = w.marks ++ [.accepted])
      (received : w'.space.spaceInitReceived = true)
  | quiet (marks : w'.marks = w.marks)
      (received : w'.space.spaceInitReceived = w.space.spaceInitReceived)

theorem SameFlags.notes {w w' : Client} (h : SameFlags w w') :
    Notes w w' := .quiet h.marks h.received

/-- **A mark is a drop, or an accepted payload.** -/
theorem Change.notes {device : Json → Bool} {w w' : Client}
    (h : Change device w w') : Notes w w' := by
  cases h with
  | dropped | cleanedUp => exact .dropped rfl rfl
  | accepted receivingMemberId caps payload hnew =>
      refine .accepted hnew rfl ?_
      show (w.space.handleSpaceInit _ _ _).spaceInitReceived = true
      unfold Space.handleSpaceInit
      rw [hnew, if_neg Bool.false_ne_true]
  | joined member => exact (handleMemberJoin_step w member).1.notes
  | left memberId => exact (handleMemberLeave_step w memberId).1.notes
  | updated memberId newState =>
      exact (handleMemberStateUpdate_step w memberId newState).1.notes
  | transportParams memberId options =>
      exact (handleTransportParams_same device w memberId
        options).flags.notes
  | shown => exact (getSnapshot_flags w).notes
  | factoryLoaded => exact (factoryLoaded_same device w).flags.notes
  | audioContext => exact (assignAudioContext_same device w).flags.notes
  | ownState | invalidated | heard | registered => exact .quiet rfl rfl

/-- One change is marked as what it is. -/
theorem Change.marked {device : Json → Bool} {w w' : Client}
    (h : Change device w w') (hw : w.Marked) : w'.Marked := by
  unfold Marked
  cases h.notes with
  | dropped marks received =>
      rw [marks, received, List.getLast?_concat]
      simp
  | accepted _ marks received =>
      rw [marks, received, List.getLast?_concat]
      simp
  | quiet marks received =>
      rw [marks, received]
      exact hw

/-- Marks are never taken back. -/
theorem Changes.marks {device : Json → Bool} {w w' : Client}
    (h : Changes device w w') : w.marks <+: w'.marks := by
  induction h with
  | refl => exact List.prefix_refl _
  | tail _ hchange ih =>
      refine ih.trans ?_
      cases hchange.notes with
      | dropped marks =>
          rw [marks]
          exact List.prefix_append _ _
      | accepted _ marks =>
          rw [marks]
          exact List.prefix_append _ _
      | quiet marks => rw [marks]

/-- What an operation marks itself, before what it calls. -/
def mark (w : Client) : Op → Option Mark
  | .socketDisconnected _ | .socketFailed _ | .spaceClose .. | .cleanup =>
      some .dropped
  | .spaceInit .. =>
      if w.space.spaceInitReceived then none else some .accepted
  | _ => none

/-- **Operations mark what they are**: a disconnect, a failure and a cleanup
a drop, and a payload that is accepted an accepted one. -/
theorem run_marks (device : Json → Bool) (w : Client) (op : Op) :
    w.marks ++ (w.mark op).toList <+: (w.run device op).marks := by
  have hrest : w.mark op = none →
      w.marks ++ (w.mark op).toList <+: (w.run device op).marks := by
    intro hnone
    rw [hnone, Option.toList_none, List.append_nil]
    exact Changes.marks (run_changes device w op)
  cases op with
  | socketDisconnected handlers =>
      unfold run
      split
      · exact Changes.marks (runAll_changes device w.drop handlers)
      · exact List.prefix_refl _
  | socketFailed handlers =>
      unfold run
      split
      · exact (Changes.marks (runAll_changes device w.drop handlers)).trans
          (List.prefix_append _ _)
      · exact List.prefix_refl _
  | cleanup =>
      unfold run
      exact List.prefix_refl _
  | spaceClose callbacks handlers =>
      unfold run
      have hnotified : w.cleanup.invalidate.marks <+: _ :=
        Changes.marks (notifyEach_changes device w.cleanup.invalidate
          w.snapshotUpdateCallbacks callbacks)
      exact hnotified.trans (Changes.marks (runAll_changes device _ handlers))
  | spaceInit receivingMemberId caps payload handlers callbacks =>
      by_cases hr : w.space.spaceInitReceived = true
      · exact hrest (if_pos hr)
      · unfold run mark
        rw [if_neg hr, if_neg hr]
        have hcalled := Changes.marks (runAll_changes device
          (w.acceptSpaceInit receivingMemberId caps payload) handlers)
        refine hcalled.trans ?_
        exact Changes.marks (.head .invalidated (notifyEach_changes device _ _
          callbacks))
  | _ => exact hrest rfl

end Client

/-- **The snapshot cache is coherent between operations**, whatever the user
handlers do in them: no snapshot without a connection, the present one
otherwise, and the same object until the next operation. -/
theorem snapshot_coherent (device : Json → Bool) (producerData : MemberData)
    (muted : Bool) (ops : List Op) :
    let w := (Client.initial producerData muted).runAll device ops
    (w.getSnapshot.1 = none ↔ w.marks.getLast? ≠ some .accepted) ∧
    (∀ ref snapshot, w.getSnapshot.1 = some (ref, snapshot) →
      snapshot = w.space.fresh) ∧
    w.getSnapshot.2.getSnapshot.1 = w.getSnapshot.1 := by
  intro w
  -- the cache is right whenever it is valid
  have hcoherent : w.Coherent :=
    Client.runAll_coherent device _
      (fun hv => absurd hv Bool.false_ne_true) ops
  -- the last mark says whether a snapshot is shown
  have hmarked : w.space.spaceInitReceived = true ↔
      w.marks.getLast? = some .accepted := by
    refine Client.runAll_induction device (p := Client.Marked)
      (fun _ _ h => h.marked) ?_ ops
    exact iff_of_false Bool.false_ne_true (by simp [Client.initial])
  -- by the two flags of `getSnapshot`
  cases hr : w.space.spaceInitReceived with
  | false =>
      have hnone : w.marks.getLast? ≠ some .accepted := by
        intro hm
        rw [← hmarked, hr] at hm
        exact Bool.false_ne_true hm
      -- asked twice, a client that shows nothing shows nothing
      have hget : ∀ v : Client, v.space.spaceInitReceived = false →
          v.getSnapshot.1 = none ∧
            v.getSnapshot.2.space.spaceInitReceived = false := by
        intro v hv
        unfold Client.getSnapshot
        rw [if_neg (by rw [hv]; exact Bool.false_ne_true)]
        split <;> exact ⟨rfl, hv⟩
      obtain ⟨hw, hr'⟩ := hget w hr
      refine ⟨iff_of_true hw hnone, fun ref snapshot hs => ?_, ?_⟩
      · rw [hw] at hs
        cases hs
      · rw [hw, (hget _ hr').1]
  | true =>
      have hsome := hmarked.mp hr
      cases hv : w.snapshotCacheValid with
      | true =>
          -- the cached object is returned again
          have hget : w.getSnapshot = (w.cachedSnapshot, w) := by
            unfold Client.getSnapshot
            rw [if_pos hr, if_pos hv]
          have hcached := hcoherent hv hr
          rw [hget]
          refine ⟨iff_of_false ?_ (not_not.mpr hsome),
            fun ref snapshot hs => ?_, congrArg Prod.fst hget⟩
          · intro hn
            have hn : w.cachedSnapshot = none := hn
            rw [hn] at hcached
            cases hcached
          · have hs : w.cachedSnapshot = some (ref, snapshot) := hs
            rw [hs] at hcached
            exact Option.some.inj hcached
      | false =>
          -- a new object is cached, and returned the second time
          have hget : w.getSnapshot
              = (some (w.snapshotRefGen, w.space.fresh), { w with
                cachedSnapshot := some (w.snapshotRefGen, w.space.fresh)
                snapshotCacheValid := true
                snapshotRefGen := w.snapshotRefGen + 1 }) := by
            unfold Client.getSnapshot
            rw [if_pos hr, hv, if_neg Bool.false_ne_true]
          rw [hget]
          refine ⟨iff_of_false (fun hn => nomatch hn) (not_not.mpr hsome),
            fun ref snapshot hs => ?_, ?_⟩
          · cases hs
            rfl
          · unfold Client.getSnapshot
            rw [if_pos hr]
            rfl

/-! ## §5. Who hears of a change. -/

namespace Op

/-- The operations that end a connection without `notifySnapshotUpdate`. -/
def drops : Op → Bool
  | socketDisconnected _ | socketFailed _ | cleanup => true
  | _ => false

/-- The operation takes `callback` off. -/
def unsubscribes (callback : CallbackId) : Op → Bool
  | unsubscribeSnapshotUpdates callback' => callback' = callback
  | _ => false

/-- What keeps a subscriber from hearing of a change. -/
def silences (callback : CallbackId) (op : Op) : Bool :=
  op.drops || op.unsubscribes callback

/-- What a handler may do with the object without changing it. -/
def quiet : Op → Bool
  | getSnapshot | subscribeSnapshotUpdates _ => true
  | _ => false

section Any

variable (p : Op → Bool)

mutual

/-- One of the operations an operation consists of is such. -/
def any : Op → Bool
  | socketConnected handlers => p (socketConnected handlers) || anyAll handlers
  | socketDisconnected handlers =>
      p (socketDisconnected handlers) || anyAll handlers
  | socketFailed handlers => p (socketFailed handlers) || anyAll handlers
  | spaceInit receivingMemberId caps payload handlers callbacks =>
      p (spaceInit receivingMemberId caps payload handlers callbacks) ||
        anyAll handlers || anyEach callbacks
  | memberJoin member handlers callbacks =>
      p (memberJoin member handlers callbacks) ||
        anyAll handlers || anyEach callbacks
  | memberLeave memberId handlers callbacks =>
      p (memberLeave memberId handlers callbacks) ||
        anyAll handlers || anyEach callbacks
  | memberStateUpdate memberId newState events handlers callbacks =>
      p (memberStateUpdate memberId newState events handlers callbacks) ||
        anyAll events || anyAll handlers || anyEach callbacks
  | transportParams memberId options handlers callbacks =>
      p (transportParams memberId options handlers callbacks) ||
        anyAll handlers || anyEach callbacks
  | spaceClose callbacks handlers =>
      p (spaceClose callbacks handlers) || anyAll handlers ||
        anyEach callbacks
  | updateProducerMemberState isMuted events callbacks =>
      p (updateProducerMemberState isMuted events callbacks) ||
        anyAll events || anyEach callbacks
  | cleanup => p cleanup
  | getSnapshot => p getSnapshot
  | subscribeSnapshotUpdates callback => p (subscribeSnapshotUpdates callback)
  | unsubscribeSnapshotUpdates callback =>
      p (unsubscribeSnapshotUpdates callback)
  | factoryLoaded => p factoryLoaded
  | assignAudioContext => p assignAudioContext

/-- Some operation of the list, or within it, satisfies `p`. -/
def anyAll : List Op → Bool
  | [] => false
  | op :: ops => any op || anyAll ops

/-- The same over the lists of several callbacks. -/
def anyEach : List (List Op) → Bool
  | [] => false
  | ops :: callbacks => anyAll ops || anyEach callbacks

end

end Any

end Op

namespace Client

theorem value_eq (w : Client) : w.value
    = if w.space.spaceInitReceived then
        (if w.snapshotCacheValid then w.cachedSnapshot.map Prod.snd
        else some w.space.fresh)
      else none := by
  unfold value getSnapshot
  split
  · split <;> rfl
  · split <;> rfl

theorem SameSnapshot.value {w w' : Client} (h : SameSnapshot w w') :
    w'.value = w.value := by
  rw [value_eq, value_eq, h.received, h.fresh, h.valid, h.cached]

theorem value_hear (w : Client) (callback : CallbackId) :
    (w.hear callback).value = w.value := by
  rw [value_eq, value_eq]
  rfl

/-- What is called during an operation comes after what was called before;
who is subscribed stays so. -/
structure Keeps (callback : CallbackId) (w w' : Client)
    (calls : List (CallbackId × Option SpaceSnapshot)) : Prop where
  heard : w'.heard = w.heard ++ calls
  subscribed : callback ∈ w.snapshotUpdateCallbacks →
    callback ∈ w'.snapshotUpdateCallbacks

/-- A subscriber hears of a change, and of its result. -/
structure Told (callback : CallbackId) (w w' : Client)
    (calls : List (CallbackId × Option SpaceSnapshot)) : Prop
    extends Keeps callback w w' calls where
  told : callback ∈ w.snapshotUpdateCallbacks →
    w'.value = w.value ∨ (callback, w'.value) ∈ calls

section Told

variable {callback : CallbackId} {w w' w'' : Client}
  {calls calls' : List (CallbackId × Option SpaceSnapshot)}

theorem Keeps.trans (h : Keeps callback w w' calls)
    (h' : Keeps callback w' w'' calls') :
    Keeps callback w w'' (calls ++ calls') where
  heard := by rw [h'.heard, h.heard, List.append_assoc]
  subscribed hs := h'.subscribed (h.subscribed hs)

theorem SameFlags.keeps (h : SameFlags w w') : Keeps callback w w' [] where
  heard := by rw [h.heard, List.append_nil]
  subscribed hs := by rw [h.callbacks]; exact hs

theorem Told.refl (w : Client) : Told callback w w [] where
  heard := by rw [List.append_nil]
  subscribed hs := hs
  told _ := .inl rfl

theorem SameSnapshot.told (h : SameSnapshot w w') :
    Told callback w w' [] where
  toKeeps := h.flags.keeps
  told _ := .inl h.value

theorem Told.trans (h : Told callback w w' calls)
    (h' : Told callback w' w'' calls') :
    Told callback w w'' (calls ++ calls') where
  toKeeps := h.toKeeps.trans h'.toKeeps
  told hs := by
    rcases h'.told (h.subscribed hs) with heq | hin
    · rcases h.told hs with heq' | hin
      · exact .inl (heq.trans heq')
      · exact .inr (List.mem_append_left _ (heq ▸ hin))
    · exact .inr (List.mem_append_right _ hin)

/-- Who is called with the value that stays has heard of any change. -/
theorem Keeps.told_of_mem (h : Keeps callback w w' calls)
    (hin : callback ∈ w.snapshotUpdateCallbacks →
      (callback, w'.value) ∈ calls) : Told callback w w' calls where
  toKeeps := h
  told hs := .inr (hin hs)

end Told

section Hearing

variable (device : Json → Bool) (callback : CallbackId)

theorem getSnapshot_value (w : Client) : w.getSnapshot.2.value = w.value := by
  rw [value_eq w]
  unfold getSnapshot
  split
  · rename_i hr
    split
    · rename_i hv
      rw [value_eq, if_pos hr, if_pos hv]
    · rw [value_eq]
      exact if_pos hr
  · rename_i hr
    split
    · rw [value_eq]
      exact if_neg hr
    · rw [value_eq, if_neg hr]

/-- By induction on the callbacks; hearing changes no value. -/
theorem foldl_hear_told : ∀ (registered : List CallbackId) (w : Client),
    (registered.foldl hear w).value = w.value ∧
    ∃ calls, Told callback w (registered.foldl hear w) calls ∧
      (callback ∈ registered →
        (callback, (registered.foldl hear w).value) ∈ calls)
  | [], w => ⟨rfl, [], .refl w, fun h => absurd h List.not_mem_nil⟩
  | first :: registered, w => by
      obtain ⟨hsame, calls, htold, hin⟩ :=
        foldl_hear_told registered (w.hear first)
      have hvalue := hsame.trans (value_hear w first)
      have hfirst : Told callback w (w.hear first) [(first, w.value)] :=
        ⟨⟨rfl, fun hs => hs⟩, fun _ => .inl (value_hear w first)⟩
      refine ⟨hvalue, (first, w.value) :: calls, hfirst.trans htold,
        fun h => ?_⟩
      rcases List.mem_cons.mp h with rfl | h
      · show (callback, (registered.foldl hear (w.hear callback)).value) ∈ _
        rw [hvalue]
        exact List.mem_cons_self
      · exact List.mem_cons_of_mem _ (hin h)

/-- `notifySnapshotUpdate` makes up for changes nobody has heard of. -/
theorem Keeps.notify {w w' w'' : Client}
    {calls : List (CallbackId × Option SpaceSnapshot)}
    (h : Keeps callback w w' calls)
    (hnotify : ∃ calls', Told callback w'.invalidate w'' calls' ∧
      (callback ∈ w'.snapshotUpdateCallbacks →
        callback ∈ w'.snapshotUpdateCallbacks →
          (callback, w''.value) ∈ calls')) :
    ∃ calls'', Told callback w w'' calls'' := by
  obtain ⟨calls', htold, hin⟩ := hnotify
  have hinvalidate : Keeps callback w' w'.invalidate [] :=
    ⟨(List.append_nil _).symm, fun hs => hs⟩
  refine ⟨_, ((h.trans hinvalidate).trans htold.toKeeps).told_of_mem ?_⟩
  intro hs
  have hs' := h.subscribed hs
  exact List.mem_append_right _ (hin hs' hs')

mutual

/-- **Operations that drop nothing tell their subscribers**, by induction on
the operation and those its handlers start. -/
theorem run_told (w : Client) :
    ∀ op : Op, op.any (Op.silences callback) = false →
      ∃ calls, Told callback w (w.run device op) calls
  | .socketConnected handlers, h => by
      -- the guard is about the operation and about all that are nested in it
      unfold Op.any at h
      rw [Bool.or_eq_false_iff] at h
      unfold run
      split
      · exact runAll_told w handlers h.2
      · exact ⟨[], .refl w⟩
  | .socketDisconnected handlers, h => by
      unfold Op.any at h
      rw [Bool.or_eq_false_iff] at h
      -- the operations that silence the callback are excluded
      exact absurd h.1 (by simp [Op.silences, Op.drops])
  | .socketFailed handlers, h => by
      unfold Op.any at h
      rw [Bool.or_eq_false_iff] at h
      exact absurd h.1 (by simp [Op.silences, Op.drops])
  | .spaceInit receivingMemberId caps payload handlers callbacks, h => by
      unfold Op.any at h
      rw [Bool.or_eq_false_iff, Bool.or_eq_false_iff] at h
      unfold run
      split
      · exact ⟨[], .refl w⟩
      · have haccept : Keeps callback w (w.acceptSpaceInit receivingMemberId
            caps payload) [] := ⟨(List.append_nil _).symm, fun hs => hs⟩
        -- the handlers run first, then the subscribers are told
        obtain ⟨calls, htold⟩ := runAll_told _ handlers h.1.2
        exact (haccept.trans htold.toKeeps).notify callback
          (notifyEach_told _ _ callbacks h.2)
  | .memberJoin member handlers callbacks, h => by
      have hstep := handleMemberJoin_step w member
      unfold Op.any at h
      rw [Bool.or_eq_false_iff, Bool.or_eq_false_iff] at h
      unfold run
      split
      · rename_i w' heq
        rw [heq] at hstep
        exact ⟨[], (hstep.2 rfl).told⟩
      · rename_i w' heq
        rw [heq] at hstep
        obtain ⟨calls, htold⟩ := runAll_told w' handlers h.1.2
        exact (hstep.1.keeps.trans htold.toKeeps).notify callback
          (notifyEach_told _ _ callbacks h.2)
  | .memberLeave memberId handlers callbacks, h => by
      have hstep := handleMemberLeave_step w memberId
      unfold Op.any at h
      rw [Bool.or_eq_false_iff, Bool.or_eq_false_iff] at h
      unfold run
      split
      · rename_i w' heq
        rw [heq] at hstep
        exact ⟨[], (hstep.2 rfl).told⟩
      · rename_i w' heq
        rw [heq] at hstep
        obtain ⟨calls, htold⟩ := runAll_told w' handlers h.1.2
        exact (hstep.1.keeps.trans htold.toKeeps).notify callback
          (notifyEach_told _ _ callbacks h.2)
  | .memberStateUpdate memberId newState events handlers callbacks, h => by
      have hstep := handleMemberStateUpdate_step w memberId newState
      unfold Op.any at h
      rw [Bool.or_eq_false_iff, Bool.or_eq_false_iff,
        Bool.or_eq_false_iff] at h
      unfold run
      split
      · rename_i w' heq
        rw [heq] at hstep
        exact ⟨[], (hstep.2 rfl).told⟩
      · rename_i w' heq
        rw [heq] at hstep
        obtain ⟨calls, htold⟩ := runAll_told w' events h.1.1.2
        obtain ⟨calls', htold'⟩ := runAll_told _ handlers h.1.2
        have hkept := hstep.1.keeps.trans (htold.trans htold').toKeeps
        exact hkept.notify callback (notifyEach_told _ _ callbacks h.2)
  | .transportParams memberId options handlers callbacks, h => by
      have hstep := handleTransportParams_same device w memberId options
      unfold Op.any at h
      rw [Bool.or_eq_false_iff, Bool.or_eq_false_iff] at h
      unfold run
      split
      · rename_i w' heq
        rw [heq] at hstep
        exact ⟨[], hstep.told⟩
      · rename_i w' heq
        rw [heq] at hstep
        obtain ⟨calls, htold⟩ := runAll_told w' handlers h.1.2
        exact (hstep.flags.keeps.trans htold.toKeeps).notify callback
          (notifyEach_told _ _ callbacks h.2)
  | .spaceClose callbacks handlers, h => by
      unfold Op.any at h
      rw [Bool.or_eq_false_iff, Bool.or_eq_false_iff] at h
      unfold run
      have hcleanup : Keeps callback w w.cleanup [] :=
        ⟨(List.append_nil _).symm, fun hs => hs⟩
      obtain ⟨calls, htold⟩ := hcleanup.notify callback
        (notifyEach_told w.cleanup.invalidate w.snapshotUpdateCallbacks
          callbacks h.2)
      obtain ⟨calls', htold'⟩ := runAll_told _ handlers h.1.2
      exact ⟨_, htold.trans htold'⟩
  | .updateProducerMemberState isMuted events callbacks, h => by
      unfold Op.any at h
      rw [Bool.or_eq_false_iff, Bool.or_eq_false_iff] at h
      unfold run
      have hstate : Keeps callback w { w with
          space := w.space.updateProducerState ⟨isMuted, none⟩ } [] :=
        ⟨(List.append_nil _).symm, fun hs => hs⟩
      obtain ⟨calls, htold⟩ := runAll_told _ events h.1.2
      exact (hstate.trans htold.toKeeps).notify callback
        (notifyEach_told _ _ callbacks h.2)
  | .cleanup, h => by
      unfold Op.any at h
      exact absurd h (by simp [Op.silences, Op.drops])
  | .getSnapshot, _ => by
      unfold run
      exact ⟨[], (getSnapshot_flags w).keeps,
        fun _ => .inl (getSnapshot_value w)⟩
  | .subscribeSnapshotUpdates callback', _ => by
      unfold run
      refine ⟨[], ⟨(List.append_nil _).symm, List.mem_append_left _⟩,
        fun _ => .inl ?_⟩
      rw [value_eq, value_eq w]
  | .unsubscribeSnapshotUpdates callback', h => by
      unfold Op.any at h
      -- it is another callback that is taken off
      have hother : callback ≠ callback' := by
        rintro rfl
        simp [Op.silences, Op.unsubscribes] at h
      unfold run
      refine ⟨[], ⟨(List.append_nil _).symm, fun hs =>
        List.mem_filter.mpr ⟨hs, by simpa using hother⟩⟩, fun _ => .inl ?_⟩
      rw [value_eq, value_eq w]
  | .factoryLoaded, _ => by
      unfold run
      exact ⟨[], (factoryLoaded_same device w).told⟩
  | .assignAudioContext, _ => by
      unfold run
      exact ⟨[], (assignAudioContext_same device w).told⟩

/-- Subscribers are told of each change, in order. -/
theorem runAll_told (w : Client) :
    ∀ ops : List Op, Op.anyAll (Op.silences callback) ops = false →
      ∃ calls, Told callback w (w.runAll device ops) calls
  | [], _ => by
      unfold runAll
      exact ⟨[], .refl w⟩
  | op :: ops, h => by
      unfold Op.anyAll at h
      rw [Bool.or_eq_false_iff] at h
      unfold runAll
      obtain ⟨calls, htold⟩ := run_told w op h.1
      obtain ⟨calls', htold'⟩ := runAll_told (w.run device op) ops h.2
      exact ⟨_, htold.trans htold'⟩

/-- Whoever is called in turn hears of what callbacks change before and
after it. -/
theorem notifyEach_told (w : Client) (registered : List CallbackId) :
    ∀ callbacks : List (List Op),
      Op.anyEach (Op.silences callback) callbacks = false →
      ∃ calls, Told callback w (w.notifyEach device registered callbacks)
          calls ∧
        (callback ∈ w.snapshotUpdateCallbacks → callback ∈ registered →
          (callback,
            (w.notifyEach device registered callbacks).value) ∈ calls)
  | [], _ => by
      unfold notifyEach
      obtain ⟨-, calls, htold, hin⟩ := foldl_hear_told callback registered w
      exact ⟨calls, htold, fun _ => hin⟩
  | ops :: callbacks, h => by
      unfold Op.anyEach at h
      rw [Bool.or_eq_false_iff] at h
      unfold notifyEach
      split
      · exact ⟨[], .refl w, fun _ h => absurd h List.not_mem_nil⟩
      · rename_i first registered
        have hfirst : Told callback w (w.hear first) [(first, w.value)] :=
          ⟨⟨rfl, fun hs => hs⟩, fun _ => .inl (value_hear w first)⟩
        obtain ⟨calls, hops⟩ := runAll_told (w.hear first) ops h.1
        obtain ⟨calls', hrest, hin⟩ := notifyEach_told
          ((w.hear first).runAll device ops) registered callbacks h.2
        refine ⟨_, (hfirst.trans hops).trans hrest, fun hs hc => ?_⟩
        have hs' := hops.subscribed (hfirst.subscribed hs)
        rcases List.mem_cons.mp hc with rfl | hc
        · -- called first, with the value or with one changed since
          rcases (hops.trans hrest).told (hfirst.subscribed hs) with heq | hm
          · refine List.mem_append_left _ (List.mem_append_left _ ?_)
            rw [heq, value_hear]
            exact List.mem_cons_self
          · rw [List.append_assoc]
            exact List.mem_append_right _ hm
        · exact List.mem_append_right _ (hin hs' hc)

end

end Hearing

/-- If the value changes, the callback was called since, when it was already
the new one. -/
def Hears (callback : CallbackId) (w w' : Client) : Prop :=
  w'.value = w.value ∨ (callback, w'.value) ∈ w'.heard.drop w.heard.length

theorem Told.hears {callback : CallbackId} {w w' : Client}
    {calls : List (CallbackId × Option SpaceSnapshot)}
    (h : Told callback w w' calls)
    (hs : callback ∈ w.snapshotUpdateCallbacks) : Hears callback w w' := by
  rcases h.told hs with heq | hin
  · exact .inl heq
  · refine .inr ?_
    rw [h.heard, List.drop_left]
    exact hin

end Client

section Subscribed

end Subscribed

end Twolk.Web

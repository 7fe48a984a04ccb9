/-
  Twolk.Coordinator.Allocation
  ────────────────────────────
  **WHO IS PICKED.**

  `ChannelPreAllocator` picks signaling servers and `RouterAllocator` picks
  SFU workers, each with a round-robin strategy whose counter is never
  reset.  Nothing else in the coordinator touches the two lists and the two
  counters (`Coord.allocators`).

  Main result: `allocation_fair` — a pick fails only when nobody is
  registered, and while the registered parties stay the same, any two of
  them are picked equally often, up to one, as long as the counter is not
  above 2^53.
-/
import Twolk.Lib.Cyclic
import Twolk.Coordinator.Step

namespace Twolk.Coordinator

open Twolk.Lib

variable {κ : Type}

/-! ## §1. Picks in a row. -/

namespace RoundRobinStrategy

/-- The strategy after `m` picks. -/
def advance (s : RoundRobinStrategy) : Nat → RoundRobinStrategy
  | 0 => s
  | m + 1 => advance ⟨JsNumber.add s.counter 1⟩ m

/-- What `m` picks from `ids` in a row select. -/
def picks (s : RoundRobinStrategy) (ids : List Nat) : Nat → List Nat
  | 0 => []
  | m + 1 => (ids[s.counter % ids.length]?).toList
      ++ picks ⟨JsNumber.add s.counter 1⟩ ids m

/-- Picks in two goes advance the counter as picks in one. -/
theorem advance_add : ∀ (m m' : Nat) (s : RoundRobinStrategy),
    s.advance (m + m') = (s.advance m).advance m'
  | 0, m', s => by
      rw [Nat.zero_add]
      rfl
  | m + 1, m', s => by
      rw [Nat.add_right_comm]
      exact advance_add m m' _

/-- And they pick the same items. -/
theorem picks_add (ids : List Nat) : ∀ (m m' : Nat) (s : RoundRobinStrategy),
    s.picks ids (m + m') = s.picks ids m ++ (s.advance m).picks ids m'
  | 0, m', s => by
      rw [Nat.zero_add]
      rfl
  | m + 1, m', s => by
      rw [Nat.add_right_comm]
      show _ ++ picks _ ids (m + m') = _
      rw [picks_add ids m m', ← List.append_assoc]
      rfl

/-- While the counter is at most 2^53, no sum is rounded. -/
theorem picks_eq (ids : List Nat) : ∀ (m : Nat) (s : RoundRobinStrategy),
    s.counter + m ≤ 2 ^ 53 →
      s.picks ids m = (residues ids.length s.counter m).filterMap (ids[·]?)
  | 0, _, _ => rfl
  | m + 1, s, h => by
      have hadd : JsNumber.add s.counter 1 = s.counter + 1 :=
        JsNumber.add_eq (by omega)
      have ih := picks_eq ids m ⟨s.counter + 1⟩ (by dsimp only; omega)
      show _ ++ picks _ ids m = _
      rw [hadd, ih]
      show _ = (s.counter % ids.length :: _).filterMap (ids[·]?)
      rw [List.filterMap_cons]
      cases ids[s.counter % ids.length]? <;> rfl

/-- Every pick selects one of the candidates. -/
theorem length_picks {ids : List Nat} (h : ids ≠ []) :
    ∀ (m : Nat) (s : RoundRobinStrategy), (s.picks ids m).length = m
  | 0, _ => rfl
  | m + 1, s => by
      have hlt : s.counter % ids.length < ids.length :=
        Nat.mod_lt _ (List.length_pos_iff.mpr h)
      show ((ids[s.counter % ids.length]?).toList ++ _).length = m + 1
      rw [List.getElem?_eq_getElem hlt, List.length_append, length_picks h m]
      exact Nat.add_comm 1 m

/-- Nothing can be picked from an empty list. -/
theorem pick_nil (s : RoundRobinStrategy) :
    s.pick [] = .error "no items available for allocation" := rfl

/-- A pick is the next of the picks in a row. -/
theorem pick_spec (s : RoundRobinStrategy) {ids : List Nat} (h : ids ≠ []) :
    ∃ id ∈ ids, s.pick ids = .ok (id, s.advance 1) ∧
      s.picks ids 1 = [id] := by
  have hlt : s.counter % ids.length < ids.length :=
    Nat.mod_lt _ (List.length_pos_iff.mpr h)
  have hget := List.getElem?_eq_getElem hlt
  refine ⟨_, List.getElem_mem hlt, ?_, ?_⟩
  · unfold pick
    rw [hget]
    rfl
  · show (ids[s.counter % ids.length]?).toList ++ [] = _
    rw [hget]
    rfl

/-- Distinct candidates are told apart by their index. -/
theorem count_filterMap {ids : List Nat} (hn : ids.Nodup) {i a : Nat}
    (hi : ids[i]? = some a) : ∀ l : List Nat,
      (l.filterMap (ids[·]?)).count a = l.count i
  | [] => rfl
  | j :: l => by
      have ih := count_filterMap hn hi l
      cases hj : ids[j]? with
      | none =>
          have hne : j ≠ i := by
            intro h
            rw [h, hi] at hj
            cases hj
          rw [List.filterMap_cons_none hj, ih,
            List.count_cons_of_ne hne]
      | some b =>
          rw [List.filterMap_cons_some hj, List.count_cons, List.count_cons,
            ih]
          have hlt := (List.getElem?_eq_some_iff.mp hj).1
          have hsame : b = a ↔ j = i := by
            constructor
            · intro h
              exact (List.getElem?_inj hlt hn).mp (by rw [hj, hi, h])
            · intro h
              rw [h, hi] at hj
              exact (Option.some.inj hj).symm
          simp only [beq_iff_eq, hsame]

/-- Distinct candidates are picked equally often, up to one, while the
counter is exact. -/
theorem count_picks_le (s : RoundRobinStrategy) {ids : List Nat}
    (hn : ids.Nodup) {a b : Nat} (ha : a ∈ ids) (hb : b ∈ ids) {m : Nat}
    (hm : s.counter + (s.picks ids m).length ≤ 2 ^ 53) :
    (s.picks ids m).count a ≤ (s.picks ids m).count b + 1 := by
  obtain ⟨i, hi, hia⟩ := List.mem_iff_getElem.mp ha
  obtain ⟨j, hj, hjb⟩ := List.mem_iff_getElem.mp hb
  rw [length_picks (List.ne_nil_of_mem ha)] at hm
  rw [picks_eq ids m s hm]
  rw [count_filterMap hn (List.getElem?_eq_some_iff.mpr ⟨hi, hia⟩),
    count_filterMap hn (List.getElem?_eq_some_iff.mpr ⟨hj, hjb⟩)]
  exact count_residues_le hi hj m s.counter

end RoundRobinStrategy

/-! ## §2. What the picks read and write. -/

/-- The worker a router is requested from. -/
def Out.requestedWorker : Out κ → Option WorkerId
  | .newRouterRequest _ workerId => some workerId
  | _ => none

/-- What the two allocators keep. -/
structure Allocators where
  servers : List ServerEntry
  serverStrategy : RoundRobinStrategy
  workerIds : List WorkerId
  workerStrategy : RoundRobinStrategy
  requested : List WorkerId

/-- The registered parties, the strategies, and the workers picked. -/
def Coord.allocators (c : Coord κ) : Allocators where
  servers := c.servers
  serverStrategy := c.serverStrategy
  workerIds := c.workerIds
  workerStrategy := c.workerStrategy
  requested := c.out.filterMap Out.requestedWorker

section Untouched

variable (c : Coord κ)

/-- What is emitted leaves the allocators alone, unless it asks a worker for a
router. -/
theorem emit_allocators {o : Out κ} (ho : o.requestedWorker = none) :
    (c.emit o).allocators = c.allocators := by
  unfold Coord.emit Coord.allocators
  simp [ho]

@[simp] theorem defer_allocators (t : Task κ) :
    (c.defer t).allocators = c.allocators := rfl

@[simp] theorem settle_allocators (k : AfterTransition κ)
    (result : Except String Unit) :
    (SpaceService.settle c k result).allocators = c.allocators := by
  unfold SpaceService.settle
  split <;> rfl

@[simp] theorem setStatus_allocators (uuid : Uuid) (status : SpaceStatus) :
    (SpaceService.setStatus c uuid status).allocators = c.allocators := rfl

@[simp] theorem endSpace_allocators (uuid : Uuid) (k : AfterTransition κ) :
    (SpaceService.endSpace c uuid k).allocators = c.allocators := by
  unfold SpaceService.endSpace
  rw [settle_allocators, setStatus_allocators]
  exact emit_allocators c rfl

@[simp] theorem resumeEnded_allocators (uuid : Uuid)
    (k : AfterTransition κ) :
    (SpaceService.resumeEnded c uuid k).allocators = c.allocators := by
  unfold SpaceService.resumeEnded
  rw [endSpace_allocators]
  exact emit_allocators c (o := .routerCleared uuid) rfl

@[simp] theorem removeRouter_allocators (r : RouterId) :
    (RouterAllocator.remove c r).allocators = c.allocators := by
  unfold RouterAllocator.remove
  split
  · split
    · rfl
    · rename_i router _
      exact emit_allocators c (o := .routerRemoved router.owningSpace r) rfl
  · rfl

@[simp] theorem request_allocators (router : RouterId) (member : MemberId)
    (source : Option TransportId) :
    (TransportAllocator.request c router member source).allocators
      = c.allocators :=
  emit_allocators c (o := .newWebRtcTransportRequest router c.transportIdGen
    source.isNone) rfl

@[simp] theorem allocate_allocators (router : RouterId) (member : MemberId)
    (source : Option TransportId) :
    (TransportAllocator.allocate c router member source).allocators
      = c.allocators := by
  unfold TransportAllocator.allocate
  split
  · exact request_allocators c _ _ _
  · split
    · exact request_allocators c _ _ _
    · rfl

@[simp] theorem publishParams_allocators (t : Transport) (options : Json) :
    (TransportAllocator.publishParams c t options).allocators
      = c.allocators := by
  unfold TransportAllocator.publishParams
  split
  · rfl
  · split
    · exact emit_allocators c rfl
    · rfl

@[simp] theorem onTransportAck_allocators (id : TransportId)
    (options : Json) :
    (TransportAllocator.onTransportAck c id options).allocators
      = c.allocators := by
  have hack : ({ c with
        transportRequests := c.transportRequests.delete id
        transportHeap := c.transportHeap.modify id fun t =>
          { t with status := .allocated, options := some options }
        out := c.out ++ [.transportAllocated id] } : Coord κ).allocators
      = c.allocators := emit_allocators c (o := .transportAllocated id) rfl
  unfold TransportAllocator.onTransportAck
  split
  · rfl
  · dsimp only
    split
    · rw [publishParams_allocators, defer_allocators, hack]
    · split
      · exact hack
      · rw [publishParams_allocators]
        exact hack

@[simp] theorem allocatePair_allocators (router : RouterId)
    (newMember : MemberId) (source : TransportId) (other : MemberId) :
    (MemberService.allocatePair router newMember source c other).allocators
      = c.allocators := by
  unfold MemberService.allocatePair
  split
  · rfl
  · dsimp only
    split
    · exact allocate_allocators c _ _ _
    · rw [allocate_allocators, allocate_allocators]

/-- So does a loop of which each turn does. -/
theorem foldl_allocators {α : Type} {f : Coord κ → α → Coord κ}
    (hf : ∀ c a, (f c a).allocators = c.allocators) :
    ∀ (l : List α) (c : Coord κ), (l.foldl f c).allocators = c.allocators
  | [], _ => rfl
  | a :: l, c => (foldl_allocators hf l (f c a)).trans (hf c a)

@[simp] theorem allocateConsumers_allocators (id : TransportId) :
    (MemberService.allocateConsumers c id).allocators = c.allocators := by
  unfold MemberService.allocateConsumers
  split
  · rfl
  · rename_i t _
    have hmesh := emit_allocators { c with
      memberHeap := c.memberHeap.modify t.owningMember fun m =>
        { m with producer := some id } }
      (o := .consumersAllocated t.owningMember) rfl
    dsimp only
    split
    · exact hmesh
    · rw [foldl_allocators fun c other =>
        allocatePair_allocators c _ _ _ other]
      exact hmesh

@[simp] theorem add_allocators (data : MemberData) (state : MemberState)
    (uuid : Uuid) :
    (MemberService.add c data state uuid).allocators = c.allocators :=
  emit_allocators c (o := .memberAdded c.memberIdGen) rfl

theorem removeConsumers_allocators {d : Coord κ} {finished : Bool} :
    ∀ {l : List (Option TransportId)} {c : Coord κ},
      MemberService.removeConsumers c l = (d, finished) →
      d.allocators = c.allocators
  | [], _, h => by
      cases h
      rfl
  | some id :: l, c, h =>
      removeConsumers_allocators (l := l)
        (c := TransportAllocator.remove c id) h
  | none :: _, _, h => by
      cases h
      rfl

@[simp] theorem publish_allocators [Callback κ] (transport : TransportId)
    (update : TransportUpdateC) (uuid : Uuid) (memberId : MemberId)
    (cb : κ) :
    (SpaceUpdateDispatcher.publish c transport update uuid memberId
      cb).allocators = c.allocators :=
  emit_allocators c
    (o := .transportUpdate c.updateIdGen transport update cb) rfl

end Untouched

section Answers

variable [Callback κ] (c : Coord κ) (cb : κ)

@[simp] theorem ackSync_allocators (resp : Response) :
    (c.ackSync cb resp).allocators = c.allocators := by
  unfold Coord.ackSync
  dsimp only
  split
  · exact emit_allocators c rfl
  · rw [emit_allocators _ rfl, emit_allocators _ rfl]

@[simp] theorem nackSync_allocators (message : String) :
    (c.nackSync cb message).allocators = c.allocators := by
  unfold Coord.nackSync
  dsimp only
  split
  · exact emit_allocators c rfl
  · rw [emit_allocators _ rfl, emit_allocators _ rfl]

@[simp] theorem ackThen_allocators (resp : Response)
    (wrap : String → String) :
    (c.ackThen cb resp wrap).allocators = c.allocators := by
  unfold Coord.ackThen
  dsimp only
  split
  · exact emit_allocators c rfl
  · rw [defer_allocators, emit_allocators _ rfl]

@[simp] theorem nackThen_allocators (message : String) :
    (c.nackThen cb message).allocators = c.allocators := by
  unfold Coord.nackThen
  dsimp only
  split
  · exact emit_allocators c rfl
  · rw [defer_allocators, emit_allocators _ rfl]

@[simp] theorem nackCatch_allocators (message : String) :
    (c.nackCatch cb message).allocators = c.allocators := by
  unfold Coord.nackCatch
  dsimp only
  split
  · exact emit_allocators c rfl
  · rw [emit_allocators _ rfl, emit_allocators _ rfl]

/-- An ack leaves them alone if what follows it does. -/
@[simp] theorem answerAck_allocators (r : UpdateRequest κ)
    (resp : Response) {k : Coord κ → Coord κ}
    (hk : ∀ c, (k c).allocators = c.allocators) :
    (SpaceUpdateDispatcher.answerAck c r resp k).allocators
      = c.allocators := by
  unfold SpaceUpdateDispatcher.answerAck SpaceUpdateDispatcher.answerNack
  dsimp only
  split
  · rw [hk, emit_allocators _ rfl]
  · rw [nackCatch_allocators, emit_allocators _ rfl]

@[simp] theorem onUpdateAck_allocators (id : Nat) (r : UpdateRequest κ)
    (resp : TransportUpdateAck) :
    (SpaceUpdateDispatcher.onUpdateAck c id r resp).allocators
      = c.allocators := by
  unfold SpaceUpdateDispatcher.onUpdateAck
  dsimp only
  split
  · exact answerAck_allocators _ r _ fun _ => rfl
  · refine answerAck_allocators _ r _ fun _ => ?_
    split
    · exact emit_allocators _ rfl
    · rfl
  · exact answerAck_allocators _ r _ fun _ => rfl
  · exact answerAck_allocators _ r _ fun _ => rfl

/-- The lookup of a transport leaves them alone. -/
theorem withAllocated_allocators (transport : Option TransportId)
    {k : TransportId → TransportStatus → Coord κ}
    (hk : ∀ id status, (k id status).allocators = c.allocators) :
    (SpaceUpdateDispatcher.withAllocated c transport cb k).allocators
      = c.allocators := by
  unfold SpaceUpdateDispatcher.withAllocated
  split
  · exact nackSync_allocators c cb _
  · split
    · exact nackSync_allocators c cb _
    · exact hk _ _

theorem connect_allocators (uuid : Uuid) (memberId : MemberId)
    (dtlsParameters : Json) (id : TransportId) (status : TransportStatus) :
    (SpaceUpdateDispatcher.connect c uuid memberId dtlsParameters cb id
      status).allocators = c.allocators := by
  unfold SpaceUpdateDispatcher.connect
  split
  · rfl
  · exact publish_allocators c _ _ _ _ _

/-- No space update touches the allocators. -/
@[simp] theorem onSpaceUpdate_allocators (uuid : Uuid)
    (update : SpaceUpdateS) :
    (SpaceUpdateDispatcher.onSpaceUpdate c uuid update cb).allocators
      = c.allocators := by
  unfold SpaceUpdateDispatcher.onSpaceUpdate
  split
  · exact nackSync_allocators c cb _
  · cases update <;> dsimp only <;> split <;>
      first
        | exact nackSync_allocators c cb _
        | refine withAllocated_allocators c cb _ fun id status => ?_
          first
            | exact connect_allocators c cb _ _ _ _ _
            | exact publish_allocators c _ _ _ _ _
        | skip
    -- the consume branch looks up the source member as well
    split
    · exact nackSync_allocators c cb _
    · refine withAllocated_allocators c cb _ fun id status => ?_
      split
      · exact emit_allocators c rfl
      · exact publish_allocators c _ _ _ _ _

end Answers

/-! ## §3. What a stretch picks. -/

/-- Some picks of workers in a row, each with its router requested. -/
def Coord.Picked (c c' : Coord κ) : Prop :=
  ∃ m, c'.allocators = { c.allocators with
    workerStrategy := c.workerStrategy.advance m
    requested := c.allocators.requested ++
      c.workerStrategy.picks c.workerIds m }

/-- Nothing is picked where the allocators stay. -/
theorem Coord.Picked.of_eq {c c' : Coord κ}
    (h : c'.allocators = c.allocators) : c.Picked c' := by
  refine ⟨0, h.trans ?_⟩
  show c.allocators = { c.allocators with
    requested := c.allocators.requested ++ [] }
  rw [List.append_nil]

theorem Coord.Picked.trans_eq {c c' c'' : Coord κ} (h : c.Picked c')
    (heq : c''.allocators = c'.allocators) : c.Picked c'' := by
  obtain ⟨m, hm⟩ := h
  exact ⟨m, heq.trans hm⟩

/-- The server `allocate` chooses in action `a`. -/
def Coord.serverPicks (c : Coord κ) : Action κ → List ServerId
  | .tryJoinSpaceRequest spaceUuid _ =>
      match c.spaces.get? spaceUuid with
      | none => []
      | some space =>
          if space.status = .ended then []
          else
            match c.serverStrategy.pick (c.servers.map ServerEntry.id) with
            | .error _ => []
            | .ok (chosen, _) => [chosen]
  | _ => []

/-- `RouterAllocator.allocate`: picks unless the space has a router. -/
theorem allocate_picked (c : Coord κ) (uuid : Uuid) (space : Space)
    (w : RouterWaiter κ) :
    c.Picked (RouterAllocator.allocate c uuid space w) := by
  unfold RouterAllocator.allocate
  split
  · refine .of_eq ?_
    rw [defer_allocators]
    exact emit_allocators c rfl
  · split
    · exact .of_eq rfl
    · rename_i hne
      obtain ⟨id, -, hpick, hpicks⟩ := c.workerStrategy.pick_spec
        (fun h => hne (List.length_eq_zero_iff.mpr h))
      rw [hpick]
      refine ⟨1, ?_⟩
      rw [hpicks]
      unfold RouterAllocator.request Coord.allocators
      simp [Out.requestedWorker]

/-- A transition picks at most one worker, for its router. -/
theorem applyTransition_picked (c : Coord κ) (uuid : Uuid) (space : Space)
    (dest : SpaceStatus) (k : AfterTransition κ) :
    c.Picked (SpaceService.applyTransition c uuid space dest k) := by
  unfold SpaceService.applyTransition
  split
  · exact .of_eq (settle_allocators c k _)
  · split
    · exact allocate_picked c uuid space _
    · split
      · split
        · exact .of_eq (removeRouter_allocators c _)
        · exact .of_eq (endSpace_allocators c uuid k)
      · exact .of_eq (settle_allocators c k _)

theorem transitionPromise_picked (c : Coord κ) (uuid : Uuid) (space : Space)
    (desiredStatus : Option SpaceStatus) (k : AfterTransition κ) :
    c.Picked
      (SpaceService.transitionPromise c uuid space desiredStatus k) := by
  unfold SpaceService.transitionPromise
  split
  · exact applyTransition_picked c uuid space _ k
  · exact .of_eq (settle_allocators c k _)

theorem Coord.Picked.eq_trans {c d c' : Coord κ}
    (heq : d.allocators = c.allocators) (h : d.Picked c') : c.Picked c' := by
  obtain ⟨m, hm⟩ := h
  refine ⟨m, hm.trans ?_⟩
  have hs : d.workerStrategy = c.workerStrategy :=
    congrArg Allocators.workerStrategy heq
  have hids : d.workerIds = c.workerIds :=
    congrArg Allocators.workerIds heq
  rw [heq, hs, hids]

section Handlers

variable [Callback κ]

/-- A removal picks nothing. -/
theorem onRemoveMemberRequest_picked (c : Coord κ) (id : MemberId)
    (cb : κ) : c.Picked (MemberService.onRemoveMemberRequest c id cb) := by
  unfold MemberService.onRemoveMemberRequest
  split
  · split
    · exact .of_eq rfl
    · rename_i member _
      dsimp only
      split
      · rename_i d hd
        refine .of_eq ((emit_allocators d rfl).trans ?_)
        refine (removeConsumers_allocators hd).trans ?_
        split <;> rfl
      · rename_i d hd
        have h : d.allocators = c.allocators := by
          refine (removeConsumers_allocators hd).trans ?_
          split <;> rfl
        refine Coord.Picked.trans_eq (Coord.Picked.eq_trans h ?_)
          (ackSync_allocators _ cb _)
        unfold SpaceService.notifyMemberLeft
        split
        · exact .of_eq rfl
        · exact Coord.Picked.eq_trans rfl
            (transitionPromise_picked (MemberService.remove d id member) _ _
              _ _)
  · exact .of_eq (nackSync_allocators c cb _)

/-- A continuation picks at most one worker. -/
theorem resumeTask_picked (c : Coord κ) (t : Task κ) :
    c.Picked (resumeTask c t) := by
  refine .of_eq ?_
  unfold resumeTask
  split
  · unfold resumeAllocated
    split
    · unfold SpaceService.resumeRunning
      rw [settle_allocators, setStatus_allocators]
    · exact settle_allocators c _ _
    · unfold MemberService.resumeAddMember
      rw [ackThen_allocators, allocate_allocators, add_allocators]
    · exact nackCatch_allocators c _ _
  · exact resumeEnded_allocators c _ _
  · unfold SpaceService.resumeTransitioned
    split
    · unfold SpaceService.resumeSubscribe
      split
      · rfl
      · split
        · exact nackThen_allocators c _ _
        · rw [ackThen_allocators]
          rfl
    · exact nackCatch_allocators c _ _
    · exact ackThen_allocators c _ _ _
    · exact nackCatch_allocators c _ _
    · rfl
  · exact allocateConsumers_allocators c _
  · exact nackCatch_allocators c _ _

/-- The join preflight picks a server, and no worker. -/
theorem onTryJoinSpaceRequest_picks (c : Coord κ) (spaceUuid : Uuid)
    (cb : κ) : ∃ m,
    (onTryJoinSpaceRequest c spaceUuid cb).allocators
      = { c.allocators with
        serverStrategy := c.serverStrategy.advance m } ∧
    c.serverPicks (.tryJoinSpaceRequest spaceUuid cb)
      = c.serverStrategy.picks (c.servers.map ServerEntry.id) m := by
  unfold onTryJoinSpaceRequest Coord.serverPicks
  dsimp only
  -- a server is picked only for a space that has not ended
  cases c.spaces.get? spaceUuid with
  | none => exact ⟨0, nackSync_allocators c cb _, rfl⟩
  | some space =>
      dsimp only
      by_cases hended : space.status = .ended
      · rw [if_pos hended, if_pos hended]
        exact ⟨0, nackSync_allocators c cb _, rfl⟩
      · rw [if_neg hended, if_neg hended]
        unfold ChannelPreAllocator.allocate
        by_cases hids : c.servers.map ServerEntry.id = []
        · rw [hids, RoundRobinStrategy.pick_nil]
          exact ⟨0, nackSync_allocators c cb _, rfl⟩
        -- the picked id is one of the servers', so `find` finds its URL
        · obtain ⟨id, hid, hpick, hpicks⟩ := c.serverStrategy.pick_spec hids
          obtain ⟨s, hs, rfl⟩ := List.mem_map.mp hid
          have hfind : (c.servers.find? (·.id = s.id)).isSome :=
            List.find?_isSome.mpr ⟨s, hs, by simp⟩
          obtain ⟨s', hs'⟩ := Option.isSome_iff_exists.mp hfind
          rw [hpick]
          dsimp only
          rw [hs']
          refine ⟨1, ?_, hpicks.symm⟩
          dsimp only
          split
          · exact emit_allocators _ rfl
          · rw [nackSync_allocators]
            exact emit_allocators _ rfl

end Handlers

/-- The action registers a party, or takes one off the list. -/
def Action.registers : Action κ → Bool
  | .signalingServerConnected .. | .signalingServerDisconnected _ |
    .mediaWorkerConnected _ | .mediaWorkerDisconnected _ => true
  | _ => false

/-- `c'` is `c` after `m` picks of servers and `m'` picks of workers. -/
def Coord.After (c c' : Coord κ) (m m' : Nat) : Prop :=
  c'.allocators = { c.allocators with
    serverStrategy := c.serverStrategy.advance m
    workerStrategy := c.workerStrategy.advance m'
    requested := c.allocators.requested ++
      c.workerStrategy.picks c.workerIds m' }

section Act

variable [Callback κ] {c c' : Coord κ} {a : Action κ}

/-- A stretch that registers nobody only picks. -/
theorem act_after (h : c.act a = some c') (ha : a.registers = false) :
    ∃ m m', c.After c' m m' ∧ c.serverPicks a
      = c.serverStrategy.picks (c.servers.map ServerEntry.id) m := by
  -- all but `tryJoin` pick no server: it remains that only workers were picked
  have hpicked : ∀ {d : Coord κ}, c.Picked d → some d = some c' →
      c.serverPicks a = [] → ∃ m m', c.After c' m m' ∧ c.serverPicks a
        = c.serverStrategy.picks (c.servers.map ServerEntry.id) m := by
    intro d ⟨m, hm⟩ hd hnone
    cases hd
    exact ⟨0, m, hm, hnone⟩
  have hquiet : ∀ {d : Coord κ}, d.allocators = c.allocators →
      some d = some c' → c.serverPicks a = [] →
      ∃ m m', c.After c' m m' ∧ c.serverPicks a
        = c.serverStrategy.picks (c.servers.map ServerEntry.id) m :=
    fun hd => hpicked (.of_eq hd)
  cases a with
  | signalingServerConnected | signalingServerDisconnected
  | mediaWorkerConnected | mediaWorkerDisconnected => cases ha
  -- the requests about spaces pick a worker where a router is asked for
  | createSpaceRequest uuid data policyType cb =>
      simp only [Coord.act] at h
      split at h
      · cases h
      · refine hquiet ?_ h rfl
        unfold SpaceService.onCreateSpaceRequest
        split
        · exact emit_allocators c rfl
        · exact (ackSync_allocators _ cb _).trans rfl
  | readSpaceRequest uuid cb =>
      refine hquiet ?_ h rfl
      unfold SpaceService.onReadSpaceRequest
      split
      · exact nackSync_allocators c cb _
      · exact ackSync_allocators c cb _
  | subscribeToSpaceRequest serverId uuid cb =>
      refine hpicked ?_ h rfl
      unfold SpaceService.onSubscribeToSpaceRequest
      split
      · exact .of_eq (nackSync_allocators c cb _)
      · split
        · exact .of_eq (nackSync_allocators c cb _)
        · exact transitionPromise_picked c uuid _ _ _
  | unsubscribeFromSpaceRequest serverId uuid cb =>
      refine hpicked ?_ h rfl
      unfold SpaceService.onUnsubscribeFromSpaceRequest
      split
      · exact .of_eq (nackSync_allocators c cb _)
      · exact Coord.Picked.eq_trans rfl
          (transitionPromise_picked (SpaceService.unsubscribe c _ _) uuid _
            _ _)
  | addMemberRequest serverId uuid data state cb =>
      refine hpicked ?_ h rfl
      unfold MemberService.onAddMemberRequest
      split
      · split
        · exact .of_eq (nackSync_allocators c cb _)
        · exact allocate_picked c uuid _ _
      · exact .of_eq (nackSync_allocators c cb _)
  | removeMemberRequest id cb =>
      exact hpicked (onRemoveMemberRequest_picked c id cb) h rfl
  | spaceUpdateStream uuid update cb =>
      exact hquiet (onSpaceUpdate_allocators c cb uuid update) h rfl
  -- the only step that picks a server
  | tryJoinSpaceRequest uuid cb =>
      cases h
      obtain ⟨m, hm, hp⟩ := onTryJoinSpaceRequest_picks c uuid cb
      refine ⟨m, 0, hm.trans ?_, hp⟩
      show _ = { c.allocators with
        serverStrategy := c.serverStrategy.advance m
        requested := c.allocators.requested ++ [] }
      rw [List.append_nil]
  -- acks and nacks pick nobody
  | routerAck id caps =>
      obtain ⟨w, -, hw⟩ := Option.map_eq_some_iff.mp h
      refine hquiet ?_ (congrArg some hw) rfl
      unfold RouterAllocator.onRouterAck
      split
      · rfl
      · rename_i router _
        exact emit_allocators c (o := .routerResolved router.owningSpace id)
          rfl
  | routerNack id message =>
      obtain ⟨w, -, hw⟩ := Option.map_eq_some_iff.mp h
      exact hquiet (d := RouterAllocator.onRouterNack c id w message) rfl
        (congrArg some hw) rfl
  | transportAck id options =>
      simp only [Coord.act] at h
      split at h
      · exact hquiet (onTransportAck_allocators c id options) h rfl
      · cases h
  | transportNack id message =>
      simp only [Coord.act] at h
      split at h
      · exact hquiet (d := TransportAllocator.onTransportNack c id) rfl h rfl
      · cases h
  | updateAck id resp =>
      obtain ⟨r, -, hr⟩ := Option.map_eq_some_iff.mp h
      exact hquiet (onUpdateAck_allocators c id r resp) (congrArg some hr)
        rfl
  | updateNack id message =>
      obtain ⟨r, -, hr⟩ := Option.map_eq_some_iff.mp h
      exact hquiet (d := SpaceUpdateDispatcher.onUpdateNack c id r message)
        (nackCatch_allocators _ _ _) (congrArg some hr) rfl
  -- a continuation may start the next transition of its space
  | resume i =>
      obtain ⟨t, -, ht⟩ := Option.map_eq_some_iff.mp h
      exact hpicked (Coord.Picked.eq_trans rfl (resumeTask_picked
        { c with tasks := c.tasks.eraseIdx i } t)) (congrArg some ht) rfl

/-- Any stretch picks servers in a row, perhaps none. -/
theorem act_serverPicks (h : c.act a = some c') : ∃ m,
    c'.serverStrategy = c.serverStrategy.advance m ∧
      c.serverPicks a
        = c.serverStrategy.picks (c.servers.map ServerEntry.id) m := by
  cases ha : a.registers with
  | false =>
      obtain ⟨m, _, hafter, hp⟩ := act_after h ha
      exact ⟨m, congrArg Allocators.serverStrategy hafter, hp⟩
  | true => cases a <;> cases ha <;> cases h <;> exact ⟨0, rfl, rfl⟩

/-- Any stretch picks workers in a row, perhaps none. -/
theorem act_workerPicks (h : c.act a = some c') : ∃ m,
    c'.workerStrategy = c.workerStrategy.advance m ∧
      c'.allocators.requested = c.allocators.requested ++
        c.workerStrategy.picks c.workerIds m := by
  cases ha : a.registers with
  | false =>
      obtain ⟨_, m, hafter, -⟩ := act_after h ha
      exact ⟨m, congrArg Allocators.workerStrategy hafter,
        congrArg Allocators.requested hafter⟩
  | true =>
      refine ⟨0, ?_⟩
      show _ ∧ _ = c.allocators.requested ++ []
      rw [List.append_nil]
      cases a <;> cases ha <;> cases h <;> exact ⟨rfl, rfl⟩

/-- A server comes and goes with its own connection. -/
theorem act_servers (h : c.act a = some c') (server : ServerEntry) :
    server ∈ c'.servers ↔
      a = .signalingServerConnected server.id server.url ∨
        server ∈ c.servers ∧ a ≠ .signalingServerDisconnected server.id := by
  -- only the first two of the registering actions change the servers
  cases ha : a.registers with
  | false =>
      obtain ⟨_, _, hafter, -⟩ := act_after h ha
      have hconnect : a ≠ .signalingServerConnected server.id server.url := by
        intro heq
        rw [heq] at ha
        cases ha
      have hdisconnect : a ≠ .signalingServerDisconnected server.id := by
        intro heq
        rw [heq] at ha
        cases ha
      rw [show c'.servers = c.servers from congrArg Allocators.servers hafter]
      simp [hconnect, hdisconnect]
  | true =>
      cases a with
      | signalingServerConnected serverId serverUrl =>
          cases h
          show server ∈ c.servers ++ [⟨serverId, serverUrl⟩] ↔ _
          rw [List.mem_append, List.mem_singleton, Or.comm]
          refine or_congr ⟨fun heq => ?_, fun heq => ?_⟩ (by simp)
          · rw [heq]
          · cases heq
            rfl
      | signalingServerDisconnected serverId =>
          cases h
          show server ∈ c.servers.filter (·.id ≠ serverId) ↔ _
          rw [List.mem_filter, decide_eq_true_eq]
          constructor
          · intro ⟨hmem, hne⟩
            exact .inr ⟨hmem, fun heq => hne (by cases heq; rfl)⟩
          · intro hor
            rcases hor with heq | ⟨hmem, hne⟩
            · cases heq
            · exact ⟨hmem, fun heq => hne (by rw [heq])⟩
      | mediaWorkerConnected | mediaWorkerDisconnected =>
          cases h
          show server ∈ c.servers ↔ _
          simp
      | _ => cases ha

/-- A worker comes and goes with its own connection. -/
theorem act_workerIds (h : c.act a = some c') (workerId : WorkerId) :
    workerId ∈ c'.workerIds ↔ a = .mediaWorkerConnected workerId ∨
      workerId ∈ c.workerIds ∧ a ≠ .mediaWorkerDisconnected workerId := by
  -- only the last two of the registering actions change the workers
  cases ha : a.registers with
  | false =>
      obtain ⟨_, _, hafter, -⟩ := act_after h ha
      have hconnect : a ≠ .mediaWorkerConnected workerId := by
        intro heq
        rw [heq] at ha
        cases ha
      have hdisconnect : a ≠ .mediaWorkerDisconnected workerId := by
        intro heq
        rw [heq] at ha
        cases ha
      rw [show c'.workerIds = c.workerIds from
        congrArg Allocators.workerIds hafter]
      simp [hconnect, hdisconnect]
  | true =>
      cases a with
      | mediaWorkerConnected id =>
          cases h
          show workerId ∈ c.workerIds ++ [id] ↔ _
          rw [List.mem_append, List.mem_singleton, Or.comm]
          refine or_congr ⟨fun heq => ?_, fun heq => ?_⟩ (by simp)
          · rw [heq]
          · cases heq
            rfl
      | mediaWorkerDisconnected id =>
          cases h
          show workerId ∈ c.workerIds.filter (· ≠ id) ↔ _
          rw [List.mem_filter, decide_eq_true_eq]
          constructor
          · intro ⟨hmem, hne⟩
            exact .inr ⟨hmem, fun heq => hne (by cases heq; rfl)⟩
          · intro hor
            rcases hor with heq | ⟨hmem, hne⟩
            · cases heq
            · exact ⟨hmem, fun heq => hne (by rw [heq])⟩
      | signalingServerConnected | signalingServerDisconnected =>
          cases h
          show workerId ∈ c.workerIds ↔ _
          simp
      | _ => cases ha

end Act

/-! ## §4. Who is registered. -/

/-- The server has connected, and not disconnected since. -/
def RegisteredServer (log : List (Action κ)) (server : ServerEntry) : Prop :=
  Since (· = .signalingServerConnected server.id server.url)
    (· = .signalingServerDisconnected server.id) log

/-- The worker has connected, and not disconnected since. -/
def RegisteredWorker (log : List (Action κ)) (workerId : WorkerId) : Prop :=
  Since (· = .mediaWorkerConnected workerId)
    (· = .mediaWorkerDisconnected workerId) log

section Runs

variable [Callback κ]

/-- The two lists hold who is registered. -/
theorem registered_iff {G : Guard (Coord κ) (Action κ) (Out κ)}
    {past : List (Coord κ × List (Action κ))}
    {s : Coord κ × List (Action κ)} {tr : List (Out κ)}
    (h : (machine κ).recorded.Run (Machine.unrecorded G) past s tr) :
    (∀ server, server ∈ s.1.servers ↔ RegisteredServer s.2 server) ∧
      ∀ workerId, workerId ∈ s.1.workerIds ↔
        RegisteredWorker s.2 workerId := by
  refine h.recorded_invariant (fun c log _ =>
    (∀ server, server ∈ c.servers ↔ RegisteredServer log server) ∧
      ∀ workerId, workerId ∈ c.workerIds ↔ RegisteredWorker log workerId)
    (fun c hc => ?_) fun c log _ a c' _ _ hI _ hs => ?_
  · obtain rfl : c = Coord.initial := hc
    exact ⟨fun _ => iff_of_false List.not_mem_nil not_since_nil,
      fun _ => iff_of_false List.not_mem_nil not_since_nil⟩
  · obtain ⟨d, hd, hp⟩ := Option.map_eq_some_iff.mp hs
    cases hp
    refine ⟨fun server => ?_, fun workerId => ?_⟩
    · unfold RegisteredServer
      rw [act_servers hd, since_append]
      exact or_congr_right (and_congr_left' (hI.1 server))
    · unfold RegisteredWorker
      rw [act_workerIds hd, since_append]
      exact or_congr_right (and_congr_left' (hI.2 workerId))

/-! ## §5. Fairness. -/

/-- The step leaves the registered servers. -/
def keepsServers : Guard (Coord κ) (Action κ) ServerId := fun _ c a =>
  ∀ c' ∈ Coord.act { c with out := [] } a, c'.servers = c.servers

/-- The step leaves the registered workers. -/
def keepsWorkers : Guard (Coord κ) (Action κ) WorkerId := fun _ c a =>
  ∀ c' ∈ Coord.act { c with out := [] } a, c'.workerIds = c.workerIds

instance (tr : List ServerId) (c : Coord κ) (a : Action κ) :
    Decidable (keepsServers tr c a) := by
  unfold keepsServers
  infer_instance

instance (tr : List WorkerId) (c : Coord κ) (a : Action κ) :
    Decidable (keepsWorkers tr c a) := by
  unfold keepsWorkers
  infer_instance

/-- The coordinator from `c₀` on, seen through the servers it picks. -/
def pickingServers (c₀ : Coord κ) :
    Machine (Coord κ) (Action κ) ServerId :=
  (machine κ).watched (fun c a _ => c.serverPicks a) c₀

/-- The coordinator from `c₀` on, seen through the workers it requests
routers from. -/
def pickingWorkers (c₀ : Coord κ) :
    Machine (Coord κ) (Action κ) WorkerId :=
  (machine κ).watched (fun _ _ obs => obs.filterMap Out.requestedWorker) c₀

/-- No candidate is picked more than once more often than another. -/
def Fair (ids picks : List Nat) : Prop :=
  ∀ a ∈ ids, ∀ b ∈ ids, picks.count a ≤ picks.count b + 1

variable {c₀ c : Coord κ} {past : List (Coord κ)} {picked : List Nat}

/-- While the candidates stay, steps that pick in a row from them make a
run that does. -/
theorem run_picks (ids : Coord κ → List Nat)
    (strategy : Coord κ → RoundRobinStrategy)
    {look : Coord κ → Action κ → List (Out κ) → List Nat}
    {G : Guard (Coord κ) (Action κ) Nat}
    (hstep : ∀ {tr c a d}, G tr c a →
      Coord.act { c with out := [] } a = some d → ids d = ids c ∧
        ∃ m, strategy d = (strategy c).advance m ∧
          look c a d.out = (strategy c).picks (ids c) m)
    (h : ((machine κ).watched look c₀).Run G past c picked) :
    ∃ m, picked = (strategy c₀).picks (ids c₀) m := by
  have hI : ids c = ids c₀ ∧ ∃ m,
      strategy c = (strategy c₀).advance m ∧
        picked = (strategy c₀).picks (ids c₀) m := by
    refine h.invariant (fun c picked => ids c = ids c₀ ∧ ∃ m,
      strategy c = (strategy c₀).advance m ∧
        picked = (strategy c₀).picks (ids c₀) m)
      (fun c hc => ?_) fun c picked a c' obs hI hg hs => ?_
    · rw [show c = c₀ from hc]
      exact ⟨rfl, 0, rfl, rfl⟩
    · obtain ⟨hsame, m, hcount, rfl⟩ := hI
      obtain ⟨p, hp, heq⟩ := Option.map_eq_some_iff.mp hs
      obtain ⟨d, hd, hpd⟩ := Option.map_eq_some_iff.mp hp
      cases hpd
      cases heq
      obtain ⟨hstays, m', hcount', hlook⟩ := hstep hg hd
      refine ⟨hstays.trans hsame, m + m', ?_, ?_⟩
      · rw [hcount', RoundRobinStrategy.advance_add, ← hcount]
      · rw [RoundRobinStrategy.picks_add, ← hcount, ← hsame]
        exact congrArg (_ ++ ·) hlook
  obtain ⟨-, m, -, hpicked⟩ := hI
  exact ⟨m, hpicked⟩

/-- While the servers stay, the picks are picks in a row from them. -/
theorem run_serverPicks
    (h : (pickingServers c₀).Run keepsServers past c picked) : ∃ m,
    picked = c₀.serverStrategy.picks (c₀.servers.map ServerEntry.id) m :=
  run_picks (fun c => c.servers.map ServerEntry.id) Coord.serverStrategy
    (fun hg hd => ⟨congrArg _ (hg _ hd), act_serverPicks hd⟩) h

/-- While the workers stay, the picks are picks in a row from them. -/
theorem run_workerPicks
    (h : (pickingWorkers c₀).Run keepsWorkers past c picked) : ∃ m,
    picked = c₀.workerStrategy.picks c₀.workerIds m :=
  run_picks Coord.workerIds Coord.workerStrategy
    (fun hg hd => ⟨hg _ hd, act_workerPicks hd⟩) h

end Runs

/-! ## §6. Allocation. -/

/-- `ChannelPreAllocator.allocate()` fails without servers only; else it
gives the URL of the server picked. -/
theorem ChannelPreAllocator.allocate_spec (c : Coord κ) :
    if c.servers = [] then
      ∃ e, ChannelPreAllocator.allocate c = .error e
    else ∃ server ∈ c.servers, ∃ strategy,
      c.serverStrategy.pick (c.servers.map ServerEntry.id)
          = .ok (server.id, strategy) ∧
        ChannelPreAllocator.allocate c = .ok (server.url, strategy) := by
  unfold ChannelPreAllocator.allocate
  by_cases hnone : c.servers = []
  · rw [if_pos hnone, hnone]
    exact ⟨_, rfl⟩
  · rw [if_neg hnone]
    have hids : c.servers.map ServerEntry.id ≠ [] := by simpa using hnone
    obtain ⟨id, hid, hpick, -⟩ := c.serverStrategy.pick_spec hids
    obtain ⟨s, hs, rfl⟩ := List.mem_map.mp hid
    have hfind : (c.servers.find? (·.id = s.id)).isSome :=
      List.find?_isSome.mpr ⟨s, hs, by simp⟩
    obtain ⟨server, hserver⟩ := Option.isSome_iff_exists.mp hfind
    have heq : server.id = s.id := by simpa using List.find?_some hserver
    refine ⟨server, List.mem_of_find?_eq_some hserver,
      c.serverStrategy.advance 1, ?_, ?_⟩
    · rw [heq]
      exact hpick
    · rw [hpick]
      dsimp only
      rw [hserver]

/-- `RouterAllocator.allocate(space)` for a space without a router fails
without workers only; else a router is requested from a worker. -/
theorem RouterAllocator.allocate_spec (c : Coord κ) (uuid : Uuid)
    {space : Space} (w : RouterWaiter κ) (hr : space.primaryRouter = none) :
    if c.workerIds = [] then
      RouterAllocator.allocate c uuid space w
        = c.defer (.allocated w (.error "no media workers available"))
    else ∃ workerId ∈ c.workerIds, ∃ strategy,
      c.workerStrategy.pick c.workerIds = .ok (workerId, strategy) ∧
        RouterAllocator.allocate c uuid space w
          = RouterAllocator.request c uuid workerId strategy w := by
  unfold RouterAllocator.allocate
  rw [hr]
  dsimp only
  by_cases hnone : c.workerIds = []
  · rw [if_pos hnone, if_pos (by rw [hnone]; rfl)]
  · rw [if_neg hnone, if_neg fun h => hnone (List.length_eq_zero_iff.mp h)]
    obtain ⟨id, hid, hpick, -⟩ := c.workerStrategy.pick_spec hnone
    refine ⟨id, hid, c.workerStrategy.advance 1, hpick, ?_⟩
    rw [hpick]

section Main

variable [Callback κ]

/-- **Allocation is sound and fair.**  After any history of connects,
disconnects and picks, `ChannelPreAllocator.allocate` throws exactly when no
server is registered, and else returns the URL of the registered server it
picked; and from any state on, while the servers with their distinct ids
stay and each pick finds the counter below 2^53, none of them is picked more
than once more often than another.  The same holds of the workers routers
are requested from. -/
theorem allocation_fair {past : List (Coord κ × List (Action κ))}
    {s : Coord κ × List (Action κ)} {tr : List (Out κ)}
    (h : (machine κ).recorded.Run (Machine.unrecorded anyStep) past s tr) :
    ((∃ e, ChannelPreAllocator.allocate s.1 = .error e) ↔
        ¬ ∃ server, RegisteredServer s.2 server) ∧
      (∀ url strategy,
        ChannelPreAllocator.allocate s.1 = .ok (url, strategy) →
        ∃ server, RegisteredServer s.2 server ∧ server.url = url ∧
          s.1.serverStrategy.pick (s.1.servers.map ServerEntry.id)
            = .ok (server.id, strategy)) ∧
      (∀ (c₀ c : Coord κ) (pastPicks : List (Coord κ))
        (picked : List ServerId),
        (pickingServers c₀).Run keepsServers pastPicks c picked →
        (c₀.servers.map ServerEntry.id).Nodup →
        c₀.serverStrategy.counter + picked.length ≤ 2 ^ 53 →
        Fair (c₀.servers.map ServerEntry.id) picked) ∧
      (∀ (uuid : Uuid) (space : Space) (w : RouterWaiter κ),
        space.primaryRouter = none →
        (RouterAllocator.allocate s.1 uuid space w = s.1.defer (.allocated w
            (.error "no media workers available")) ↔
          ¬ ∃ workerId, RegisteredWorker s.2 workerId) ∧
        ((∃ workerId, RegisteredWorker s.2 workerId) →
          ∃ workerId strategy, RegisteredWorker s.2 workerId ∧
            RouterAllocator.allocate s.1 uuid space w
              = RouterAllocator.request s.1 uuid workerId strategy w)) ∧
      ∀ (c₀ c : Coord κ) (pastPicks : List (Coord κ))
        (picked : List WorkerId),
        (pickingWorkers c₀).Run keepsWorkers pastPicks c picked →
        c₀.workerIds.Nodup →
        c₀.workerStrategy.counter + picked.length ≤ 2 ^ 53 →
        Fair c₀.workerIds picked := by
  obtain ⟨hservers, hworkers⟩ := registered_iff h
  -- an allocation fails exactly where the list it picks from is empty
  have hno : (¬ ∃ server, RegisteredServer s.2 server) ↔ s.1.servers = [] := by
    simp only [← hservers, List.eq_nil_iff_forall_not_mem, not_exists]
  have hnow : (¬ ∃ workerId, RegisteredWorker s.2 workerId) ↔
      s.1.workerIds = [] := by
    simp only [← hworkers, List.eq_nil_iff_forall_not_mem, not_exists]
  have hspec := ChannelPreAllocator.allocate_spec s.1
  refine ⟨?_, fun url strategy hok => ?_, fun c₀ c _ picked hrun hn hle => ?_,
    fun uuid space w hr => ?_, fun c₀ c _ picked hrun hn hle => ?_⟩
  · rw [hno]
    split at hspec
    · rename_i hnone
      exact iff_of_true hspec hnone
    · rename_i hsome
      obtain ⟨server, -, strategy, -, hok⟩ := hspec
      refine iff_of_false (fun ⟨e, he⟩ => ?_) hsome
      rw [hok] at he
      cases he
  · split at hspec
    · obtain ⟨e, he⟩ := hspec
      rw [hok] at he
      cases he
    · obtain ⟨server, hmem, strategy', hpick, hok'⟩ := hspec
      rw [hok] at hok'
      cases hok'
      exact ⟨server, (hservers server).mp hmem, rfl, hpick⟩
  -- the picks of a run are consecutive, so the counting lemma applies
  · obtain ⟨m, rfl⟩ := run_serverPicks hrun
    exact fun a ha b hb =>
      c₀.serverStrategy.count_picks_le hn ha hb hle
  · have hspec := RouterAllocator.allocate_spec s.1 uuid w hr
    rw [hnow]
    split at hspec
    · rename_i hnone
      exact ⟨iff_of_true hspec hnone, fun hex =>
        absurd hex (hnow.mpr hnone)⟩
    · rename_i hsome
      obtain ⟨workerId, hmem, strategy, -, hreq⟩ := hspec
      refine ⟨iff_of_false (fun heq => ?_) hsome, fun _ =>
        ⟨workerId, strategy, (hworkers workerId).mp hmem, hreq⟩⟩
      -- a request leaves a message behind that the failed call does not
      rw [hreq] at heq
      have hout : s.1.out ++ [Out.newRouterRequest s.1.routerIdGen workerId]
          = s.1.out := congrArg Coord.out heq
      exact absurd (List.append_right_eq_self.mp hout) (List.cons_ne_nil _ _)
  · obtain ⟨m, rfl⟩ := run_workerPicks hrun
    exact fun a ha b hb => c₀.workerStrategy.count_picks_le hn ha hb hle

end Main

/-- Three servers connect, the second one leaves, and a space is created. -/
def twoServers : List (Action Unit) :=
  [.signalingServerConnected 1 "one", .signalingServerConnected 2 "two",
    .signalingServerConnected 3 "three", .signalingServerDisconnected 2,
    .createSpaceRequest "room" ⟨"Room", ""⟩ "subscription-driven" (),
    .tryJoinSpaceRequest "room" ()]

/-- Four clients ask to join one after the other, of two servers. -/
theorem allocation_fair_two : ∃ (c₀ c : Coord Unit) (past : List (Coord Unit)),
    (pickingServers c₀).Run keepsServers past c [3, 1, 3] ∧
      Fair [1, 3] [3, 1, 3] := by
  obtain ⟨past, s, tr, h, hs⟩ := Machine.Run.exists_of_exec
    (M := (machine Unit).recorded) (G := Machine.unrecorded anyStep)
    (l := twoServers) (s := (Coord.initial, []))
    (p := fun r => decide (r.2.1.1.servers.map ServerEntry.id = [1, 3] ∧
      r.2.1.1.serverStrategy.counter = 1 ∧
      (((pickingServers r.2.1.1).exec keepsServers ([], r.2.1.1, [])
        [.tryJoinSpaceRequest "room" (), .tryJoinSpaceRequest "room" (),
          .tryJoinSpaceRequest "room" ()]).map
            (fun r => r.2.2)) = some [3, 1, 3]))
    ⟨rfl, rfl⟩ (by decide +kernel)
  obtain ⟨hids, hcounter, hexec⟩ := of_decide_eq_true hs
  obtain ⟨⟨pastPicks, c, picked⟩, hrun, rfl⟩ :=
    Option.map_eq_some_iff.mp hexec
  have hrun := Machine.Run.of_exec (.init rfl) hrun
  have hids : s.1.servers.map ServerEntry.id = [1, 3] := hids
  have hfair := (allocation_fair h).2.2.1 s.1 c pastPicks _ hrun
    (by rw [hids]; decide) (by rw [hcounter]; decide)
  rw [hids] at hfair
  exact ⟨s.1, c, pastPicks, hrun, hfair⟩

end Twolk.Coordinator

/-
  Twolk.Signaling.Correlation
  ───────────────────────────
  **NO ACK WITHOUT A MESSAGE, AND NO SECOND ONE.**

  A client tells the acks of its messages by their event and correlation id
  alone, so it matters that a channel carries no more of them than its
  client has sent.  An ack is emitted in two places: the session's own
  handler of `updateMemberState`, and the callback of a forwarded message,
  which the coordinator keeps as long as a worker owes the answer.

  What is acked and what is still owed is at most what was sent; the rest
  was refused or nacked.

  Main results:
    * `Message.acks_move` — a move acks what was owed, or nothing,
    * `Message.acks_called` — a server function acks its own message,
    * `acks_add_owed_le` — acked and owed is at most sent, in every run.
-/
import Twolk.Coordinator.Answers
import Twolk.Signaling.Params

namespace Twolk.Signaling

open Twolk.Lib Coordinator

/-! ## §1. Messages and their acks. -/

/-- The client events that are acknowledged. -/
inductive ClientEvent where
  | transportProducerConnect
  | transportProducerProduce
  | transportConsumerConnect
  | transportConsumerConsume
  | transportConsumerResume
  | updateMemberState
  deriving DecidableEq

/-- The kind of a forwarded event. -/
def ForwardedEvent.event : ForwardedEvent → ClientEvent
  | .transportProducerConnect _ => .transportProducerConnect
  | .transportProducerProduce .. => .transportProducerProduce
  | .transportConsumerConnect .. => .transportConsumerConnect
  | .transportConsumerConsume .. => .transportConsumerConsume
  | .transportConsumerResume _ => .transportConsumerResume

/-- The client event an ack names, with its correlation id. -/
def ServerToClientEvent.acked :
    ServerToClientEvent → Option (ClientEvent × String)
  | .transportProducerConnectAck cId => some (.transportProducerConnect, cId)
  | .transportProducerProduceAck cId _ => some (.transportProducerProduce, cId)
  | .transportConsumerConnectAck cId => some (.transportConsumerConnect, cId)
  | .transportConsumerConsumeAck cId _ => some (.transportConsumerConsume, cId)
  | .transportConsumerResumeAck cId => some (.transportConsumerResume, cId)
  | .updateMemberStateAck cId => some (.updateMemberState, cId)
  | _ => none

theorem acked_ackEvent {event : ForwardedEvent} {cId : String}
    {resp : Response} {e : ServerToClientEvent}
    (h : event.ackEvent cId resp = some e) :
    e.acked = some (event.event, cId) := by
  unfold ForwardedEvent.ackEvent at h
  split at h <;> cases h <;> rfl

/-- What a client tells a message by: its channel, its event and its
correlation id. -/
structure Message where
  serverId : ServerId
  session : SessionId
  event : ClientEvent
  cId : String
  deriving DecidableEq

namespace Message

/-- The event is the ack of the message. -/
def ackedBy (m : Message) (e : ServerToClientEvent) : Bool :=
  e.acked = some (m.event, m.cId)

/-- The action is the client's emitting of the message. -/
def sentBy (m : Message) : SystemAction → Bool
  | .forward serverId session event cId =>
      m = ⟨serverId, session, event.event, cId⟩
  | .updateMemberState serverId session _ cId =>
      m = ⟨serverId, session, .updateMemberState, cId⟩
  | _ => false

/-- The callbacks belong to such a message. -/
def forwardedBy (m : Message) : Publisher → Bool
  | .forward serverId session event cId =>
      m = ⟨serverId, session, event.event, cId⟩
  | _ => false

/-- The request was published for the message. -/
def publishedBy (m : Message) (b : Request) : Bool :=
  b.callback.any m.forwardedBy

/-- How often a channel has carried the ack. -/
def acks (m : Message) (servers : JsMap ServerId Server) : Nat :=
  ((servers.get? m.serverId).map fun v =>
    (v.emittedOn m.session).countP m.ackedBy).getD 0

/-- How many answers workers owe to such messages. -/
def owed (m : Message) (c : Coord Publisher) : Nat :=
  c.updateRequests.entries.countP fun e => m.forwardedBy e.2.cb

variable {m : Message}

theorem countP_ackedBy_eq_zero {l : List ServerToClientEvent}
    (h : ∀ e ∈ l, e.acked = none) : l.countP m.ackedBy = 0 := by
  refine List.countP_eq_zero.mpr fun e he => ?_
  simp [ackedBy, h e he]

/-- An ack on its channel is its own. -/
theorem eq_of_ackedBy {serverId : ServerId} {session : SessionId}
    {event : ClientEvent} {cId : String} {e : ServerToClientEvent}
    (he : e.acked = some (event, cId)) (hS : serverId = m.serverId)
    (hsession : m.session = session) (h : m.ackedBy e = true) :
    m = ⟨serverId, session, event, cId⟩ := by
  obtain ⟨S, session', event', cId'⟩ := m
  have hname : e.acked = some (event', cId') := of_decide_eq_true h
  rw [he] at hname
  cases hname
  rw [hS, ← hsession]

/-! ## §2. Functions that ack nothing. -/

section Mute

/-- From `v` to `v'` the channel has carried no such ack. -/
def Mute (m : Message) (v v' : Server) : Prop :=
  (v'.emittedOn m.session).countP m.ackedBy
    = (v.emittedOn m.session).countP m.ackedBy

variable {v v' : Server}

theorem Mute.of_sessions (h : v'.sessions = v.sessions) : m.Mute v v' := by
  unfold Mute Server.emittedOn
  rw [h]

/-- Hearing something else acks nothing. -/
theorem Mute.of_map {f : SessionId → Session → Session}
    (get : ∀ session, v'.sessions.get? session
      = (v.sessions.get? session).map (f session))
    (hf : ∀ x, ∃ l, (f m.session x).emitted = x.emitted ++ l ∧
      ∀ e ∈ l, e.acked = none) : m.Mute v v' := by
  unfold Mute Server.emittedOn
  rw [get]
  cases v.sessions.get? m.session with
  | none => rfl
  | some x =>
      obtain ⟨l, hl, hno⟩ := hf x
      show List.countP m.ackedBy (f m.session x).emitted = _
      rw [hl, List.countP_append, countP_ackedBy_eq_zero hno]
      rfl

/-- A change of one session without an ack acks nothing. -/
theorem Mute.of_puts {u : Server} {session : SessionId} {x x' : Session}
    (hp : Server.Puts u session x' v') (hu : u.sessions = v.sessions)
    (hx : v.sessions.get? session = some x)
    (he : ∃ l, x'.emitted = x.emitted ++ l ∧ ∀ e ∈ l, e.acked = none) :
    m.Mute v v' := by
  by_cases heq : m.session = session
  · obtain ⟨l, hl, hno⟩ := he
    unfold Mute
    rw [heq, Server.emittedOn_of_get? hp.self, Server.emittedOn_of_get? hx, hl,
      List.countP_append, countP_ackedBy_eq_zero hno]
    rfl
  · unfold Mute Server.emittedOn
    rw [hp.others _ heq, hu]

theorem broadcast_mute (v : Server) (ids : List MemberId)
    {event : ServerToClientEvent} (he : event.acked = none) :
    m.Mute v (v.broadcast ids event) := by
  obtain ⟨sessions, heq, hget⟩ := v.broadcast_eq event ids
  rw [heq]
  refine .of_map hget fun x => ⟨_, rfl, fun e hin => ?_⟩
  rw [(List.mem_replicate.mp hin).2, he]

theorem modify_mute (v : Server) (session : SessionId)
    {f : Session → Session} (hf : ∀ x, (f x).emitted = x.emitted) :
    m.Mute v { v with sessions := v.sessions.modify session f } := by
  unfold Mute Server.emittedOn
  dsimp only
  rw [JsMap.get?_modify]
  by_cases heq : m.session = session
  · rw [if_pos heq, heq]
    cases v.sessions.get? session with
    | none => rfl
    | some x =>
        show List.countP m.ackedBy (f x).emitted = _
        rw [hf]
        rfl
  · rw [if_neg heq]

theorem setPhase_mute (v : Server) (session : SessionId) (phase : Phase) :
    m.Mute v (v.setPhase session phase) :=
  modify_mute v session fun _ => rfl

theorem updateMember_mute {memberId : MemberId} {update : MemberStateUpdate}
    (h : v.updateMember memberId update = some v') : m.Mute v v' := by
  obtain ⟨ref, space, member, -, -, -, rfl⟩ := Server.updateMember_eq h
  exact (broadcast_mute _ _ rfl).trans (Mute.of_sessions rfl)

theorem onSpaceUpdate_mute (v : Server) (uuid : Uuid) (update : SpaceUpdateC) :
    m.Mute v (v.onSpaceUpdate uuid update) := by
  unfold Server.onSpaceUpdate
  split
  · split
    · exact broadcast_mute v [_] rfl
    · rfl
  · split
    · cases hu : v.updateMember _ _ with
      | none => rfl
      | some v' => exact updateMember_mute hu
    · rfl

/-- What a server hears acks nothing. By induction on the updates. -/
theorem hears_mute (heard : List (Out Publisher)) : ∀ v : Server,
    m.Mute v (heard.foldl System.hears v) := by
  induction heard with
  | nil => exact fun v => rfl
  | cons o heard ih =>
      intro v
      refine (ih _).trans ?_
      cases o with
      | spaceUpdate uuid update => exact onSpaceUpdate_mute v uuid update
      | _ => rfl

theorem onSpacePrepared_mute (v : Server) (session : SessionId) (uuid : Uuid)
    (clientSideSpace : ClientSideSpace) (caps : Json) :
    m.Mute v (v.onSpacePrepared session uuid clientSideSpace caps) := by
  rw [Server.onSpacePrepared_eq]
  refine (setPhase_mute _ session _).trans ?_
  split
  · rfl
  · exact Mute.of_sessions
      (Server.mirror_sessions uuid clientSideSpace caps v).1

theorem onMemberPrepared_mute (v : Server) (session : SessionId) (uuid : Uuid)
    (data : MemberData) (state : MemberState) (id : MemberId) :
    m.Mute v (v.onMemberPrepared session uuid data state id) := by
  unfold Server.onMemberPrepared
  dsimp only
  refine (setPhase_mute _ session _).trans ?_
  split
  · rfl
  · split
    · rfl
    · exact (broadcast_mute _ _ rfl).trans (Mute.of_sessions rfl)

/-- Deleting a member acks no message. -/
theorem onMemberDeleted_mute (v : Server) (serverId : ServerId)
    (memberId : MemberId) :
    m.Mute v (v.onMemberDeleted serverId memberId).1 := by
  cases href : v.members.get? memberId with
  | none =>
      unfold Server.onMemberDeleted
      rw [href]
      rfl
  | some ref =>
      rw [Server.onMemberDeleted_eq serverId href]
      exact (broadcast_mute _ _ rfl).trans
        (Mute.of_sessions (v.removeMember_eq memberId).1)

/-- Nor does a rejection. -/
theorem reject_mute (v : Server) (session : SessionId) (error : String) :
    m.Mute v (v.reject session error) := by
  refine modify_mute v session fun x => ?_
  split
  · rfl
  · rfl
  · rfl

end Mute

/-! ## §3. What the servers have acked. -/

section Acks

variable {servers : JsMap ServerId Server} {S : ServerId}

/-- What acks nothing leaves the count alone. -/
theorem acks_modify {f : Server → Server} (hf : ∀ v, m.Mute v (f v)) :
    m.acks (servers.modify S f) = m.acks servers := by
  unfold acks
  rw [JsMap.get?_modify]
  split
  · rename_i heq
    rw [heq]
    cases servers.get? S with
    | none => rfl
    | some v => exact hf v
  · rfl

/-- Announcements ack nothing. -/
theorem acks_announce (heard : List (Out Publisher)) :
    m.acks (System.announce servers heard) = m.acks servers := by
  unfold acks System.announce
  rw [JsMap.get?_mapVal]
  cases servers.get? m.serverId with
  | none => rfl
  | some v => exact hears_mute heard v

theorem acks_set {v : Server} (v' : Server) (hv : servers.get? S = some v)
    {n : Nat} (h : S = m.serverId →
      (v'.emittedOn m.session).countP m.ackedBy
        ≤ (v.emittedOn m.session).countP m.ackedBy + n) :
    m.acks (servers.set S v') ≤ m.acks servers + n := by
  unfold acks
  rw [JsMap.get?_set]
  split
  · rename_i heq
    rw [heq, hv]
    exact h heq.symm
  · exact Nat.le_add_right _ n

/-- Emitting the ack of a message adds one to its count. -/
theorem emit_acks (v : Server) (session : SessionId)
    (e : ServerToClientEvent) :
    ((v.emit session e).emittedOn m.session).countP m.ackedBy
      ≤ (v.emittedOn m.session).countP m.ackedBy
        + if m.session = session ∧ m.ackedBy e then 1 else 0 := by
  unfold Server.emittedOn
  rw [Server.emit_get]
  cases v.sessions.get? m.session with
  | none => exact Nat.zero_le _
  | some x =>
      show List.countP m.ackedBy (x.emitted ++ _) ≤ _
      rw [List.countP_append]
      refine Nat.add_le_add_left ?_ _
      by_cases heq : m.session = session
      · simp only [heq, if_true, true_and, List.countP_singleton]
        exact Nat.le_refl _
      · simp [heq]

/-- An event adds one to the count of its own message, at most. -/
theorem acks_emit (session : SessionId) (e : ServerToClientEvent) :
    m.acks (servers.modify S fun v => v.emit session e) ≤ m.acks servers
      + if S = m.serverId ∧ m.session = session ∧ m.ackedBy e then 1
        else 0 := by
  unfold acks
  rw [JsMap.get?_modify]
  split
  · rename_i heq
    rw [heq]
    cases servers.get? S with
    | none => exact Nat.zero_le _
    | some v =>
        simp only [Option.map_some, Option.getD_some, true_and]
        exact emit_acks v session e
  · exact Nat.le_add_right _ _

end Acks

/-! ## §4. What the workers owe. -/

section Owed

variable {c c' : Coord Publisher} {b : Request}

theorem owed_of_eq (h : c'.updateRequests = c.updateRequests) :
    m.owed c' = m.owed c := by
  unfold owed
  rw [h]

/-- When a worker has answered, one ack less is owed. -/
theorem owed_answered {n : Nat} {r : UpdateRequest Publisher}
    (hr : c.updateRequests.get? n = some r)
    (h : c'.updateRequests = c.updateRequests.delete n) :
    m.owed c' + (if m.forwardedBy r.cb then 1 else 0) = m.owed c := by
  have hp := (JsMap.perm_entries_delete hr).countP_eq
    fun e => m.forwardedBy e.2.cb
  rw [List.countP_cons] at hp
  unfold owed
  rw [h]
  exact hp

/-- **A stretch owes what it owed**, and the message that it publishes. -/
theorem owed_act (hwf : CoordWF c) (hpromise : PromiseWF c)
    (ha : c.act b = some c') :
    m.owed c' ≤ m.owed c + if m.publishedBy b then 1 else 0 := by
  cases updates_stretch (act_stretch hwf.router hwf.member hwf.transport ha)
    with
  | same hr _ =>
      rw [owed_of_eq hr]
      exact Nat.le_add_right _ _
  | answered hid hr _ _ =>
      have hless := owed_answered (m := m) hid hr
      omega
  | @published uuid update cb t T u _ _ _ _ =>
      have hnew : c.updateRequests.get? c.updateIdGen = none := by
        by_contra hne
        obtain ⟨r, hr⟩ := Option.ne_none_iff_exists'.mp hne
        exact Nat.lt_irrefl _ (hpromise.updates _ r hr)
      have hentries := JsMap.entries_set_of_get?_eq_none
        (⟨t, u, uuid, update.memberId, cb⟩ : UpdateRequest Publisher) hnew
      show (c.updateRequests.set c.updateIdGen _).entries.countP _ ≤ _
      rw [hentries, List.countP_append, List.countP_singleton]
      exact Nat.le_refl _

end Owed

/-! ## §5. One move, one server function. -/

section Moves

open Twolk.Signaling.System

variable {G : Guard System SystemAction (Out Publisher)} {s s' : System}
  {b : Request} {reqs later : List Request}

/-- **A move acks what was owed, or nothing.** -/
theorem acks_move (hpoint : Point G s later) (hm : Move s b s' reqs)
    (ha : s.base.act b = some s'.coordinator) :
    m.acks s'.servers + m.owed s'.coordinator
      ≤ m.acks s.servers + m.owed s.coordinator
        + if m.publishedBy b then 1 else 0 := by
  have hpromise := promiseWF_reachable hpoint.reachable
  have howed : m.owed s'.coordinator ≤ m.owed s.coordinator
      + if m.publishedBy b then 1 else 0 :=
    owed_act (c := s.base) hpoint.baseWF
      ⟨hpromise.waiting, hpromise.updates⟩ ha
  -- the servers ack nothing
  have hquiet : m.acks s'.servers = m.acks s.servers →
      m.acks s'.servers + m.owed s'.coordinator
        ≤ m.acks s.servers + m.owed s.coordinator
          + if m.publishedBy b then 1 else 0 := by
    intro hacks
    omega
  cases hm with
  | quiet _ _ hv | asked _ _ _ _ hv | forwarded _ _ hv | unsubscribing _ hv
  | abandoned _ hv | updateNacked _ _ hv => exact hquiet (by rw [hv])
  | rejected _ _ hv =>
      refine hquiet ?_
      rw [hv]
      exact acks_modify fun v => reject_mute v _ _
  | removed _ _ _ hv =>
      refine hquiet ?_
      rw [hv]
      exact acks_modify fun v => onMemberDeleted_mute v _ _
  | subscribed _ _ _ _ hv =>
      refine hquiet ?_
      rw [hv]
      exact acks_modify fun v => onSpacePrepared_mute v _ _ _ _
  | unsubscribed _ _ hv =>
      refine hquiet ?_
      rw [hv]
      exact acks_modify fun v => Mute.of_sessions rfl
  | added _ _ _ _ hv =>
      refine hquiet ?_
      rw [hv]
      exact acks_modify fun v => onMemberPrepared_mute v _ _ _ _ _
  | announced _ _ _ hv =>
      refine hquiet ?_
      rw [hv]
      exact acks_announce _
  | @updated _ _ n r serverId session event cId resp heard hr hcb _ hturn hv =>
      -- the answer that was owed is emitted
      have hless : m.owed s'.coordinator
          + (if m.forwardedBy r.cb then 1 else 0) = m.owed s.coordinator :=
        owed_answered hr hturn.updates
      have hone : m.acks s'.servers ≤ m.acks s.servers
          + if m.forwardedBy r.cb then 1 else 0 := by
        rw [hv, acks_announce]
        cases he : event.ackEvent cId resp with
        | none => exact Nat.le_add_right _ _
        | some e =>
            refine (acks_emit session e).trans (Nat.add_le_add_left ?_ _)
            split
            · rename_i hacked
              obtain ⟨hS, hsession, hname⟩ := hacked
              have hself : m.forwardedBy r.cb = true := by
                rw [hcb]
                exact decide_eq_true
                  (eq_of_ackedBy (acked_ackEvent he) hS hsession hname)
              rw [if_pos hself]
            · exact Nat.zero_le _
      omega

/-- What a server function publishes of the message. -/
theorem publishedBy_call {serverId : ServerId} {v : Server}
    {a : SystemAction} {p : Server × Option Request}
    (hc : ServerCall serverId v a p) :
    p.2.toList.countP m.publishedBy ≤ if m.sentBy a then 1 else 0 := by
  obtain ⟨v', req⟩ := p
  cases req with
  | none => exact Nat.zero_le _
  | some b =>
      show List.countP m.publishedBy [b] ≤ _
      rw [List.countP_singleton]
      cases hc.requests with
      | forward event cId _ _ => exact Nat.le_refl _
      | subscribe | addMember | removeMember => exact Nat.zero_le _

/-- **A server function acks its own message**, or publishes it, or
neither. -/
theorem acks_called {serverId : ServerId} {v : Server} {a : SystemAction}
    {p : Server × Option Request} (hv : s.servers.get? serverId = some v)
    (hc : ServerCall serverId v a p) :
    m.acks (s.servers.set serverId p.1) + p.2.toList.countP m.publishedBy
      ≤ m.acks s.servers + if m.sentBy a then 1 else 0 := by
  have hpub := publishedBy_call (m := m) hc
  have hmute : (v.emittedOn m.session).countP m.ackedBy
        ≥ (p.1.emittedOn m.session).countP m.ackedBy →
      m.acks (s.servers.set serverId p.1) + p.2.toList.countP m.publishedBy
        ≤ m.acks s.servers + if m.sentBy a then 1 else 0 := by
    intro hle
    have hset := acks_set (m := m) (n := 0) p.1 hv fun _ => hle
    omega
  -- one event more, which is no ack
  have hone : ∀ {l : List ServerToClientEvent} {e : ServerToClientEvent},
      e.acked = none → ∃ l', l ++ [e] = l ++ l' ∧ ∀ e ∈ l', e.acked = none := by
    intro l e he
    refine ⟨[e], rfl, fun e' hin => ?_⟩
    rw [List.mem_singleton.mp hin, he]
  cases hc with
  | connect auth =>
      refine hmute ?_
      obtain ⟨result, table, heq, hget, -⟩ := v.start_eq serverId auth
      rw [heq]
      show (((table.get? m.session).map Session.emitted).getD []).countP _ ≤ _
      rw [hget]
      split
      · exact Nat.zero_le _
      · exact Nat.le_refl _
  | @resume session x _ hx hres =>
      refine hmute (Nat.le_of_eq ?_)
      cases Server.resumes_of_resume hx hres with
      | rejected _ hputs => exact Mute.of_puts hputs rfl hx (hone rfl)
      | spacePrepared _ _ hputs => exact Mute.of_puts hputs rfl hx (hone rfl)
      | spaceGone _ _ hputs => exact Mute.of_puts hputs rfl hx (hone rfl)
      | unmirrored _ _ hputs => exact Mute.of_puts hputs rfl hx (hone rfl)
      | joined _ _ hputs => exact Mute.of_puts hputs (by rfl) hx (hone rfl)
  | @close session x hx _ =>
      refine hmute (Nat.le_of_eq ?_)
      have hnil : ∃ l, x.emitted = x.emitted ++ l ∧ ∀ e ∈ l, e.acked = none :=
        ⟨[], (List.append_nil _).symm, fun _ he => absurd he List.not_mem_nil⟩
      cases hid : x.memberId with
      | none =>
          exact Mute.of_puts (Server.close_eq_none serverId hx hid).1 rfl hx
            hnil
      | some memberId =>
          exact Mute.of_puts (Server.close_eq_some serverId hx hid).1 (by rfl)
            hx hnil
  | @updateMemberState session x memberId newState cId hx _ _ =>
      -- the session acks at once
      refine acks_set _ hv fun hS => ?_
      have hmute : m.Mute v ((v.updateMember memberId newState).getD v) := by
        cases hu : v.updateMember memberId newState with
        | none => rfl
        | some v' => exact updateMember_mute hu
      have hemit := emit_acks (m := m)
        ((v.updateMember memberId newState).getD v) session
        (.updateMemberStateAck cId)
      rw [hmute] at hemit
      refine hemit.trans (Nat.add_le_add_left ?_ _)
      split
      · rename_i hacked
        obtain ⟨hsession, hname⟩ := hacked
        rw [if_pos]
        exact decide_eq_true (eq_of_ackedBy rfl hS hsession hname)
      · exact Nat.zero_le _
  | forward => exact hmute (Nat.le_refl _)

end Moves

/-! ## §6. Every run. -/

section Runs

open Twolk.Signaling.System

/-- Callbacks publish no message. -/
theorem publishedBy_unsubscribes {reqs : List Request}
    (h : ∀ b ∈ reqs, IsUnsubscribe b) : reqs.countP m.publishedBy = 0 := by
  refine List.countP_eq_zero.mpr fun b hb => ?_
  obtain ⟨serverId, uuid, rfl⟩ := h b hb
  exact Bool.false_ne_true

/-- What is acked, owed and about to be published. -/
def tally (m : Message) (s : System) (reqs : List Request) : Nat :=
  m.acks s.servers + m.owed s.coordinator + reqs.countP m.publishedBy

/-- Step `a` from `s`, and no other. -/
def onlyStep (s : System) (a : SystemAction) :
    Guard System SystemAction (Out Publisher) :=
  fun _ s₁ a₁ => s₁ = s ∧ a₁ = a

/-- **The parts of one step** `a` from `s`. -/
theorem closed (m : Message) (s : System) (a : SystemAction) :
    Closed (onlyStep s a) fun s₁ reqs =>
      Point anyStep s₁ reqs ∧
        m.tally s₁ reqs ≤ m.tally s [] + if m.sentBy a then 1 else 0 where
  linked h := h.1.linked
  reachable h := h.1.reachable
  flushed out h := ⟨h.1.flushed out, h.2⟩
  started := by
    intro _ s₁ serverId h _ hn
    refine ⟨h.1.started hn, Nat.le_trans ?_ h.2⟩
    have hacks : m.acks (s₁.servers.set serverId .initial)
        = m.acks s₁.servers := by
      unfold acks
      rw [JsMap.get?_set]
      split
      · rename_i heq
        rw [heq, hn]
        rfl
      · rfl
    unfold tally
    rw [hacks]
  called := by
    intro tr s₁ serverId v a₁ p h hg hv hc
    obtain ⟨rfl, rfl⟩ := hg
    have hany : anyStep tr s₁ a₁ := trivial
    refine ⟨h.1.called hany hv hc, ?_⟩
    have hcalled := acks_called (m := m) hv hc
    unfold tally
    rw [List.countP_nil]
    dsimp only
    omega
  published := by
    intro s₁ s' b reqs reqs' h hready hm ha
    refine ⟨h.1.published hready hm ha, ?_⟩
    have hmove := acks_move (m := m) h.1 hm ha
    have hnone := publishedBy_unsubscribes (m := m) hm.requests
    have hle := h.2
    unfold tally at hle ⊢
    rw [List.countP_cons] at hle
    rw [List.countP_append, hnone]
    omega
  coordinated := by
    intro tr s₁ s' b reqs h hg hready hm ha
    obtain ⟨rfl, rfl⟩ := hg
    have hany : anyStep tr s₁ (SystemAction.coordinator b) := trivial
    refine ⟨h.1.coordinated hany hready hm ha, ?_⟩
    have hmove := acks_move (m := m) h.1 hm ha
    have hnone := publishedBy_unsubscribes (m := m) hm.requests
    -- a step of the coordinator alone publishes no message
    have hb : m.publishedBy b = false := by
      cases hready with
      | coordinator hs =>
          unfold publishedBy
          cases hcb : b.callback with
          | none => rfl
          | some cb =>
              rw [external_of_ofServer hs hcb]
              rfl
    rw [hb, if_neg Bool.false_ne_true] at hmove
    unfold tally
    rw [List.countP_nil, hnone]
    omega

end Runs

end Message

/-- **No ack without a message, and no second one.**  However often the
channel has carried the ack of an event with some correlation id, its client
has sent that event with that id at least as often, and once more for each
answer that a worker owes. -/
theorem acks_add_owed_le {past : List (System × List SystemAction)}
    {s : System × List SystemAction} {tr : List (Out Publisher)}
    (h : machine.recorded.Run (Machine.unrecorded anyStep) past s tr)
    (m : Message) :
    m.acks s.1.servers + m.owed s.1.coordinator ≤ s.2.countP m.sentBy := by
  refine h.recorded_invariant (fun s log _ =>
    m.acks s.servers + m.owed s.coordinator ≤ log.countP m.sentBy)
    (fun s hs => ?_) fun s log tr a s' obs hr hI _ hs => ?_
  · obtain rfl : s = System.initial := hs
    exact Nat.le_refl 0
  · obtain ⟨past, tr', hrun⟩ := hr
    have hpoint : System.Point anyStep s [] := System.Run.point hrun
    have hself : Message.onlyStep s a tr s a := ⟨rfl, rfl⟩
    have hstep := ((Message.closed m s a).step
      ⟨hpoint, Nat.le_add_right _ _⟩ hself hs).2
    unfold Message.tally at hstep
    simp only [List.countP_nil, Nat.add_zero] at hstep
    rw [List.countP_append, List.countP_singleton]
    omega

section Acked

/-- The producer of the first member connects. -/
def connectFirst : Message := ⟨1, 0, .transportProducerConnect, "1"⟩

/-- The first member sends it twice, and the worker answers once. -/
def connectsTwice : List SystemAction := twoMembers ++
  [.forward 1 0 (.transportProducerConnect "dtls") "1",
   .forward 1 0 (.transportProducerConnect "dtls") "1",
   .coordinator (.updateAck 0 ⟨"", none, none, none⟩)]

/-- One is acked, the other one owed. -/
theorem acks_add_owed_le_connect : ∃ past s tr,
    machine.recorded.Run (Machine.unrecorded anyStep) past s tr ∧
    connectFirst.acks s.1.servers = 1 ∧
    connectFirst.owed s.1.coordinator = 1 ∧
    2 ≤ s.2.countP connectFirst.sentBy := by
  obtain ⟨past, s, tr, hr, hp⟩ := Machine.Run.exists_of_exec
    (M := machine.recorded) (G := Machine.unrecorded anyStep)
    (s := (System.initial, [])) (l := connectsTwice)
    (p := fun r => decide (connectFirst.acks r.2.1.1.servers = 1 ∧
      connectFirst.owed r.2.1.1.coordinator = 1)) ⟨rfl, rfl⟩ (by decide)
  obtain ⟨hacks, howed⟩ := of_decide_eq_true hp
  have hle := acks_add_owed_le hr connectFirst
  rw [hacks, howed] at hle
  exact ⟨past, s, tr, hr, hacks, howed, hle⟩

end Acked

end Twolk.Signaling

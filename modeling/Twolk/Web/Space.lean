/-
  Twolk.Web.Space
  ───────────────
  `space.ts` of the web client: the view of a space a client keeps from a
  snapshot (`handleSpaceInit`) and the events after it.

  User handlers and the snapshot cache are left out; they only read the
  view.  A transport is created once the factory is ready, so what is kept
  here is what the factory is asked for.

  Main results: `Shows w m space` says that the view of member `m` is the
  mirrored space without `m`; `Shows.memberJoin`, `Shows.memberLeave` and
  `Shows.memberStateUpdate` say that it follows the mirror.
-/
import Twolk.Signaling.Channels

namespace Twolk.Web

open Twolk.Lib Signaling

/-! ## §1. The view. -/

/-- A member as a client sees it. -/
structure Member where
  data : MemberData
  state : MemberState
  deriving DecidableEq, Repr

/-- What the transport factory is asked to create once it is ready. -/
inductive TransportRequest where
  | createProducer (options : Json)
  | createConsumer (options : Json) (memberId : MemberId)
  deriving DecidableEq, Repr

/-- `console.warn` in the branches that "should not happen". -/
inductive Warning where
  | memberJoin (memberId : MemberId)
  | memberLeave (memberId : MemberId)
  | memberStateUpdate (memberId : MemberId)
  | transportParams (memberId : MemberId)
  deriving DecidableEq, Repr

/-- A warning about a join, a leave or a state update. -/
def Warning.ofMember : Warning → Bool
  | .transportParams _ => false
  | _ => true

/-- The view the client keeps of its space. -/
structure Space where
  uuid : Option Uuid
  data : Option SpaceData
  producerMember : Member
  producerMemberId : Option MemberId
  consumerMembers : JsMap MemberId Member
  routerRtpCapabilities : Option Json
  spaceInitReceived : Bool
  transports : List TransportRequest
  warnings : List Warning

namespace Space

/-- `new Space(producerData, producerState, socket)`, connected for the
first time. -/
def initial (producerData : MemberData) (isMuted : Bool) : Space where
  uuid := none
  data := none
  producerMember := ⟨producerData, ⟨isMuted, false⟩⟩
  producerMemberId := none
  consumerMembers := ∅
  routerRtpCapabilities := none
  spaceInitReceived := false
  transports := []
  warnings := []

/-- `console.warn(..)`. -/
def warn (w : Space) (warning : Warning) : Space :=
  { w with warnings := w.warnings ++ [warning] }

/-- `handleMemberJoin`. -/
def handleMemberJoin (w : Space) (member : ClientSideMember) : Space :=
  if w.consumerMembers.has member.id ∨
      w.producerMemberId = some member.id then
    w.warn (.memberJoin member.id)
  else
    { w with
      consumerMembers := w.consumerMembers.set member.id
        ⟨member.data, member.state⟩ }

/-- `handleMemberLeave`. -/
def handleMemberLeave (w : Space) (memberId : MemberId) : Space :=
  if w.consumerMembers.has memberId then
    { w with consumerMembers := w.consumerMembers.delete memberId }
  else w.warn (.memberLeave memberId)

/-- `handleMemberStateUpdate`. -/
def handleMemberStateUpdate (w : Space) (memberId : MemberId)
    (newState : MemberState) : Space :=
  if w.producerMemberId = some memberId then
    { w with
      -- the own mute was applied when it was sent; only the other flag is
      -- taken
      producerMember :=
        { w.producerMember with
          state := w.producerMember.state.merge
            ⟨none, some newState.transportIsConnected⟩ } }
  -- the whole state of another member is replaced
  else if w.consumerMembers.has memberId then
    { w with
      consumerMembers := w.consumerMembers.modify memberId fun member =>
        { member with state := member.state.merge newState.toUpdate } }
  -- an update about somebody unknown warns
  else w.warn (.memberStateUpdate memberId)

/-- The `forEach` of `handleSpaceInit`. -/
def addInitial (receivingMemberId : MemberId) (w : Space)
    (member : ClientSideMember) : Space :=
  if member.id = receivingMemberId then
    { w with producerMember := ⟨member.data, member.state⟩ }
  else
    { w with
      consumerMembers := w.consumerMembers.set member.id
        ⟨member.data, member.state⟩ }

/-- `handleSpaceInit`. -/
def handleSpaceInit (w : Space) (receivingMemberId : MemberId)
    (routerRtpCapabilities : Json) (clientSideSpace : ClientSideSpace) :
    Space :=
  -- a second snapshot is ignored
  if w.spaceInitReceived then w
  else
    { clientSideSpace.members.foldl (addInitial receivingMemberId)
        { w with
          producerMemberId := some receivingMemberId
          uuid := some clientSideSpace.uuid
          data := some clientSideSpace.data } with
      spaceInitReceived := true
      routerRtpCapabilities := some routerRtpCapabilities }

/-- `handleTransportParams`. -/
def handleTransportParams (w : Space) (memberId : MemberId)
    (options : Json) : Space :=
  if w.producerMemberId = some memberId then
    { w with transports := w.transports ++ [.createProducer options] }
  else if w.consumerMembers.has memberId then
    { w with
      transports := w.transports ++ [.createConsumer options memberId] }
  else w.warn (.transportParams memberId)

/-- One event of the channel; the others are not for the space. -/
def receive (w : Space) : ServerToClientEvent → Space
  | .spaceInit receivingMemberId routerRtpCapabilities clientSideSpace =>
      w.handleSpaceInit receivingMemberId routerRtpCapabilities
        clientSideSpace
  | .memberJoin member => w.handleMemberJoin member
  | .memberLeave memberId => w.handleMemberLeave memberId
  | .memberStateUpdate memberId newState =>
      w.handleMemberStateUpdate memberId newState
  | .transportParams memberId options =>
      w.handleTransportParams memberId options
  | _ => w

/-- The events of the channel, in order. -/
def receiveAll (w : Space) (events : List ServerToClientEvent) : Space :=
  events.foldl receive w

/-! ## §2. The view follows the mirror. -/

/-- The view of member `m` is the mirrored space without `m`, and no
warning about a member was given. -/
structure Shows (w : Space) (m : MemberId) (space : Signaling.Space) :
    Prop where
  received : w.spaceInitReceived = true
  self : w.producerMemberId = some m
  members : ∀ id, w.consumerMembers.get? id = if id = m then none
    else (space.members.get? id).map fun member => ⟨member.data, member.state⟩
  quiet : ∀ warning ∈ w.warnings, warning.ofMember = false

variable {w : Space} {m : MemberId} {space : Signaling.Space}

theorem Shows.has_iff (h : Shows w m space) {id : MemberId} (hne : id ≠ m) :
    w.consumerMembers.has id = true ↔ id ∈ space.members.keys := by
  rw [JsMap.has_iff, h.members, if_neg hne, JsMap.mem_keys]
  cases space.members.get? id <;> simp

/-- A view that shows the space goes on to when a member joins. -/
theorem Shows.memberJoin (h : Shows w m space) (member : ClientSideMember)
    (hne : member.id ≠ m) (hn : member.id ∉ space.members.keys) :
    Shows (w.receive (.memberJoin member)) m
      { space with
        members := space.members.set member.id
          ⟨member.data, member.state⟩ } := by
  have hnot : ¬ (w.consumerMembers.has member.id = true ∨
      w.producerMemberId = some member.id) := by
    rintro (hhas | hself)
    · exact hn ((h.has_iff hne).mp hhas)
    · rw [h.self] at hself
      exact hne (Option.some.inj hself).symm
  unfold receive handleMemberJoin
  dsimp only
  rw [if_neg hnot]
  refine ⟨h.received, h.self, fun id => ?_, h.quiet⟩
  rw [JsMap.get?_set, JsMap.get?_set]
  by_cases heq : id = member.id
  · rw [if_pos heq, if_pos heq, heq, if_neg hne]
    rfl
  · rw [if_neg heq, if_neg heq, h.members]

/-- So it does when another member leaves. -/
theorem Shows.memberLeave (h : Shows w m space) {memberId : MemberId}
    (hne : memberId ≠ m) (hin : memberId ∈ space.members.keys) :
    Shows (w.receive (.memberLeave memberId)) m
      { space with members := space.members.delete memberId } := by
  have hhas := (h.has_iff hne).mpr hin
  unfold receive handleMemberLeave
  dsimp only
  rw [if_pos hhas]
  refine ⟨h.received, h.self, fun id => ?_, h.quiet⟩
  rw [JsMap.get?_delete, JsMap.get?_delete]
  by_cases heq : id = memberId
  · rw [if_pos heq, if_pos heq]
    split <;> rfl
  · rw [if_neg heq, if_neg heq, h.members]

/-- The state of a member changes; of `m` itself the view keeps no other
record. -/
theorem Shows.memberStateUpdate (h : Shows w m space) {memberId : MemberId}
    (hin : memberId ∈ space.members.keys) (newState : MemberState) :
    Shows (w.receive (.memberStateUpdate memberId newState)) m
      { space with
        members := space.members.modify memberId fun member =>
          { member with state := newState } } := by
  unfold receive handleMemberStateUpdate
  dsimp only
  by_cases heq : memberId = m
  · rw [heq, if_pos h.self]
    refine ⟨h.received, h.self, fun id => ?_, h.quiet⟩
    show w.consumerMembers.get? id = _
    rw [h.members]
    by_cases hid : id = m
    · rw [if_pos hid, if_pos hid]
    · rw [if_neg hid, if_neg hid, JsMap.get?_modify_of_ne _ _ hid]
  · have hself : w.producerMemberId ≠ some memberId := by
      rw [h.self]
      exact fun hs => heq (Option.some.inj hs).symm
    rw [if_neg hself, if_pos ((h.has_iff heq).mpr hin)]
    refine ⟨h.received, h.self, fun id => ?_, h.quiet⟩
    rw [JsMap.get?_modify, JsMap.get?_modify]
    by_cases hid : id = memberId
    · rw [if_pos hid, if_pos hid, hid, if_neg heq, h.members, if_neg heq,
        Option.map_map, Option.map_map]
      rfl
    · rw [if_neg hid, if_neg hid, h.members]

/-- Acknowledgements and transport parameters leave the members. -/
theorem Shows.transportParams (h : Shows w m space) (memberId : MemberId)
    (options : Json) :
    Shows (w.receive (.transportParams memberId options)) m space := by
  unfold receive handleTransportParams
  dsimp only
  split
  · exact ⟨h.received, h.self, h.members, h.quiet⟩
  · split
    · exact ⟨h.received, h.self, h.members, h.quiet⟩
    · refine ⟨h.received, h.self, h.members, fun warning hw => ?_⟩
      rcases List.mem_append.mp hw with hw | hw
      · exact h.quiet warning hw
      · rw [List.mem_singleton.mp hw]
        rfl

/-- An ack says nothing of the space. -/
theorem receive_ack {event : ServerToClientEvent} (he : event.kind = .ack) :
    w.receive event = w := by
  cases event <;> first | rfl | cases he

/-- The members of a snapshot, by induction on its entries. -/
theorem addInitial_spec : ∀ (l : List (MemberId × Signaling.Member))
    (w : Space), (l.map Prod.fst).Nodup →
    let w' := (l.map fun e => (⟨e.1, e.2.data, e.2.state⟩
      : ClientSideMember)).foldl (addInitial m) w
    w'.producerMemberId = w.producerMemberId ∧ w'.warnings = w.warnings ∧
      (∀ id member, (id, member) ∈ l → id ≠ m →
        w'.consumerMembers.get? id = some ⟨member.data, member.state⟩) ∧
      ∀ id, id = m ∨ id ∉ l.map Prod.fst →
        w'.consumerMembers.get? id = w.consumerMembers.get? id
  -- by induction on the members, the first of which is added first
  | [], w, _ => by
      refine ⟨rfl, rfl, fun _ _ hm => ?_, fun _ _ => rfl⟩
      exact absurd hm List.not_mem_nil
  | e :: l, w, hnodup => by
      rw [List.map_cons, List.nodup_cons] at hnodup
      obtain ⟨hid, hwarn, hin, hout⟩ := addInitial_spec l
        (addInitial m w ⟨e.1, e.2.data, e.2.state⟩) hnodup.2
      -- the first one is added, if it is not the client's own
      have hfirst : ∀ id, (addInitial m w
          ⟨e.1, e.2.data, e.2.state⟩).consumerMembers.get? id
            = if id = e.1 ∧ e.1 ≠ m then some ⟨e.2.data, e.2.state⟩
              else w.consumerMembers.get? id := by
        intro id
        unfold addInitial
        dsimp only
        by_cases hself : e.1 = m
        · rw [if_pos hself, if_neg fun hn => hn.2 hself]
        · rw [if_neg hself]
          dsimp only
          rw [JsMap.get?_set]
          by_cases heq : id = e.1
          · rw [if_pos heq, if_pos ⟨heq, hself⟩]
          · rw [if_neg heq, if_neg fun hn => heq hn.1]
      refine ⟨?_, ?_, fun id member hmem hne => ?_, fun id hn => ?_⟩
      · refine hid.trans ?_
        unfold addInitial
        split <;> rfl
      · refine hwarn.trans ?_
        unfold addInitial
        split <;> rfl
      -- a later member has another id, so the first one is not overwritten
      · rcases List.mem_cons.mp hmem with heq | hmem
        · subst heq
          refine (hout id (.inr hnodup.1)).trans ?_
          rw [hfirst, if_pos ⟨rfl, hne⟩]
        · exact hin id member hmem hne
      · have hrest : id = m ∨ id ∉ l.map Prod.fst :=
          hn.imp_right fun h hl => h (List.mem_cons_of_mem _ hl)
        refine (hout id hrest).trans ?_
        rw [hfirst, if_neg]
        rintro ⟨rfl, hself⟩
        rcases hn with hn | hn
        · exact hself hn
        · exact hn List.mem_cons_self

/-- A snapshot that is taken in shows the space. -/
theorem shows_init (hnot : w.spaceInitReceived = false)
    (hempty : ∀ id, w.consumerMembers.get? id = none)
    (hquiet : ∀ warning ∈ w.warnings, warning.ofMember = false)
    (m : MemberId) (caps : Json) (space : Signaling.Space) :
    Shows (w.receive (.spaceInit m caps (Server.getClientSideSpace space)))
      m space := by
  obtain ⟨hid, hwarn, hin, hout⟩ := addInitial_spec (m := m)
    space.members.entries
    { w with
      producerMemberId := some m
      uuid := some space.uuid
      data := some space.data } space.members.nodup_keys
  have heq : w.receive (.spaceInit m caps (Server.getClientSideSpace space))
      = { ((Server.getClientSideSpace space).members).foldl (addInitial m)
          { w with
            producerMemberId := some m
            uuid := some space.uuid
            data := some space.data } with
        spaceInitReceived := true
        routerRtpCapabilities := some caps } := by
    show (if w.spaceInitReceived = true then w else _) = _
    rw [if_neg (by rw [hnot]; exact Bool.false_ne_true)]
    rfl
  rw [heq]
  refine ⟨rfl, hid, fun id => ?_, fun warning hw => ?_⟩
  · by_cases hself : id = m
    · rw [if_pos hself]
      exact (hout id (.inl hself)).trans (hempty id)
    · rw [if_neg hself]
      cases hget : space.members.get? id with
      | some member => exact hin id member (JsMap.mem_entries.mpr hget) hself
      | none =>
          refine (hout id (.inr ?_)).trans (hempty id)
          exact JsMap.get?_eq_none_iff.mp hget
  · have hsame : _ = w.warnings := hwarn
    refine hquiet warning ?_
    rw [← hsame]
    exact hw

/-! ## §3. The producing member. -/

/-- The view with another producing member. -/
def withProducer (w : Space) (producerMember : Member) : Space :=
  { w with producerMember }

/-- Taking in a snapshot is the same whatever the client's own record is, up to
that record. -/
theorem foldl_addInitial_withProducer (l : List ClientSideMember) :
    ∀ (w : Space) (p : Member), ∃ p',
      l.foldl (addInitial m) (w.withProducer p)
        = (l.foldl (addInitial m) w).withProducer p' := by
  induction l with
  | nil => exact fun w p => ⟨p, rfl⟩
  | cons e l ih =>
      intro w p
      have hfirst : ∃ p', addInitial m (w.withProducer p) e
          = (addInitial m w e).withProducer p' := by
        unfold addInitial
        by_cases hself : e.id = m
        · rw [if_pos hself, if_pos hself]
          exact ⟨⟨e.data, e.state⟩, rfl⟩
        · rw [if_neg hself, if_neg hself]
          exact ⟨p, rfl⟩
      obtain ⟨p', hfirst⟩ := hfirst
      rw [List.foldl_cons, List.foldl_cons, hfirst]
      exact ih (addInitial m w e) p'

/-- **The producing member has no part in the rest of the view.** -/
theorem receive_withProducer (w : Space) (p : Member)
    (event : ServerToClientEvent) : ∃ p',
      (w.withProducer p).receive event
        = (w.receive event).withProducer p' := by
  -- by the event: it does not look at the own record
  cases event with
  | spaceInit id caps clientSideSpace =>
      unfold receive handleSpaceInit
      dsimp only
      by_cases hr : w.spaceInitReceived = true
      · have hr' : (w.withProducer p).spaceInitReceived = true := hr
        rw [if_pos hr, if_pos hr']
        exact ⟨p, rfl⟩
      · have hr' : ¬ (w.withProducer p).spaceInitReceived = true := hr
        rw [if_neg hr, if_neg hr']
        obtain ⟨p', h⟩ := foldl_addInitial_withProducer (m := id)
          clientSideSpace.members
          { w with
            producerMemberId := some id
            uuid := some clientSideSpace.uuid
            data := some clientSideSpace.data } p
        exact ⟨p', congrArg (fun w' : Space =>
          { w' with
            spaceInitReceived := true
            routerRtpCapabilities := some caps }) h⟩
  | memberJoin member =>
      unfold receive handleMemberJoin withProducer
      dsimp only
      split
      · exact ⟨p, rfl⟩
      · exact ⟨p, rfl⟩
  | memberLeave memberId =>
      unfold receive handleMemberLeave withProducer
      dsimp only
      split
      · exact ⟨p, rfl⟩
      · exact ⟨p, rfl⟩
  -- only a state update writes the own record
  | memberStateUpdate memberId newState =>
      unfold receive handleMemberStateUpdate withProducer
      dsimp only
      split
      · exact ⟨_, rfl⟩
      · split
        · exact ⟨p, rfl⟩
        · exact ⟨p, rfl⟩
  | transportParams memberId options =>
      unfold receive handleTransportParams withProducer
      dsimp only
      split
      · exact ⟨p, rfl⟩
      · split
        · exact ⟨p, rfl⟩
        · exact ⟨p, rfl⟩
  | _ => exact ⟨p, rfl⟩

/-- An event other than the first `spaceInit` leaves the flag alone. -/
theorem receive_isMuted (w : Space) {event : ServerToClientEvent}
    (h : w.spaceInitReceived = true ∨ event.kind ≠ .spaceInit) :
    (w.receive event).spaceInitReceived = w.spaceInitReceived ∧
      (w.receive event).producerMember.state.isMuted
        = w.producerMember.state.isMuted := by
  cases event with
  | spaceInit id caps clientSideSpace =>
      have hr : w.spaceInitReceived = true :=
        h.resolve_right fun hk => hk rfl
      unfold receive handleSpaceInit
      dsimp only
      rw [if_pos hr]
      exact ⟨rfl, rfl⟩
  | memberJoin member =>
      unfold receive handleMemberJoin
      dsimp only
      split
      · exact ⟨rfl, rfl⟩
      · exact ⟨rfl, rfl⟩
  | memberLeave memberId =>
      unfold receive handleMemberLeave
      dsimp only
      split
      · exact ⟨rfl, rfl⟩
      · exact ⟨rfl, rfl⟩
  | memberStateUpdate memberId newState =>
      unfold receive handleMemberStateUpdate
      dsimp only
      split
      · exact ⟨rfl, rfl⟩
      · split
        · exact ⟨rfl, rfl⟩
        · exact ⟨rfl, rfl⟩
  | transportParams memberId options =>
      unfold receive handleTransportParams
      dsimp only
      split
      · exact ⟨rfl, rfl⟩
      · split
        · exact ⟨rfl, rfl⟩
        · exact ⟨rfl, rfl⟩
  | _ => exact ⟨rfl, rfl⟩

/-- A client that has taken in a snapshot has received one. By induction on the
events. -/
theorem spaceInit_of_received (l : List ServerToClientEvent) :
    ∀ w : Space, (w.receiveAll l).spaceInitReceived = true →
      w.spaceInitReceived = true ∨ ∃ e ∈ l, e.kind = .spaceInit := by
  induction l with
  | nil => exact fun w h => .inl h
  | cons e l ih =>
      intro w h
      by_cases he : e.kind = .spaceInit
      · exact .inr ⟨e, List.mem_cons_self, he⟩
      · rcases ih (w.receive e) h with hr | ⟨e', he', hk⟩
        · rw [(w.receive_isMuted (.inr he)).1] at hr
          exact .inl hr
        · exact .inr ⟨e', List.mem_cons_of_mem e he', hk⟩

/-- The member of the snapshot that the client is, if it is in it. -/
theorem foldl_addInitial_producer (l : List ClientSideMember) :
    ∀ w : Space, (∃ member ∈ l, member.id = m) →
      ∃ member ∈ l, member.id = m ∧
        (l.foldl (addInitial m) w).producerMember
          = ⟨member.data, member.state⟩ := by
  induction l with
  | nil => exact fun w h => absurd h.choose_spec.1 List.not_mem_nil
  | cons e l ih =>
      intro w h
      rw [List.foldl_cons]
      by_cases hl : ∃ member ∈ l, member.id = m
      · obtain ⟨member, hm, hid, heq⟩ := ih (addInitial m w e) hl
        exact ⟨member, List.mem_cons_of_mem e hm, hid, heq⟩
      · -- the rest is about others
        have hrest : ∀ w : Space,
            (l.foldl (addInitial m) w).producerMember = w.producerMember := by
          clear ih h
          induction l with
          | nil => exact fun w => rfl
          | cons e' l ih' =>
              intro w
              have hne : e'.id ≠ m := fun h =>
                hl ⟨e', List.mem_cons_self, h⟩
              rw [List.foldl_cons, ih' fun ⟨a, ha, hid⟩ =>
                hl ⟨a, List.mem_cons_of_mem e' ha, hid⟩]
              unfold addInitial
              rw [if_neg hne]
        obtain ⟨member, hm, hid⟩ := h
        rcases List.mem_cons.mp hm with rfl | hm
        · refine ⟨member, List.mem_cons_self, hid, ?_⟩
          rw [hrest]
          unfold addInitial
          rw [if_pos hid]
        · exact absurd ⟨member, hm, hid⟩ hl

/-- **The first `spaceInit` overwrites the flag.** -/
theorem receive_spaceInit (w : Space) (hnew : w.spaceInitReceived = false)
    (id : MemberId) (caps : Json) (clientSideSpace : ClientSideSpace)
    (hin : ∃ member ∈ clientSideSpace.members, member.id = id) :
    ∃ member ∈ clientSideSpace.members, member.id = id ∧
      (w.receive (.spaceInit id caps
        clientSideSpace)).producerMember.state.isMuted
        = member.state.isMuted := by
  obtain ⟨member, hm, hid, heq⟩ := foldl_addInitial_producer (m := id)
    clientSideSpace.members
    { w with
      producerMemberId := some id
      uuid := some clientSideSpace.uuid
      data := some clientSideSpace.data } hin
  refine ⟨member, hm, hid, ?_⟩
  unfold receive handleSpaceInit
  dsimp only
  rw [if_neg (by rw [hnew]; exact Bool.false_ne_true)]
  show (clientSideSpace.members.foldl (addInitial id)
    _).producerMember.state.isMuted = _
  rw [heq]

/-! ## §4. Transport parameters of known members. -/

/-- `memberId` is the client's own or one it has been told of. -/
def Knows (w : Space) (memberId : MemberId) : Prop :=
  w.producerMemberId = some memberId ∨
    w.consumerMembers.has memberId = true

/-- The members of a snapshot cause no warning. -/
theorem foldl_addInitial_warnings (l : List ClientSideMember) :
    ∀ w : Space, (l.foldl (addInitial m) w).warnings = w.warnings := by
  induction l with
  | nil => exact fun w => rfl
  | cons e l ih =>
      intro w
      rw [List.foldl_cons, ih]
      unfold addInitial
      split
      · rfl
      · rfl

/-- A client warns of transport parameters only when it gets some for a
member that it does not know. -/
theorem receive_params_warning (w : Space) {event : ServerToClientEvent}
    (hknown : ∀ memberId options, event = .transportParams memberId options →
      w.Knows memberId) {m : MemberId}
    (h : .transportParams m ∈ (w.receive event).warnings) :
    .transportParams m ∈ w.warnings := by
  -- the other warnings are not of this kind
  have hwarn : ∀ {warning : Warning}, warning ≠ .transportParams m →
      .transportParams m ∈ (w.warn warning).warnings →
      .transportParams m ∈ w.warnings := by
    intro warning hne hin
    rcases List.mem_append.mp hin with hin | hin
    · exact hin
    · exact absurd (List.mem_singleton.mp hin).symm hne
  -- by the event: only `transportParams` warns so
  cases event with
  | spaceInit id caps clientSideSpace =>
      unfold receive handleSpaceInit at h
      dsimp only at h
      split at h
      · exact h
      · have h : .transportParams m ∈ (clientSideSpace.members.foldl
          (addInitial id) _).warnings := h
        rw [foldl_addInitial_warnings] at h
        exact h
  | memberJoin member =>
      unfold receive handleMemberJoin at h
      dsimp only at h
      split at h
      · exact hwarn (by simp) h
      · exact h
  | memberLeave memberId =>
      unfold receive handleMemberLeave at h
      dsimp only at h
      split at h
      · exact h
      · exact hwarn (by simp) h
  | memberStateUpdate memberId newState =>
      unfold receive handleMemberStateUpdate at h
      dsimp only at h
      split at h
      · exact h
      · split at h
        · exact h
        · exact hwarn (by simp) h
  -- its member is known, so it does not warn
  | transportParams memberId options =>
      have hk := hknown memberId options rfl
      unfold receive handleTransportParams at h
      dsimp only at h
      split at h
      · exact h
      · rename_i hne
        rw [if_pos (hk.resolve_left hne)] at h
        exact h
  | _ => exact h

/-- By induction on the events, the last one at a time. -/
theorem receiveAll_params_warning (w : Space) {m : MemberId}
    (l : List ServerToClientEvent)
    (hknown : ∀ i memberId options,
      l[i]? = some (.transportParams memberId options) →
      (w.receiveAll (l.take i)).Knows memberId)
    (h : .transportParams m ∈ (w.receiveAll l).warnings) :
    .transportParams m ∈ w.warnings := by
  induction l using List.reverseRecOn with
  | nil => exact h
  | append_singleton l e ih =>
      refine ih (fun i memberId options hi => ?_) ?_
      · have hlt := (List.getElem?_eq_some_iff.mp hi).1
        have hlast := hknown i memberId options
          (by rwa [List.getElem?_append_left hlt])
        rwa [List.take_append_of_le_length (Nat.le_of_lt hlt)] at hlast
      · have hall : (w.receiveAll (l ++ [e])) = (w.receiveAll l).receive e :=
          List.foldl_append
        rw [hall] at h
        refine receive_params_warning _ (fun memberId options he => ?_) h
        have hlast := hknown l.length memberId options (by simp [he])
        rwa [List.take_left] at hlast

end Space

end Twolk.Web

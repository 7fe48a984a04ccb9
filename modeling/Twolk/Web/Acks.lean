/-
  Twolk.Web.Acks
  ──────────────
  **REQUESTS AND THEIR ACKS.**

  `socket.ts`, and the six places of `signaling.socket.ts` and
  `transport.ts` that emit a request with a fresh `cId` and wait for the ack
  that carries it: a listener that removes itself (`onceWithCondition`)
  races with a timer.

  A request is the promise it returns, its timer and its listener; all three
  are named by the request's number.  socket.io calls a copy of the
  listeners of an event.  The listener clears the timer, but the timer does
  not remove the listener.

  Main result: `acks_correlated` — what each promise is settled with is read
  off what has happened since its request, and the listeners are those of
  the unsettled requests exactly when every request that timed out has been
  acked since.
-/
import Twolk.Signaling.Channels

namespace Twolk.Web.Acks

open Twolk.Lib Signaling

/-! ## §1. Acks. -/

/-- The events a request is answered with. -/
inductive AckEvent where
  | transportProducerConnectAck
  | transportProducerProduceAck
  | transportConsumerConnectAck
  | transportConsumerConsumeAck
  | transportConsumerResumeAck
  | updateMemberStateAck
  deriving DecidableEq, Repr

/-- The text of the error a timer rejects with. -/
def AckEvent.timeoutMessage : AckEvent → String
  | transportProducerConnectAck =>
      "timeout waiting for transportProducerConnectAck"
  | transportProducerProduceAck =>
      "timeout waiting for transportProducerProduceAck"
  | transportConsumerConnectAck =>
      "timeout waiting for transportConsumerConnectAck"
  | transportConsumerConsumeAck =>
      "timeout waiting for transportConsumerConsumeAck"
  | transportConsumerResumeAck =>
      "timeout waiting for transportConsumerResumeAck"
  | updateMemberStateAck => "timeout waiting for updateMemberStateAck"

/-- What a listener resolves its promise with. -/
inductive AckValue where
  | void
  /-- `{ id: producerId }`. -/
  | produced (id : String)
  /-- `{ id: consumerId, producerId, kind, rtpParameters }`. -/
  | consumed (resp : TransportUpdateAck)
  deriving DecidableEq, Repr

/-- An ack as the socket delivers it. -/
structure Ack where
  event : AckEvent
  cId : String
  value : AckValue
  deriving DecidableEq, Repr

/-- The ack an event of the channel is. -/
def ackOf : ServerToClientEvent → Option Ack
  | .transportProducerConnectAck cId =>
      some ⟨.transportProducerConnectAck, cId, .void⟩
  | .transportProducerProduceAck cId producerId =>
      some ⟨.transportProducerProduceAck, cId, .produced producerId⟩
  | .transportConsumerConnectAck cId =>
      some ⟨.transportConsumerConnectAck, cId, .void⟩
  | .transportConsumerConsumeAck cId resp =>
      some ⟨.transportConsumerConsumeAck, cId, .consumed resp⟩
  | .transportConsumerResumeAck cId =>
      some ⟨.transportConsumerResumeAck, cId, .void⟩
  | .updateMemberStateAck cId => some ⟨.updateMemberStateAck, cId, .void⟩
  -- the other events are no acks
  | _ => none

/-! ## §2. The socket. -/

/-- How a promise is settled. -/
inductive Outcome where
  | fulfilled (value : AckValue)
  | rejected (message : String)
  deriving DecidableEq, Repr

/-- A request that has been emitted. -/
structure Request where
  event : AckEvent
  cId : String
  /-- What the promise is settled with. -/
  outcome : Option Outcome
  /-- The timer of `setTimeout` is running. -/
  timer : Bool
  deriving DecidableEq, Repr

/-- `resolve(..)` or `reject(..)`: a settled promise stays as it is. -/
def Request.settle (r : Request) (outcome : Outcome) : Request :=
  { r with outcome := r.outcome.or (some outcome) }

/-- The socket of the client, as far as its requests go. -/
structure Socket where
  /-- The requests made so far; a request is named by its place. -/
  requests : List Request
  /-- `on(event, handler)`: the event, and the request of the handler. -/
  listeners : List (AckEvent × Nat)
  /-- The requests whose promise was settled, in order. -/
  settlements : List Nat

namespace Socket

/-- No request has been made. -/
def initial : Socket where
  requests := []
  listeners := []
  settlements := []

/-- `onceWithCondition(event, ackCId => ackCId === cId, ..)` and
`setTimeout`, after the request has been emitted. -/
def request (w : Socket) (event : AckEvent) (cId : String) : Socket :=
  { w with
    requests := w.requests ++ [⟨event, cId, none, true⟩]
    listeners := w.listeners ++ [(event, w.requests.length)] }

/-- `resolve(..)` or `reject(..)` of a request. -/
def settle (w : Socket) (i : Nat) (outcome : Outcome) : Socket :=
  { w with
    requests := w.requests.modify i (·.settle outcome)
    settlements :=
      if (w.requests[i]?.bind Request.outcome).isNone then
        w.settlements ++ [i]
      else w.settlements }

/-- The timer of a request is over, or `clearTimeout(timeout)`. -/
def stopTimer (w : Socket) (i : Nat) : Socket :=
  { w with requests := w.requests.modify i fun r => { r with timer := false } }

/-- `off(event, handler)`. -/
def off (w : Socket) (listener : AckEvent × Nat) : Socket :=
  { w with listeners := w.listeners.erase listener }

/-- The handler of `onceWithCondition` is called. -/
def handle (ack : Ack) (w : Socket) (listener : AckEvent × Nat) : Socket :=
  if w.requests[listener.2]?.map Request.cId = some ack.cId then
    ((w.off listener).settle listener.2 (.fulfilled ack.value)).stopTimer
      listener.2
  else w

/-- The socket delivers an ack to a copy of the listeners of its event. -/
def receive (w : Socket) (ack : Ack) : Socket :=
  (w.listeners.filter (·.1 = ack.event)).foldl (handle ack) w

/-- The timer of request `i` fires. -/
def timeout (w : Socket) (i : Nat) (r : Request) : Socket :=
  (w.stopTimer i).settle i (.rejected r.event.timeoutMessage)

end Socket

/-- What can happen next. -/
inductive Action where
  | request (event : AckEvent) (cId : String)
  | receive (event : ServerToClientEvent)
  | timeout (i : Nat)
  deriving DecidableEq

/-- A cleared timer does not fire. -/
def machine : Machine Socket Action Unit where
  init w := w = Socket.initial
  step w
    | .request event cId => some (w.request event cId, [])
    | .receive event =>
        -- an event that is no ack reaches no such listener
        match ackOf event with
        | none => some (w, [])
        | some ack => some (w.receive ack, [])
    | .timeout i =>
        match w.requests[i]? with
        | none => none
        -- a timer that was cleared does not fire
        | some r => if r.timer then some (w.timeout i r, []) else none

/-- A request has another `cId` than those outstanding. -/
def freshCId : Guard Socket Action Unit := fun _ w a =>
  match a with
  | .request _ cId => ∀ r ∈ w.requests, r.outcome = none → r.cId ≠ cId
  | _ => True

instance (tr : List Unit) (w : Socket) : ∀ a, Decidable (freshCId tr w a)
  | .request _ cId => inferInstanceAs
      (Decidable (∀ r ∈ w.requests, r.outcome = none → r.cId ≠ cId))
  | .receive _ | .timeout _ => .isTrue trivial

/-! ## §3. What has happened since a request. -/

/-- A request and the actions after it. -/
structure History where
  event : AckEvent
  cId : String
  since : List Action

/-- One more action has happened. -/
def History.after (h : History) (a : Action) : History :=
  { h with since := h.since ++ [a] }

/-- The histories after one more action. -/
def remember (hs : List History) (a : Action) : List History :=
  let hs := hs.map (·.after a)
  match a with
  | .request event cId => hs ++ [⟨event, cId, []⟩]
  | _ => hs

/-- The histories of the requests in a log. -/
def histories (log : List Action) : List History := log.foldl remember []

theorem histories_append (log : List Action) (a : Action) :
    histories (log ++ [a]) = remember (histories log) a := by
  unfold histories
  rw [List.foldl_append]
  rfl

namespace History

/-- An ack that is the request's own. -/
def own (h : History) (ack : Ack) : Bool :=
  h.event = ack.event && h.cId = ack.cId

/-- What action `a` settles request `i` with. -/
def settledBy (h : History) (i : Nat) : Action → Option Outcome
  | .request .. => none
  | .receive event => (ackOf event).bind fun ack =>
      if h.own ack then some (.fulfilled ack.value) else none
  | .timeout j =>
      if j = i then some (.rejected h.event.timeoutMessage) else none

/-- What the promise of request `i` is settled with: by its first own ack,
or its timer, whichever came first. -/
def outcome (h : History) (i : Nat) : Option Outcome :=
  h.since.findSome? (h.settledBy i)

/-- An own ack is among the actions. -/
def acked (h : History) : Bool :=
  h.since.any fun
    | .receive event => (ackOf event).any h.own
    | _ => false

/-- The request as the socket should know it. -/
def request (h : History) (i : Nat) : Request where
  event := h.event
  cId := h.cId
  outcome := h.outcome i
  timer := (h.outcome i).isNone

theorem settledBy_after (h : History) (i : Nat) (a : Action) :
    (h.after a).settledBy i = h.settledBy i := rfl

theorem outcome_after (h : History) (i : Nat) (a : Action) :
    (h.after a).outcome i = (h.outcome i).or (h.settledBy i a) := by
  unfold outcome
  rw [settledBy_after]
  show (h.since ++ [a]).findSome? (h.settledBy i) = _
  rw [List.findSome?_append, List.findSome?_singleton]

/-- A request is acked once its ack has been received. -/
theorem acked_after (h : History) (a : Action) :
    (h.after a).acked = (h.acked || match a with
      | .receive event => (ackOf event).any h.own
      | _ => false) := by
  unfold acked
  show (h.since ++ [a]).any _ = _
  rw [List.any_append, List.any_cons, List.any_nil, Bool.or_false]
  rfl

end History

/-! ## §4. Delivering an ack. -/

namespace Socket

/-- Each promise that is settled was settled once. -/
def SettledOnce (w : Socket) : Prop := ∀ i : Nat, w.settlements.count i
  = if (w.requests[i]?.bind Request.outcome).isSome then 1 else 0

/-- A request is settled and its timer stopped. -/
def answered (r : Request) (outcome : Outcome) : Request :=
  { r.settle outcome with timer := false }

theorem settle_requests (w : Socket) (i j : Nat) (outcome : Outcome) :
    (w.settle i outcome).requests[j]? = w.requests[j]?.map fun r =>
      if i = j then r.settle outcome else r :=
  List.getElem?_modify _ i w.requests j

theorem stopTimer_requests (w : Socket) (i j : Nat) :
    (w.stopTimer i).requests[j]? = w.requests[j]?.map fun r =>
      if i = j then { r with timer := false } else r :=
  List.getElem?_modify _ i w.requests j

theorem SettledOnce.stopTimer {w : Socket} (h : w.SettledOnce) (i : Nat) :
    (w.stopTimer i).SettledOnce := by
  intro j
  rw [stopTimer_requests]
  show w.settlements.count j = _
  rw [h j]
  cases w.requests[j]? with
  | none => rfl
  | some r =>
      have hsame : Request.outcome (if i = j then { r with timer := false }
          else r) = r.outcome := by
        split <;> rfl
      rw [Option.map_some, Option.bind_some, Option.bind_some, hsame]

theorem SettledOnce.settle {w : Socket} (h : w.SettledOnce) {i : Nat}
    (hi : i < w.requests.length) (outcome : Outcome) :
    (w.settle i outcome).SettledOnce := by
  intro j
  rw [settle_requests]
  have hj := h j
  show (if _ then w.settlements ++ [i] else w.settlements).count j = _
  by_cases heq : i = j
  · subst heq
    rw [List.getElem?_eq_getElem hi] at hj ⊢
    rw [Option.bind_some] at hj
    cases hout : w.requests[i].outcome with
    | none =>
        rw [hout] at hj
        simp [Request.settle, hout, hj]
    | some o =>
        rw [hout] at hj
        simp [Request.settle, hout, hj]
  · have hsame : (w.requests[j]?.map fun r =>
        if i = j then r.settle outcome else r) = w.requests[j]? := by
      cases w.requests[j]? with
      | none => rfl
      | some r => rw [Option.map_some, if_neg heq]
    rw [hsame]
    split
    · rw [List.count_append, hj, List.count_singleton]
      simp [heq]
    · exact hj

variable {ack : Ack} {w : Socket} {p : AckEvent × Nat}

/-- The request of the listener has the ack's `cId`. -/
def Matches (ack : Ack) (w : Socket) (p : AckEvent × Nat) : Prop :=
  w.requests[p.2]?.map Request.cId = some ack.cId

theorem handle_requests (ack : Ack) (w : Socket) (p : AckEvent × Nat)
    (j : Nat) : (handle ack w p).requests[j]? = w.requests[j]?.map fun r =>
      if p.2 = j ∧ r.cId = ack.cId then answered r (.fulfilled ack.value)
      else r := by
  unfold handle
  by_cases hm : w.requests[p.2]?.map Request.cId = some ack.cId
  · rw [if_pos hm, stopTimer_requests, settle_requests, Option.map_map]
    show (w.requests[j]?).map _ = _
    by_cases heq : p.2 = j
    · rw [heq] at hm
      cases hr : w.requests[j]? with
      | none => rfl
      | some r =>
          rw [hr, Option.map_some] at hm
          have hc := Option.some.inj hm
          simp [heq, hc, answered]
    · cases w.requests[j]? <;> simp [heq]
  · rw [if_neg hm]
    cases hr : w.requests[j]? with
    | none => rfl
    | some r =>
        rw [Option.map_some, if_neg]
        intro ⟨heq, hc⟩
        refine hm ?_
        rw [heq, hr, Option.map_some, hc]

/-- One listener changes nothing for the others. -/
theorem matches_handle {q : AckEvent × Nat} :
    Matches ack (handle ack w p) q ↔ Matches ack w q := by
  unfold Matches
  rw [handle_requests]
  cases w.requests[q.2]? with
  | none => rfl
  | some r =>
      rw [Option.map_some, Option.map_some, Option.map_some]
      split <;> rfl

theorem handle_nodup (h : w.listeners.Nodup) :
    (handle ack w p).listeners.Nodup := by
  unfold handle
  split
  · exact h.erase p
  · exact h

/-- A listener goes off with its own ack only. -/
theorem mem_handle (h : w.listeners.Nodup) (q : AckEvent × Nat) :
    q ∈ (handle ack w p).listeners ↔
      q ∈ w.listeners ∧ ¬ (q = p ∧ Matches ack w p) := by
  unfold handle Matches
  split
  · rename_i hm
    show q ∈ w.listeners.erase p ↔ _
    rw [h.mem_erase_iff, and_comm]
    simp [hm]
  · rename_i hm
    simp [hm]

/-- A promise is settled once, however often its ack arrives. -/
theorem handle_settledOnce (h : w.SettledOnce) :
    (handle ack w p).SettledOnce := by
  unfold handle
  split
  · rename_i hm
    have hlt : p.2 < w.requests.length := by
      by_contra hge
      rw [List.getElem?_eq_none (by omega)] at hm
      cases hm
    exact SettledOnce.stopTimer (SettledOnce.settle (w := w.off p) h hlt _) _
  · exact h

/-- What a round of handlers does: the requests among those listening that
have the ack's `cId` are answered, and their listeners gone.  By induction
on the copy of the listeners. -/
theorem foldl_handle (ack : Ack) : ∀ (l : List (AckEvent × Nat))
    (w : Socket), l.Nodup → (∀ p ∈ l, p.1 = ack.event) →
    w.listeners.Nodup → w.SettledOnce →
    let w' := l.foldl (handle ack) w
    (∀ i : Nat, w'.requests[i]? = w.requests[i]?.map fun r =>
      if (ack.event, i) ∈ l ∧ r.cId = ack.cId then
        answered r (.fulfilled ack.value)
      else r) ∧
    w'.listeners.Nodup ∧ w'.SettledOnce ∧
    ∀ q, q ∈ w'.listeners ↔
      q ∈ w.listeners ∧ ¬ (q ∈ l ∧ Matches ack w q)
  -- by induction on the listeners that are called
  | [], w, _, _, hn, hs => by
      refine ⟨fun i => ?_, hn, hs, fun p => ?_⟩
      · simp
      · simp
  | p :: l, w, hl, hev, hn, hs => by
      have hpl := (List.nodup_cons.mp hl).1
      have hp : p = (ack.event, p.2) :=
        Prod.ext (hev p List.mem_cons_self) rfl
      -- the first one is called, then the rest on what it leaves
      obtain ⟨hreq, hnodup, hset, hmem⟩ := foldl_handle ack l
        (handle ack w p) (List.nodup_cons.mp hl).2
        (fun q hq => hev q (List.mem_cons_of_mem p hq)) (handle_nodup hn)
        (handle_settledOnce hs)
      refine ⟨fun i => ?_, hnodup, hset, fun q => ?_⟩
      · rw [List.foldl_cons, hreq, handle_requests, Option.map_map]
        cases w.requests[i]? with
        | none => rfl
        | some r =>
            simp only [Option.map_some, Function.comp]
            -- a request whose id is not the ack's is not answered at all
            by_cases hc : r.cId = ack.cId
            · by_cases hi : p.2 = i
              · -- the listener called first; it is not called again
                have hpi : (ack.event, i) = p := by rw [hp, ← hi]
                simp [hc, hi, hpi, hpl]
              · have hne : (ack.event, i) ≠ p := by
                  intro heq
                  exact hi (by rw [← heq])
                simp [hc, hi, hne]
            · simp [hc]
      -- a listener stays where neither the first call nor the rest takes it
      -- off
      · rw [List.foldl_cons, hmem, mem_handle hn, matches_handle,
          List.mem_cons]
        constructor
        · intro ⟨⟨hq, hfirst⟩, hrest⟩
          refine ⟨hq, fun ⟨hor, hm⟩ => ?_⟩
          rcases hor with rfl | hin
          · exact hfirst ⟨rfl, hm⟩
          · exact hrest ⟨hin, hm⟩
        · intro ⟨hq, hno⟩
          refine ⟨⟨hq, fun ⟨heq, hm⟩ => hno ⟨.inl heq, ?_⟩⟩,
            fun ⟨hin, hm⟩ => hno ⟨.inr hin, hm⟩⟩
          rw [heq]
          exact hm

end Socket

/-! ## §5. The socket follows the histories. -/

/-- The requests are as their histories say, and each has its listener until
its ack arrives. -/
structure Follows (w : Socket) (log : List Action) : Prop where
  requests : ∀ i : Nat, w.requests[i]?
    = (histories log)[i]?.map fun h => h.request i
  nodup : w.listeners.Nodup
  listeners : ∀ (event : AckEvent) (i : Nat), (event, i) ∈ w.listeners ↔
    ∃ h, (histories log)[i]? = some h ∧ h.event = event ∧ h.acked = false
  settled : w.SettledOnce

variable {w w' : Socket} {log : List Action} {a : Action}

theorem Follows.length_eq (hf : Follows w log) :
    (histories log).length = w.requests.length := by
  have hiff : ∀ i : Nat, w.requests.length ≤ i ↔
      (histories log).length ≤ i := by
    intro i
    rw [← List.getElem?_eq_none_iff, ← List.getElem?_eq_none_iff,
      hf.requests i, Option.map_eq_none_iff]
  have h₁ := hiff (histories log).length
  have h₂ := hiff w.requests.length
  omega

/-- Where no request is made the histories just go on. -/
theorem remember_map {hs : List History} (i : Nat)
    (ha : ∀ event cId, a ≠ .request event cId) :
    (remember hs a)[i]? = hs[i]?.map (·.after a) := by
  unfold remember
  dsimp only
  split
  · rename_i event cId
    exact absurd rfl (ha event cId)
  · exact List.getElem?_map

/-- An action that is neither an own ack nor the timer. -/
theorem History.after_same (h : History) (i : Nat)
    (hs : h.settledBy i a = none) : (h.after a).request i = h.request i := by
  unfold request
  rw [outcome_after, hs, Option.or_none]
  rfl

/-- A request that has been acked is settled. -/
theorem History.outcome_of_acked {h : History} (ha : h.acked = true)
    (i : Nat) : (h.outcome i).isSome := by
  obtain ⟨a, hmem, hown⟩ := List.any_eq_true.mp ha
  unfold outcome
  rw [List.findSome?_isSome_iff]
  refine ⟨a, hmem, ?_⟩
  cases a with
  | request | timeout => cases hown
  | receive event =>
      cases hack : ackOf event with
      | none => simp [hack] at hown
      | some ack =>
          have hown : h.own ack = true := by simpa [hack] using hown
          simp [settledBy, hack, hown]

/-- An ack answers a request that listens for it; any other keeps what it
has, also when the ack is its own. -/
theorem History.receive_request (h : History) (i : Nat)
    {event : ServerToClientEvent} {ack : Ack} (hack : ackOf event = some ack) :
    (h.after (.receive event)).request i
      = if (h.event = ack.event ∧ h.acked = false) ∧ h.cId = ack.cId then
          Socket.answered (h.request i) (.fulfilled ack.value)
        else h.request i := by
  have hby : h.settledBy i (.receive event)
      = if h.own ack then some (.fulfilled ack.value) else none := by
    simp [settledBy, hack]
  by_cases hown : h.event = ack.event ∧ h.cId = ack.cId
  · have hown' : h.own ack = true := by simp [own, hown]
    rw [if_pos hown'] at hby
    cases hacked : h.acked with
    | true =>
        -- the listener has gone, and the promise is settled
        rw [if_neg fun hc => Bool.noConfusion hc.1.2]
        obtain ⟨o, ho⟩ := Option.isSome_iff_exists.mp
          (outcome_of_acked hacked i)
        unfold request
        rw [outcome_after, ho]
        rfl
    | false =>
        rw [if_pos ⟨⟨hown.1, rfl⟩, hown.2⟩]
        unfold request
        rw [outcome_after, hby]
        show Request.mk _ _ ((h.outcome i).or _) _ = Request.mk _ _ _ false
        cases h.outcome i <;> rfl
  · have hown' : h.own ack = false := by
      simpa [own] using hown
    rw [if_neg fun hc => hown ⟨hc.1.1, hc.2⟩]
    exact h.after_same i (by rw [hby, hown']; rfl)

/-- The element at the end, and the others as they were. -/
theorem getElem?_concat {α : Type} (l : List α) (a : α) (i : Nat) :
    (l ++ [a])[i]? = if i = l.length then some a else l[i]? := by
  by_cases h : i = l.length
  · rw [if_pos h, h, List.getElem?_concat_length]
  · rw [if_neg h, List.getElem?_append]
    split
    · rfl
    · rw [List.getElem?_eq_none (by simp; omega),
        List.getElem?_eq_none (by omega)]

/-- A new request follows its history, which is empty. -/
theorem Follows.request (hf : Follows w log) (event : AckEvent)
    (cId : String) :
    Follows (w.request event cId) (log ++ [.request event cId]) := by
  have hlen := hf.length_eq
  have hnone : w.requests[w.requests.length]? = none :=
    List.getElem?_eq_none (Nat.le_refl _)
  -- the histories get a new one at the end, and the requests a new request
  have hnew : ∀ i : Nat, (histories (log ++ [.request event cId]))[i]?
      = if i = w.requests.length then some ⟨event, cId, []⟩
        else (histories log)[i]?.map (·.after (.request event cId)) := by
    intro i
    rw [histories_append]
    show ((histories log).map _ ++ [_])[i]? = _
    rw [getElem?_concat, List.length_map, hlen, List.getElem?_map]
  have hsame : ∀ i : Nat, (w.request event cId).requests[i]?
      = if i = w.requests.length then some ⟨event, cId, none, true⟩
        else w.requests[i]? :=
    getElem?_concat w.requests _
  -- nobody listens under the number of the new request yet
  have hfresh : ∀ e, (e, w.requests.length) ∉ w.listeners := by
    intro e hin
    obtain ⟨h, hh, -⟩ := (hf.listeners e _).mp hin
    rw [List.getElem?_eq_none (by omega)] at hh
    cases hh
  refine ⟨fun i => ?_, ?_, fun e i => ?_, fun i => ?_⟩
  · rw [hsame, hnew]
    split
    · rfl
    · rw [hf.requests, Option.map_map]
      cases (histories log)[i]? with
      | none => rfl
      | some h => exact congrArg some (h.after_same i rfl).symm
  -- its listener is another one than those from before
  · exact List.nodup_append.mpr ⟨hf.nodup, List.nodup_singleton _,
      fun p hp q hq heq => hfresh event
        (by rw [← List.mem_singleton.mp hq, ← heq]; exact hp)⟩
  · show (e, i) ∈ w.listeners ++ [_] ↔ _
    rw [List.mem_append, List.mem_singleton, hnew, hf.listeners]
    by_cases heq : i = w.requests.length
    · rw [if_pos heq, heq, List.getElem?_eq_none (by omega)]
      constructor
      · intro hor
        rcases hor with ⟨_, hnot, _⟩ | hpair
        · cases hnot
        · cases hpair
          exact ⟨_, rfl, rfl, rfl⟩
      · intro ⟨h, hh, hev, _⟩
        cases hh
        exact .inr (by rw [← hev])
    · rw [if_neg heq]
      constructor
      · intro hor
        rcases hor with ⟨h, hh, hev, hack⟩ | hpair
        · refine ⟨h.after (.request event cId), by rw [hh]; rfl, hev, ?_⟩
          rw [History.acked_after, hack]
          rfl
        · cases hpair
          exact absurd rfl heq
      · intro ⟨h', hh', hev, hack⟩
        obtain ⟨h, hh, rfl⟩ := Option.map_eq_some_iff.mp hh'
        refine .inl ⟨h, hh, hev, ?_⟩
        rw [History.acked_after, Bool.or_false] at hack
        exact hack
  · rw [hsame]
    show w.settlements.count i = _
    rw [hf.settled i]
    by_cases heq : i = w.requests.length
    · rw [if_pos heq, heq, hnone]
      rfl
    · rw [if_neg heq]

/-- Nothing is acked: the same requests have a listener. -/
theorem listens_after (ha : ∀ event cId, a ≠ .request event cId)
    (hack : ∀ h : History, (h.after a).acked = h.acked) (event : AckEvent)
    (i : Nat) :
    (∃ h, (histories log)[i]? = some h ∧ h.event = event ∧
        h.acked = false) ↔
      ∃ h, (histories (log ++ [a]))[i]? = some h ∧ h.event = event ∧
        h.acked = false := by
  rw [histories_append, remember_map i ha]
  constructor
  · intro ⟨h, hh, hev, hacked⟩
    exact ⟨h.after a, by rw [hh]; rfl, hev, (hack h).trans hacked⟩
  · intro ⟨h', hh', hev, hacked⟩
    obtain ⟨h, hh, rfl⟩ := Option.map_eq_some_iff.mp hh'
    exact ⟨h, hh, hev, (hack h).symm.trans hacked⟩

/-- An action that reaches no listener changes no request. -/
theorem Follows.quiet (hf : Follows w log)
    (ha : ∀ event cId, a ≠ .request event cId)
    (hnone : ∀ (h : History) (i : Nat), h.settledBy i a = none)
    (hack : ∀ h : History, (h.after a).acked = h.acked) :
    Follows w (log ++ [a]) := by
  refine ⟨fun i => ?_, hf.nodup, fun e i => ?_, hf.settled⟩
  · rw [histories_append, remember_map i ha, hf.requests, Option.map_map]
    cases (histories log)[i]? with
    | none => rfl
    | some h => exact congrArg some (h.after_same i (hnone h i)).symm
  · exact (hf.listeners e i).trans (listens_after ha hack e i)

/-- An ack that is delivered changes the requests as their histories say. -/
theorem Follows.receive (hf : Follows w log) {event : ServerToClientEvent}
    {ack : Ack} (hack : ackOf event = some ack) :
    Follows (w.receive ack) (log ++ [.receive event]) := by
  have ha : ∀ e cId, Action.receive event ≠ .request e cId := by
    intro e cId h
    cases h
  -- the listeners of the event are called on a copy of their list
  obtain ⟨hreq, hnodup, hset, hmem⟩ := Socket.foldl_handle ack
    (w.listeners.filter (·.1 = ack.event)) w (hf.nodup.filter _)
    (fun p hp => of_decide_eq_true (List.mem_filter.mp hp).2) hf.nodup
    hf.settled
  -- these are the requests of the event that were not acked before
  have hlistens : ∀ (i : Nat) (h : History),
      (histories log)[i]? = some h →
      ((ack.event, i) ∈ w.listeners.filter (·.1 = ack.event) ↔
        h.event = ack.event ∧ h.acked = false) := by
    intro i h hh
    rw [List.mem_filter, hf.listeners, hh]
    simp
  refine ⟨fun i => ?_, hnodup, fun e i => ?_, hset⟩
  -- who is called and has the id of the ack is answered
  · rw [histories_append, remember_map i ha]
    refine (hreq i).trans ?_
    rw [hf.requests, Option.map_map, Option.map_map]
    cases hh : (histories log)[i]? with
    | none => rfl
    | some h =>
        refine congrArg some ((if_congr ?_ rfl rfl).trans
          (h.receive_request i hack).symm)
        exact and_congr_left fun _ => hlistens i h hh
  · rw [histories_append, remember_map i ha]
    refine (hmem (e, i)).trans ?_
    rw [hf.listeners]
    have hafter : ∀ h : History, (h.after (.receive event)).acked
        = (h.acked || h.own ack) := by
      intro h
      rw [History.acked_after]
      simp [hack]
    -- a listener stays where its history has no own ack yet
    constructor
    · intro ⟨⟨h, hh, hev, hacked⟩, hno⟩
      refine ⟨h.after (.receive event), by rw [hh]; rfl, hev, ?_⟩
      rw [hafter, hacked, Bool.false_or]
      by_contra hown
      obtain ⟨hevent, hcId⟩ : h.event = ack.event ∧ h.cId = ack.cId := by
        simpa [History.own] using hown
      refine hno ⟨?_, ?_⟩
      · rw [← hev, hevent]
        exact (hlistens i h hh).mpr ⟨hevent, hacked⟩
      · show w.requests[i]?.map Request.cId = _
        rw [hf.requests, hh, ← hcId]
        rfl
    · intro ⟨h', hh', hev, hacked⟩
      obtain ⟨h, hh, rfl⟩ := Option.map_eq_some_iff.mp hh'
      rw [hafter, Bool.or_eq_false_iff] at hacked
      refine ⟨⟨h, hh, hev, hacked.1⟩, fun ⟨hin, hm⟩ => ?_⟩
      have hevent : e = ack.event :=
        of_decide_eq_true (List.mem_filter.mp hin).2
      have hcId : w.requests[i]?.map Request.cId = some ack.cId := hm
      rw [hf.requests, hh] at hcId
      have hown : h.own ack = true := by
        simp only [History.own, Bool.and_eq_true, decide_eq_true_eq]
        exact ⟨hev.trans hevent, Option.some.inj hcId⟩
      rw [hown] at hacked
      cases hacked.2

/-- So does a timer that fires. -/
theorem Follows.timeout (hf : Follows w log) {i : Nat} {r : Request}
    (hr : w.requests[i]? = some r) (ht : r.timer = true) :
    Follows (w.timeout i r) (log ++ [.timeout i]) := by
  have ha : ∀ e cId, Action.timeout i ≠ .request e cId := by
    intro e cId h
    cases h
  have hlt : i < (w.stopTimer i).requests.length := by
    show i < (w.requests.modify i _).length
    rw [List.length_modify]
    by_contra hge
    rw [List.getElem?_eq_none (by omega)] at hr
    cases hr
  refine ⟨fun j => ?_, hf.nodup, fun e j => ?_,
    (hf.settled.stopTimer i).settle hlt _⟩
  · rw [histories_append, remember_map j ha]
    refine (Socket.settle_requests _ i j _).trans ?_
    rw [Socket.stopTimer_requests, hf.requests, Option.map_map,
      Option.map_map, Option.map_map]
    cases hh : (histories log)[j]? with
    | none => rfl
    | some h =>
        refine congrArg some ?_
        simp only [Function.comp]
        by_cases heq : i = j
        · rw [if_pos heq, if_pos heq]
          subst heq
          rw [hf.requests, hh] at hr
          cases hr
          have hopen : h.outcome i = none := Option.isNone_iff_eq_none.mp ht
          unfold History.request
          rw [History.outcome_after, hopen]
          simp [Request.settle, History.settledBy, History.after]
        · rw [if_neg heq, if_neg heq,
            h.after_same j (by simp [History.settledBy, heq])]
  · -- the listener of the request stays
    refine (hf.listeners e j).trans (listens_after ha (fun h => ?_) e j)
    rw [History.acked_after, Bool.or_false]

/-- Whatever happens, by its kind: the socket goes on following the histories.
-/
theorem step_follows (hf : Follows w log) {obs : List Unit}
    (hs : machine.step w a = some (w', obs)) : Follows w' (log ++ [a]) := by
  cases a with
  | request event cId =>
      cases hs
      exact hf.request event cId
  | receive event =>
      cases hack : ackOf event with
      | none =>
          simp only [machine, hack] at hs
          cases hs
          refine hf.quiet (fun _ _ h => by cases h) (fun h i => ?_)
            fun h => ?_
          · simp [History.settledBy, hack]
          · rw [History.acked_after]
            simp [hack]
      | some ack =>
          simp only [machine, hack] at hs
          cases hs
          exact hf.receive hack
  | timeout i =>
      simp only [machine] at hs
      split at hs
      · cases hs
      · rename_i r hr
        split at hs
        · rename_i ht
          cases hs
          exact hf.timeout hr ht
        · cases hs

/-! ## §6. Runs. -/

/-- A recorded run. -/
abbrev Recorded (G : Guard Socket Action Unit)
    (past : List (Socket × List Action)) (s : Socket × List Action)
    (tr : List Unit) : Prop :=
  machine.recorded.Run (Machine.unrecorded G) past s tr

variable {G : Guard Socket Action Unit}
  {past : List (Socket × List Action)} {s : Socket × List Action}
  {tr : List Unit}

theorem follows_initial : Follows Socket.initial [] := by
  refine ⟨fun i => rfl, List.nodup_nil, fun event i => ?_, fun i => rfl⟩
  constructor
  · intro h
    exact absurd h List.not_mem_nil
  · intro ⟨h, hh, _⟩
    cases hh

/-- The socket follows the histories of every run. -/
theorem run_follows (h : Recorded G past s tr) : Follows s.1 s.2 := by
  refine Machine.Run.recorded_invariant (fun w log _ => Follows w log)
    (fun w hw => ?_) (fun w log tr a w' obs _ hf _ hs => ?_) h
  · have hw : w = Socket.initial := hw
    rw [hw]
    exact follows_initial
  · exact step_follows hf hs

/-! ## §7. Outstanding requests keep apart. -/

/-- The unsettled requests have distinct `cId`s. -/
def Apart (w : Socket) : Prop := ∀ (i j : Nat) (r r' : Request),
  w.requests[i]? = some r → w.requests[j]? = some r' →
  r.outcome = none → r'.outcome = none → r.cId = r'.cId → i = j

/-- No request is made, and none becomes unsettled. -/
theorem Apart.of_settling (h : Apart w)
    (hle : ∀ (i : Nat) (r' : Request), w'.requests[i]? = some r' →
      r'.outcome = none →
      ∃ r, w.requests[i]? = some r ∧ r.outcome = none ∧ r.cId = r'.cId) :
    Apart w' := by
  intro i j r r' hr hr' ho ho' hc
  obtain ⟨q, hq, hqo, hqc⟩ := hle i r hr ho
  obtain ⟨q', hq', hqo', hqc'⟩ := hle j r' hr' ho'
  exact h i j q q' hq hq' hqo hqo' (by rw [hqc, hqc', hc])

/-- A settled promise does not become unsettled. -/
theorem Request.outcome_of_settle {r : Request} {outcome : Outcome}
    (h : (r.settle outcome).outcome = none) : r.outcome = none := by
  unfold Request.settle at h
  cases ho : r.outcome with
  | none => rfl
  | some o => simp [ho] at h

theorem Apart.request (h : Apart w) {event : AckEvent} {cId : String}
    (hfresh : ∀ r ∈ w.requests, r.outcome = none → r.cId ≠ cId) :
    Apart (w.request event cId) := by
  have hcase : ∀ (i : Nat) (r : Request),
      (w.request event cId).requests[i]? = some r →
      w.requests[i]? = some r ∨ i = w.requests.length ∧ r.cId = cId := by
    intro i r hr
    have hr : (w.requests ++ [_])[i]? = some r := hr
    rw [getElem?_concat] at hr
    split at hr
    · rename_i heq
      cases hr
      exact .inr ⟨heq, rfl⟩
    · exact .inl hr
  intro i j r r' hr hr' ho ho' hc
  rcases hcase i r hr with hi | ⟨hi, hic⟩
  · rcases hcase j r' hr' with hj | ⟨_, hjc⟩
    · exact h i j r r' hi hj ho ho' hc
    · exact absurd (hc.trans hjc)
        (hfresh r (List.mem_of_getElem? hi) ho)
  · rcases hcase j r' hr' with hj | ⟨hj, _⟩
    · exact absurd (hc.symm.trans hic)
        (hfresh r' (List.mem_of_getElem? hj) ho')
    · rw [hi, hj]

/-- What an ack makes of the requests. -/
theorem Follows.receive_requests (hf : Follows w log) (ack : Ack)
    (i : Nat) : (w.receive ack).requests[i]? = w.requests[i]?.map fun r =>
      if (ack.event, i) ∈ w.listeners ∧ r.cId = ack.cId then
        Socket.answered r (.fulfilled ack.value)
      else r := by
  refine ((Socket.foldl_handle ack _ w (hf.nodup.filter _)
    (fun p hp => of_decide_eq_true (List.mem_filter.mp hp).2) hf.nodup
    hf.settled).1 i).trans ?_
  have hiff : (ack.event, i) ∈ w.listeners.filter (·.1 = ack.event) ↔
      (ack.event, i) ∈ w.listeners := by simp
  simp only [hiff]

/-- Two open requests never share a correlation id. -/
theorem step_apart (hf : Follows w log) (h : Apart w) {obs tr : List Unit}
    (hg : freshCId tr w a) (hs : machine.step w a = some (w', obs)) :
    Apart w' := by
  cases a with
  | request event cId =>
      cases hs
      exact h.request hg
  | receive event =>
      cases hack : ackOf event with
      | none =>
          simp only [machine, hack] at hs
          cases hs
          exact h
      | some ack =>
          simp only [machine, hack] at hs
          cases hs
          refine h.of_settling fun i r' hr' ho => ?_
          rw [hf.receive_requests] at hr'
          obtain ⟨r, hr, heq⟩ := Option.map_eq_some_iff.mp hr'
          refine ⟨r, hr, ?_⟩
          split at heq
          · subst heq
            exact ⟨Request.outcome_of_settle ho, rfl⟩
          · subst heq
            exact ⟨ho, rfl⟩
  | timeout i =>
      simp only [machine] at hs
      split at hs
      · cases hs
      · rename_i r hr
        split at hs
        · cases hs
          refine h.of_settling fun j r' hr' ho => ?_
          have hr' := (Socket.settle_requests _ i j _).symm.trans hr'
          rw [Socket.stopTimer_requests, Option.map_map] at hr'
          obtain ⟨q, hq, heq⟩ := Option.map_eq_some_iff.mp hr'
          refine ⟨q, hq, ?_⟩
          simp only [Function.comp] at heq
          split at heq
          · subst heq
            exact ⟨Request.outcome_of_settle ho, rfl⟩
          · subst heq
            exact ⟨ho, rfl⟩
        · cases hs

theorem run_apart (h : Recorded freshCId past s tr) : Apart s.1 := by
  refine (Machine.Run.recorded_invariant
    (fun w log _ => Follows w log ∧ Apart w)
    (fun w hw => ?_) (fun w log tr a w' obs _ hI hg hs => ?_) h).2
  · have hw : w = Socket.initial := hw
    rw [hw]
    exact ⟨follows_initial, fun i j r r' hr => by cases hr⟩
  · exact ⟨step_follows hI.1 hs, step_apart hI.1 hI.2 hg hs⟩

/-! ## §8. Counting the listeners. -/

namespace Socket

/-- The listeners the unsettled requests would need. -/
def unsettled (w : Socket) : List (AckEvent × Nat) :=
  (w.requests.zipIdx.filter (·.1.outcome.isNone)).map fun p =>
    (p.1.event, p.2)

theorem length_unsettled (w : Socket) :
    w.unsettled.length = w.requests.countP (·.outcome.isNone) := by
  unfold unsettled
  rw [List.length_map, ← List.countP_eq_length_filter]
  conv_rhs => rw [← List.zipIdx_map_fst 0 w.requests, List.countP_map]
  rfl

theorem unsettled_nodup (w : Socket) : w.unsettled.Nodup := by
  have hsnd : (w.unsettled.map Prod.snd).Nodup := by
    unfold unsettled
    rw [List.map_map]
    show (List.map Prod.snd (List.filter _ _)).Nodup
    refine List.Nodup.sublist (List.filter_sublist.map Prod.snd) ?_
    rw [List.zipIdx_map_snd]
    exact List.nodup_range'
  exact hsnd.of_map

/-- The requests that still wait. -/
theorem mem_unsettled {w : Socket} {event : AckEvent} {i : Nat} :
    (event, i) ∈ w.unsettled ↔
      ∃ r, w.requests[i]? = some r ∧ r.outcome = none ∧ r.event = event := by
  unfold unsettled
  rw [List.mem_map]
  constructor
  · intro ⟨p, hp, heq⟩
    obtain ⟨hmem, hnone⟩ := List.mem_filter.mp hp
    cases heq
    exact ⟨p.1, List.mem_zipIdx_iff_getElem?.mp hmem,
      Option.isNone_iff_eq_none.mp hnone, rfl⟩
  · intro ⟨r, hr, hnone, hev⟩
    refine ⟨(r, i), List.mem_filter.mpr
      ⟨List.mem_zipIdx_iff_getElem?.mpr hr, ?_⟩, by rw [hev]⟩
    rw [hnone]
    rfl

end Socket

/-- A request that has not been acked is unsettled unless its timer has
fired. -/
theorem History.outcome_eq_none_iff {h : History}
    (hack : h.acked = false) (i : Nat) :
    h.outcome i = none ↔ .timeout i ∉ h.since := by
  unfold outcome
  rw [List.findSome?_eq_none_iff]
  constructor
  · intro hall hin
    have hnone := hall _ hin
    simp [settledBy] at hnone
  · intro hnot a ha
    cases a with
    | request => rfl
    | receive event =>
        cases hev : ackOf event with
        | none => simp [settledBy, hev]
        | some ack =>
            have hown : h.own ack = false := by
              have := List.any_eq_false.mp hack _ ha
              simpa [hev] using this
            simp [settledBy, hev, hown]
    | timeout j =>
        have hne : j ≠ i := fun heq => hnot (heq ▸ ha)
        simp [settledBy, hne]

/-- Unsettled requests are listening. -/
theorem Follows.unsettled_subset (hf : Follows w log) :
    w.unsettled ⊆ w.listeners := by
  intro ⟨event, i⟩ hin
  obtain ⟨r, hr, hnone, hev⟩ := Socket.mem_unsettled.mp hin
  rw [hf.requests] at hr
  obtain ⟨h, hh, rfl⟩ := Option.map_eq_some_iff.mp hr
  refine (hf.listeners event i).mpr ⟨h, hh, hev, ?_⟩
  by_contra hacked
  have hsome := History.outcome_of_acked (by simpa using hacked) i
  have hnone : h.outcome i = none := hnone
  rw [hnone] at hsome
  cases hsome

/-- The listeners that are too many are those of the requests that timed
out and have not been acked since. -/
theorem Follows.listeners_eq_iff (hf : Follows w log) :
    w.listeners.length = w.requests.countP (·.outcome.isNone) ↔
      ∀ (i : Nat) (h : History), (histories log)[i]? = some h →
        .timeout i ∈ h.since → h.acked = true := by
  rw [← Socket.length_unsettled]
  have hsub := List.subperm_of_subset w.unsettled_nodup hf.unsettled_subset
  constructor
  · intro hlen i h hh hout
    by_contra hacked
    have hacked : h.acked = false := by simpa using hacked
    have hlis := (hf.listeners h.event i).mpr ⟨h, hh, rfl, hacked⟩
    have hperm := hsub.perm_of_length_le (Nat.le_of_eq hlen)
    obtain ⟨r, hr, hnone, _⟩ :=
      Socket.mem_unsettled.mp (hperm.mem_iff.mpr hlis)
    rw [hf.requests, hh] at hr
    cases hr
    exact (History.outcome_eq_none_iff hacked i).mp hnone hout
  · intro hall
    refine Nat.le_antisymm ?_ hsub.length_le
    refine (List.subperm_of_subset hf.nodup fun p hp => ?_).length_le
    obtain ⟨event, i⟩ := p
    obtain ⟨h, hh, hev, hacked⟩ := (hf.listeners event i).mp hp
    refine Socket.mem_unsettled.mpr
      ⟨h.request i, by rw [hf.requests, hh]; rfl, ?_, hev⟩
    refine (History.outcome_eq_none_iff hacked i).mpr fun hout => ?_
    rw [hall i h hh hout] at hacked
    cases hacked

/-! ## §9. The promises, and the leak. -/

/-- A request the ack leaves as it is. -/
theorem Follows.receive_foreign (hf : Follows w log) {ack : Ack} {i : Nat}
    {r : Request} (hr : w.requests[i]? = some r)
    (hforeign : ¬ (r.event = ack.event ∧ r.cId = ack.cId)) :
    (w.receive ack).requests[i]? = some r := by
  rw [hf.receive_requests, hr, Option.map_some]
  refine congrArg some (if_neg fun hc => hforeign ⟨?_, hc.2⟩)
  obtain ⟨h, hh, hev, _⟩ := (hf.listeners _ _).mp hc.1
  rw [hf.requests, hh] at hr
  cases hr
  exact hev

/-- An ack changes unsettled requests only. -/
theorem Follows.receive_changes (hf : Follows w log) {ack : Ack} {i : Nat}
    (hne : (w.receive ack).requests[i]? ≠ w.requests[i]?) :
    ∃ r, w.requests[i]? = some r ∧ r.outcome = none ∧ r.cId = ack.cId := by
  rw [hf.receive_requests] at hne
  cases hr : w.requests[i]? with
  | none => simp [hr] at hne
  | some r =>
      rw [hr, Option.map_some] at hne
      have hown : (ack.event, i) ∈ w.listeners ∧ r.cId = ack.cId := by
        by_contra hno
        rw [if_neg hno] at hne
        exact hne rfl
      rw [if_pos hown] at hne
      refine ⟨r, rfl, ?_, hown.2⟩
      rw [hf.requests] at hr
      obtain ⟨h, _, rfl⟩ := Option.map_eq_some_iff.mp hr
      show h.outcome i = none
      by_contra hsome
      obtain ⟨o, ho⟩ := Option.ne_none_iff_exists'.mp hsome
      refine hne (congrArg some ?_)
      simp [Socket.answered, Request.settle, History.request, ho]

/-- **Acks are correlated**: with outstanding requests told apart by their
`cId`s, each promise is settled once, by its first own ack or its timer,
whichever comes first; an ack settles one request at most, and leaves those
it does not name as they are.  The listeners are as many as the unsettled
requests if and only if every request that timed out has been acked
since. -/
theorem acks_correlated (h : Recorded freshCId past s tr) :
    (∀ i : Nat, s.1.requests[i]?
      = (histories s.2)[i]?.map fun h => h.request i) ∧
    s.1.SettledOnce ∧
    (∀ (ack : Ack) (i : Nat) (r : Request), s.1.requests[i]? = some r →
      ¬ (r.event = ack.event ∧ r.cId = ack.cId) →
      (s.1.receive ack).requests[i]? = some r) ∧
    (∀ (ack : Ack) (i j : Nat),
      (s.1.receive ack).requests[i]? ≠ s.1.requests[i]? →
      (s.1.receive ack).requests[j]? ≠ s.1.requests[j]? → i = j) ∧
    (s.1.listeners.length = s.1.requests.countP (·.outcome.isNone) ↔
      ∀ (i : Nat) (h : History), (histories s.2)[i]? = some h →
        .timeout i ∈ h.since → h.acked = true) := by
  have hf := run_follows h
  refine ⟨hf.requests, hf.settled,
    fun ack i r hr hforeign => hf.receive_foreign hr hforeign,
    fun ack i j hi hj => ?_, hf.listeners_eq_iff⟩
  obtain ⟨r, hr, ho, hc⟩ := hf.receive_changes hi
  obtain ⟨r', hr', ho', hc'⟩ := hf.receive_changes hj
  exact run_apart h i j r r' hr hr' ho ho' (by rw [hc, hc'])

/-- Two requests on one event; a foreign ack, the second's own ack, the
timer of the first, its late ack and a duplicate of the second's. -/
def lateAck : List Action :=
  [.request .updateMemberStateAck "a", .request .updateMemberStateAck "b",
    .receive (.updateMemberStateAck "c"),
    .receive (.updateMemberStateAck "b"), .timeout 0,
    .receive (.updateMemberStateAck "a"),
    .receive (.updateMemberStateAck "b")]

/-- An ack that comes late, and a second request meanwhile. -/
theorem acks_correlated_late : ∃ past s tr,
    Recorded freshCId past s tr ∧
    s.1.listeners.length = s.1.requests.countP (·.outcome.isNone) ∧
    s.1.settlements = [1, 0] ∧
    s.1.requests.map Request.outcome =
      [some (.rejected "timeout waiting for updateMemberStateAck"),
        some (.fulfilled .void)] := by
  obtain ⟨past, s, tr, h, hp⟩ := Machine.Run.exists_of_exec
    (M := machine.recorded) (G := Machine.unrecorded freshCId)
    (l := lateAck) (s := (Socket.initial, []))
    (p := fun r => decide (r.2.1.1.settlements = [1, 0] ∧
      r.2.1.1.requests.map Request.outcome =
        [some (.rejected "timeout waiting for updateMemberStateAck"),
          some (.fulfilled .void)] ∧
      r.2.1.2 = lateAck))
    ⟨rfl, rfl⟩ (by decide +kernel)
  obtain ⟨hset, hout, hlog⟩ := of_decide_eq_true hp
  refine ⟨past, s, tr, h, (acks_correlated h).2.2.2.2.mpr ?_, hset, hout⟩
  rw [hlog]
  intro i q hq hin
  match i, hq with
  | 0, hq =>
      cases hq
      decide
  | 1, hq =>
      cases hq
      decide
  | n + 2, hq => cases hq

/-- The listener of a request outlives its timer. -/
theorem timed_out_listening : ∃ past s tr,
    Recorded freshCId past s tr ∧
    s.1.listeners.length = 1 ∧
    s.1.requests.countP (·.outcome.isNone) = 0 := by
  obtain ⟨past, s, tr, h, hp⟩ := Machine.Run.exists_of_exec
    (M := machine.recorded) (G := Machine.unrecorded freshCId)
    (l := [.request .updateMemberStateAck "a", .timeout 0])
    (s := (Socket.initial, []))
    (p := fun r => decide (r.2.1.1.listeners.length = 1 ∧
      r.2.1.1.requests.countP (·.outcome.isNone) = 0))
    ⟨rfl, rfl⟩ (by decide +kernel)
  exact ⟨past, s, tr, h, of_decide_eq_true hp⟩

end Twolk.Web.Acks

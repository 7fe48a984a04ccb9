/-
  Twolk.Web.Access
  ────────────────
  **WHAT THE SPACE PAGE SHOWS BEFORE IT CONNECTS.**

  Embeds the access effect of `SpacePage.tsx` and the part of `useSpace.ts`
  that opens the space.  Each time the page gets a uuid its effect fetches
  the space and a signaling server; what follows are the continuations of
  `Promise.all`, of the two `json()` calls and of `.catch`.  The cleanup of
  an effect marks it cancelled, and every continuation looks at the mark.

  Fetches and bodies settle at any time and with anything; effects of
  earlier uuids go on.

  Main result: `access_current` — only the effect of the uuid on the page
  changes what the page shows, once, and to what its own two answers say.
-/
import Twolk.Lib.Machine
import Twolk.Domain

namespace Twolk.Web.Page

open Twolk.Lib

/-! ## §1. Answers. -/

/-- Whether the space can be joined. -/
inductive AccessState where
  | loading | available | ended | missing | error
deriving DecidableEq, Repr

/-- A settled promise. -/
inductive Settled (α : Type) where
  | fulfilled (value : α)
  | rejected
deriving DecidableEq, Repr

/-- A `Response`. -/
structure FetchResponse where
  status : Nat
deriving DecidableEq, Repr

/-- `res.ok`. -/
def FetchResponse.ok (res : FetchResponse) : Bool :=
  200 ≤ res.status && res.status ≤ 299

/-- What a field of a JSON body holds, as far as the page can tell. -/
inductive Field where
  /-- There is no such field, or the body is not an object. -/
  | undefined
  | null
  | string (value : String)
  /-- A number, a boolean, an array or an object. -/
  | other
deriving DecidableEq, Repr

/-- The two fields the page reads of a body. -/
structure Body where
  status : Field
  serverUrl : Field
deriving DecidableEq, Repr

/-! ## §2. The effect. -/

/-- What a continuation waits for. -/
inductive Waiting where
  /-- `Promise.all`. -/
  | fetches
  /-- `spaceRes.json()`; the other response comes after it. -/
  | spaceBody (tryJoinRes : FetchResponse)
  /-- `tryJoinRes.json()`. -/
  | tryJoinBody
  /-- The body of `.catch` is ready. -/
  | failed
  | nothing
deriving DecidableEq, Repr

/-- One run of the effect: its uuid, the mark of its cleanup, how its
promises have settled, and what it waits for.  A body of `none` is `null`. -/
structure AccessEffect where
  spaceUuid : Uuid
  cancelled : Bool
  spaceRes : Option (Settled FetchResponse)
  tryJoinRes : Option (Settled FetchResponse)
  spaceBody : Option (Settled (Option Body))
  tryJoinBody : Option (Settled (Option Body))
  waiting : Waiting
deriving DecidableEq, Repr

/-- Calls of `setAccessState`, and of `setServerUrl` before it. -/
structure Assignment where
  accessState : AccessState
  serverUrl : Option Field
deriving DecidableEq, Repr

namespace AccessEffect

/-- The effect of a uuid: both fetches are under way. -/
def start (spaceUuid : Uuid) : AccessEffect :=
  ⟨spaceUuid, false, none, none, none, none, .fetches⟩

/-- It returns, having called the setters or not. -/
def returns (e : AccessEffect) (a : Option Assignment) :
    AccessEffect × Option Assignment :=
  ({ e with waiting := .nothing }, a)

/-- It goes on later. -/
def awaits (e : AccessEffect) (waiting : Waiting) :
    AccessEffect × Option Assignment :=
  ({ e with waiting }, none)

/-- The result of `Promise.all`. -/
def fetches (e : AccessEffect) :
    Option (Settled (FetchResponse × FetchResponse)) :=
  match e.spaceRes, e.tryJoinRes with
  | some .rejected, _ => some .rejected
  | _, some .rejected => some .rejected
  | some (.fulfilled spaceRes), some (.fulfilled tryJoinRes) =>
      some (.fulfilled (spaceRes, tryJoinRes))
  | _, _ => none

/-- The body of `.then`, to its first `await`. -/
def fetched (e : AccessEffect) (spaceRes tryJoinRes : FetchResponse) :
    AccessEffect × Option Assignment :=
  if e.cancelled then e.returns none
  else if spaceRes.status = 404 then e.returns (some ⟨.missing, none⟩)
  else if !spaceRes.ok then e.returns (some ⟨.error, none⟩)
  else e.awaits (.spaceBody tryJoinRes)

/-- To its second `await`. -/
def spaceRead (e : AccessEffect) (spaceBody : Option Body)
    (tryJoinRes : FetchResponse) : AccessEffect × Option Assignment :=
  if e.cancelled then e.returns none
  else match spaceBody with
    -- `null.status` throws
    | none => e.awaits .failed
    | some body =>
        if body.status = .string "ended" then e.returns (some ⟨.ended, none⟩)
        else if !tryJoinRes.ok then e.returns (some ⟨.error, none⟩)
        else e.awaits .tryJoinBody

/-- To its end. -/
def tryJoinRead (e : AccessEffect) (tryJoinBody : Option Body) :
    AccessEffect × Option Assignment :=
  if e.cancelled then e.returns none
  else match tryJoinBody with
    | none => e.awaits .failed
    | some body => e.returns (some ⟨.available, some body.serverUrl⟩)

/-- The body of `.catch`. -/
def caught (e : AccessEffect) : AccessEffect × Option Assignment :=
  e.returns (if !e.cancelled then some ⟨.error, none⟩ else none)

/-- The continuation that is ready, if one is. -/
def resume (e : AccessEffect) : Option (AccessEffect × Option Assignment) :=
  match e.waiting with
  | .fetches =>
      match e.fetches with
      -- the continuation of `Promise.all` needs both answers
      | some (.fulfilled (spaceRes, tryJoinRes)) =>
          some (e.fetched spaceRes tryJoinRes)
      -- the first rejection is the one that is caught
      | some .rejected => some (e.awaits .failed)
      | none => none
  | .spaceBody tryJoinRes =>
      match e.spaceBody with
      | some (.fulfilled spaceBody) => some (e.spaceRead spaceBody tryJoinRes)
      | some .rejected => some (e.awaits .failed)
      | none => none
  | .tryJoinBody =>
      match e.tryJoinBody with
      | some (.fulfilled tryJoinBody) => some (e.tryJoinRead tryJoinBody)
      | some .rejected => some (e.awaits .failed)
      | none => none
  -- the body of the `catch`
  | .failed => some e.caught
  | .nothing => none

/-- `spaceRes.json()` has been called. -/
def readsSpaceBody (e : AccessEffect) : Bool :=
  match e.waiting with
  | .spaceBody _ => true
  | _ => false

end AccessEffect

/-! ## §3. The page. -/

/-- The page of a route: the uuid in it, its state, the space it has opened
(with which uuid and URL), and the runs of the effect, in order. -/
structure SpacePage where
  spaceUuid : Uuid
  mounted : Bool
  accessState : AccessState
  serverUrl : Field
  space : Option (Uuid × Field)
  effects : List AccessEffect
deriving DecidableEq, Repr

/-- What is observed of the page. -/
inductive PageMark where
  /-- The `i`-th run of the effect calls the setters. -/
  | assigned (i : Nat) (a : Assignment)
  /-- `useSpace` opens a space. -/
  | opened (spaceUuid : Uuid) (serverUrl : Field)
deriving DecidableEq, Repr

/-- What can happen to the page. -/
inductive PageAction where
  /-- The route gets another uuid, or the same one again: the cleanup runs,
  and the effect. -/
  | navigate (spaceUuid : Uuid)
  | unmount
  | render
  | spaceFetched (i : Nat) (res : Settled FetchResponse)
  | tryJoinFetched (i : Nat) (res : Settled FetchResponse)
  | spaceBodyRead (i : Nat) (body : Settled (Option Body))
  | tryJoinBodyRead (i : Nat) (body : Settled (Option Body))
  /-- The ready continuation of the `i`-th run. -/
  | resume (i : Nat)
deriving DecidableEq, Repr

namespace SpacePage

/-- The page appears: no URL yet, and the effect runs for the first time. -/
def mount (spaceUuid : Uuid) : SpacePage :=
  ⟨spaceUuid, true, .loading, .null, none, [.start spaceUuid]⟩

/-- The cleanup of the newest run: `cancelled = true`. -/
def cleanup (p : SpacePage) : SpacePage :=
  { p with
    effects := p.effects.modify (p.effects.length - 1)
      (fun e => { e with cancelled := true }) }

/-- The cleanup, then the effect of the new uuid. -/
def navigate (p : SpacePage) (spaceUuid : Uuid) : SpacePage :=
  { p.cleanup with
    spaceUuid
    effects := p.cleanup.effects ++ [.start spaceUuid] }

/-- `useSpace`: the first URL that is not `null` opens a space, for good. -/
def render (p : SpacePage) : SpacePage × List PageMark :=
  if p.space = none ∧ p.serverUrl ≠ .null then
    ({ p with space := some (p.spaceUuid, p.serverUrl) },
      [.opened p.spaceUuid p.serverUrl])
  else (p, [])

/-- The setters are called. -/
def assign (p : SpacePage) (i : Nat) :
    Option Assignment → SpacePage × List PageMark
  | none => (p, [])
  | some a =>
      ({ p with
          accessState := a.accessState
          serverUrl := a.serverUrl.getD p.serverUrl },
        [.assigned i a])

/-- A promise of the `i`-th run settles, once. -/
def settle (p : SpacePage) (i : Nat)
    (f : AccessEffect → Option AccessEffect) :
    Option (SpacePage × List PageMark) :=
  ((p.effects[i]?).bind f).map fun e =>
    ({ p with effects := p.effects.set i e }, [])

/-- One action; what a promise settles with is used once. -/
def step (p : SpacePage) :
    PageAction → Option (SpacePage × List PageMark)
  | .navigate spaceUuid =>
      if p.mounted then some (p.navigate spaceUuid, []) else none
  | .unmount =>
      if p.mounted then some ({ p.cleanup with mounted := false }, [])
      else none
  -- a render uses what the setters have been called with
  | .render => if p.mounted then some p.render else none
  -- a promise settles once
  | .spaceFetched i res => p.settle i fun e =>
      if e.spaceRes = none then some { e with spaceRes := some res } else none
  | .tryJoinFetched i res => p.settle i fun e =>
      if e.tryJoinRes = none then some { e with tryJoinRes := some res }
      else none
  -- a body is read only while the effect waits for it
  | .spaceBodyRead i body => p.settle i fun e =>
      if e.readsSpaceBody ∧ e.spaceBody = none then
        some { e with spaceBody := some body }
      else none
  | .tryJoinBodyRead i body => p.settle i fun e =>
      if e.waiting = .tryJoinBody ∧ e.tryJoinBody = none then
        some { e with tryJoinBody := some body }
      else none
  | .resume i =>
      ((p.effects[i]?).bind AccessEffect.resume).map fun r =>
        { p with effects := p.effects.set i r.1 }.assign i r.2

end SpacePage

/-- The page as a machine. -/
def accessMachine : Machine SpacePage PageAction PageMark where
  init p := ∃ spaceUuid, p = .mount spaceUuid
  step p a := p.step a

/-! ## §4. What two answers say. -/

namespace AccessEffect

/-- What the body of the second answer says. -/
def joinVerdict (e : AccessEffect) : Option Assignment :=
  match e.tryJoinBody with
  | none => none
  | some (.fulfilled (some body)) => some ⟨.available, some body.serverUrl⟩
  | some _ => some ⟨.error, none⟩

/-- What the body of the first answer says, the space being found. -/
def bodyVerdict (e : AccessEffect) (tryJoinRes : FetchResponse) :
    Option Assignment :=
  match e.spaceBody with
  | none => none
  | some (.fulfilled (some body)) =>
      if body.status = .string "ended" then some ⟨.ended, none⟩
      else if !tryJoinRes.ok then some ⟨.error, none⟩
      else e.joinVerdict
  | some _ => some ⟨.error, none⟩

/-- What the page is to show, and where it is to connect, once the answers
say it. -/
def verdict (e : AccessEffect) : Option Assignment :=
  match e.fetches with
  | none => none
  | some .rejected => some ⟨.error, none⟩
  | some (.fulfilled (spaceRes, tryJoinRes)) =>
      if spaceRes.status = 404 then some ⟨.missing, none⟩
      else if !spaceRes.ok then some ⟨.error, none⟩
      else e.bodyVerdict tryJoinRes

/-- The space was found. -/
structure Found (e : AccessEffect) (spaceRes tryJoinRes : FetchResponse) :
    Prop where
  fetches : e.fetches = some (.fulfilled (spaceRes, tryJoinRes))
  found : spaceRes.status ≠ 404
  ok : spaceRes.ok = true

/-- It can be joined. -/
structure Joinable (e : AccessEffect) (body : Body)
    (spaceRes tryJoinRes : FetchResponse) : Prop
    extends e.Found spaceRes tryJoinRes where
  spaceBody : e.spaceBody = some (.fulfilled (some body))
  going : body.status ≠ .string "ended"
  joins : tryJoinRes.ok = true

/-- What is known of the answers where the effect waits. -/
def Sound (e : AccessEffect) : Prop :=
  match e.waiting with
  | .spaceBody tryJoinRes => ∃ spaceRes, e.Found spaceRes tryJoinRes
  | .tryJoinBody => ∃ body spaceRes tryJoinRes,
      e.Joinable body spaceRes tryJoinRes
  | .failed => e.verdict = some ⟨.error, none⟩
  | _ => True

variable {e e' : AccessEffect} {a : Option Assignment}
  {spaceRes tryJoinRes : FetchResponse}

theorem Found.verdict (h : e.Found spaceRes tryJoinRes) :
    e.verdict = e.bodyVerdict tryJoinRes := by
  have hok : ¬ (!spaceRes.ok) = true := by
    rw [h.ok]
    decide
  unfold AccessEffect.verdict
  rw [h.fetches]
  exact (if_neg h.found).trans (if_neg hok)

theorem Joinable.verdict {body : Body}
    (h : e.Joinable body spaceRes tryJoinRes) : e.verdict = e.joinVerdict := by
  have hok : ¬ (!tryJoinRes.ok) = true := by
    rw [h.joins]
    decide
  rw [h.toFound.verdict]
  unfold bodyVerdict
  rw [h.spaceBody]
  exact (if_neg h.going).trans (if_neg hok)

/-- What a stretch of the effect can do. -/
structure Resumed (e e' : AccessEffect) (a : Option Assignment) : Prop where
  sound : e'.Sound
  spaceUuid : e'.spaceUuid = e.spaceUuid
  cancelled : e'.cancelled = e.cancelled
  assigned : ∀ x, a = some x → e.cancelled = false ∧
    e.verdict = some x ∧ e'.waiting = .nothing ∧
    (x.serverUrl ≠ none → x.accessState = .available)

/-- When the effect goes on later, its answers still say what they said. -/
theorem resumed_awaits {waiting : Waiting}
    (h : Sound { e with waiting }) :
    Resumed e (e.awaits waiting).1 (e.awaits waiting).2 where
  sound := h
  spaceUuid := rfl
  cancelled := rfl
  assigned x hx := by cases hx

/-- When it returns without a call, nothing is shown. -/
theorem resumed_none : Resumed e (e.returns none).1 (e.returns none).2 where
  sound := trivial
  spaceUuid := rfl
  cancelled := rfl
  assigned x hx := by cases hx

/-- It returns, having called the setters with what the answers say. -/
theorem resumed_some {x : Assignment} (hc : e.cancelled = false)
    (hv : e.verdict = some x)
    (hurl : x.serverUrl ≠ none → x.accessState = .available) :
    Resumed e (e.returns (some x)).1 (e.returns (some x)).2 where
  sound := trivial
  spaceUuid := rfl
  cancelled := rfl
  assigned y hy := by
    cases hy
    exact ⟨hc, hv, rfl, hurl⟩

/-- The stretch after the two `fetch`es calls the setters with what the answers
say, or goes on. -/
theorem fetched_resumed
    (h : e.fetches = some (.fulfilled (spaceRes, tryJoinRes))) :
    Resumed e (e.fetched spaceRes tryJoinRes).1
      (e.fetched spaceRes tryJoinRes).2 := by
  have hverdict : e.verdict =
      if spaceRes.status = 404 then some ⟨.missing, none⟩
      else if !spaceRes.ok then some ⟨.error, none⟩
      else e.bodyVerdict tryJoinRes := by
    unfold verdict
    rw [h]
  unfold fetched
  split
  · exact resumed_none
  · rename_i hc
    have hc : e.cancelled = false := by simpa using hc
    split
    · rename_i h404
      exact resumed_some hc (hverdict.trans (if_pos h404)) (by simp)
    · rename_i h404
      rw [if_neg h404] at hverdict
      split
      · rename_i hok
        exact resumed_some hc (hverdict.trans (if_pos hok)) (by simp)
      · rename_i hok
        exact resumed_awaits ⟨spaceRes, h, h404, by simpa using hok⟩

/-- So does the stretch after the body of `GET /space`. -/
theorem spaceRead_resumed (hfound : e.Found spaceRes tryJoinRes)
    {body : Option Body} (hbody : e.spaceBody = some (.fulfilled body)) :
    Resumed e (e.spaceRead body tryJoinRes).1
      (e.spaceRead body tryJoinRes).2 := by
  have h := hfound.verdict
  unfold bodyVerdict at h
  rw [hbody] at h
  unfold spaceRead
  split
  · exact resumed_none
  · rename_i hc
    have hc : e.cancelled = false := by simpa using hc
    cases body with
    | none => exact resumed_awaits h
    | some body =>
        dsimp only at h ⊢
        split
        · rename_i hended
          exact resumed_some hc (h.trans (if_pos hended)) (by simp)
        · rename_i hended
          rw [if_neg hended] at h
          split
          · rename_i hok
            exact resumed_some hc (h.trans (if_pos hok)) (by simp)
          · rename_i hok
            exact resumed_awaits ⟨body, spaceRes, tryJoinRes,
              ⟨hfound.fetches, hfound.found, hfound.ok⟩, hbody, hended,
              by simpa using hok⟩

/-- So does the stretch after the body of `GET /space/try-join`. -/
theorem tryJoinRead_resumed (h : e.verdict = e.joinVerdict)
    {body : Option Body} (hbody : e.tryJoinBody = some (.fulfilled body)) :
    Resumed e (e.tryJoinRead body).1 (e.tryJoinRead body).2 := by
  unfold joinVerdict at h
  rw [hbody] at h
  unfold tryJoinRead
  split
  · exact resumed_none
  · rename_i hc
    have hc : e.cancelled = false := by simpa using hc
    cases body with
    | none => exact resumed_awaits h
    | some body => exact resumed_some hc h fun _ => rfl

theorem caught_resumed (h : e.verdict = some ⟨.error, none⟩) :
    Resumed e e.caught.1 e.caught.2 := by
  unfold caught
  split
  · rename_i hc
    exact resumed_some (by simpa using hc) h (by simp)
  · exact resumed_none

/-- **One stretch** of the effect calls the setters with what the answers say,
or goes on. -/
theorem resume_resumed (h : e.Sound) (hr : e.resume = some (e', a)) :
    Resumed e e' a := by
  unfold resume at hr
  unfold Sound at h
  -- by what the run waits for
  cases hw : e.waiting with
  | fetches =>
      rw [hw] at hr
      dsimp only at hr
      split at hr
      · rename_i hf
        have hall := fetched_resumed hf
        rwa [Option.some.inj hr] at hall
      -- a rejected promise goes on in the `catch`
      · rename_i hf
        cases hr
        refine resumed_awaits ?_
        show verdict e = _
        unfold verdict
        rw [hf]
      · cases hr
  -- the body of `GET /space` was waited for
  | spaceBody tryJoinRes =>
      rw [hw] at hr h
      obtain ⟨spaceRes, h⟩ := h
      dsimp only at hr
      split at hr
      · rename_i hbody
        have hall := spaceRead_resumed h hbody
        rwa [Option.some.inj hr] at hall
      · rename_i hbody
        cases hr
        refine resumed_awaits ?_
        show verdict e = _
        rw [h.verdict]
        unfold bodyVerdict
        rw [hbody]
      · cases hr
  -- and then that of `GET /space/try-join`
  | tryJoinBody =>
      rw [hw] at hr h
      obtain ⟨body, spaceRes, tryJoinRes, h⟩ := h
      dsimp only at hr
      split at hr
      · rename_i hbody
        have hall := tryJoinRead_resumed h.verdict hbody
        rwa [Option.some.inj hr] at hall
      · rename_i hbody
        cases hr
        refine resumed_awaits ?_
        show verdict e = _
        rw [h.verdict]
        unfold joinVerdict
        rw [hbody]
      · cases hr
  | failed =>
      rw [hw] at hr h
      have hall := caught_resumed h
      rwa [Option.some.inj hr] at hall
  | nothing =>
      rw [hw] at hr
      cases hr

/-- A fetch settles: what `Promise.all` has come to stays. -/
theorem fetches_spaceFetched {x : Settled (FetchResponse × FetchResponse)}
    (h : e.fetches = some x) (hnone : e.spaceRes = none)
    (res : Settled FetchResponse) :
    fetches { e with spaceRes := some res } = some x := by
  unfold fetches at h ⊢
  rw [hnone] at h
  cases ht : e.tryJoinRes with
  | none =>
      rw [ht] at h
      cases h
  | some tryJoin =>
      rw [ht] at h
      cases tryJoin with
      | fulfilled value => cases h
      | rejected => cases res <;> exact h

theorem fetches_tryJoinFetched {x : Settled (FetchResponse × FetchResponse)}
    (h : e.fetches = some x) (hnone : e.tryJoinRes = none)
    (res : Settled FetchResponse) :
    fetches { e with tryJoinRes := some res } = some x := by
  unfold fetches at h ⊢
  rw [hnone] at h
  cases hs : e.spaceRes with
  | none =>
      rw [hs] at h
      cases h
  | some space =>
      rw [hs] at h
      cases space with
      | fulfilled value => cases h
      | rejected => cases res <;> exact h

/-- The answers so far are kept. -/
theorem Sound.keeps (h : e.Sound) (hwaiting : e'.waiting = e.waiting)
    (hfetches : ∀ x, e.fetches = some x → e'.fetches = some x)
    (hspace : e'.spaceBody = e.spaceBody)
    (htryJoin : e'.tryJoinBody = e.tryJoinBody) : e'.Sound := by
  have hfound : ∀ {s t}, e.Found s t → e'.Found s t :=
    fun hf => ⟨hfetches _ hf.fetches, hf.found, hf.ok⟩
  unfold Sound at h ⊢
  rw [hwaiting]
  cases hw : e.waiting with
  | fetches | nothing => trivial
  | spaceBody tryJoinRes =>
      rw [hw] at h
      obtain ⟨spaceRes, hf⟩ := h
      exact ⟨spaceRes, hfound hf⟩
  | tryJoinBody =>
      rw [hw] at h
      obtain ⟨body, spaceRes, tryJoinRes, hj⟩ := h
      exact ⟨body, spaceRes, tryJoinRes, hfound hj.toFound,
        hspace.trans hj.spaceBody, hj.going, hj.joins⟩
  | failed =>
      rw [hw] at h
      show e'.verdict = some ⟨.error, none⟩
      have h : e.verdict = some ⟨.error, none⟩ := h
      unfold AccessEffect.verdict bodyVerdict joinVerdict at h ⊢
      rw [hspace, htryJoin]
      cases hf : e.fetches with
      | none =>
          rw [hf] at h
          cases h
      | some x =>
          rw [hf] at h
          rw [hfetches x hf]
          exact h

/-- A body is read while it is waited for, and keeps what is known. -/
theorem Sound.spaceBodyRead (h : e.Sound) (hreads : e.readsSpaceBody = true)
    (body : Settled (Option Body)) :
    Sound { e with spaceBody := some body } := by
  unfold readsSpaceBody at hreads
  unfold Sound at h ⊢
  dsimp only
  split at hreads
  · rename_i tryJoinRes hw
    rw [hw] at h ⊢
    obtain ⟨spaceRes, hf⟩ := h
    exact ⟨spaceRes, hf.fetches, hf.found, hf.ok⟩
  · cases hreads

/-- The second body is read while it is waited for. -/
theorem Sound.tryJoinBodyRead (h : e.Sound) (hw : e.waiting = .tryJoinBody)
    (body : Settled (Option Body)) :
    Sound { e with tryJoinBody := some body } := by
  unfold Sound at h ⊢
  dsimp only
  rw [hw] at h ⊢
  obtain ⟨first, spaceRes, tryJoinRes, hj⟩ := h
  exact ⟨first, spaceRes, tryJoinRes,
    ⟨hj.fetches, hj.found, hj.ok⟩, hj.spaceBody, hj.going, hj.joins⟩

end AccessEffect

/-! ## §5. Runs. -/

variable {p p' : SpacePage} {a : PageAction} {tr obs : List PageMark}
  {past : List SpacePage}

/-- What holds of the runs of the effect. -/
structure Current (p : SpacePage) (tr : List PageMark) : Prop where
  /-- Only the newest run is not cancelled. -/
  newest : ∀ i e, p.effects[i]? = some e → e.cancelled = false →
    p.mounted = true ∧ i + 1 = p.effects.length ∧ e.spaceUuid = p.spaceUuid
  sound : ∀ e ∈ p.effects, e.Sound
  /-- A run that has called the setters has returned. -/
  once : ∀ i x, .assigned i x ∈ tr →
    ∃ e, p.effects[i]? = some e ∧ e.waiting = .nothing
  /-- A URL comes with the state in which the space can be joined. -/
  url : p.serverUrl ≠ .null →
    ∃ i, .assigned i ⟨.available, some p.serverUrl⟩ ∈ tr
  opened : ∀ spaceUuid url, .opened spaceUuid url ∈ tr → p.space ≠ none

/-- What a step does to what the page shows. -/
inductive SpacePage.Stepped (p p' : SpacePage) (obs : List PageMark) : Prop
  | navigated (spaceUuid : Uuid) :
      p.mounted = true → p' = p.navigate spaceUuid → obs = [] →
      Stepped p p' obs
  | unmounted : p' = { p.cleanup with mounted := false } → obs = [] →
      Stepped p p' obs
  | rendered : p.render = (p', obs) → Stepped p p' obs
  | settled (i : Nat) (e e' : AccessEffect) :
      p.effects[i]? = some e → (e.Sound → e'.Sound) →
      e'.spaceUuid = e.spaceUuid → e'.cancelled = e.cancelled →
      e'.waiting = e.waiting →
      p' = { p with effects := p.effects.set i e' } → obs = [] →
      Stepped p p' obs
  | resumed (i : Nat) (e e' : AccessEffect) (x : Option Assignment) :
      p.effects[i]? = some e → e.resume = some (e', x) →
      { p with effects := p.effects.set i e' }.assign i x = (p', obs) →
      Stepped p p' obs

/-- Settling a promise of a run is a step of that run. -/
theorem SpacePage.settle_stepped {i : Nat}
    {f : AccessEffect → Option AccessEffect}
    (hf : ∀ e e', f e = some e' → (e.Sound → e'.Sound) ∧
      e'.spaceUuid = e.spaceUuid ∧ e'.cancelled = e.cancelled ∧
      e'.waiting = e.waiting)
    (h : p.settle i f = some (p', obs)) : p.Stepped p' obs := by
  obtain ⟨e', he', heq⟩ := Option.map_eq_some_iff.mp h
  obtain ⟨e, he, hfe⟩ := Option.bind_eq_some_iff.mp he'
  obtain ⟨hsound, huuid, hcancelled, hwaiting⟩ := hf e e' hfe
  cases heq
  exact .settled i e e' he hsound huuid hcancelled hwaiting rfl rfl

/-- Every step is one of these. -/
theorem SpacePage.stepped (h : p.step a = some (p', obs)) :
    p.Stepped p' obs := by
  -- one kind of step for each action
  cases a with
  | navigate spaceUuid =>
      simp only [step] at h
      split at h
      · rename_i hm
        cases h
        exact .navigated spaceUuid hm rfl rfl
      · cases h
  | unmount =>
      simp only [step] at h
      split at h
      · cases h
        exact .unmounted rfl rfl
      · cases h
  | render =>
      simp only [step] at h
      split at h
      · exact .rendered (Option.some.inj h)
      · cases h
  -- a promise that settles changes one run, and not what it has shown
  | spaceFetched i res =>
      refine settle_stepped (fun e e' he => ?_) h
      split at he
      · rename_i hnone
        cases he
        exact ⟨fun hs => hs.keeps rfl (fun x hx =>
          AccessEffect.fetches_spaceFetched hx hnone res) rfl rfl,
          rfl, rfl, rfl⟩
      · cases he
  | tryJoinFetched i res =>
      refine settle_stepped (fun e e' he => ?_) h
      split at he
      · rename_i hnone
        cases he
        exact ⟨fun hs => hs.keeps rfl (fun x hx =>
          AccessEffect.fetches_tryJoinFetched hx hnone res) rfl rfl,
          rfl, rfl, rfl⟩
      · cases he
  | spaceBodyRead i body =>
      refine settle_stepped (fun e e' he => ?_) h
      split at he
      · rename_i hreads
        cases he
        exact ⟨fun hs => hs.spaceBodyRead hreads.1 body, rfl, rfl, rfl⟩
      · cases he
  | tryJoinBodyRead i body =>
      refine settle_stepped (fun e e' he => ?_) h
      split at he
      · rename_i hreads
        cases he
        exact ⟨fun hs => hs.tryJoinBodyRead hreads.1 body, rfl, rfl, rfl⟩
      · cases he
  | resume i =>
      obtain ⟨r, hr, heq⟩ := Option.map_eq_some_iff.mp h
      obtain ⟨e, he, hres⟩ := Option.bind_eq_some_iff.mp hr
      exact .resumed i e r.1 r.2 he hres heq

/-- What a run of the effect is after the cleanup: the last one is marked. -/
theorem SpacePage.cleanup_effect {i : Nat} {e' : AccessEffect}
    (h : p.cleanup.effects[i]? = some e') : ∃ e, p.effects[i]? = some e ∧
      e' = { e with
        cancelled := e.cancelled || decide (p.effects.length - 1 = i) } := by
  unfold SpacePage.cleanup at h
  rw [List.getElem?_modify] at h
  obtain ⟨e, he, heq⟩ := Option.map_eq_some_iff.mp h
  refine ⟨e, he, ?_⟩
  rw [← heq]
  split
  · rename_i hi
    simp [hi]
  · rename_i hi
    simp [hi]

namespace Current

theorem mount (spaceUuid : Uuid) : Current (.mount spaceUuid) [] where
  newest i e he _ := by
    cases i with
    | zero =>
        cases he
        exact ⟨rfl, rfl, rfl⟩
    | succ i => cases he
  sound e he := by
    rw [List.mem_singleton.mp he]
    trivial
  once i x hx := absurd hx List.not_mem_nil
  url hurl := absurd rfl hurl
  opened _ _ hopened := absurd hopened List.not_mem_nil

/-- After the cleanup every run is cancelled. -/
theorem cancelled (h : Current p tr) {i : Nat} {e : AccessEffect}
    (he : p.cleanup.effects[i]? = some e) : e.cancelled = true := by
  obtain ⟨e₀, he₀, rfl⟩ := SpacePage.cleanup_effect he
  cases hc : e₀.cancelled with
  | true => rfl
  | false =>
      obtain ⟨-, hlast, -⟩ := h.newest i e₀ he₀ hc
      have hi : p.effects.length - 1 = i := by omega
      simp [hi]

theorem cleanup_sound (h : Current p tr) :
    ∀ e ∈ p.cleanup.effects, e.Sound := by
  intro e he
  obtain ⟨i, hi⟩ := List.mem_iff_getElem?.mp he
  obtain ⟨e₀, he₀, rfl⟩ := SpacePage.cleanup_effect hi
  exact (h.sound e₀ (List.mem_of_getElem? he₀)).keeps rfl
    (fun _ hx => hx) rfl rfl

theorem cleanup_once (h : Current p tr) {i : Nat} {x : Assignment}
    (hx : .assigned i x ∈ tr) :
    ∃ e, p.cleanup.effects[i]? = some e ∧ e.waiting = .nothing := by
  obtain ⟨e, he, hw⟩ := h.once i x hx
  unfold SpacePage.cleanup
  rw [List.getElem?_modify, he]
  refine ⟨_, rfl, ?_⟩
  split
  · exact hw
  · exact hw

/-- Replacing a run by what it has become keeps the page in order. -/
theorem replace (h : Current p tr) {i : Nat} {e e' : AccessEffect}
    (he : p.effects[i]? = some e) (hsound : e'.Sound)
    (huuid : e'.spaceUuid = e.spaceUuid)
    (hcancelled : e'.cancelled = e.cancelled)
    (hwaiting : e.waiting = .nothing → e'.waiting = .nothing) :
    Current { p with effects := p.effects.set i e' } tr := by
  have hi : i < p.effects.length := (List.getElem?_eq_some_iff.mp he).1
  have hget : ∀ j, (p.effects.set i e')[j]? =
      if i = j then some e' else p.effects[j]? := by
    intro j
    rw [List.getElem?_set, if_pos hi]
  refine ⟨fun j f hf hc => ?_, fun f hf => ?_, fun j x hx => ?_, h.url,
    h.opened⟩
  · show p.mounted = true ∧ j + 1 = (p.effects.set i e').length ∧ _
    rw [List.length_set]
    rw [hget] at hf
    split at hf
    · rename_i hij
      cases hf
      rw [huuid, ← hij]
      exact h.newest i e he (hcancelled ▸ hc)
    · exact h.newest j f hf hc
  · rcases List.mem_or_eq_of_mem_set hf with hf | rfl
    · exact h.sound f hf
    · exact hsound
  · obtain ⟨f, hf, hw⟩ := h.once j x hx
    show ∃ f, (p.effects.set i e')[j]? = some f ∧ _
    rw [hget]
    split
    · rename_i hij
      rw [hij, hf] at he
      cases he
      exact ⟨e', rfl, hwaiting hw⟩
    · exact ⟨f, hf, hw⟩

/-- The setters are called by a run that has returned. -/
theorem assign (h : Current p tr) {i : Nat} {e : AccessEffect}
    {x : Option Assignment} (he : p.effects[i]? = some e)
    (hx : ∀ y, x = some y → e.waiting = .nothing ∧
      (y.serverUrl ≠ none → y.accessState = .available)) :
    Current (p.assign i x).1 (tr ++ (p.assign i x).2) := by
  cases x with
  | none =>
      show Current p (tr ++ [])
      rw [List.append_nil]
      exact h
  | some y =>
      obtain ⟨hw, havailable⟩ := hx y rfl
      refine ⟨h.newest, h.sound, fun j z hz => ?_, fun hurl => ?_,
        fun u url hopened => ?_⟩
      · rcases List.mem_append.mp hz with hz | hz
        · exact h.once j z hz
        · cases List.mem_singleton.mp hz
          exact ⟨e, he, hw⟩
      · obtain ⟨state, serverUrl⟩ := y
        cases serverUrl with
        | none =>
            obtain ⟨j, hj⟩ := h.url hurl
            exact ⟨j, List.mem_append_left _ hj⟩
        | some serverUrl =>
            have hstate := havailable (by simp)
            cases hstate
            exact ⟨i, List.mem_append_right _ List.mem_cons_self⟩
      · rcases List.mem_append.mp hopened with hin | hin
        · exact h.opened u url hin
        · cases List.mem_singleton.mp hin

/-- **One step** keeps the newest run the only one that is not cancelled. -/
theorem step (h : Current p tr) (hs : p.step a = some (p', obs)) :
    Current p' (tr ++ obs) := by
  -- by the kind of step
  cases SpacePage.stepped hs with
  | navigated spaceUuid hm hp hobs =>
      rw [hp, hobs, List.append_nil]
      refine ⟨fun i e he hc => ?_, fun e he => ?_, fun i x hx => ?_, h.url,
        h.opened⟩
      -- the new run is the last one, and the only one that is not cancelled
      · show p.mounted = true ∧
          i + 1 = (p.cleanup.effects ++ [AccessEffect.start spaceUuid]).length ∧
            e.spaceUuid = spaceUuid
        have he : (p.cleanup.effects ++ [AccessEffect.start spaceUuid])[i]? =
            some e := he
        rw [List.getElem?_append] at he
        split at he
        · have hcancelled := h.cancelled he
          rw [hc] at hcancelled
          cases hcancelled
        · rename_i hlt
          have hi : i - p.cleanup.effects.length = 0 := by
            have hbound := (List.getElem?_eq_some_iff.mp he).1
            rw [List.length_singleton] at hbound
            omega
          rw [hi] at he
          cases he
          refine ⟨hm, ?_, rfl⟩
          rw [List.length_append, List.length_singleton]
          omega
      -- the runs from before are as the cleanup leaves them
      · rcases List.mem_append.mp he with he | he
        · exact h.cleanup_sound e he
        · rw [List.mem_singleton.mp he]
          trivial
      · obtain ⟨e, he, hw⟩ := h.cleanup_once hx
        refine ⟨e, ?_, hw⟩
        show (p.cleanup.effects ++ [AccessEffect.start spaceUuid])[i]? = some e
        rw [List.getElem?_append_left (List.getElem?_eq_some_iff.mp he).1]
        exact he
  -- after an unmount every run is cancelled
  | unmounted hp hobs =>
      rw [hp, hobs, List.append_nil]
      refine ⟨fun i e he hc => ?_, h.cleanup_sound,
        fun i x hx => h.cleanup_once hx, h.url, h.opened⟩
      have hcancelled := h.cancelled he
      rw [hc] at hcancelled
      cases hcancelled
  -- a render opens a space, and changes no run
  | rendered heq =>
      unfold SpacePage.render at heq
      split at heq
      · cases heq
        refine ⟨h.newest, h.sound, fun i x hx => ?_, fun hurl => ?_,
          fun u url _ => Option.some_ne_none _⟩
        · rcases List.mem_append.mp hx with hx | hx
          · exact h.once i x hx
          · cases List.mem_singleton.mp hx
        · obtain ⟨i, hi⟩ := h.url hurl
          exact ⟨i, List.mem_append_left _ hi⟩
      · cases heq
        rw [List.append_nil]
        exact h
  | settled i e e' he hsound huuid hcancelled hwaiting hp hobs =>
      rw [hp, hobs, List.append_nil]
      exact h.replace he (hsound (h.sound e (List.mem_of_getElem? he))) huuid
        hcancelled fun hw => hwaiting.trans hw
  -- a run goes on, and calls the setters where it is not cancelled
  | resumed i e e' x he hres heq =>
      have hresumed :=
        AccessEffect.resume_resumed (h.sound e (List.mem_of_getElem? he)) hres
      have hi : i < p.effects.length := (List.getElem?_eq_some_iff.mp he).1
      have hreplaced := h.replace he hresumed.sound hresumed.spaceUuid
        hresumed.cancelled fun hw => by
          unfold AccessEffect.resume at hres
          rw [hw] at hres
          cases hres
      have hall := hreplaced.assign (i := i) (e := e') (x := x)
        (List.getElem?_set_self hi) fun y hy => (hresumed.assigned y hy).2.2
      rwa [heq] at hall

theorem run (h : accessMachine.Run anyStep past p tr) : Current p tr := by
  refine h.invariant Current ?_ fun _ _ _ _ _ hI _ hs => hI.step hs
  rintro _ ⟨spaceUuid, rfl⟩
  exact .mount spaceUuid

end Current

/-- The setters are called by the newest run, for the first time. -/
theorem Current.assigned (h : Current p tr)
    (hs : p.step a = some (p', obs)) {i : Nat} {x : Assignment}
    (hx : .assigned i x ∈ obs) :
    p.mounted = true ∧ i + 1 = p.effects.length ∧
      (∀ y, .assigned i y ∉ tr) ∧ p'.accessState = x.accessState ∧
      p'.serverUrl = x.serverUrl.getD p.serverUrl ∧
      ∃ e, p.effects[i]? = some e ∧ e.spaceUuid = p.spaceUuid ∧
        e.verdict = some x := by
  cases SpacePage.stepped hs with
  | navigated _ _ _ hobs | unmounted _ hobs | settled _ _ _ _ _ _ _ _ _ hobs =>
      rw [hobs] at hx
      cases hx
  | rendered heq =>
      unfold SpacePage.render at heq
      split at heq
      · cases heq
        cases List.mem_singleton.mp hx
      · cases heq
        cases hx
  | resumed j e e' y he hres heq =>
      have hresumed := AccessEffect.resume_resumed
        (h.sound e (List.mem_of_getElem? he)) hres
      cases y with
      | none =>
          cases heq
          cases hx
      | some y =>
          obtain ⟨hc, hverdict, -, -⟩ := hresumed.assigned y rfl
          obtain ⟨hm, hlast, huuid⟩ := h.newest j e he hc
          cases heq
          cases List.mem_singleton.mp hx
          refine ⟨hm, hlast, fun z hz => ?_, rfl, rfl, e, he, huuid, hverdict⟩
          -- a run that has called the setters has returned
          obtain ⟨f, hf, hw⟩ := h.once i z hz
          rw [he] at hf
          cases hf
          unfold AccessEffect.resume at hres
          rw [hw] at hres
          cases hres

/-- What the page shows changes with a call of the setters. -/
theorem SpacePage.step_accessState (hs : p.step a = some (p', obs))
    (hne : p'.accessState ≠ p.accessState) : ∃ i x, .assigned i x ∈ obs := by
  cases SpacePage.stepped hs with
  | navigated _ _ hp _ | unmounted hp _ | settled _ _ _ _ _ _ _ _ hp _ =>
      rw [hp] at hne
      exact absurd rfl hne
  | rendered heq =>
      unfold SpacePage.render at heq
      split at heq
      · cases heq
        exact absurd rfl hne
      · cases heq
        exact absurd rfl hne
  | resumed i _ _ x _ _ heq =>
      cases x with
      | none =>
          cases heq
          exact absurd rfl hne
      | some x =>
          cases heq
          exact ⟨i, x, List.mem_cons_self⟩

/-- A space is opened once, with a URL the setters were called with. -/
theorem Current.opens (h : Current p tr) (hs : p.step a = some (p', obs))
    {spaceUuid : Uuid} {url : Field} (hopened : .opened spaceUuid url ∈ obs) :
    spaceUuid = p.spaceUuid ∧ url ≠ .null ∧ (∀ u v, .opened u v ∉ tr) ∧
      ∃ i, .assigned i ⟨.available, some url⟩ ∈ tr := by
  cases SpacePage.stepped hs with
  | navigated _ _ _ hobs | unmounted _ hobs | settled _ _ _ _ _ _ _ _ _ hobs =>
      rw [hobs] at hopened
      cases hopened
  | rendered heq =>
      unfold SpacePage.render at heq
      split at heq
      · rename_i hfirst
        cases heq
        cases List.mem_singleton.mp hopened
        exact ⟨rfl, hfirst.2, fun u v hin => h.opened u v hin hfirst.1,
          h.url hfirst.2⟩
      · cases heq
        cases hopened
  | resumed _ _ _ x _ _ heq =>
      cases x with
      | none =>
          cases heq
          cases hopened
      | some x =>
          cases heq
          cases List.mem_singleton.mp hopened

/-- **What the page shows.**  In every run (answers in any order, with any
content or none, the route changing at any time): when the page changes what
it shows, it is still mounted, the change comes from the effect of the uuid
it has, once from each effect, and shows what the two answers to that effect
say.  A space is opened once, with the URL of an answer that let the page
join, and never with `null`. -/
theorem access_current (h : accessMachine.Run anyStep past p tr)
    (hs : p.step a = some (p', obs)) :
    (p'.accessState ≠ p.accessState → ∃ i x, .assigned i x ∈ obs) ∧
    (∀ i x, .assigned i x ∈ obs →
      p.mounted = true ∧ i + 1 = p.effects.length ∧
      (∀ y, .assigned i y ∉ tr) ∧ p'.accessState = x.accessState ∧
      p'.serverUrl = x.serverUrl.getD p.serverUrl ∧
      ∃ e, p.effects[i]? = some e ∧ e.spaceUuid = p.spaceUuid ∧
        e.verdict = some x) ∧
    ∀ spaceUuid url, .opened spaceUuid url ∈ obs →
      spaceUuid = p.spaceUuid ∧ url ≠ .null ∧ (∀ u v, .opened u v ∉ tr) ∧
      ∃ i, .assigned i ⟨.available, some url⟩ ∈ tr := by
  have hcurrent := Current.run h
  exact ⟨SpacePage.step_accessState hs, fun _ _ => hcurrent.assigned hs,
    fun _ _ => hcurrent.opens hs⟩

section Joined

/-- The answers come in the other order, after a first visit of another
space whose answers are still missing. -/
def joined : List PageAction :=
  [.navigate "room", .spaceFetched 0 (.fulfilled ⟨404⟩),
   .tryJoinFetched 1 (.fulfilled ⟨200⟩), .spaceFetched 1 (.fulfilled ⟨200⟩),
   .resume 1,
   .spaceBodyRead 1 (.fulfilled (some ⟨.string "running", .undefined⟩)),
   .tryJoinFetched 0 (.fulfilled ⟨404⟩), .resume 0, .resume 1,
   .tryJoinBodyRead 1
     (.fulfilled (some ⟨.undefined, .string "ws://localhost:3000"⟩))]

/-- The page is about to show that its space can be joined. -/
theorem access_current_joined : ∃ p p' obs,
    p.spaceUuid = "room" ∧ p.accessState = .loading ∧
    SpacePage.step p (.resume 1) = some (p', obs) ∧
    p'.accessState = .available ∧ 1 + 1 = p.effects.length := by
  obtain ⟨past, p, tr, hr, hp⟩ := Machine.Run.exists_of_exec
    (M := accessMachine) (G := anyStep) (s := .mount "hall") (l := joined)
    (p := fun r => decide (r.2.1.spaceUuid = "room" ∧
      r.2.1.accessState = .loading ∧
      (r.2.1.step (.resume 1)).map Prod.snd = some [.assigned 1
        ⟨.available, some (.string "ws://localhost:3000")⟩]))
    ⟨"hall", rfl⟩ (by decide)
  obtain ⟨huuid, hloading, hstep⟩ := of_decide_eq_true hp
  obtain ⟨⟨p', obs⟩, hs, hobs⟩ := Option.map_eq_some_iff.mp hstep
  cases hobs
  obtain ⟨-, hassigned, -⟩ := access_current hr hs
  obtain ⟨-, hlast, -, hshown, -⟩ := hassigned 1 _ List.mem_cons_self
  exact ⟨p, p', _, huuid, hloading, hs, hshown, hlast⟩

end Joined

end Twolk.Web.Page

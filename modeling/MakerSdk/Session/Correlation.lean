import MakerSdk.Base.Maps
import MakerSdk.Base.Runs
import MakerSdk.Session.Tracker

namespace MakerSdk.Session

open Base

def ClientMessage.quoteOrder : ClientMessage → Option OrderId
  | .quote message | .replaceQuote message => some message.orderId
  | _ => none

def ServerMessage.quoteOrder : ServerMessage → Option OrderId
  | .quoteAcknowledged orderId | .quoteRejected orderId => some orderId
  | _ => none

/-- A server message answers a request: they share a request id, a quote's order, or all order
ids of a batch, counted with repetitions. -/
inductive Answers : ClientMessage → ServerMessage → Prop where
  | request {request : ClientMessage} {message : ServerMessage} {id : Uuid}
      (hr : request.requestId = some id) (hm : message.requestId = some id) :
    Answers request message
  | quote {request : ClientMessage} {message : ServerMessage} {orderId : OrderId}
      (hr : request.quoteOrder = some orderId) (hm : message.quoteOrder = some orderId) :
    Answers request message
  | batch {quotes : List QuoteMessage} {orderIds : List OrderId}
      (h : (quotes.map QuoteMessage.orderId).Perm orderIds) :
    Answers (.batchQuotes quotes) (.batchQuotesAck orderIds)

theorem sortedOrderIds_perm {ids ids' : List OrderId}
    (h : sortedOrderIds ids = sortedOrderIds ids') : ids.Perm ids' := by
  have hids := List.perm_insertionSort (fun a b : OrderId ↦ a.toList ≤ b.toList) ids
  have hids' := List.perm_insertionSort (fun a b : OrderId ↦ a.toList ≤ b.toList) ids'
  unfold sortedOrderIds at h
  exact hids.symm.trans (h ▸ hids')

namespace CorrelationKey

variable {request : ClientMessage} {message : ServerMessage} {keys : List CorrelationKey}
  {key : CorrelationKey}

theorem forClient_singleton (h : forClient request = some keys) : ∃ key, keys = [key] := by
  cases request
  all_goals first
    | exact ⟨_, (Option.some.inj h).symm⟩
    | cases h

theorem forClient_request {id : Uuid} (h : forClient request = some [.request id]) :
    request.requestId = some id := by
  cases request <;> cases h <;> rfl

theorem answers_of_key (hc : forClient request = some [key]) (hs : forServer message = some key) :
    Answers request message := by
  cases key with
  | request id =>
    refine .request (forClient_request hc) ?_
    cases message <;> cases hs <;> rfl
  | quote orderId =>
    refine @Answers.quote _ _ orderId ?_ ?_
    · cases request <;> cases hc <;> rfl
    · cases message <;> cases hs <;> rfl
  | batch orderIds =>
    cases message with
    | batchQuotesAck ids =>
      cases request with
      | batchQuotes quotes =>
        refine .batch (sortedOrderIds_perm ?_)
        have hkey := List.cons.inj (Option.some.inj hc)
        rw [CorrelationKey.batch.inj hkey.1, CorrelationKey.batch.inj (Option.some.inj hs)]
      | _ => cases hc
    | _ => cases hs

end CorrelationKey

namespace AwaitTracker

variable {tracker tracker' : AwaitTracker} {isClosed : Waiter → Bool} {awaitId : ℕ}
  {ids : List ℕ} {removed : List Waiter}

/-- The two maps name each other's entries: a key leads to the await that waits under it. -/
def Consistent (tracker : AwaitTracker) : Prop :=
  ∀ key awaitId, tracker.byKey.lookup key = some awaitId ↔
    ∃ pending, tracker.byId.lookup awaitId = some pending ∧ key ∈ pending.keys

structure Removes (tracker tracker' : AwaitTracker) (ids : List ℕ) (removed : List Waiter) :
    Prop where
  lookup : ∀ awaitId, tracker'.byId.lookup awaitId =
    if awaitId ∈ ids then none else tracker.byId.lookup awaitId
  consistent : tracker.Consistent → tracker'.Consistent
  waiters : tracker.waiters.Perm (removed ++ tracker'.waiters)
  maxPending : tracker'.maxPending = tracker.maxPending

theorem Removes.refl (tracker : AwaitTracker) : Removes tracker tracker [] [] :=
  ⟨fun _ ↦ rfl, fun h ↦ h, .refl _, rfl⟩

variable {pending : PendingAwait}

theorem Removes.kept (h : Removes tracker tracker' ids removed)
    (hlookup : tracker'.byId.lookup awaitId = some pending) :
    awaitId ∉ ids ∧ tracker.byId.lookup awaitId = some pending := by
  rw [h.lookup] at hlookup
  split at hlookup
  · cases hlookup
  · rename_i hids
    exact ⟨hids, hlookup⟩

theorem Removes.untouched (h : Removes tracker tracker' ids removed) (hc : tracker.Consistent)
    (hid : awaitId ∉ ids) (hlookup : tracker.byId.lookup awaitId = some pending) :
    tracker'.byId.lookup awaitId = some pending ∧
      ∀ key ∈ pending.keys, tracker'.byKey.lookup key = some awaitId := by
  have hl : tracker'.byId.lookup awaitId = some pending := by
    rw [h.lookup, if_neg hid]
    exact hlookup
  exact ⟨hl, fun key hkey ↦ (h.consistent hc key awaitId).mpr ⟨pending, hl, hkey⟩⟩

theorem Removes.length_le (h : Removes tracker tracker' ids removed) :
    tracker'.byId.entries.length ≤ tracker.byId.entries.length := by
  have hl := h.waiters.length_eq
  simp only [AwaitTracker.waiters, List.length_map, List.length_append] at hl
  omega

theorem Consistent.cancel (h : tracker.Consistent)
    (hlookup : tracker.byId.lookup awaitId = some pending) :
    (tracker.cancel awaitId).2.Consistent := by
  intro key other
  simp only [AwaitTracker.cancel, hlookup, Maps.lookup_foldl_erase]
  by_cases hother : other = awaitId
  · subst hother
    simp only [AList.lookup_erase, reduceCtorEq, false_and, exists_false, iff_false]
    split
    · exact fun h ↦ by cases h
    · rename_i hkey
      intro hk
      obtain ⟨pending', hp, hk⟩ := (h key other).mp hk
      cases hlookup.symm.trans hp
      exact hkey hk
  · rw [AList.lookup_erase_ne hother, ← h key other]
    split
    · rename_i hkey
      have hk := (h key awaitId).mpr ⟨pending, hlookup, hkey⟩
      rw [hk]
      simpa using Ne.symm hother
    · rfl

theorem cancel_removes (hlookup : tracker.byId.lookup awaitId = some pending) :
    Removes tracker (tracker.cancel awaitId).2 [awaitId] [pending.tx] where
  lookup other := by
    simp only [cancel, hlookup, List.mem_singleton]
    split
    · rename_i h
      rw [h, AList.lookup_erase]
    · rename_i h
      exact AList.lookup_erase_ne h
  consistent h := h.cancel hlookup
  waiters := by
    simp only [cancel, hlookup]
    exact (Maps.entries_erase_perm hlookup).map (fun entry ↦ entry.2.tx)
  maxPending := by simp only [cancel, hlookup]

theorem Removes.trans {last : AwaitTracker} {ids' : List ℕ} {removed' : List Waiter}
    (h : Removes tracker tracker' ids removed) (h' : Removes tracker' last ids' removed') :
    Removes tracker last (ids ++ ids') (removed ++ removed') where
  lookup awaitId := by
    rw [h'.lookup, h.lookup]
    by_cases hid : awaitId ∈ ids
    · simp [hid]
    · simp [hid]
  consistent hc := h'.consistent (h.consistent hc)
  waiters := by
    rw [List.append_assoc]
    exact h.waiters.trans (h'.waiters.append_left removed)
  maxPending := h'.maxPending.trans h.maxPending

theorem foldl_cancel_removes {entries : List (Sigma fun _ : ℕ ↦ PendingAwait)}
    (hnodup : (entries.map Sigma.fst).Nodup)
    (hlookup : ∀ entry ∈ entries, tracker.byId.lookup entry.1 = some entry.2) :
    Removes tracker (entries.foldl (fun tracker entry ↦ (tracker.cancel entry.1).2) tracker)
      (entries.map Sigma.fst) (entries.map fun entry ↦ entry.2.tx) := by
  induction entries generalizing tracker with
  | nil => exact .refl tracker
  | cons entry entries ih =>
    have hentry := cancel_removes (hlookup entry List.mem_cons_self)
    obtain ⟨hnew, hnodup⟩ := List.nodup_cons.mp hnodup
    refine hentry.trans (ih hnodup fun other hother ↦ ?_)
    have hne : other.1 ∉ [entry.1] := by
      intro h
      rw [← List.mem_singleton.mp h] at hnew
      exact hnew (List.mem_map_of_mem hother)
    rw [hentry.lookup, if_neg hne]
    exact hlookup other (List.mem_cons_of_mem _ hother)

def closedAwaits (isClosed : Waiter → Bool) (tracker : AwaitTracker) :
    List (Sigma fun _ : ℕ ↦ PendingAwait) :=
  tracker.byId.entries.filter fun entry ↦ isClosed entry.2.tx

theorem pruneClosed_removes :
    Removes tracker (tracker.pruneClosed isClosed)
      ((tracker.closedAwaits isClosed).map Sigma.fst)
      ((tracker.closedAwaits isClosed).map fun entry ↦ entry.2.tx) := by
  have hsub : (tracker.closedAwaits isClosed).Sublist tracker.byId.entries := List.filter_sublist
  refine foldl_cancel_removes ?_ fun entry he ↦ ?_
  · exact (List.Sublist.map _ hsub).nodup tracker.byId.nodupKeys
  · exact AList.mem_lookup_iff.mpr (hsub.subset he)

def pruned (isClosed : Waiter → Bool) (tracker : AwaitTracker) (keys : List CorrelationKey) :
    List (Sigma fun _ : ℕ ↦ PendingAwait) :=
  if tracker.byId.entries.length ≥ tracker.maxPending ∨ tracker.taken keys then
    tracker.closedAwaits isClosed
  else []

theorem makeRoom_removes {keys : List CorrelationKey} :
    Removes tracker (tracker.makeRoom isClosed keys)
      ((tracker.pruned isClosed keys).map Sigma.fst)
      ((tracker.pruned isClosed keys).map fun entry ↦ entry.2.tx) := by
  unfold makeRoom pruned
  split
  · exact pruneClosed_removes
  · exact .refl tracker

theorem pruned_closed {keys : List CorrelationKey}
    (hlookup : tracker.byId.lookup awaitId = some pending) (hopen : isClosed pending.tx = false) :
    awaitId ∉ (tracker.pruned isClosed keys).map Sigma.fst := by
  intro h
  obtain ⟨⟨id, other⟩, hentry, rfl⟩ := List.mem_map.mp h
  unfold pruned at hentry
  split at hentry
  · obtain ⟨hmem, hclosed⟩ := List.mem_filter.mp hentry
    have hother : tracker.byId.lookup id = some other := AList.mem_lookup_iff.mpr hmem
    cases hlookup.symm.trans hother
    cases hopen.symm.trans hclosed
  · cases hentry

theorem register_cases {keys : List CorrelationKey} {tx : Waiter} {displaced : List Waiter}
    {result : Except SendAwaitError Unit}
    (h : register isClosed tracker awaitId keys tx = (result, tracker', displaced)) :
    (∃ error, result = .error error ∧ tracker' = tracker.makeRoom isClosed keys ∧
      displaced = []) ∨
    result = .ok () ∧
      (tracker.makeRoom isClosed keys).byId.entries.length < tracker.maxPending ∧
      (∀ key ∈ keys, (tracker.makeRoom isClosed keys).byKey.lookup key = none) ∧
      tracker' =
        { tracker.makeRoom isClosed keys with
          byKey := keys.foldl (fun map key ↦ map.insert key awaitId)
            (tracker.makeRoom isClosed keys).byKey
          byId := (tracker.makeRoom isClosed keys).byId.insert awaitId ⟨keys, tx⟩ } ∧
      displaced =
        ((tracker.makeRoom isClosed keys).byId.lookup awaitId).toList.map PendingAwait.tx := by
  have hmax : (tracker.makeRoom isClosed keys).maxPending = tracker.maxPending :=
    makeRoom_removes.maxPending
  unfold register at h
  dsimp only at h
  split at h
  · cases h
    exact .inl ⟨_, rfl, rfl, rfl⟩
  split at h
  · cases h
    exact .inl ⟨_, rfl, rfl, rfl⟩
  · rename_i hfull htaken
    cases h
    refine .inr ⟨rfl, hmax ▸ not_le.mp hfull, fun key hkey ↦ ?_, rfl, rfl⟩
    simp only [taken, List.any_eq_true, not_exists, not_and, Bool.not_eq_true,
      Option.isSome_eq_false_iff, Option.isNone_iff_eq_none] at htaken
    exact htaken key hkey

theorem Consistent.insert {keys : List CorrelationKey} {tx : Waiter} (h : tracker.Consistent)
    (hnew : tracker.byId.lookup awaitId = none)
    (hkeys : ∀ key ∈ keys, tracker.byKey.lookup key = none) :
    Consistent
      { tracker with
        byKey := keys.foldl (fun map key ↦ map.insert key awaitId) tracker.byKey
        byId := tracker.byId.insert awaitId ⟨keys, tx⟩ } := by
  intro key other
  rw [Maps.lookup_foldl_insert]
  by_cases hother : other = awaitId
  · subst hother
    simp only [AList.lookup_insert, Option.some.injEq, exists_eq_left']
    split
    · rename_i hkey
      simp [hkey]
    · rename_i hkey
      simp only [hkey, iff_false]
      intro hk
      obtain ⟨pending, hp, -⟩ := (h key other).mp hk
      cases hnew.symm.trans hp
  · rw [AList.lookup_insert_ne hother, ← h key other]
    split
    · rename_i hkey
      rw [hkeys key hkey]
      simpa using Ne.symm hother
    · rfl

end AwaitTracker

inductive AwaitEvent where
  | registered (awaitId : ℕ) (request : ClientMessage) (tx : Waiter)
  | answered (tx : Waiter) (message : ServerMessage)
  | unreadable (tx : Waiter) (requestId : Uuid)
  | drained (tx : Waiter)
  | released (tx : Waiter)

namespace AwaitEvent

def awaitId? : AwaitEvent → Option ℕ
  | registered awaitId _ _ => some awaitId
  | _ => none

def registered? : AwaitEvent → Option Waiter
  | registered _ _ tx => some tx
  | _ => none

def settled? : AwaitEvent → Option Waiter
  | registered _ _ _ => none
  | answered tx _ | unreadable tx _ | drained tx | released tx => some tx

/-- A waiter is answered by a message, an unreadable response or the drain; `released` is one
whose sender a cancel gave back or a prune dropped. -/
def answered? : AwaitEvent → Option Waiter
  | answered tx _ | unreadable tx _ | drained tx => some tx
  | registered _ _ _ | released _ => none

end AwaitEvent

structure Awaiting where
  tracker : AwaitTracker
  log : List AwaitEvent

inductive AwaitOp where
  | register (awaitId : ℕ) (request : ClientMessage) (tx : Waiter) (isClosed : Waiter → Bool)
  | cancel (awaitId : ℕ)
  | message (message : ServerMessage)
  | unreadable (requestId : Uuid)
  | prune (isClosed : Waiter → Bool)
  | drain

namespace Awaiting

def new (maxPending : ℕ) : Awaiting := ⟨AwaitTracker.new maxPending, []⟩

def awaitIds (s : Awaiting) : List ℕ :=
  s.log.filterMap AwaitEvent.awaitId?

def settle (s : Awaiting) (event : Waiter → AwaitEvent)
    (taken : Option Waiter × AwaitTracker) : Awaiting :=
  ⟨taken.2, s.log ++ taken.1.toList.map event⟩

def release (s : Awaiting) (tracker : AwaitTracker)
    (entries : List (Sigma fun _ : ℕ ↦ PendingAwait)) : Awaiting :=
  ⟨tracker, s.log ++ entries.map fun entry ↦ .released entry.2.tx⟩

/-- One call of the session; an await id is registered at most once. -/
def step (s : Awaiting) : AwaitOp → Option Awaiting
  | .register awaitId request tx isClosed =>
    if awaitId ∈ s.awaitIds then none
    else
      match CorrelationKey.forClient request with
      | none => some s
      | some keys =>
        let result := s.tracker.register isClosed awaitId keys tx
        let room := s.release result.2.1 (s.tracker.pruned isClosed keys)
        match result.1 with
        | .error _ => some room
        | .ok () =>
          some { room with
            log := room.log ++ (result.2.2.map .released ++ [.registered awaitId request tx]) }
  | .cancel awaitId => some (s.settle .released (s.tracker.cancel awaitId))
  | .message message => some (s.settle (.answered · message) (s.tracker.takeForMessage message))
  | .unreadable requestId =>
    some (s.settle (.unreadable · requestId) (s.tracker.takeForRequest requestId))
  | .prune isClosed =>
    some (s.release (s.tracker.pruneClosed isClosed) (s.tracker.closedAwaits isClosed))
  | .drain => some ⟨s.tracker.drainAll.2, s.log ++ s.tracker.drainAll.1.map .drained⟩

def Delivers (before : List AwaitEvent) : AwaitEvent → Prop
  | .answered tx message =>
    ∃ awaitId request, .registered awaitId request tx ∈ before ∧ Answers request message
  | .unreadable tx requestId =>
    ∃ awaitId request, .registered awaitId request tx ∈ before ∧
      request.requestId = some requestId
  | _ => True

def registered (log : List AwaitEvent) : List Waiter := log.filterMap AwaitEvent.registered?
def settled (log : List AwaitEvent) : List Waiter := log.filterMap AwaitEvent.settled?
def answered (log : List AwaitEvent) : List Waiter := log.filterMap AwaitEvent.answered?

structure Tracked (limit : ℕ) (s : Awaiting) : Prop where
  maxPending : s.tracker.maxPending = limit
  consistent : s.tracker.Consistent
  origin : ∀ awaitId pending, s.tracker.byId.lookup awaitId = some pending →
    ∃ request, .registered awaitId request pending.tx ∈ s.log ∧
      CorrelationKey.forClient request = some pending.keys
  bounded : s.tracker.byId.entries.length ≤ limit
  balance : (registered s.log).Perm (settled s.log ++ s.tracker.waiters)
  delivers : Runs.Justified Delivers s.log

section Steps

variable {limit : ℕ} {s : Awaiting} {tracker : AwaitTracker} {ids : List ℕ} {removed : List Waiter}

theorem Tracked.removes {events : List AwaitEvent} (h : s.Tracked limit)
    (hr : s.tracker.Removes tracker ids removed) (hnone : registered events = [])
    (hsettled : settled events = removed)
    (hdelivers : ∀ event ∈ events, ∀ before, Delivers (s.log ++ before) event) :
    Tracked limit ⟨tracker, s.log ++ events⟩ where
  maxPending := hr.maxPending.trans h.maxPending
  consistent := hr.consistent h.consistent
  origin awaitId pending hlookup := by
    obtain ⟨request, hmem, hkeys⟩ := h.origin awaitId pending (hr.kept hlookup).2
    exact ⟨request, List.mem_append_left _ hmem, hkeys⟩
  bounded := hr.length_le.trans h.bounded
  balance := by
    simp only [registered, settled, List.filterMap_append] at hnone hsettled ⊢
    rw [hnone, hsettled, List.append_nil, List.append_assoc]
    exact h.balance.trans (hr.waiters.append_left _)
  delivers := h.delivers.append hdelivers

theorem Tracked.cancel {event : Waiter → AwaitEvent} {awaitId : ℕ} (h : s.Tracked limit)
    (hnone : ∀ tx, (event tx).registered? = none) (hsettled : ∀ tx, (event tx).settled? = some tx)
    (hdelivers : ∀ pending, s.tracker.byId.lookup awaitId = some pending → ∀ before,
      Delivers (s.log ++ before) (event pending.tx)) :
    (s.settle event (s.tracker.cancel awaitId)).Tracked limit := by
  cases hlookup : s.tracker.byId.lookup awaitId with
  | none =>
    have hcancel : s.tracker.cancel awaitId = (none, s.tracker) := by
      simp [AwaitTracker.cancel, hlookup]
    simpa [settle, hcancel] using h
  | some pending =>
    have hfst : (s.tracker.cancel awaitId).1 = some pending.tx := by
      simp [AwaitTracker.cancel, hlookup]
    unfold settle
    rw [hfst]
    refine h.removes (AwaitTracker.cancel_removes hlookup) ?_ ?_ ?_
    · simp [registered, hnone]
    · simp [settled, hsettled]
    · intro e he before
      rw [List.mem_singleton.mp he]
      exact hdelivers pending hlookup before

theorem Tracked.takeForKey {event : Waiter → AwaitEvent} {key : CorrelationKey}
    (h : s.Tracked limit)
    (hnone : ∀ tx, (event tx).registered? = none) (hsettled : ∀ tx, (event tx).settled? = some tx)
    (hdelivers : ∀ awaitId request tx, .registered awaitId request tx ∈ s.log →
      CorrelationKey.forClient request = some [key] → ∀ before,
        Delivers (s.log ++ before) (event tx)) :
    (s.settle event (s.tracker.takeForKey key)).Tracked limit := by
  unfold AwaitTracker.takeForKey
  split
  · simpa [settle] using h
  · rename_i awaitId hkey
    obtain ⟨pending, hlookup, hmem⟩ := (h.consistent key awaitId).mp hkey
    refine h.cancel hnone hsettled fun pending' hlookup' before ↦ ?_
    cases hlookup.symm.trans hlookup'
    obtain ⟨request, hrequest, hkeys⟩ := h.origin awaitId pending hlookup
    obtain ⟨key', hkey'⟩ := CorrelationKey.forClient_singleton hkeys
    rw [hkey'] at hmem hkeys
    rw [← List.mem_singleton.mp hmem] at hkeys
    exact hdelivers awaitId request pending.tx hrequest hkeys before

theorem Tracked.release {entries : List (Sigma fun _ : ℕ ↦ PendingAwait)} (h : s.Tracked limit)
    (hr : s.tracker.Removes tracker ids (entries.map fun entry ↦ entry.2.tx)) :
    (s.release tracker entries).Tracked limit := by
  refine h.removes hr ?_ ?_ ?_
  · simp [registered, AwaitEvent.registered?, Function.comp_def]
  · simp [settled, AwaitEvent.settled?, Function.comp_def]
  · intro event he before
    obtain ⟨entry, -, rfl⟩ := List.mem_map.mp he
    trivial

theorem Tracked.insert {awaitId : ℕ} {request : ClientMessage} {keys : List CorrelationKey}
    {tx : Waiter} (h : s.Tracked limit) (hrequest : CorrelationKey.forClient request = some keys)
    (hnew : s.tracker.byId.lookup awaitId = none)
    (hroom : s.tracker.byId.entries.length < limit)
    (hkeys : ∀ key ∈ keys, s.tracker.byKey.lookup key = none) :
    Tracked limit
      ⟨{ s.tracker with
          byKey := keys.foldl (fun map key ↦ map.insert key awaitId) s.tracker.byKey
          byId := s.tracker.byId.insert awaitId ⟨keys, tx⟩ },
        s.log ++ [.registered awaitId request tx]⟩ := by
  have hentries : (s.tracker.byId.insert awaitId ⟨keys, tx⟩).entries =
      ⟨awaitId, ⟨keys, tx⟩⟩ :: s.tracker.byId.entries := by
    rw [AList.entries_insert_of_notMem (AList.lookup_eq_none.mp hnew)]
  refine ⟨h.maxPending, h.consistent.insert hnew hkeys, fun other pending hlookup ↦ ?_, ?_, ?_, ?_⟩
  · by_cases hother : other = awaitId
    · subst hother
      rw [AList.lookup_insert] at hlookup
      cases hlookup
      exact ⟨request, by simp, hrequest⟩
    · rw [AList.lookup_insert_ne hother] at hlookup
      obtain ⟨request', hmem, hkeys'⟩ := h.origin other pending hlookup
      exact ⟨request', List.mem_append_left _ hmem, hkeys'⟩
  · rw [hentries]
    exact hroom
  · have hlog : settled (s.log ++ [.registered awaitId request tx]) = settled s.log := by
      simp [settled, AwaitEvent.settled?, List.filterMap_cons]
    have hadded : registered (s.log ++ [.registered awaitId request tx]) =
        registered s.log ++ [tx] := List.filterMap_append
    rw [AwaitTracker.waiters, hentries, hlog, hadded]
    exact (List.perm_append_singleton tx _).trans
      ((h.balance.cons tx).trans List.perm_middle.symm)
  · exact Runs.justified_concat.mpr ⟨h.delivers, trivial⟩

theorem Tracked.drain (h : s.Tracked limit) :
    Tracked limit ⟨s.tracker.drainAll.2, s.log ++ s.tracker.drainAll.1.map .drained⟩ where
  maxPending := h.maxPending
  consistent key awaitId := by simp [AwaitTracker.drainAll]
  origin awaitId pending hlookup := by simp [AwaitTracker.drainAll] at hlookup
  bounded := Nat.zero_le _
  balance := by
    simpa [registered, settled, AwaitTracker.drainAll, AwaitTracker.waiters, Function.comp_def,
      AwaitEvent.registered?, AwaitEvent.settled?] using h.balance
  delivers := by
    refine h.delivers.append fun event he before ↦ ?_
    obtain ⟨tx, -, rfl⟩ := List.mem_map.mp he
    trivial

theorem Tracked.register {awaitId : ℕ} {request : ClientMessage} {tx : Waiter}
    {isClosed : Waiter → Bool} {t : Awaiting} (h : s.Tracked limit)
    (hs : s.step (.register awaitId request tx isClosed) = some t) : t.Tracked limit := by
  simp only [step] at hs
  split at hs
  · cases hs
  rename_i hfresh
  split at hs
  · cases hs
    exact h
  rename_i keys hrequest
  have hremoves := @AwaitTracker.makeRoom_removes s.tracker isClosed keys
  have hroom := h.release hremoves
  have hnew : (s.tracker.makeRoom isClosed keys).byId.lookup awaitId = none := by
    by_contra hsome
    obtain ⟨pending, hlookup⟩ := Option.ne_none_iff_exists'.mp hsome
    obtain ⟨request', hmem, -⟩ := h.origin awaitId pending (hremoves.kept hlookup).2
    exact hfresh (List.mem_filterMap.mpr ⟨_, hmem, rfl⟩)
  rcases hresult : s.tracker.register isClosed awaitId keys tx with ⟨result, tracker, displaced⟩
  rw [hresult] at hs
  rcases AwaitTracker.register_cases hresult with
    ⟨error, rfl, rfl, rfl⟩ | ⟨rfl, hlt, hkeys, rfl, rfl⟩
  · cases hs
    exact hroom
  · rw [h.maxPending] at hlt
    rw [hnew] at hs
    cases hs
    exact hroom.insert hrequest hnew hlt hkeys

theorem Tracked.step {op : AwaitOp} {t : Awaiting} (h : s.Tracked limit) (hs : s.step op = some t) :
    t.Tracked limit := by
  cases op with
  | register => exact h.register hs
  | cancel awaitId =>
    cases hs
    exact h.cancel (fun _ ↦ rfl) (fun _ ↦ rfl) (fun _ _ _ ↦ trivial)
  | message message =>
    cases hs
    cases hkey : CorrelationKey.forServer message with
    | none => simpa [AwaitTracker.takeForMessage, hkey, settle] using h
    | some key =>
      simp only [AwaitTracker.takeForMessage, hkey]
      refine h.takeForKey (fun _ ↦ rfl) (fun _ ↦ rfl) ?_
      intro awaitId request tx hmem hrequest before
      exact ⟨awaitId, request, List.mem_append_left _ hmem,
        CorrelationKey.answers_of_key hrequest hkey⟩
  | unreadable requestId =>
    cases hs
    refine h.takeForKey (fun _ ↦ rfl) (fun _ ↦ rfl) ?_
    intro awaitId request tx hmem hrequest before
    exact ⟨awaitId, request, List.mem_append_left _ hmem,
      CorrelationKey.forClient_request hrequest⟩
  | prune isClosed =>
    cases hs
    exact h.release AwaitTracker.pruneClosed_removes
  | drain =>
    cases hs
    exact h.drain

end Steps

theorem tracked_new (limit : ℕ) : (new limit).Tracked limit where
  maxPending := rfl
  consistent key awaitId := by simp [new, AwaitTracker.new]
  origin awaitId pending hlookup := by simp [new, AwaitTracker.new] at hlookup
  bounded := Nat.zero_le _
  balance := .refl _
  delivers := Runs.justified_nil

theorem tracked_run {limit : ℕ} {ops : List AwaitOp} {s : Awaiting}
    (h : Runs.run step (new limit) ops = some s) : s.Tracked limit :=
  Runs.run_invariant (fun _ _ _ h hs ↦ h.step hs) (tracked_new limit) h

theorem Tracked.byKey_length {limit : ℕ} {s : Awaiting} (h : s.Tracked limit) :
    s.tracker.byKey.entries.length ≤ s.tracker.byId.entries.length := by
  have howner : ∀ entry ∈ s.tracker.byKey.entries, ∃ pending,
      s.tracker.byId.lookup entry.2 = some pending ∧ pending.keys = [entry.1] := by
    intro entry he
    obtain ⟨pending, hlookup, hmem⟩ :=
      (h.consistent entry.1 entry.2).mp (AList.mem_lookup_iff.mpr he)
    obtain ⟨request, -, hkeys⟩ := h.origin entry.2 pending hlookup
    obtain ⟨key, hkey⟩ := CorrelationKey.forClient_singleton hkeys
    rw [hkey, List.mem_singleton] at hmem
    exact ⟨pending, hlookup, hmem ▸ hkey⟩
  have hnodup : (s.tracker.byKey.entries.map Sigma.snd).Nodup := by
    refine s.tracker.byKey.nodupKeys.nodup.map_on fun entry he other ho heq ↦ ?_
    obtain ⟨pending, hlookup, hkeys⟩ := howner entry he
    obtain ⟨pending', hlookup', hkeys'⟩ := howner other ho
    rw [heq] at hlookup
    cases hlookup.symm.trans hlookup'
    have hkey := List.cons.inj (hkeys.symm.trans hkeys')
    exact Sigma.ext hkey.1 (heq_of_eq heq)
  have hsub : s.tracker.byKey.entries.map Sigma.snd ⊆ s.tracker.byId.keys := by
    intro awaitId hid
    obtain ⟨entry, he, rfl⟩ := List.mem_map.mp hid
    obtain ⟨pending, hlookup, -⟩ := howner entry he
    exact List.mem_keys_of_mem (AList.mem_lookup_iff.mp hlookup)
  simpa [AList.keys, List.keys] using (List.subperm_of_subset hnodup hsub).length_le

structure Exact (limit : ℕ) (s : Awaiting) : Prop where
  consistent : s.tracker.Consistent
  bounded : s.tracker.byId.entries.length ≤ limit ∧ s.tracker.byKey.entries.length ≤ limit
  delivers : ∀ before event after, s.log = before ++ event :: after → Delivers before event
  once : (answered s.log).Subperm (registered s.log)
  lateCancel : ∀ awaitId other pending, other ≠ awaitId →
    s.tracker.byId.lookup other = some pending →
      (s.tracker.cancel awaitId).2.byId.lookup other = some pending ∧
        ∀ key ∈ pending.keys, (s.tracker.cancel awaitId).2.byKey.lookup key = some other
  rejected : ∀ isClosed awaitId keys tx error tracker displaced,
    s.tracker.register isClosed awaitId keys tx = (.error error, tracker, displaced) →
      ∀ other pending, s.tracker.byId.lookup other = some pending →
        isClosed pending.tx = false →
          tracker.byId.lookup other = some pending ∧
            ∀ key ∈ pending.keys, tracker.byKey.lookup key = some other
  drained : (registered s.log).Perm (settled s.log ++ s.tracker.drainAll.1) ∧
    s.tracker.drainAll.2.waiters = []

theorem answered_sublist (log : List AwaitEvent) : (answered log).Sublist (settled log) := by
  induction log with
  | nil => exact .slnil
  | cons event log ih =>
    cases event with
    | registered => exact ih
    | answered | unreadable | drained => exact ih.cons_cons _
    | released => exact ih.cons _

/-- After any history under fresh ids the maps agree and fit the limit, each waiter got at most one
answer, to its own request, and nobody is disturbed by the cancel of another. -/
theorem awaits_exact {limit : ℕ} {ops : List AwaitOp} {s : Awaiting}
    (h : Runs.run step (new limit) ops = some s) : s.Exact limit := by
  have ht := tracked_run h
  refine ⟨ht.consistent, ⟨ht.bounded, ht.byKey_length.trans ht.bounded⟩, ht.delivers, ?_,
    fun awaitId other pending hother hlookup ↦ ?_,
    fun isClosed awaitId keys tx error tracker displaced hr other pending hlookup hopen ↦ ?_,
    ht.balance, rfl⟩
  · have hsettled : (settled s.log).Subperm (registered s.log) :=
      (List.sublist_append_left _ _).subperm.trans ht.balance.symm.subperm
    exact (answered_sublist s.log).subperm.trans hsettled
  · cases hcancel : s.tracker.byId.lookup awaitId with
    | none =>
      have hsame : (s.tracker.cancel awaitId).2 = s.tracker := by
        simp [AwaitTracker.cancel, hcancel]
      rw [hsame]
      exact (AwaitTracker.Removes.refl _).untouched ht.consistent (by simp) hlookup
    | some old =>
      exact (AwaitTracker.cancel_removes hcancel).untouched ht.consistent (by simpa using hother)
        hlookup
  · rcases AwaitTracker.register_cases hr with ⟨_, -, rfl, -⟩ | ⟨hok, -⟩
    · exact AwaitTracker.makeRoom_removes.untouched ht.consistent
        (AwaitTracker.pruned_closed hlookup hopen) hlookup
    · cases hok

/-- A second await for the request is refused; the first is cancelled and, late, once more, while
a third waits under the same key and gets the reply. -/
def lateCancel : List AwaitOp :=
  [.register 1 (.getMarkets 5) 10 (fun _ ↦ false), .register 2 (.getMarkets 5) 11 (fun _ ↦ false),
    .cancel 1, .register 3 (.getMarkets 5) 12 (fun _ ↦ false), .cancel 1, .message (.reply 5),
    .register 4 (.getTokens 6) 13 (fun _ ↦ false), .drain]

theorem awaits_exact_lateCancel : ∃ s, Runs.run step (new 2) lateCancel = some s ∧
    answered s.log = [12, 13] ∧ s.Exact 2 := by
  have hrun : (Runs.run step (new 2) lateCancel).any
      (fun s ↦ answered s.log = [12, 13]) = true := by
    decide +kernel
  obtain ⟨s, hs, hcheck⟩ := (Option.any_eq_true _ _).mp hrun
  exact ⟨s, hs, of_decide_eq_true hcheck, awaits_exact hs⟩

end Awaiting

end MakerSdk.Session

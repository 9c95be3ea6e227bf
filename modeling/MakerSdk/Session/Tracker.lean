import MakerSdk.Session.States
import Mathlib.Data.List.AList
import Mathlib.Data.List.Sort

namespace MakerSdk.Session

/-- The sending half of a caller's oneshot channel. -/
abbrev Waiter := ℕ

inductive CorrelationKey where
  | request (id : Uuid)
  | quote (orderId : OrderId)
  | batch (orderIds : List OrderId)
deriving DecidableEq

def sortedOrderIds (ids : List OrderId) : List OrderId :=
  ids.insertionSort (fun a b ↦ a.toList ≤ b.toList)

namespace CorrelationKey

def forClient : ClientMessage → Option (List CorrelationKey)
  | .quote message => some [quote message.orderId]
  | .replaceQuote message => some [quote message.orderId]
  | .batchQuotes quotes => some [batch (sortedOrderIds (quotes.map QuoteMessage.orderId))]
  | .cancelRfq _ => none
  | message => message.requestId.map fun id ↦ [request id]

def forServer : ServerMessage → Option CorrelationKey
  | .quoteAcknowledged orderId => some (quote orderId)
  | .quoteRejected orderId => some (quote orderId)
  | .batchQuotesAck orderIds => some (batch (sortedOrderIds orderIds))
  | message => message.requestId.map request

end CorrelationKey

structure PendingAwait where
  keys : List CorrelationKey
  tx : Waiter

structure AwaitTracker where
  maxPending : ℕ
  byId : AList (fun _ : ℕ ↦ PendingAwait)
  byKey : AList (fun _ : CorrelationKey ↦ ℕ)

namespace AwaitTracker

def new (maxPending : ℕ) : AwaitTracker := ⟨maxPending, ∅, ∅⟩

def waiters (tracker : AwaitTracker) : List Waiter :=
  tracker.byId.entries.map fun entry ↦ entry.2.tx

def cancel (tracker : AwaitTracker) (awaitId : ℕ) : Option Waiter × AwaitTracker :=
  match tracker.byId.lookup awaitId with
  | none => (none, tracker)
  | some pending =>
    (some pending.tx,
      { tracker with
        byId := tracker.byId.erase awaitId
        byKey := pending.keys.foldl (fun keys key ↦ keys.erase key) tracker.byKey })

def pruneClosed (isClosed : Waiter → Bool) (tracker : AwaitTracker) : AwaitTracker :=
  (tracker.byId.entries.filter fun entry ↦ isClosed entry.2.tx).foldl
    (fun tracker entry ↦ (tracker.cancel entry.1).2) tracker

def taken (tracker : AwaitTracker) (keys : List CorrelationKey) : Bool :=
  keys.any fun key ↦ (tracker.byKey.lookup key).isSome

/-- Callers that are gone are pruned only where they stand in the way. -/
def makeRoom (isClosed : Waiter → Bool) (tracker : AwaitTracker) (keys : List CorrelationKey) :
    AwaitTracker :=
  if tracker.byId.entries.length ≥ tracker.maxPending ∨ tracker.taken keys then
    tracker.pruneClosed isClosed
  else tracker

/-- The result, the tracker after it, and the callers whose entry was overwritten. -/
def register (isClosed : Waiter → Bool) (tracker : AwaitTracker) (awaitId : ℕ)
    (keys : List CorrelationKey) (tx : Waiter) :
    Except SendAwaitError Unit × AwaitTracker × List Waiter :=
  let tracker := tracker.makeRoom isClosed keys
  if tracker.byId.entries.length ≥ tracker.maxPending then
    (.error (.tooManyPending tracker.maxPending), tracker, [])
  else if tracker.taken keys then (.error .duplicateInFlight, tracker, [])
  else
    (.ok (),
      { tracker with
        byKey := keys.foldl (fun map key ↦ map.insert key awaitId) tracker.byKey
        byId := tracker.byId.insert awaitId ⟨keys, tx⟩ },
      (tracker.byId.lookup awaitId).toList.map PendingAwait.tx)

def takeForKey (tracker : AwaitTracker) (key : CorrelationKey) : Option Waiter × AwaitTracker :=
  match tracker.byKey.lookup key with
  | none => (none, tracker)
  | some awaitId => tracker.cancel awaitId

def takeForMessage (tracker : AwaitTracker) (message : ServerMessage) :
    Option Waiter × AwaitTracker :=
  match CorrelationKey.forServer message with
  | none => (none, tracker)
  | some key => tracker.takeForKey key

def takeForRequest (tracker : AwaitTracker) (requestId : Uuid) : Option Waiter × AwaitTracker :=
  tracker.takeForKey (.request requestId)

def drainAll (tracker : AwaitTracker) : List Waiter × AwaitTracker :=
  (tracker.waiters, { tracker with byId := ∅, byKey := ∅ })

section Waiters

variable {tracker : AwaitTracker} {isClosed : Waiter → Bool} {awaitId : ℕ} {tx : Waiter}
  {keys : List CorrelationKey}

theorem mem_waiters_of_lookup {pending : PendingAwait}
    (h : tracker.byId.lookup awaitId = some pending) : pending.tx ∈ tracker.waiters := by
  have hm := AList.mem_lookup_iff.mp h
  exact List.mem_map_of_mem hm

theorem cancel_fst {waiter : Waiter} (h : (tracker.cancel awaitId).1 = some waiter) :
    waiter ∈ tracker.waiters := by
  unfold cancel at h
  split at h
  · cases h
  · rename_i pending hp
    cases h
    exact mem_waiters_of_lookup hp

theorem cancel_waiters : (tracker.cancel awaitId).2.waiters ⊆ tracker.waiters := by
  unfold cancel
  split
  · exact List.Subset.refl _
  · exact List.map_subset _ (List.kerase_sublist _ _).subset

theorem foldl_cancel_waiters (ids : List (Sigma fun _ : ℕ ↦ PendingAwait)) :
    (ids.foldl (fun tracker entry ↦ (tracker.cancel entry.1).2) tracker).waiters ⊆
      tracker.waiters := by
  induction ids generalizing tracker with
  | nil => exact List.Subset.refl _
  | cons entry ids ih => exact List.Subset.trans ih cancel_waiters

theorem pruneClosed_waiters : (tracker.pruneClosed isClosed).waiters ⊆ tracker.waiters :=
  foldl_cancel_waiters _

theorem makeRoom_waiters : (tracker.makeRoom isClosed keys).waiters ⊆ tracker.waiters := by
  unfold makeRoom
  split
  · exact pruneClosed_waiters
  · exact List.Subset.refl _

theorem register_error {error : SendAwaitError} {tracker' : AwaitTracker}
    {displaced : List Waiter}
    (h : register isClosed tracker awaitId keys tx = (.error error, tracker', displaced)) :
    tracker'.waiters ⊆ tracker.waiters := by
  unfold register at h
  dsimp only at h
  split at h
  · cases h
    exact makeRoom_waiters
  split at h
  · cases h
    exact makeRoom_waiters
  · cases h

theorem register_ok {tracker' : AwaitTracker} {displaced : List Waiter}
    (h : register isClosed tracker awaitId keys tx = (.ok (), tracker', displaced)) :
    tracker'.waiters ⊆ tx :: tracker.waiters ∧ displaced ⊆ tracker.waiters ∧
      (tracker'.cancel awaitId).1 = some tx ∧
      (tracker'.cancel awaitId).2.waiters ⊆ tracker.waiters := by
  have hroom : (tracker.makeRoom isClosed keys).waiters ⊆ tracker.waiters := makeRoom_waiters
  unfold register at h
  dsimp only at h
  split at h
  · cases h
  split at h
  · cases h
  · cases h
    refine ⟨fun waiter hw ↦ ?_, fun waiter hw ↦ ?_, by simp [cancel], fun waiter hw ↦ ?_⟩
    · obtain ⟨entry, he, rfl⟩ := List.mem_map.mp hw
      rw [AList.entries_insert] at he
      rcases List.mem_cons.mp he with rfl | he
      · exact List.mem_cons_self
      · have hm := (List.kerase_sublist _ _).subset he
        exact List.mem_cons_of_mem _ (hroom (List.mem_map_of_mem hm))
    · obtain ⟨pending, hl, rfl⟩ := List.mem_map.mp hw
      exact hroom (mem_waiters_of_lookup (Option.mem_toList.mp hl))
    · simp only [cancel, AList.lookup_insert] at hw
      obtain ⟨entry, he, rfl⟩ := List.mem_map.mp hw
      change entry ∈ List.kerase awaitId _ at he
      rw [AList.entries_insert, List.kerase_cons_eq (by rfl)] at he
      exact hroom (List.mem_map_of_mem ((List.kerase_sublist _ _).subset he))

theorem takeForKey_fst {key : CorrelationKey} {waiter : Waiter}
    (h : (tracker.takeForKey key).1 = some waiter) : waiter ∈ tracker.waiters := by
  unfold takeForKey at h
  split at h
  · cases h
  · exact cancel_fst h

theorem takeForKey_waiters {key : CorrelationKey} :
    (tracker.takeForKey key).2.waiters ⊆ tracker.waiters := by
  unfold takeForKey
  split
  · exact List.Subset.refl _
  · exact cancel_waiters

theorem takeForMessage_fst {message : ServerMessage} {waiter : Waiter}
    (h : (tracker.takeForMessage message).1 = some waiter) : waiter ∈ tracker.waiters := by
  unfold takeForMessage at h
  split at h
  · cases h
  · exact takeForKey_fst h

theorem takeForMessage_waiters {message : ServerMessage} :
    (tracker.takeForMessage message).2.waiters ⊆ tracker.waiters := by
  unfold takeForMessage
  split
  · exact List.Subset.refl _
  · exact takeForKey_waiters

end Waiters

end AwaitTracker

end MakerSdk.Session

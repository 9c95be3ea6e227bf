import MakerSdk.Session.States

namespace MakerSdk.Session

open Solana

structure SubscriptionSet where
  products : Option ProductSet
  channels : Finset WsChannel
  underlyingMints : Finset Pubkey
  quoteMints : Finset Pubkey

namespace SubscriptionSet

def empty : SubscriptionSet := ⟨none, ∅, ∅, ∅⟩

def applySubscribe (set : SubscriptionSet) (data : SubscribeData) : SubscriptionSet where
  products := some data.products
  channels := set.channels ∪ data.channels.toFinset
  underlyingMints := data.underlyingMints.toFinset
  quoteMints := data.quoteMints.toFinset

def addMints (set : SubscriptionSet) (data : MintsData) : SubscriptionSet :=
  { set with
    underlyingMints := set.underlyingMints ∪ data.underlyingMints.toFinset
    quoteMints := set.quoteMints ∪ data.quoteMints.toFinset }

def removeMints (set : SubscriptionSet) (data : MintsData) : SubscriptionSet :=
  { set with
    underlyingMints := set.underlyingMints \ data.underlyingMints.toFinset
    quoteMints := set.quoteMints \ data.quoteMints.toFinset }

def addChannels (set : SubscriptionSet) (data : ChannelsData) : SubscriptionSet :=
  { set with channels := set.channels ∪ data.channels.toFinset }

def removeChannels (set : SubscriptionSet) (channels : List WsChannel) : SubscriptionSet :=
  { set with channels := set.channels \ channels.toFinset }

def apply (set : SubscriptionSet) : SubscriptionChange → SubscriptionSet
  | .subscribe data => set.applySubscribe data
  | .unsubscribe data => set.removeChannels data.channels
  | .addMints data => set.addMints data
  | .removeMints data => set.removeMints data
  | .addChannels data => set.addChannels data
  | .removeChannels data => set.removeChannels data.channels

end SubscriptionSet

structure PendingSubscriptionChange where
  requestId : Uuid
  previous : SubscriptionSet

structure DesiredSubscriptions where
  current : SubscriptionSet
  pending : Option PendingSubscriptionChange

namespace DesiredSubscriptions

def fromInitial (initial : Option SubscribeData) : DesiredSubscriptions where
  current := initial.elim .empty SubscriptionSet.empty.applySubscribe
  pending := none

def hasPending (desired : DesiredSubscriptions) : Bool := desired.pending.isSome

def begin (desired : DesiredSubscriptions) (change : SubscriptionChange) :
    DesiredSubscriptions where
  current := desired.current.apply change
  pending := some ⟨change.requestId, desired.current⟩

def rejectPending (desired : DesiredSubscriptions) : DesiredSubscriptions :=
  match desired.pending with
  | some pending => ⟨pending.previous, none⟩
  | none => desired

def resolve (desired : DesiredSubscriptions) (message : ServerMessage) : DesiredSubscriptions :=
  match desired.pending with
  | none => desired
  | some pending =>
    match message with
    | .subscribeAck id | .unsubscribeAck id | .subscriptionUpdated id =>
      if pending.requestId = id then { desired with pending := none } else desired
    | .requestError id _ _ => if pending.requestId = id then desired.rejectPending else desired
    | _ => desired

def connectionLost (desired : DesiredSubscriptions) : DesiredSubscriptions :=
  { desired with pending := none }

def wantsVaultFeed (desired : DesiredSubscriptions) : Bool :=
  .vaults ∈ desired.current.channels

end DesiredSubscriptions

/-- A `Subscribe` that replaces the target. The lists of the message are collected from these
sets. -/
structure SubscribeScope where
  products : ProductSet
  requestId : Uuid
  channels : Finset WsChannel
  underlyingMints : Finset Pubkey
  quoteMints : Finset Pubkey

structure SubscriptionRecovery where
  unsubscribe : Option ChannelsData
  subscribe : Option SubscribeScope

/-- What brings the server from the subscriptions it holds to the target; `unsubscribeId` and
`subscribeId` are the ids drawn for the two requests. -/
def DesiredSubscriptions.recovery (desired : DesiredSubscriptions) (actual : SubscriptionsMessage)
    (unsubscribeId subscribeId : Uuid) : SubscriptionRecovery where
  unsubscribe :=
    let extraChannels := actual.channels.filter (· ∉ desired.current.channels)
    if extraChannels = [] then none else some ⟨unsubscribeId, extraChannels⟩
  subscribe := desired.current.products.map fun products ↦
    { products
      requestId := subscribeId
      channels := desired.current.channels
      underlyingMints := desired.current.underlyingMints
      quoteMints := desired.current.quoteMints }

end MakerSdk.Session
